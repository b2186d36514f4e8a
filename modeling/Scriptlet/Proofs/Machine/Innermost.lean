import Scriptlet.Proofs.Machine.HostFree

/-!
# What a run binds on its own level

A run neither adds nor removes a scope on the level on which it starts, and it binds names in the
innermost scope of that level only (`Machine.ChangedInnermost`). Calls do add scopes, but these lie
in a frame that goes with the call. All of that needs a machine without functions of the host, since
such functions may push and pop (`HostFree.innermost`).
-/

namespace Scriptlet

namespace Scopes

/-- The scopes with another innermost one. -/
def withInnermost (s : Scopes) (scope : Scope) : Scopes :=
  match s.above with
  | [] => { s with bottom := scope }
  | _ :: rest => { s with above := scope :: rest }

def innermost (s : Scopes) : Scope :=
  match s.above with
  | [] => s.bottom
  | scope :: _ => scope

variable (s : Scopes)

/-- An assignment binds the name in the innermost scope and leaves the others. -/
theorem assign_eq_withInnermost (name : String) (v : Value) :
    s.assign name v = s.withInnermost (s.innermost.insert name v) := by
  obtain ⟨bottom, above⟩ := s
  cases above with
  | nil => rfl
  | cons scope rest => rfl

/-- Popping the innermost scope leads to the same scopes, whatever it binds. -/
theorem pop?_withInnermost (scope : Scope) : (s.withInnermost scope).pop? = s.pop? := by
  obtain ⟨bottom, above⟩ := s
  cases above with
  | nil => rfl
  | cons scope rest => rfl

theorem exists_withInnermost : ∃ scope, s.withInnermost scope = s := by
  obtain ⟨bottom, above⟩ := s
  cases above with
  | nil => exact ⟨bottom, rfl⟩
  | cons scope rest => exact ⟨scope, rfl⟩

@[simp]
theorem withInnermost_withInnermost (inner outer : Scope) :
    (s.withInnermost inner).withInnermost outer = s.withInnermost outer := by
  obtain ⟨bottom, above⟩ := s
  cases above with
  | nil => rfl
  | cons scope rest => rfl

/-- Popping takes the innermost scope away, whatever it binds by now. -/
theorem pop?_withInnermost_push (scope : Scope) : (s.push.withInnermost scope).pop? = some s :=
  rfl

end Scopes

namespace Stack

variable (s : Stack)

/-- A name stands for what has been assigned to it. -/
theorem find?_assign_self (name : String) (v : Value) :
    (s.assign name v).find? name = some v := by
  obtain ⟨base, frames⟩ := s
  cases frames with
  | nil => simp [assign, withTop, top, find?, resolve]
  | cons f below => simp [assign, withTop, top, find?, resolve, findLinked]

/-- Other names stand for what they stood for before. -/
theorem find?_assign_of_ne {name other : String} (h : name ≠ other) (v : Value) :
    (s.assign name v).find? other = s.find? other := by
  obtain ⟨base, frames⟩ := s
  cases frames with
  | nil => simp [assign, withTop, top, find?, resolve, Scopes.find?_assign_of_ne _ h]
  | cons f below =>
    simp [assign, withTop, top, find?, resolve, findLinked, Scopes.find?_assign_of_ne _ h, globals]

/-- What an assignment binds goes with the innermost scope. -/
theorem pop?_assign (name : String) (v : Value) : (s.assign name v).pop? = s.pop? := by
  rw [assign, Scopes.assign_eq_withInnermost, pop?, top_withTop, Scopes.pop?_withInnermost, pop?]
  cases s.top.pop? with
  | none => rfl
  | some scopes => simp

end Stack

/-- From `m₀` to `m` no scope has changed but the innermost. -/
def Machine.ChangedInnermost (m₀ m : Machine) : Prop :=
  ∃ scope, m.stack = m₀.stack.withTop (m₀.stack.top.withInnermost scope)

namespace Machine

variable {m₀ m m' : Machine}

theorem ChangedInnermost.of_stack_eq (h : m.stack = m₀.stack) : m₀.ChangedInnermost m := by
  obtain ⟨scope, hscope⟩ := m₀.stack.top.exists_withInnermost
  exact ⟨scope, by rw [hscope, Stack.withTop_top, h]⟩

theorem ChangedInnermost.refl (m : Machine) : m.ChangedInnermost m :=
  .of_stack_eq rfl

theorem ChangedInnermost.trans (h : m₀.ChangedInnermost m) (h' : m.ChangedInnermost m') :
    m₀.ChangedInnermost m' := by
  obtain ⟨scope, hs⟩ := h
  obtain ⟨scope', hs'⟩ := h'
  exact ⟨scope', by simp [hs', hs]⟩

theorem ChangedInnermost.assign (m : Machine) (name : String) (v : Value) :
    m.ChangedInnermost (m.assign name v) := by
  exact ⟨_, congrArg m.stack.withTop (m.stack.top.assign_eq_withInnermost name v)⟩

theorem ChangedInnermost.register {n : Native} (h : m.register n = .ok m') :
    m.ChangedInnermost m' := by
  unfold Machine.register at h
  split at h
  · cases h
  · cases h
    exact .of_stack_eq rfl

/-- Whatever has been bound in the pushed scope, popping it leads back. -/
theorem ChangedInnermost.stack_pop (h : m.push.ChangedInnermost m') :
    m'.pop.stack = m.stack := by
  obtain ⟨scope, hs⟩ := h
  have hpushed : m'.stack = m.stack.withTop (m.stack.top.push.withInnermost scope) := by
    simpa [Machine.push, Machine.record, Stack.push] using hs
  have hpop : m'.stack.pop? = some m.stack := by
    rw [Stack.pop?, hpushed, Stack.top_withTop, Scopes.pop?_withInnermost_push]
    simp
  simp [Machine.pop, Machine.record, hpop]

/-- Closing a call drops its frame, in which alone something was bound. -/
theorem ChangedInnermost.leave {bindings : Scope} {link : Option Nat}
    (h : (m.enter bindings link).ChangedInnermost m') : m.ChangedInnermost m'.leave := by
  obtain ⟨scope, hs⟩ := h
  refine .of_stack_eq ?_
  show m'.stack.leave = m.stack
  rw [hs]
  rfl

/-- A host-free machine is coupled with itself as long as it binds in the innermost scope only. -/
def HostFree.innermost : Coupling .builtin where
  Context := Machine
  rel m₀ m m' := m = m' ∧ m.HostFree ∧ m₀.ChangedInnermost m
  mayLink _ _ := True
  mayLink_none _ := trivial
  resolve h _ := by rw [h.1]
  resolved h _ hr := ⟨trivial, h.2.1.resolve hr⟩
  natives h _ := by rw [h.1]
  native h _ hn := h.2.1.natives hn
  openCalls h := by rw [h.1]
  assign name v h hv := ⟨by rw [h.1], h.2.1.assign name hv, h.2.2.trans (.assign _ name v)⟩
  record h _ := ⟨by rw [h.1], h.2.1.record _, h.2.2⟩
  -- A call starts on a level of its own, and nothing of it is left when it is closed.
  enter {c m m' bindings link} h _ hb := by
    obtain ⟨rfl, hfree, hchanged⟩ := h
    refine ⟨m.enter bindings link, ⟨rfl, hfree.enter link hb, .refl _⟩, ?_⟩
    rintro n _ ⟨rfl, hn, hchanged'⟩
    exact ⟨rfl, hn.leave, hchanged.trans hchanged'.leave⟩
  callFrom {c m m'} site h := by
    obtain ⟨rfl, hfree, hchanged⟩ := h
    refine ⟨c, ⟨rfl, hfree.callFrom site, hchanged⟩, ?_⟩
    rintro n _ ⟨rfl, hn, hchanged'⟩
    exact ⟨rfl, hn.callFrom _, hchanged'⟩

end Machine

end Scriptlet
