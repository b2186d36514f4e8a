import Scriptlet.Proofs.Evaluation.Upkeep

/-!
# Calls leave no trace in the caller

While a function runs, only the scopes of its own call change. When it ends, whether with a value or
with an error, its frame goes with all scopes that were pushed in it, so the machine is as it was:
the scopes with their bindings, the frames, the number of open calls and the place from which a
native function is called (`userCall_restores`). Native functions may have been added.
-/

namespace Scriptlet

/-- Every native function of `m₀` is one of `m` under the same name. -/
def Machine.NativesGrow (m₀ m : Machine) : Prop :=
  ∀ name n, m₀.natives.find? name = some n → m.natives.find? name = some n

/-- From `m₀` to `m` only scopes on top have changed, apart from events and new native functions. -/
structure Machine.ChangedOnTop (m₀ m : Machine) : Prop where
  stack : ∃ scopes, m.stack = m₀.stack.withTop scopes
  openCalls : m.openCalls = m₀.openCalls
  callSite : m.callSite = m₀.callSite
  natives : m₀.NativesGrow m

/-- From `m₀` to `m` nothing has changed, apart from events and new native functions. -/
structure Machine.Restored (m₀ m : Machine) : Prop where
  stack : m.stack = m₀.stack
  openCalls : m.openCalls = m₀.openCalls
  callSite : m.callSite = m₀.callSite
  natives : m₀.NativesGrow m

namespace Machine

variable {m₀ m m' : Machine}

theorem NativesGrow.refl (m : Machine) : m.NativesGrow m :=
  fun _ _ h => h

theorem NativesGrow.trans (h : m₀.NativesGrow m) (h' : m.NativesGrow m') : m₀.NativesGrow m' :=
  fun name n hn => h' name n (h name n hn)

theorem NativesGrow.register {n : Native} (h : m.register n = .ok m') : m.NativesGrow m' := by
  unfold Machine.register at h
  split at h
  · cases h
  · rename_i hfree
    cases h
    intro name n' hn
    have hne : n.name ≠ name := by
      rintro rfl
      exact hfree (by simp [Mapping.contains, hn])
    exact (Mapping.find?_insert_of_ne _ hne n).trans hn

theorem ChangedOnTop.refl (m : Machine) : m.ChangedOnTop m :=
  ⟨⟨m.stack.top, m.stack.withTop_top.symm⟩, rfl, rfl, .refl m⟩

/-- Further changes on top are changes on top. -/
theorem ChangedOnTop.withTop (h : m₀.ChangedOnTop m) (scopes : Scopes) (trace : List Event) :
    m₀.ChangedOnTop { m with stack := m.stack.withTop scopes, trace } := by
  obtain ⟨top, hs⟩ := h.stack
  refine ⟨⟨scopes, ?_⟩, h.openCalls, h.callSite, h.natives⟩
  simp [hs]

theorem ChangedOnTop.pop (h : m₀.ChangedOnTop m) : m₀.ChangedOnTop m.pop := by
  unfold Machine.pop
  split
  · rename_i stack hpop
    obtain ⟨scopes, -, rfl⟩ := Option.map_eq_some_iff.mp hpop
    exact h.withTop scopes _
  · exact ⟨h.stack, h.openCalls, h.callSite, h.natives⟩

theorem ChangedOnTop.trans (h : m₀.ChangedOnTop m) (h' : m.ChangedOnTop m') :
    m₀.ChangedOnTop m' := by
  obtain ⟨scopes, hs⟩ := h.stack
  obtain ⟨scopes', hs'⟩ := h'.stack
  refine ⟨⟨scopes', ?_⟩, h'.openCalls.trans h.openCalls, h'.callSite.trans h.callSite,
    h.natives.trans h'.natives⟩
  rw [hs', hs, Stack.withTop_withTop]

/-- Closing a call drops whatever has changed on top of it. -/
theorem ChangedOnTop.leave {bindings : Scope} {link : Option Nat}
    (h : (m.enter bindings link).ChangedOnTop m') : m.Restored m'.leave := by
  obtain ⟨scopes, hs⟩ := h.stack
  refine ⟨?_, ?_, h.callSite, h.natives⟩
  · show m'.stack.leave = m.stack
    rw [hs]
    rfl
  · show m'.openCalls - 1 = m.openCalls
    rw [h.openCalls]
    exact Nat.add_sub_cancel _ 1

theorem Restored.refl (m : Machine) : m.Restored m :=
  ⟨rfl, rfl, rfl, .refl m⟩

theorem Restored.trans (h : m₀.Restored m) (h' : m.Restored m') : m₀.Restored m' :=
  ⟨h'.stack.trans h.stack, h'.openCalls.trans h.openCalls, h'.callSite.trans h.callSite,
    h.natives.trans h'.natives⟩

theorem Restored.changedOnTop (h : m.Restored m') : m.ChangedOnTop m' :=
  ⟨⟨m.stack.top, by rw [h.stack, Stack.withTop_top]⟩, h.openCalls, h.callSite, h.natives⟩

/-- Steps change a machine on top only. -/
def changedOnTop : Upkeep where
  Context := Machine
  holds m₀ m := m₀.ChangedOnTop m
  assign name v h := h.withTop _ _
  push h := h.withTop _ _
  pop h := h.pop
  register h hr := by
    have hgrow := h.natives.trans (.register hr)
    unfold Machine.register at hr
    split at hr
    · cases hr
    · cases hr
      exact ⟨h.stack, h.openCalls, h.callSite, hgrow⟩
  record h _ := ⟨h.stack, h.openCalls, h.callSite, h.natives⟩
  enter bindings link h := ⟨_, .refl _, fun _ hn => h.trans hn.leave.changedOnTop⟩
  callFrom site h := ⟨_, .refl _, fun _ hn => h.trans ⟨hn.stack, hn.openCalls, rfl, hn.natives⟩⟩

end Machine

/-- Steps that restore every machine on which they are taken, whether they fail or not. -/
def Exec.Restores {ε α : Type} (steps : Exec ε α) : Prop :=
  ∀ m : Machine, m.Restored (steps.on m).2

namespace Exec.Restores

variable {ε α β : Type}

theorem throw {e : ε} : Restores (MonadExcept.throw e : Exec ε α) :=
  fun m => .refl m

theorem pure {a : α} : Restores (Pure.pure a : Exec ε α) :=
  fun m => .refl m

theorem ofOutcome {o : Except ε α} : Restores (Exec.ofOutcome o) :=
  fun m => .refl m

theorem record {e : Event} : Restores (Exec.record e : Exec ε Unit) :=
  fun m => ⟨rfl, rfl, rfl, .refl m⟩

theorem bind {x : Exec ε α} {f : α → Exec ε β} (hx : x.Restores) (hf : ∀ a, (f a).Restores) :
    (x >>= f).Restores := by
  intro m
  have h := hx m
  rw [on_bind]
  generalize x.on m = r at h
  obtain ⟨o, m'⟩ := r
  cases o with
  | ok a => exact h.trans (hf a m')
  | error e => exact h

/-- A frame around steps that change a machine on top only. -/
theorem within {x : Exec ε α} (hx : Machine.changedOnTop.Keeps x) (bindings : Scope)
    (link : Option Nat) : (Exec.within bindings link x).Restores := by
  intro m
  rw [on_within]
  exact (hx _ _ (.refl (m.enter bindings link))).leave

end Exec.Restores

theorem Function.checkCall_restores (f : Function) (limit : Nat) (arguments : List Value)
    (site : Position) : (f.checkCall limit arguments site).Restores := by
  unfold Function.checkCall
  split
  · refine .bind (fun m => .refl m) fun opened => ?_
    split
    · exact .pure
    · exact .throw
  · exact .throw

theorem recordReturn_restores (flow : Flow) : (recordReturn flow).Restores := by
  cases flow with
  | returned v => exact .record
  | _ => exact .pure

/-- A call restores the machine if the body of the function changes it on top only. -/
theorem callUser_restores {limit : Nat} {native : Nat → NativeCalls} {left : Nat} {f : Function}
    (hbody : ∀ opened, left = opened + 1 → Machine.changedOnTop.Keeps
      (evalStatements { user := callUser limit native opened, native := native opened }
        f.body.statements))
    (link : Option Nat) (arguments : List Value) (site : Position) :
    (callUser limit native left f link arguments site).Restores := by
  cases left with
  | zero =>
    rw [callUser]
    exact .bind (f.checkCall_restores _ _ _) fun _ => .throw
  | succ left =>
    rw [callUser]
    refine .bind (f.checkCall_restores _ _ _) fun _ => ?_
    refine .bind (.within (hbody left rfl) _ _) fun flow => ?_
    exact .bind (recordReturn_restores flow) fun _ => .ofOutcome

/-- A call of a function restores the machine: in every state, for every function, whatever
functions of the host do meanwhile, and however the call ends. -/
theorem userCall_restores (env : Environment) (nesting left : Nat) (f : Function)
    (link : Option Nat) (arguments : List Value) (site : Position) :
    ((env.callsWithin nesting left).user f link arguments site).Restores :=
  callUser_restores
    (fun opened _ => Upkeep.evalStatements_keeps env nesting opened f.body.statements)
    link arguments site

end Scriptlet
