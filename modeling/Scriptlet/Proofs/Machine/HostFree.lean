import Scriptlet.Proofs.Calls.Alias
import Scriptlet.Proofs.Calls.Independence

/-!
# Machines without functions of the host

A machine is *host-free* if the built-in functions are the only native ones on it: no other is
registered, and no other occurs in a value that some scope binds, in sight or out of it. A host that
gives the machine none of its own functions meets such machines only, since all operations keep them
so. Runs keep them so, too, and on the way they neither add native functions nor take back an event
(`HostFree.coupling`).
-/

namespace Scriptlet

/-- The vocabulary of all names, with the built-in functions only. -/
abbrev Vocabulary.builtin : Vocabulary :=
  .plain fun _ => True

/-- All values that the scopes bind are within the vocabulary, also those that are hidden. -/
structure Scopes.AllWithin (w : Vocabulary) (s : Scopes) : Prop where
  bottom : ∀ e ∈ s.bottom.entries, e.2.Within w
  above : ∀ scope ∈ s.above, ∀ e ∈ scope.entries, e.2.Within w

/-- There are no functions of the host: none is registered, and none occurs in a value that is
bound. -/
structure Machine.HostFree (m : Machine) : Prop where
  natives : ∀ {name n}, m.natives.find? name = some n → n.IsBuiltin
  base : m.stack.base.AllWithin .builtin
  frames : ∀ f ∈ m.stack.frames, f.scopes.AllWithin .builtin

namespace Machine.HostFree

variable {m : Machine}

theorem initial {globals : Scope} (h : ∀ e ∈ globals.entries, e.2.Within .builtin) :
    (Machine.initial globals).HostFree where
  natives := isBuiltin_of_find?_builtins
  base := ⟨h, fun _ hs => absurd hs List.not_mem_nil⟩
  frames _ hf := absurd hf List.not_mem_nil

/-- What is bound is within the vocabulary of the built-in functions. -/
theorem bound (h : m.HostFree) : m.stack.All (·.Within .builtin) where
  base := ⟨h.base.bottom, h.base.above⟩
  frames f hf := ⟨(h.frames f hf).bottom, (h.frames f hf).above⟩

/-- Another stack does no harm if it binds no function of the host. -/
theorem withStack (h : m.HostFree) {stack : Stack} (hs : stack.All (·.Within .builtin))
    (openCalls : Nat) (trace : List Event) : { m with stack, openCalls, trace }.HostFree where
  natives := h.natives
  base := ⟨hs.base.bottom, hs.base.above⟩
  frames f hf := ⟨(hs.frames f hf).bottom, (hs.frames f hf).above⟩

theorem assign (h : m.HostFree) (name : String) {v : Value} (hv : v.Within .builtin) :
    (m.assign name v).HostFree :=
  h.withStack (h.bound.assign name hv) m.openCalls m.trace

theorem record (h : m.HostFree) (e : Event) : (m.record e).HostFree :=
  ⟨h.natives, h.base, h.frames⟩

/-- It does not matter from where a native function is called. -/
theorem callFrom (h : m.HostFree) (site : Position) : { m with callSite := site }.HostFree :=
  ⟨h.natives, h.base, h.frames⟩

/-- A function that is built in may be registered. -/
theorem register {m' : Machine} (h : m.HostFree) {n : Native} (hn : n.IsBuiltin)
    (hr : m.register n = .ok m') : m'.HostFree := by
  unfold Machine.register at hr
  split at hr
  · cases hr
  · cases hr
    refine ⟨fun {name n'} hfound => ?_, h.base, h.frames⟩
    change (m.natives.insert n.name n).find? name = some n' at hfound
    by_cases hname : n.name = name
    · rw [← hname, Mapping.find?_insert_self] at hfound
      cases hfound
      exact hn
    · rw [Mapping.find?_insert_of_ne m.natives hname] at hfound
      exact h.natives hfound

theorem push (h : m.HostFree) : m.push.HostFree :=
  h.withStack h.bound.push _ _

theorem pop (h : m.HostFree) : m.pop.HostFree := by
  unfold Machine.pop
  split
  · rename_i stack hpop
    exact h.withStack (h.bound.pop hpop) _ _
  · exact h.record _

theorem enter (h : m.HostFree) {bindings : Scope} (link : Option Nat)
    (hb : ∀ e ∈ bindings.entries, e.2.Within .builtin) : (m.enter bindings link).HostFree :=
  h.withStack (h.bound.enter link hb) _ _

theorem leave (h : m.HostFree) : m.leave.HostFree :=
  h.withStack h.bound.leave _ _

theorem resolve (h : m.HostFree) {name : String} {link : Option Nat} {v : Value}
    (hr : m.stack.resolve name = some (link, v)) : v.Within .builtin :=
  h.bound.resolve hr

/-- What holds of the machines that a run on `m₀` meets outside of further calls: they are host-free
with the same native functions and open calls, and all events of `m₀` are still there. -/
structure Since (m₀ m : Machine) : Prop where
  hostFree : m.HostFree
  natives : m.natives = m₀.natives
  openCalls : m.openCalls = m₀.openCalls
  trace : m₀.trace <:+ m.trace

namespace Since

variable {m₀ : Machine}

theorem refl (h : m.HostFree) : Since m m :=
  ⟨h, rfl, rfl, List.suffix_rfl⟩

theorem record (h : Since m₀ m) (e : Event) : Since m₀ (m.record e) where
  hostFree := h.hostFree.record e
  natives := h.natives
  openCalls := h.openCalls
  trace := h.trace.trans (List.suffix_cons _ _)

/-- When the call is closed, the machine is as it was before, as far as this goes. -/
theorem leave {bindings : Scope} {link : Option Nat} {n : Machine} (h : Since m₀ m)
    (hn : Since (m.enter bindings link) n) : Since m₀ n.leave where
  hostFree := hn.hostFree.leave
  natives := hn.natives.trans h.natives
  openCalls := by
    show n.openCalls - 1 = m₀.openCalls
    rw [hn.openCalls, ← h.openCalls]
    exact Nat.add_sub_cancel _ 1
  trace := by
    have hentered : m.trace <:+ n.trace := (List.suffix_cons _ _).trans hn.trace
    exact (h.trace.trans hentered).trans (List.suffix_cons _ _)

end Since

/-- A host-free machine is coupled with itself, as long as so many calls are open. -/
def coupling (least : Nat) : Coupling .builtin where
  Context := { m : Machine // least ≤ m.openCalls }
  rel c m m' := m = m' ∧ Since c.1 m
  mayLink _ _ := True
  mayLink_none _ := trivial
  resolve h _ := by rw [h.1]
  resolved h _ hr := ⟨trivial, h.2.hostFree.resolve hr⟩
  natives h _ := by rw [h.1]
  native h _ hn := h.2.hostFree.natives hn
  openCalls h := by rw [h.1]
  assign name v h hv :=
    ⟨by rw [h.1], h.2.hostFree.assign name hv, h.2.natives, h.2.openCalls, h.2.trace⟩
  record {c m m' e} h _ := ⟨by rw [h.1], h.2.record e⟩
  enter {c m m' bindings link} h _ hb := by
    obtain ⟨rfl, h⟩ := h
    have hleast : least ≤ (m.enter bindings link).openCalls :=
      Nat.le_succ_of_le (h.openCalls ▸ c.2)
    refine ⟨⟨m.enter bindings link, hleast⟩, ⟨rfl, .refl (h.hostFree.enter link hb)⟩, ?_⟩
    rintro n _ ⟨rfl, hn⟩
    exact ⟨rfl, h.leave hn⟩
  callFrom {c m m'} site h := by
    obtain ⟨rfl, h⟩ := h
    have hfree : ({ m with callSite := site } : Machine).HostFree := h.hostFree.callFrom _
    refine ⟨c, ⟨rfl, hfree, h.natives, h.openCalls, h.trace⟩, ?_⟩
    rintro n _ ⟨rfl, hn⟩
    exact ⟨rfl, hn.hostFree.callFrom _, hn.natives, hn.openCalls, hn.trace⟩

/-- What steps keep for the coupling holds of a host-free machine after them. -/
theorem since_of_lockstep {ε α : Type} {P : α → Prop} {x : Exec ε α} (h : m.HostFree)
    (hx : ∀ c, Exec.Lockstep ((coupling 0).rel c) P x x) : Since m (x.on m).2 :=
  (hx ⟨m, Nat.zero_le _⟩ m m ⟨rfl, .refl h⟩).states_rel.2

theorem value_of_lockstep {ε α : Type} {P : α → Prop} {x : Exec ε α} {a : α} (h : m.HostFree)
    (hx : ∀ c, Exec.Lockstep ((coupling 0).rel c) P x x) (ha : (x.on m).1 = .ok a) : P a :=
  (hx ⟨m, Nat.zero_le _⟩ m m ⟨rfl, .refl h⟩).value_of_eq_ok ha

end Machine.HostFree

end Scriptlet
