import Scriptlet.Proofs.Calls.Sight

/-!
# Calls by global names do not depend on the caller

A function that is found in the global scope is called without a link. The frames of its caller are
then out of sight, and so are the scopes that the host has pushed outside of all calls. What the
call gives and prints depends only on the global scope and on how many calls are open
(`userCall_independent`).
-/

namespace Scriptlet

/-- There are no functions of the host, neither by name nor in the values of the global scope. -/
structure Machine.Plain (m : Machine) : Prop where
  natives : ∀ {name n}, m.natives.find? name = some n → n.IsBuiltin
  globals : ∀ {name v}, m.stack.globals.find? name = some v → v.Within (.plain fun _ => True)

theorem Machine.isBuiltin_of_find?_builtins {name : String} {n : Native}
    (h : Machine.builtins.find? name = some n) : n.IsBuiltin := by
  obtain ⟨b, -, he⟩ := List.mem_map.mp (Mapping.mem_ofList (Mapping.mem_of_find? h))
  cases he
  exact ⟨b, rfl⟩

/-- No other names than those of the built-in functions are taken from the start. -/
theorem Machine.find?_builtins_eq_none {name : String} (h : ∀ b : Builtin, b.name ≠ name) :
    Machine.builtins.find? name = none := by
  rw [Option.eq_none_iff_forall_ne_some]
  intro n hn
  obtain ⟨b, -, he⟩ := List.mem_map.mp (Mapping.mem_ofList (Mapping.mem_of_find? hn))
  exact h b (congrArg Prod.fst he)

/-- Machines with the same global scope, native functions and number of open calls agree. -/
theorem Machine.Plain.sameGround {m m' : Machine} (h : m.Plain)
    (hglobals : m.stack.globals = m'.stack.globals) (hnatives : m.natives = m'.natives)
    (hopen : m.openCalls = m'.openCalls) : m.SameGround (fun _ => True) m' where
  globals _ := by rw [hglobals]
  globals_within _ hv := h.globals hv
  natives _ := by rw [hnatives]
  natives_builtin _ hn := h.natives hn
  openCalls := hopen

/-- The sight of a call without a link: none of the frames, on either side. -/
def Sight.unlinked (below below' : List Frame) : Sight fun _ => True where
  link := none
  link' := none
  below := below
  below' := below'
  shared _ := False
  shared_same h := h.elim
  linked_same _ := .none

/-- A call without a link gives and prints the same in any two states with the same global scope,
the same built-in functions and the same number of open calls. -/
theorem userCall_independent (env : Environment) (nesting left : Nat) (f : Function)
    {arguments : List Value} (site : Position) {m m' : Machine} (hplain : m.Plain)
    (ha : ∀ a ∈ arguments, a.Within (.plain fun _ => True))
    (hglobals : m.stack.globals = m'.stack.globals) (hnatives : m.natives = m'.natives)
    (hopen : m.openCalls = m'.openCalls) :
    Exec.SameEnd ((env.callsWithin nesting left).user f none arguments site) m
      ((env.callsWithin nesting left).user f none arguments site) m' :=
  (Sight.unlinked m.stack.frames m'.stack.frames).userCall_sameEnd env nesting left site
    (fun _ _ => trivial) ha (hplain.sameGround hglobals hnatives hopen) rfl rfl

/-- A local variable of the caller is not seen, so it makes no difference. -/
theorem userCall_independent_of_local :
    let call := (Environment.bare.callsWithin 1 1).user (.reader "x") none [] {}
    let m := (Machine.initial {}).enter {} none
    let m' := (Machine.initial {}).enter ⟨[("x", .int 1)]⟩ none
    Exec.SameEnd call m call m' ∧ (call.on m').1 = .error (.undefined "x" {}) :=
  ⟨userCall_independent .bare 1 1 (.reader "x") {}
    ⟨Machine.isBuiltin_of_find?_builtins, fun h => absurd h (by
      simp [Machine.initial, Machine.enter, Machine.record, Stack.globals, Stack.enter])⟩
    (by simp) rfl rfl rfl, rfl⟩

end Scriptlet
