import Scriptlet.Proofs.Host.Operations

/-!
# Popping undoes pushing

Between a push and its pop a host binds names, runs programs and calls functions, and may push and
pop further scopes in pairs. As long as no function of the host takes part, all of that is bound in
the pushed scope, so the pop brings back the scopes as they were before the push
(`Host.pop_undoes_push`), also if programs failed in between.
-/

namespace Scriptlet

namespace HostOperation

/-- Sequences of operations in which every push has its pop. -/
inductive Nested : List HostOperation → Prop
  | nil : Nested []
  | step {op : HostOperation} {ops : List HostOperation} (plain : op.Plain)
    (unscoped : op.isScoping = false) (rest : Nested ops) : Nested (op :: ops)
  | scope {inner ops : List HostOperation} (between : Nested inner) (rest : Nested ops) :
    Nested (push :: (inner ++ pop :: ops))

variable {env : Environment} {m : Machine} {op : HostOperation} {ops : List HostOperation}

/-- A sequence of operations in which every push has its pop binds in the innermost scope only. -/
theorem Nested.changedInnermost (hops : Nested ops) (env : Environment) (h : m.HostFree) :
    (ops.foldl (after env) m).HostFree ∧ m.ChangedInnermost (ops.foldl (after env) m) := by
  induction hops generalizing m with
  | nil => exact ⟨h, .refl m⟩
  | step plain unscoped rest ih =>
    obtain ⟨hfree, hfirst⟩ := h.unscoped env plain unscoped
    obtain ⟨hfree', hrest⟩ := ih hfree
    exact ⟨hfree', hfirst.trans hrest⟩
  -- What was done between a push and its pop is gone, so the rest starts from the same scopes.
  | @scope inner ops between rest ihbetween ihrest =>
    obtain ⟨hfree, hinner⟩ := ihbetween h.push
    have hback : (inner.foldl (after env) m.push).pop.stack = m.stack := hinner.stack_pop
    obtain ⟨hfree', hrest⟩ := ihrest hfree.pop
    rw [List.foldl_cons, List.foldl_append, List.foldl_cons]
    exact ⟨hfree', .trans (.of_stack_eq hback) hrest⟩

end HostOperation

open HostOperation

/-- Whatever a host without functions of its own has done with a machine: if it pushes a scope, then
binds names, runs sources and programs and calls functions, with further scopes pushed and popped in
pairs, and then pops the scope, all scopes are as before, and every name stands for what it stood
for. It does not matter which of the runs failed. -/
theorem Host.pop_undoes_push (env : Environment) {globals : Scope}
    (hglobals : ∀ e ∈ globals.entries, e.2.Within .builtin) {earlier ops : List HostOperation}
    (hearlier : ∀ op ∈ earlier, op.Plain) (hops : Nested ops) :
    let m := earlier.foldl (HostOperation.after env) (Machine.initial globals)
    let m' := (push :: (ops ++ [pop])).foldl (HostOperation.after env) m
    m'.stack = m.stack ∧ ∀ name, m'.lookup name = m.lookup name := by
  intro m m'
  have hm : m.HostFree := (Machine.HostFree.initial hglobals).operations env hearlier
  have hm' : m' = (ops.foldl (HostOperation.after env) m.push).pop := by
    show List.foldl _ _ _ = _
    rw [List.foldl_cons, List.foldl_append]
    rfl
  have hstack : m'.stack = m.stack := by
    rw [hm']
    exact (hops.changedInnermost env hm.push).2.stack_pop
  exact ⟨hstack, fun name => by rw [Machine.lookup, hstack, Machine.lookup]⟩

/-- A program binds `x` anew and then fails, a scope is pushed and popped, and so is the first. -/
theorem Host.pop_undoes_push_behind_failure :
    let bad : Program := [.assign (.var ⟨"x", {}⟩) (.literal (.int 2) {}) {},
      .expression (.var ⟨"y", {}⟩)]
    let m := [HostOperation.push].foldl (HostOperation.after .bare)
      (Machine.initial ⟨[("x", .int 1)]⟩)
    let ops := [.runTree bad, .push, .assign "x" (.int 3), .pop]
    let m' := (HostOperation.push :: (ops ++ [.pop])).foldl (HostOperation.after .bare) m
    Nested ops ∧ ((Environment.bare.runTree bad).on m).1 = .error (.undefined "y" {}) ∧
      ((runTree bad).after .bare m).lookup "x" = some (.int 2) ∧
      m'.stack = m.stack ∧ m'.lookup "x" = some (.int 1) := by
  intro bad m ops m'
  have hops : Nested ops :=
    .step trivial rfl (.scope (.step (by simp [Plain]) rfl .nil) .nil)
  have hglobals : ∀ e ∈ [("x", Value.int 1)], e.2.Within .builtin := by simp
  have hpush : ∀ op ∈ [HostOperation.push], op.Plain := by simp [Plain]
  obtain ⟨hstack, hlookup⟩ := Host.pop_undoes_push .bare hglobals hpush hops
  exact ⟨hops, rfl, rfl, hstack, (hlookup "x").trans rfl⟩

end Scriptlet
