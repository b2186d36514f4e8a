import Scriptlet.Evaluation.Call

/-!
# How evaluations end, without a bound

The evaluation of a tree is defined by recursion on the tree, apart from the calls in it, which lead
to bodies elsewhere. The evaluator bounds how deep these may go by a number. Here is what
evaluations end in with no such number: a call ends if all the calls in its body that matter to it
end, so that there is an end to the calls within calls (`CallEnds`).

What matters to an evaluation is given by a table of endings. The evaluation *ends* if some table,
in which all endings are those of calls that end, settles its outcome (`Ends`). Then the outcome is
the only one (`Ends.unique`).
-/

namespace Scriptlet

/-- A call of a function. -/
structure Invocation where
  f : Function
  link : Option Nat
  arguments : List Value
  site : Position

/-- The outcome of an evaluation, and the machine behind it. -/
abbrev Ending (α : Type) := Except RuntimeError α × Machine

/-- What some calls end in, on some machines. -/
abbrev Endings := Invocation → Machine → Option (Ending Value)

/-- What a call does, given what the calls in its body do. -/
def Invocation.steps (env : Environment) (c : Invocation) (calls : Calls) : Eval Value := do
  c.f.checkCall env.settings.maxCallDepth c.arguments c.site
  let flow ← Exec.within (c.f.bind c.arguments) c.link (evalStatements calls c.f.body.statements)
  recordReturn flow
  Exec.ofOutcome flow.value

/-- What calls of built-in functions do, whatever functions of the host do. -/
def Environment.callBuiltin (env : Environment) (b : Builtin) :
    List Value → Position → Eval Value :=
  env.callNative (fun _ => pure .nil) (.builtin b)

theorem Environment.callsWithin_builtin (env : Environment) (nesting left : Nat) (b : Builtin) :
    (env.callsWithin nesting left).native (.builtin b) = env.callBuiltin b := by
  cases nesting with
  | zero => rfl
  | succ nesting => rfl

/-- The calls end as the table says, where it says something. Built-in functions do what they do. -/
structure Calls.Obeys (env : Environment) (calls : Calls) (table : Endings) : Prop where
  user : ∀ c m r, table c m = some r → (calls.user c.f c.link c.arguments c.site).on m = r
  builtin : ∀ b, calls.native (.builtin b) = env.callBuiltin b

variable {env : Environment}

/-- A call ends in this way: whatever the other calls do, this follows from what is in the table,
and the calls in the table end as it says. -/
inductive Environment.CallEnds (env : Environment) : Invocation → Machine → Ending Value → Prop
  | intro {c m r} (table : Endings)
    (known : ∀ c' m' r', table c' m' = some r' → CallEnds env c' m' r')
    (settled : ∀ calls, Calls.Obeys env calls table → (c.steps env calls).on m = r) :
    CallEnds env c m r

/-- An evaluation ends in this way, by means of calls that end. -/
def Environment.Ends {α : Type} (env : Environment) (steps : Calls → Eval α) (m : Machine)
    (r : Ending α) : Prop :=
  ∃ table : Endings, (∀ c m' r', table c m' = some r' → env.CallEnds c m' r') ∧
    ∀ calls, calls.Obeys env table → (steps calls).on m = r

/-- Calls that do what the first table says, or else the second. -/
def Calls.ofEndings (env : Environment) (table table' : Endings) : Calls where
  user f link arguments site := .ofFunction fun m =>
    ((table ⟨f, link, arguments, site⟩ m).or (table' ⟨f, link, arguments, site⟩ m)).getD
      (.error (.callDepth 0 site), m)
  native := env.callNative fun _ => pure .nil

theorem Calls.ofEndings_obeys (env : Environment) (table table' : Endings) :
    (ofEndings env table table').Obeys env table where
  user c m r h := by
    show ((table c m).or (table' c m)).getD _ = r
    rw [h]
    rfl
  builtin b := rfl

/-- Tables that do not contradict each other can be obeyed at once. -/
theorem Calls.ofEndings_obeys_second {table table' : Endings}
    (hsame : ∀ c m r r', table c m = some r → table' c m = some r' → r = r') :
    (ofEndings env table table').Obeys env table' where
  user c m r h := by
    show ((table c m).or (table' c m)).getD _ = r
    cases hfirst : table c m with
    | some r' => exact hsame c m r' r hfirst h
    | none =>
      rw [h]
      rfl
  builtin b := rfl

/-- Two tables that do not contradict each other settle the same. -/
theorem settled_unique {α : Type} {steps : Calls → Eval α} {m : Machine} {r r' : Ending α}
    {table table' : Endings}
    (hsame : ∀ c m r r', table c m = some r → table' c m = some r' → r = r')
    (h : ∀ calls : Calls, calls.Obeys env table → (steps calls).on m = r)
    (h' : ∀ calls : Calls, calls.Obeys env table' → (steps calls).on m = r') : r = r' := by
  have hfirst := h _ (Calls.ofEndings_obeys env table table')
  have hsecond := h' _ (Calls.ofEndings_obeys_second hsame)
  exact hfirst.symm.trans hsecond

/-- A call ends in one way only. -/
theorem Environment.CallEnds.unique {c : Invocation} {m : Machine} {r r' : Ending Value}
    (h : env.CallEnds c m r) (h' : env.CallEnds c m r') : r = r' := by
  induction h generalizing r' with
  | intro table known settled ih =>
    obtain ⟨table', known', settled'⟩ := h'
    refine settled_unique (fun c m r r' ht ht' => ?_) settled settled'
    exact ih c m r ht (known' c m r' ht')

/-- An evaluation ends in one way only. -/
theorem Environment.Ends.unique {α : Type} {steps : Calls → Eval α} {m : Machine} {r r' : Ending α}
    (h : env.Ends steps m r) (h' : env.Ends steps m r') : r = r' := by
  obtain ⟨table, known, settled⟩ := h
  obtain ⟨table', known', settled'⟩ := h'
  refine settled_unique (fun c m r r' ht ht' => ?_) settled settled'
  exact (known c m r ht).unique (known' c m r' ht')

end Scriptlet
