import Scriptlet.Evaluation
import Scriptlet.Proofs.Places.Definitions

/-!
# Statements that leave no loop

A *stray* is a statement `break` or `continue` that no loop encloses within the body of its own
function, or at the top of the program (`Statement.strays`, `Program.strays`). Statements that end
on the way to a loop do so because of one of their strays: a conditional hands on what ends it,
while a loop takes what its body sends to it (`evalStatements_leavesBy`). That holds whatever calls
do, since a call has a value and no way to end.
-/

namespace Scriptlet

mutual

/-- The statements `break` and `continue` in a statement that stand in no loop and no function of
it. -/
def Statement.strays : Statement → List Statement
  | .stop position => [.stop position]
  | .skip position => [.skip position]
  | .conditional _ body none _ => body.strays
  | .conditional _ body (some otherwise) _ => body.strays ++ otherwise.strays
  | _ => []

def straysOfStatements : List Statement → List Statement
  | [] => []
  | s :: ss => s.strays ++ straysOfStatements ss

def Block.strays : Block → List Statement
  | ⟨statements, _⟩ => straysOfStatements statements

end

theorem Block.strays_eq (b : Block) : b.strays = straysOfStatements b.statements := by
  obtain ⟨statements, position⟩ := b
  rw [strays]

/-- The strays at the top of a program and in the bodies of its functions. -/
def Program.strays (program : Program) : List Statement :=
  straysOfStatements program ++ (functionsOfStatements program).flatMap fun f => f.body.strays

theorem Program.mem_strays {program : Program} {s : Statement} :
    s ∈ program.strays ↔ s ∈ straysOfStatements program ∨
      ∃ f ∈ functionsOfStatements program, s ∈ f.body.strays := by
  rw [strays, List.mem_append, List.mem_flatMap]

/-! ## What ways to end and errors tell of strays -/

/-- The statement by which statements end on the way to a loop. -/
def Flow.stray? : Flow → Option Statement
  | broke position => some (.stop position)
  | continued position => some (.skip position)
  | _ => none

/-- The statement that an error says to be outside of a loop. -/
def RuntimeError.stray? : RuntimeError → Option Statement
  | structural .breakOutsideLoop position => some (.stop position)
  | structural .continueOutsideLoop position => some (.skip position)
  | _ => none

/-- Where no loop is left, what ends the statements is what the error is about. -/
theorem Flow.stray?_of_value {flow : Flow} {e : RuntimeError} (h : flow.value = .error e) :
    e.stray? = flow.stray? := by
  cases flow with
  | normal | returned _ => cases h
  | broke _ | continued _ =>
    cases h
    rfl

/-- If the statements end on the way to a loop, it is by one of these. -/
def Flow.LeavesBy (exits : List Statement) (flow : Flow) : Prop :=
  ∀ s, flow.stray? = some s → s ∈ exits

namespace Flow.LeavesBy

variable {exits : List Statement} {flow : Flow}

theorem of_none (h : flow.stray? = none) : flow.LeavesBy exits := by
  intro s hs
  rw [h] at hs
  cases hs

theorem of_subset {exits' : List Statement} (h : flow.LeavesBy exits) (hsub : exits ⊆ exits') :
    flow.LeavesBy exits' := by
  intro s hs
  apply hsub
  exact h s hs

end Flow.LeavesBy

/-! ## Values of steps -/

/-- Steps whose values have a property, from whatever machine they start. -/
def Exec.Yields {ε α : Type} (Q : α → Prop) (x : Exec ε α) : Prop :=
  ∀ m a, (x.on m).1 = .ok a → Q a

namespace Exec.Yields

variable {ε α β : Type} {Q : α → Prop} {R : β → Prop}

theorem pure {a : α} (h : Q a) : Yields Q (Pure.pure a : Exec ε α) := by
  intro m b hb
  cases hb
  exact h

theorem throw (e : ε) : Yields Q (MonadExcept.throw e : Exec ε α) := by
  intro m b hb
  cases hb

/-- The value of steps is that of the last of them, which may rely on the value before it. -/
theorem bind {x : Exec ε α} {f : α → Exec ε β} (hx : Yields Q x)
    (hf : ∀ a, Q a → Yields R (f a)) : Yields R (x >>= f) := by
  intro m b hb
  have hvalue := hx m
  rw [on_bind] at hb
  generalize x.on m = r at hb hvalue
  obtain ⟨o, m'⟩ := r
  cases o with
  | ok a => exact hf a (hvalue a rfl) m' b hb
  | error e => cases hb

/-- The first steps do not matter to those behind them. -/
theorem andThen {x : Exec ε α} {f : α → Exec ε β} (hf : ∀ a, Yields R (f a)) :
    Yields R (x >>= f) := by
  refine bind (Q := fun _ => True) ?_ ?_
  · intro m a ha
    trivial
  · intro a ha
    exact hf a

theorem mono {Q' : α → Prop} {x : Exec ε α} (hx : Yields Q x) (h : ∀ a, Q a → Q' a) :
    Yields Q' x := by
  intro m a ha
  apply h
  exact hx m a ha

theorem within {x : Exec ε α} (hx : Yields Q x) (bindings : Scope) (link : Option Nat) :
    Yields Q (Exec.within bindings link x) := by
  intro m a ha
  exact hx (m.enter bindings link) a ha

end Exec.Yields

/-! ## How statements end -/

/-- A loop ends by itself or with a `return`, whatever its body is. -/
theorem runLoop_leavesBy (index : Option Variable) (item : Variable) (body : Eval Flow)
    (pairs : List (Value × Value)) :
    (runLoop index item body pairs).Yields (Flow.LeavesBy []) := by
  induction pairs with
  | nil => exact .pure (.of_none rfl)
  | cons pair rest ih =>
    obtain ⟨key, value⟩ := pair
    rw [runLoop]
    refine .andThen fun _ => ?_
    rcases index with _ | v
    case' some => refine .andThen fun _ => ?_
    all_goals
      refine .andThen fun _ => .andThen fun flow => ?_
      cases flow with
      | normal | continued _ => exact ih
      | returned _ | broke _ => exact .pure (.of_none rfl)

mutual

theorem execute_leavesBy (calls : Calls) :
    ∀ s : Statement, (execute calls s).Yields (Flow.LeavesBy s.strays)
  | .assign _ _ _ => by
    rw [execute]
    exact .andThen fun _ => .andThen fun _ => .pure (.of_none rfl)
  | .function _ => by
    rw [execute]
    exact .andThen fun _ => .pure (.of_none rfl)
  | .conditional _ ⟨body, _⟩ none _ => by
    rw [execute, Statement.strays, Block.strays]
    refine .andThen fun _ => .andThen fun holds => ?_
    cases holds with
    | true => exact evalStatements_leavesBy calls body
    | false => exact .pure (.of_none rfl)
  | .conditional _ ⟨body, _⟩ (some ⟨otherwise, _⟩) _ => by
    rw [execute, Statement.strays, Block.strays, Block.strays]
    refine .andThen fun _ => .andThen fun holds => ?_
    cases holds with
    | true =>
      refine (evalStatements_leavesBy calls body).mono ?_
      intro flow h
      exact h.of_subset (List.subset_append_left _ _)
    | false =>
      refine (evalStatements_leavesBy calls otherwise).mono ?_
      intro flow h
      exact h.of_subset (List.subset_append_right _ _)
  | .loop index item _ ⟨body, _⟩ _ => by
    rw [execute, Statement.strays]
    · refine .andThen fun v => ?_
      cases v.pairs? with
      | some pairs => exact runLoop_leavesBy index item (evalStatements calls body) pairs
      | none => exact .throw _
    all_goals nofun
  | .exit none _ => by
    rw [execute]
    exact .pure (.of_none rfl)
  | .exit (some _) _ => by
    rw [execute]
    exact .andThen fun _ => .pure (.of_none rfl)
  | .stop position => by
    rw [execute, Statement.strays]
    apply Exec.Yields.pure
    intro s hs
    cases hs
    exact List.mem_singleton_self _
  | .skip position => by
    rw [execute, Statement.strays]
    apply Exec.Yields.pure
    intro s hs
    cases hs
    exact List.mem_singleton_self _
  | .expression _ => by
    rw [execute]
    exact .andThen fun _ => .pure (.of_none rfl)
  | .newLine _ => by
    rw [execute]
    exact .pure (.of_none rfl)
  | .comment _ => by
    rw [execute]
    exact .pure (.of_none rfl)

/-- Statements that end on the way to a loop do so by one of their strays. -/
theorem evalStatements_leavesBy (calls : Calls) :
    ∀ ss : List Statement, (evalStatements calls ss).Yields (Flow.LeavesBy (straysOfStatements ss))
  | [] => by
    rw [evalStatements]
    exact .pure (.of_none rfl)
  | s :: rest => by
    rw [evalStatements, straysOfStatements]
    refine .andThen fun _ => .bind (execute_leavesBy calls s) fun flow hflow => ?_
    have hends := hflow.of_subset (List.subset_append_left s.strays (straysOfStatements rest))
    cases flow with
    | normal =>
      refine (evalStatements_leavesBy calls rest).mono ?_
      intro flow h
      exact h.of_subset (List.subset_append_right _ _)
    | returned _ | broke _ | continued _ => exact .pure hends

end

end Scriptlet
