import Scriptlet.Evaluation

/-!
# Evaluation respects what calls do

The steps of a tree are put together one behind another, and what calls do is a parameter of them.
So a relation between steps that is kept when steps follow one another relates two runs of the same
tree as soon as it relates the calls of the one to those of the other
(`RelatesCalls.evalStatements_rel` and its companions).

Runs in lockstep are about two machines and one outcome; here the relation is free to say what it
likes about the outcomes.
-/

namespace Scriptlet

/-- A relation between steps that holds of steps and themselves, and that is kept when further
steps follow. -/
structure Congruence where
  rel {α : Type} (x y : Eval α) : Prop
  refl {α : Type} (x : Eval α) : rel x x
  bind {α β : Type} {x y : Eval α} {f g : α → Eval β} (hx : rel x y)
    (hf : ∀ a, rel (f a) (g a)) : rel (x >>= f) (y >>= g)

namespace Congruence

/-- The calls of the one side are related to those of the other. -/
structure RelatesCalls (R : Congruence) (calls calls' : Calls) : Prop where
  user : ∀ (f : Function) (link : Option Nat) (arguments : List Value) (site : Position),
    R.rel (calls.user f link arguments site) (calls'.user f link arguments site)
  native : ∀ (n : Native) (arguments : List Value) (site : Position),
    R.rel (calls.native n arguments site) (calls'.native n arguments site)

variable {R : Congruence} {calls calls' : Calls}

/-- Further steps that are the same on both sides. -/
theorem bind_same {α β : Type} {x y : Eval α} (hx : R.rel x y) (f : α → Eval β) :
    R.rel (x >>= f) (y >>= f) :=
  R.bind hx fun a => R.refl (f a)

theorem runLoop_rel (index : Option Variable) (item : Variable) {body body' : Eval Flow}
    (hbody : R.rel body body') (pairs : List (Value × Value)) :
    R.rel (runLoop index item body pairs) (runLoop index item body' pairs) := by
  induction pairs with
  | nil => exact R.refl _
  | cons pair rest ih =>
    obtain ⟨key, value⟩ := pair
    rw [runLoop, runLoop]
    refine R.bind (R.refl _) fun _ => ?_
    rcases index with _ | v
    case' some => refine R.bind (R.refl _) fun _ => ?_
    all_goals
      refine R.bind (R.refl _) fun _ => R.bind hbody fun flow => ?_
      cases flow with
      | normal | continued _ => exact ih
      | returned _ | broke _ => exact R.refl _

namespace RelatesCalls

section

variable (hcalls : R.RelatesCalls calls calls')
include hcalls

theorem value (name : String) (callee : Value) (link : Option Nat) (arguments : List Value)
    (site : Position) :
    R.rel (calls.value name callee link arguments site)
      (calls'.value name callee link arguments site) := by
  cases callee with
  | function f => exact hcalls.user f link arguments site
  | native n => exact hcalls.native n arguments site
  | _ => exact R.refl _

theorem named (name : String) (arguments : List Value) (site : Position) :
    R.rel (calls.named name arguments site) (calls'.named name arguments site) := by
  refine R.bind (R.refl _) fun registered => ?_
  cases registered with
  | some n => exact hcalls.native n arguments site
  | none =>
    refine R.bind (R.refl _) fun resolved => ?_
    cases resolved with
    | some r => exact hcalls.value name r.2 r.1 arguments site
    | none => exact R.refl _

theorem method (object : Value) (name : String) (arguments : List Value) (site : Position) :
    R.rel (calls.method object name arguments site)
      (calls'.method object name arguments site) := by
  unfold Calls.method
  split
  · exact hcalls.value name _ none arguments site
  · exact hcalls.named name _ site

end

mutual

theorem evalExpr_rel (hcalls : R.RelatesCalls calls calls') :
    ∀ e : Expr, R.rel (evalExpr calls e) (evalExpr calls' e)
  | .var v => by
    rw [evalExpr, evalExpr]
    exact R.refl _
  | .literal value _ => by
    rw [evalExpr, evalExpr]
    exact R.refl _
  | .binary left o right position => by
    rw [evalExpr, evalExpr]
    refine R.bind (hcalls.evalExpr_rel left) fun a => ?_
    exact bind_same (hcalls.evalExpr_rel right) _
  | .list values _ => by
    rw [evalExpr, evalExpr]
    exact bind_same (hcalls.evalExprs_rel values) _
  | .block ⟨statements, _⟩ => by
    rw [evalExpr, evalExpr]
    exact bind_same (hcalls.evalEntries_rel {} statements) _
  | .call ⟨name, arguments, site⟩ => by
    rw [evalExpr, evalExpr]
    exact R.bind (hcalls.evalExprs_rel arguments) fun vs => hcalls.named name vs site
  | .field object member position => by
    rw [evalExpr, evalExpr]
    cases object.asVariable? with
    | some v => exact R.bind (R.refl _) fun u => hcalls.evalMember_rel u position member
    | none =>
      exact R.bind (hcalls.evalExpr_rel object) fun u => hcalls.evalMember_rel u position member

theorem evalExprs_rel (hcalls : R.RelatesCalls calls calls') :
    ∀ es : List Expr, R.rel (evalExprs calls es) (evalExprs calls' es)
  | [] => by
    rw [evalExprs, evalExprs]
    exact R.refl _
  | e :: es => by
    rw [evalExprs, evalExprs]
    refine R.bind (hcalls.evalExpr_rel e) fun v => ?_
    exact bind_same (hcalls.evalExprs_rel es) _

theorem evalMember_rel (hcalls : R.RelatesCalls calls calls') (object : Value)
    (position : Position) :
    ∀ member : Member,
      R.rel (evalMember calls object position member) (evalMember calls' object position member)
  | .name v => by
    rw [evalMember, evalMember]
    exact R.refl _
  | .index key => by
    rw [evalMember, evalMember]
    exact bind_same (hcalls.evalExpr_rel key) _
  | .call ⟨name, arguments, site⟩ => by
    rw [evalMember, evalMember]
    exact R.bind (hcalls.evalExprs_rel arguments) fun vs => hcalls.method object name vs site

theorem evalEntries_rel (hcalls : R.RelatesCalls calls calls') (entries : Mapping Value) :
    ∀ statements : List Statement,
      R.rel (evalEntries calls entries statements) (evalEntries calls' entries statements)
  | [] => by
    rw [evalEntries, evalEntries]
    exact R.refl _
  | .assign target value position :: rest => by
    cases target with
    | var key =>
      rw [evalEntries, evalEntries]
      refine R.bind (hcalls.evalExpr_rel value) fun v => ?_
      exact hcalls.evalEntries_rel (entries.insert key.name v) rest
    | _ =>
      simp only [evalEntries]
      exact R.refl _
  | .newLine _ :: rest | .comment _ :: rest => by
    rw [evalEntries, evalEntries]
    exact hcalls.evalEntries_rel entries rest
  | .function _ :: _ | .conditional .. :: _ | .loop .. :: _ | .exit .. :: _ | .stop _ :: _
  | .skip _ :: _ | .expression _ :: _ => by
    simp only [evalEntries]
    exact R.refl _

theorem execute_rel (hcalls : R.RelatesCalls calls calls') :
    ∀ s : Statement, R.rel (execute calls s) (execute calls' s)
  | .assign target value position => by
    rw [execute, execute]
    refine R.bind (hcalls.evalExpr_rel value) fun v => ?_
    exact bind_same (hcalls.evalAssign_rel v target) _
  | .conditional condition ⟨body, _⟩ none _ => by
    rw [execute, execute]
    refine R.bind (hcalls.evalExpr_rel condition) fun v => R.bind (R.refl _) fun taken => ?_
    split
    · exact hcalls.evalStatements_rel body
    · exact R.refl _
  | .conditional condition ⟨body, _⟩ (some ⟨otherwise, _⟩) _ => by
    rw [execute, execute]
    refine R.bind (hcalls.evalExpr_rel condition) fun v => R.bind (R.refl _) fun taken => ?_
    split
    · exact hcalls.evalStatements_rel body
    · exact hcalls.evalStatements_rel otherwise
  | .loop index item iterable ⟨body, _⟩ _ => by
    rw [execute, execute]
    refine R.bind (hcalls.evalExpr_rel iterable) fun v => ?_
    cases v.pairs? with
    | some pairs => exact runLoop_rel index item (hcalls.evalStatements_rel body) pairs
    | none => exact R.refl _
  | .exit (some value) _ => by
    rw [execute, execute]
    exact bind_same (hcalls.evalExpr_rel value) _
  | .expression e => by
    rw [execute, execute]
    exact bind_same (hcalls.evalExpr_rel e) _
  | .function _ | .exit none _ | .stop _ | .skip _ | .newLine _ | .comment _ => by
    rw [execute, execute]
    exact R.refl _

theorem evalStatements_rel (hcalls : R.RelatesCalls calls calls') :
    ∀ ss : List Statement, R.rel (evalStatements calls ss) (evalStatements calls' ss)
  | [] => by
    rw [evalStatements, evalStatements]
    exact R.refl _
  | s :: rest => by
    rw [evalStatements, evalStatements]
    refine R.bind (R.refl _) fun _ => R.bind (hcalls.execute_rel s) fun flow => ?_
    cases flow with
    | normal => exact hcalls.evalStatements_rel rest
    | _ => exact R.refl _

theorem evalAssign_rel (hcalls : R.RelatesCalls calls calls') (value : Value) :
    ∀ e : Expr, R.rel (evalAssign calls value e) (evalAssign calls' value e)
  | .field object member position => by
    rw [evalAssign, evalAssign]
    refine R.bind (hcalls.evalPlace_rel object) fun old => ?_
    refine R.bind (hcalls.evalWrite_rel old value position member) fun new => ?_
    exact hcalls.evalAssign_rel new object
  | .var _ | .literal .. | .binary .. | .list .. | .block _ | .call _ => by
    simp only [evalAssign]
    exact R.refl _

theorem evalPlace_rel (hcalls : R.RelatesCalls calls calls') :
    ∀ e : Expr, R.rel (evalPlace calls e) (evalPlace calls' e)
  | .field object member position => by
    rw [evalPlace, evalPlace]
    refine R.bind (hcalls.evalPlace_rel object) fun v => ?_
    split
    · exact R.refl _
    · exact hcalls.evalMember_rel v position member
  | .var _ | .literal .. | .binary .. | .list .. | .block _ | .call _ => by
    simp only [evalPlace]
    exact R.refl _

theorem evalWrite_rel (hcalls : R.RelatesCalls calls calls') (object value : Value)
    (position : Position) :
    ∀ member : Member,
      R.rel (evalWrite calls object value position member)
        (evalWrite calls' object value position member)
  | .index key => by
    rw [evalWrite, evalWrite]
    exact bind_same (hcalls.evalExpr_rel key) _
  | .name _ | .call _ => by
    rw [evalWrite, evalWrite]
    exact R.refl _

end

end RelatesCalls

end Congruence

end Scriptlet
