import Scriptlet.Evaluation.Builtin
import Scriptlet.Proofs.Evaluation.Exits

/-!
# Outcomes that blame no statement

An operation on values can fail in many ways, but never because a statement `break` or `continue`
is outside of a loop: the outcomes of operators, of reading and writing members, and of built-in
functions are *innocent*.
-/

namespace Scriptlet

/-- If this is an error, it is not about a statement outside of a loop. -/
def Innocent {α : Type} (outcome : Except RuntimeError α) : Prop :=
  ∀ e, outcome = .error e → e.stray? = none

namespace Innocent

variable {α β : Type} {o : Except RuntimeError α}

theorem ok {a : α} : Innocent (.ok a) := by
  intro e he
  cases he

theorem error {e : RuntimeError} (h : e.stray? = none) :
    Innocent (.error e : Except RuntimeError α) := by
  intro e' he'
  cases he'
  exact h

theorem map (h : Innocent o) (f : α → β) : Innocent (o.map f) := by
  cases o with
  | ok a => exact .ok
  | error e => exact .error (h e rfl)

theorem bind {f : α → Except RuntimeError β} (h : Innocent o) (hf : ∀ a, Innocent (f a)) :
    Innocent (o >>= f) := by
  cases o with
  | ok a => exact hf a
  | error e => exact .error (h e rfl)

end Innocent

theorem Operator.inRange_innocent (o : Operator) (n : Int) (position : Position) :
    Innocent (o.inRange n position) := by
  unfold inRange
  split
  · exact .ok
  · exact .error rfl

/-! ## Operations on values -/

namespace Value

theorem add_innocent (left right : Value) (position : Position) :
    Innocent (left.add right position) := by
  unfold add
  split
  · exact Operator.inRange_innocent _ _ _
  · exact .ok
  · exact .ok
  · exact .ok
  · exact .error rfl

theorem sub_innocent (left right : Value) (position : Position) :
    Innocent (left.sub right position) := by
  unfold sub
  split
  · exact Operator.inRange_innocent _ _ _
  · exact .ok
  · exact .ok
  · exact .ok
  · exact .error rfl

theorem onInts_innocent (o : Operator) {f : Int → Int → Except RuntimeError Value}
    (hf : ∀ a b, Innocent (f a b)) (left right : Value) (position : Position) :
    Innocent (onInts o f left right position) := by
  unfold onInts
  split
  · exact hf _ _
  · exact .error rfl

theorem isIn_innocent (o : Operator) (needle haystack : Value) (position : Position) :
    Innocent (needle.isIn o haystack position) := by
  unfold isIn
  split
  · exact .ok
  · exact .ok
  · exact .error rfl

theorem readName_innocent (object : Value) (name : String) (position : Position) :
    Innocent (object.readName name position) := by
  unfold readName
  split
  · exact .ok
  · exact .ok
  · exact .error rfl

theorem readIndex_innocent (object key : Value) (position : Position) :
    Innocent (object.readIndex key position) := by
  unfold readIndex
  split
  · exact .ok
  · exact .ok
  · exact .ok
  · exact .error rfl

theorem write_innocent (object key value : Value) (position : Position) :
    Innocent (object.write key value position) := by
  unfold write
  split
  · exact .ok
  · exact .ok
  · split
    · exact .ok
    · exact .error rfl
  · exact .error rfl

theorem asBool_innocent (v : Value) (operation : Operation) (position : Position) :
    Innocent (v.asBool operation position) := by
  unfold asBool
  split
  · exact .ok
  · exact .error rfl

theorem asString_innocent (v : Value) (operation : Operation) (position : Position) :
    Innocent (v.asString operation position) := by
  unfold asString
  split
  · exact .ok
  · exact .error rfl

end Value

theorem Operator.apply_innocent (o : Operator) (left right : Value) (position : Position) :
    Innocent (o.apply left right position) := by
  unfold apply
  split
  · exact left.add_innocent right position
  · exact left.sub_innocent right position
  · exact Value.onInts_innocent _ (fun _ _ => inRange_innocent _ _ _) left right position
  · refine Value.onInts_innocent _ (fun a b => ?_) left right position
    split
    · exact .error rfl
    · exact inRange_innocent _ _ _
  · exact Value.onInts_innocent _ (fun _ _ => .ok) left right position
  · exact Value.onInts_innocent _ (fun _ _ => .ok) left right position
  · exact Value.onInts_innocent _ (fun _ _ => .ok) left right position
  · exact Value.onInts_innocent _ (fun _ _ => .ok) left right position
  · exact .ok
  · exact (left.isIn_innocent _ right position).map _
  · exact (left.isIn_innocent _ right position).map _

/-! ## Built-in functions -/

namespace Builtin

theorem length_innocent (v : Value) (site : Position) : Innocent (length v site) := by
  unfold length
  split
  · exact .ok
  · exact .ok
  · exact .ok
  · exact .error rfl

theorem readPattern_innocent (env : Environment) (b : Builtin) (pattern : String)
    (site : Position) : Innocent (readPattern env b pattern site) := by
  unfold readPattern
  split
  · exact .ok
  · exact .error rfl

theorem isMatch_innocent (env : Environment) (pattern text : Value) (site : Position) :
    Innocent (isMatch env pattern text site) := by
  unfold isMatch
  refine (pattern.asString_innocent _ site).bind fun pattern => ?_
  refine (readPattern_innocent env _ pattern site).bind fun isMatch => ?_
  exact (text.asString_innocent _ site).bind fun text => .ok

theorem firstMatch_innocent (env : Environment) (b : Builtin) (text : String) (site : Position)
    (entries : List (String × Value)) : Innocent (firstMatch env b text site entries) := by
  induction entries with
  | nil => exact .ok
  | cons entry rest ih =>
    obtain ⟨pattern, v⟩ := entry
    rw [firstMatch]
    refine (readPattern_innocent env b pattern site).bind fun isMatch => ?_
    split
    · exact .ok
    · exact ih

theorem searchMap_innocent (env : Environment) (b : Builtin) (patterns text : Value)
    (site : Position) : Innocent (searchMap env b patterns text site) := by
  unfold searchMap
  split
  · exact (text.asString_innocent _ site).bind fun text => firstMatch_innocent env b text site _
  · exact .error rfl

end Builtin

end Scriptlet
