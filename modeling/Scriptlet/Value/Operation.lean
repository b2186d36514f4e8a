import Scriptlet.Text.Decimal
import Scriptlet.Value

/-!
# Operations on values

The binary operators, and reading and writing one member of a value. Each is defined for certain
types only; every other combination is an error that names the operation and the types.
-/

namespace Scriptlet

/-- The error for an operator on operands of the wrong types. -/
def Operator.mismatch (o : Operator) (left right : Value) (position : Position) : RuntimeError :=
  .type (.operator o) (.two left.kind right.kind) position

/-- The integer of this value, or an overflow. -/
def Operator.inRange (o : Operator) (n : Int) (position : Position) : Except RuntimeError Value :=
  match Decimal.int64? n with
  | some n => .ok (.int n)
  | none => .error (.overflow o position)

namespace Value

/-- The elements of `items` that equal none of `excluded`. -/
def withoutItems (items excluded : List Value) : List Value :=
  items.filter fun v => !excluded.contains v

/-- The entries of `m` that are not entries of `n` with an equal value. -/
def withoutEntries (m n : Mapping Value) : Mapping Value :=
  m.filter fun key v => !(n.find? key).any fun w => w == v

/-- Whether `needle` is an element of a list or a key of a mapping. -/
def isIn (o : Operator) (needle haystack : Value) (position : Position) :
    Except RuntimeError Bool :=
  match needle, haystack with
  | needle, list items => .ok (items.contains needle)
  | string key, map entries => .ok (entries.contains key)
  | needle, haystack => .error (o.mismatch needle haystack position)

/-- The sum of integers, and the concatenation or union of two texts, lists or mappings. -/
def add (left right : Value) (position : Position) : Except RuntimeError Value :=
  match left, right with
  | int a, int b => Operator.add.inRange (a.toInt + b.toInt) position
  | string a, string b => .ok (string (a ++ b))
  | list a, list b => .ok (list (a ++ b))
  | map a, map b => .ok (map (a.union b))
  | left, right => .error (Operator.add.mismatch left right position)

/-- The difference of integers, of lists, of mappings, or of a list and the values of a mapping. -/
def sub (left right : Value) (position : Position) : Except RuntimeError Value :=
  match left, right with
  | int a, int b => Operator.sub.inRange (a.toInt - b.toInt) position
  | list a, list b => .ok (list (withoutItems a b))
  | list a, map b => .ok (list (withoutItems a b.values))
  | map a, map b => .ok (map (withoutEntries a b))
  | left, right => .error (Operator.sub.mismatch left right position)

/-- An operator that is defined on integers only. -/
def onInts (o : Operator) (f : Int → Int → Except RuntimeError Value) (left right : Value)
    (position : Position) : Except RuntimeError Value :=
  match left, right with
  | int a, int b => f a.toInt b.toInt
  | left, right => .error (o.mismatch left right position)

end Value

/-- The value of an operator on two operands. Division rounds toward zero. -/
def Operator.apply (o : Operator) (left right : Value) (position : Position) :
    Except RuntimeError Value :=
  match o with
  | .add => left.add right position
  | .sub => left.sub right position
  | .mul => Value.onInts o (fun a b => o.inRange (a * b) position) left right position
  | .div =>
    let divide (a b : Int) : Except RuntimeError Value :=
      if b = 0 then .error (.divisionByZero position) else o.inRange (a.tdiv b) position
    Value.onInts o divide left right position
  | .greater => Value.onInts o (fun a b => .ok (.bool (a > b))) left right position
  | .greaterEqual => Value.onInts o (fun a b => .ok (.bool (a ≥ b))) left right position
  | .less => Value.onInts o (fun a b => .ok (.bool (a < b))) left right position
  | .lessEqual => Value.onInts o (fun a b => .ok (.bool (a ≤ b))) left right position
  | .equal => .ok (.bool (left == right))
  | .isIn => (left.isIn o right position).map Value.bool
  | .notIn => (left.isIn o right position).map fun found => .bool !found

namespace Value

/-- The place in a list of `length` elements that an index stands for. -/
def slot? (index : Int64) (length : Nat) : Option Nat :=
  if 0 ≤ index.toInt ∧ index.toInt < length then some index.toInt.toNat else none

/-- The entry of a mapping under a name. Nothing has no members, which reads as nothing. -/
def readName (object : Value) (name : String) (position : Position) :
    Except RuntimeError Value :=
  match object with
  | map entries => .ok ((entries.find? name).getD nil)
  | nil => .ok nil
  | object => .error (object.typeError .fieldAccess position)

/-- The element of a list or the entry of a mapping under a key, or nothing if there is none. -/
def readIndex (object key : Value) (position : Position) : Except RuntimeError Value :=
  match object, key with
  | map entries, string key => .ok ((entries.find? key).getD nil)
  | list items, int index => .ok (((slot? index items.length).bind fun i => items[i]?).getD nil)
  | nil, _ => .ok nil
  | object, key => .error (.type .index (.two object.kind key.kind) position)

/-- The object with `value` under `key`. Nothing becomes a mapping; a list does not grow. -/
def write (object key value : Value) (position : Position) : Except RuntimeError Value :=
  match object, key with
  | nil, string key => .ok (map (({} : Mapping Value).insert key value))
  | map entries, string key => .ok (map (entries.insert key value))
  | list items, int index =>
    match slot? index items.length with
    | some i => .ok (list (items.set i value))
    | none => .error (.structural (.outOfBounds index) position)
  | object, key => .error (.type .memberAssignment (.two object.kind key.kind) position)

/-- The entry of a mapping that can be called by this name. -/
def method? (object : Value) (name : String) : Option Value :=
  match object with
  | map entries => (entries.find? name).filter isCallable
  | _ => none

end Value

end Scriptlet
