import Scriptlet.Shell.Real

/-!
# Values of programs over records

Numbers and texts. A text that has been read counts as a number if it looks like one.
-/

namespace Scriptlet.Shell

namespace Real

def toFloat (r : Real) : Float :=
  let x : Float := match r.magnitude with
    | .finite mantissa exponent => Float.scaleB (Float.ofNat mantissa) exponent
    | .infinite => 1.0 / 0.0
    | .notNumber => 0.0 / 0.0
  if r.isNegative then -x else x

/-- What a floating-point number of 64 bits is made up of. -/
def ofFloat (x : Float) : Real :=
  let bits := x.toBits.toNat
  let exponent : Nat := bits / Nat.pow 2 52 % Nat.pow 2 11
  let mantissa : Nat := bits % Nat.pow 2 52
  let magnitude : Magnitude :=
    if exponent = 2047 then if mantissa = 0 then .infinite else .notNumber
    else if exponent = 0 then .finite mantissa (-1074)
    else .finite (mantissa + Nat.pow 2 52) ((exponent : Int) - 1075)
  { isNegative := bits / Nat.pow 2 63 = 1, magnitude }

def truncated? (r : Real) : Option Int :=
  match r.magnitude with
  | .finite mantissa exponent =>
    let (n, d) := Magnitude.fraction mantissa exponent
    some (if r.isNegative then -((n / d : Nat) : Int) else ((n / d : Nat) : Int))
  | _ => none

end Real

namespace Awk

/-- A value. -/
inductive Value where
  | unset
  | number (x : Float)
  | text (s : String)
  /-- A text that has been read. -/
  | input (s : String)
deriving Inhabited

/-- The number that a text starts with, zero if there is none. -/
def leadingNumber (s : String) : Float :=
  match Real.read? s.toList with
  | some (r, _) => r.toFloat
  | none => 0

def isNumeral (s : String) : Bool :=
  let isDecimal := s.toList.all fun c => !c.isAlpha || c = 'e' || c = 'E'
  isDecimal && match Real.read? s.toList with
    | some (_, rest) => rest.all isSpace
    | none => false

def Value.ofBool (b : Bool) : Value :=
  .number (if b then 1 else 0)

def Value.ofInt (n : Int) : Value :=
  .number (Float.ofInt n)

namespace Value

def toNumber : Value → Float
  | unset => 0
  | number x => x
  | text s => leadingNumber s
  | input s => leadingNumber s

def isNumeric : Value → Bool
  | unset => true
  | number _ => true
  | text _ => false
  | input s => isNumeral s

def holds : Value → Bool
  | unset => false
  | number x => x != 0
  | text s => s != ""
  | input s => if isNumeral s then leadingNumber s != 0 else s != ""

/-- The integer of a value towards zero, zero if there is none. -/
def toInt (v : Value) : Int :=
  (Real.ofFloat v.toNumber).truncated?.getD 0

end Value

end Awk

end Scriptlet.Shell
