/-!
# Decimal numerals

Reading a numeral with an optional sign as a 64-bit integer. Numerals beyond the range have no
value.
-/

namespace Scriptlet.Decimal

def digit? (c : Char) : Option Nat :=
  if '0' ≤ c ∧ c ≤ '9' then some (c.toNat - '0'.toNat) else none

/-- The number whose digits are `value`'s followed by those of the text. -/
def digitsFrom? (value : Nat) : List Char → Option Nat
  | [] => some value
  | c :: cs => (digit? c).bind fun d => digitsFrom? (value * 10 + d) cs

/-- The number that a text of digits, at least one, stands for. -/
def digits? : List Char → Option Nat
  | [] => none
  | cs => digitsFrom? 0 cs

/-- The number that a text stands for: digits behind an optional sign. -/
def numeral? : List Char → Option Int
  | '-' :: cs => (digits? cs).map fun n => -(n : Int)
  | '+' :: cs => (digits? cs).map Int.ofNat
  | cs => (digits? cs).map Int.ofNat

/-- The 64-bit integer of this value, if there is one. -/
def int64? (n : Int) : Option Int64 :=
  if Int64.minValue.toInt ≤ n ∧ n ≤ Int64.maxValue.toInt then some (Int64.ofInt n) else none

/-- The 64-bit integer that a numeral stands for. -/
def readInt64? (s : String) : Option Int64 :=
  (numeral? s.toList).bind int64?

end Scriptlet.Decimal
