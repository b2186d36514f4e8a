import Scriptlet.Shell.Octets

/-!
# Numerals

Reading numerals in several bases at the start of a text, within the range of 64-bit integers, and
writing numbers with digits of a base.
-/

namespace Scriptlet.Shell.Numeral

def digit? (c : Char) : Option Nat :=
  if c.isDigit then some (c.toNat - '0'.toNat)
  else if 'a' ≤ c ∧ c ≤ 'z' then some (c.toNat - 'a'.toNat + 10)
  else if 'A' ≤ c ∧ c ≤ 'Z' then some (c.toNat - 'A'.toNat + 10)
  else none

/-- The digits of a base at the start, behind a number, and the text behind them. -/
def digits (base value : Nat) : List Char → Nat × List Char
  | [] => (value, [])
  | c :: rest =>
    match digit? c with
    | some d => if d < base then digits base (value * base + d) rest else (value, c :: rest)
    | none => (value, c :: rest)

def startsWithDigit (base : Nat) (cs : List Char) : Bool :=
  (cs.head?.bind digit?).any (· < base)

/-- A number without a sign at the start, and the text behind it. Base zero leaves the base to the
numeral: `0x` is in front of hexadecimal ones, and `0` of octal ones. -/
def natural? (base : Nat) (cs : List Char) : Option (Nat × List Char) :=
  let (base, cs') := match base, cs with
    | 0, '0' :: 'x' :: rest | 0, '0' :: 'X' :: rest | 16, '0' :: 'x' :: rest
    | 16, '0' :: 'X' :: rest =>
      if startsWithDigit 16 rest then (16, rest) else (if base = 0 then 8 else 16, cs)
    | 0, '0' :: _ => (8, cs)
    | 0, _ => (10, cs)
    | base, _ => (base, cs)
  if startsWithDigit base cs' then some (digits base 0 cs') else none

/-- A number at the start, behind spaces and a sign, and the text behind it. -/
def integer? (base : Nat) (cs : List Char) : Option (Int × List Char) :=
  match cs.dropWhile isSpace with
  | '-' :: rest => (natural? base rest).map fun (n, rest) => (-(n : Int), rest)
  | '+' :: rest => (natural? base rest).map fun (n, rest) => ((n : Int), rest)
  | rest => (natural? base rest).map fun (n, rest) => ((n : Int), rest)

/-- The least 64-bit integer. -/
def least : Int := -Int.pow 2 63

/-- The greatest 64-bit integer. -/
def greatest : Int := Int.pow 2 63 - 1

def clamp (n : Int) : Int64 :=
  Int64.ofInt (max least (min greatest n))

/-- The 64-bit integer at the start, zero if there is none, and the text behind it. -/
def readInt64 (base : Nat) (cs : List Char) : Int64 × List Char :=
  match integer? base cs with
  | some (n, rest) => (clamp n, rest)
  | none => (0, cs)

/-- The 64-bit integer that a whole text stands for, spaces around it aside. -/
def int64? (base : Nat) (cs : List Char) : Option Int64 :=
  match integer? base cs with
  | some (n, rest) =>
    if rest.all isSpace && least ≤ n && n ≤ greatest then some (Int64.ofInt n) else none
  | none => none

def natural10? (s : String) : Option Nat :=
  if areDigits s.toList then some (digits 10 0 s.toList).1 else none

def inBase (base n : Nat) : String :=
  String.ofList (Nat.toDigits base n)

end Scriptlet.Shell.Numeral
