import Scriptlet.Shell.Numeral

/-!
# Floating-point numerals

Reading a numeral as the nearest number with a mantissa of 53 bits, and writing such a number with a
given count of digits. Both are done with exact fractions and rounded once, ties to the even
neighbour.
-/

namespace Scriptlet.Shell

/-- A number without its sign: a mantissa times a power of two, or none of those. -/
inductive Magnitude where
  | finite (mantissa : Nat) (exponent : Int)
  | infinite
  | notNumber
deriving DecidableEq, Repr

/-- A number with its sign. -/
structure Real where
  isNegative : Bool := false
  magnitude : Magnitude := .finite 0 0
deriving DecidableEq, Repr

/-- The integer nearest to a quotient; of two, the even one. -/
def roundedQuotient (n d : Nat) : Nat :=
  let q := n / d
  let r := n % d
  if 2 * r > d || (2 * r = d && q % 2 = 1) then q + 1 else q

def scaled (base : Nat) (n d : Nat) (exponent : Int) : Nat × Nat :=
  if exponent ≥ 0 then (n * Nat.pow base exponent.toNat, d)
  else (n, d * Nat.pow base (-exponent).toNat)

namespace Magnitude

/-- The number nearest to a fraction. -/
def nearest (n d : Nat) : Magnitude :=
  if n = 0 then finite 0 0
  else
    let guess : Int := (n.log2 : Int) - d.log2 - 53
    let fits (e : Int) : Bool := let (a, b) := scaled 2 n d (-e); a / b < Nat.pow 2 53
    let exponent := max (-1074) (if fits guess then guess else if fits (guess + 1) then guess + 1
      else guess + 2)
    let (a, b) := scaled 2 n d (-exponent)
    let mantissa := roundedQuotient a b
    let (size, unit) := scaled 2 mantissa 1 exponent
    if size / unit ≥ Nat.pow 2 1024 then infinite else finite mantissa exponent

def fraction (mantissa : Nat) (exponent : Int) : Nat × Nat :=
  scaled 2 mantissa 1 exponent

end Magnitude

namespace Real

/-- The exponent at the start, behind a letter, and the text behind it. -/
def exponent (letter : Char) (cs : List Char) : Int × List Char :=
  match cs with
  | c :: rest =>
    if c.toLower != letter then (0, cs)
    else
      let (sign, digits) := match rest with
        | '-' :: digits => ((-1 : Int), digits)
        | '+' :: digits => (1, digits)
        | digits => (1, digits)
      match Numeral.natural? 10 digits with
      | some (n, rest) => (sign * min n 100000, rest)
      | none => (0, cs)
  | [] => (0, cs)

/-- The digits of a base at the start, with a point between them, as an integer and the count of
digits behind the point, and the text behind them. There is at least one digit. -/
def digits? (base : Nat) (cs : List Char) : Option (Nat × Nat × List Char) :=
  let (whole, rest) := Numeral.digits base 0 cs
  match rest with
  | '.' :: behind =>
    let (all, rest') := Numeral.digits base whole behind
    let count := behind.length - rest'.length
    if count = 0 && rest.length = cs.length then none else some (all, count, rest')
  | rest => if rest.length = cs.length then none else some (whole, 0, rest)

/-- A number without its sign at the start, and the text behind it. -/
def magnitude? (cs : List Char) : Option (Magnitude × List Char) :=
  let lower := cs.map Char.toLower
  let named (name : String) := (behind? name.toList lower).isSome
  if named "infinity" then some (.infinite, cs.drop 8)
  else if named "inf" then some (.infinite, cs.drop 3)
  else if named "nan" then some (.notNumber, cs.drop 3)
  else
    let hexadecimal := match lower with
      | '0' :: 'x' :: _ => digits? 16 (cs.drop 2)
      | _ => none
    match hexadecimal with
    | some (n, count, rest) =>
      let (e, rest) := exponent 'p' rest
      let (a, b) := scaled 2 n 1 (e - 4 * count)
      some (.nearest a b, rest)
    | none =>
      (digits? 10 cs).map fun (n, count, rest) =>
        let (e, rest) := exponent 'e' rest
        let e := e - count
        let length : Int := (Nat.toDigits 10 n).length
        let value :=
          if n = 0 || e + length < -400 then .finite 0 0
          else if e + length > 400 then .infinite
          else let (a, b) := scaled 10 n 1 e; .nearest a b
        (value, rest)

/-- The number at the start of a text, behind spaces and a sign, and the text behind it. -/
def read? (cs : List Char) : Option (Real × List Char) :=
  let (isNegative, cs) := match cs.dropWhile isSpace with
    | '-' :: rest => (true, rest)
    | '+' :: rest => (false, rest)
    | rest => (false, rest)
  (magnitude? cs).map fun (magnitude, rest) => ({ isNegative, magnitude }, rest)

/-- A number of digits with zeros in front, at least so many. -/
def paddedDigits (count n : Nat) : List Char :=
  let ds := Nat.toDigits 10 n
  List.replicate (count - ds.length) '0' ++ ds

/-- Digits with a point behind the first ones; the point stands if digits follow it or `point` asks
for it. -/
def withPoint (point : Bool) (whole behind : List Char) : List Char :=
  whole ++ if behind.isEmpty && !point then [] else '.' :: behind

def fixed (point : Bool) (places n d : Nat) : List Char :=
  let ds := paddedDigits (places + 1) (roundedQuotient (n * Nat.pow 10 places) d)
  withPoint point (ds.take (ds.length - places)) (ds.drop (ds.length - places))

/-- The greatest exponent of ten that is not above a fraction other than zero. -/
def magnitudeOf (n d : Nat) : Int :=
  let guess : Int := ((Nat.toDigits 10 n).length : Int) - (Nat.toDigits 10 d).length
  let (a, b) := scaled 10 d 1 guess
  if n * b ≥ a then guess else guess - 1

/-- The first digits of a fraction, so many, and its exponent of ten. -/
def leading (count n d : Nat) : List Char × Int :=
  if n = 0 then (List.replicate count '0', 0)
  else
    let e := magnitudeOf n d
    let (a, b) := scaled 10 n d (count - 1 - e)
    let ds := Nat.toDigits 10 (roundedQuotient a b)
    (ds.take count, if ds.length > count then e + 1 else e)

def exponentText (e : Int) : List Char :=
  'e' :: (if e < 0 then '-' else '+') :: paddedDigits 2 e.natAbs

/-- A fraction with one digit in front of the point, so many behind it, and an exponent. -/
def scientific (point : Bool) (places n d : Nat) : List Char :=
  let (ds, e) := leading (places + 1) n d
  withPoint point (ds.take 1) (ds.drop 1) ++ exponentText e

def withoutZeros (ds : List Char) : List Char :=
  (ds.reverse.dropWhile (· = '0')).reverse

/-- A fraction with so many digits that matter, with or without an exponent, as its size asks for.
Zeros at the end stand only if `zeros` asks for them. -/
def general (zeros : Bool) (precision n d : Nat) : List Char :=
  let count := max precision 1
  let (ds, e) := leading count n d
  let trim (cs : List Char) := if zeros then cs else withoutZeros cs
  if e < -4 || e ≥ count then
    withPoint zeros (ds.take 1) (trim (ds.drop 1)) ++ exponentText e
  else
    let places := (count - 1 - e).toNat
    let all := paddedDigits (places + 1) (roundedQuotient (n * Nat.pow 10 places) d)
    withPoint zeros (all.take (all.length - places)) (trim (all.drop (all.length - places)))

/-- A number with a hexadecimal mantissa, one digit of which is in front of the point, and an
exponent of two. Without a precision it has as many digits as it takes. -/
def hexadecimal (point : Bool) (precision : Option Nat) (mantissa : Nat) (exponent : Int) :
    List Char :=
  let all := 13
  let places := precision.getD all
  let shift := 52 - mantissa.log2
  let (digits, e) : Nat × Int :=
    if mantissa = 0 then (0, 0)
    else
      (roundedQuotient (mantissa * Nat.pow 2 shift) (Nat.pow 16 (all - places)) *
          Nat.pow 16 (places - all),
        exponent + mantissa.log2)
  let ds := Nat.toDigits 16 digits
  let ds := List.replicate (places + 1 - ds.length) '0' ++ ds
  let behind := ds.drop (ds.length - places)
  let behind := if precision.isNone then withoutZeros behind else behind
  let sign := if e < 0 then '-' else '+'
  '0' :: 'x' :: withPoint point (ds.take (ds.length - places)) behind ++
    'p' :: sign :: Nat.toDigits 10 e.natAbs

/-- A number as a conversion asks for, without its sign. -/
def describe (conversion : Char) (alternative : Bool) (precision : Option Nat) :
    Magnitude → List Char
  | .infinite => "inf".toList
  | .notNumber => "nan".toList
  | .finite mantissa exponent =>
    let (n, d) := Magnitude.fraction mantissa exponent
    let places := precision.getD 6
    match conversion with
    | 'a' => hexadecimal alternative precision mantissa exponent
    | 'e' => scientific alternative places n d
    | 'f' => fixed alternative places n d
    | _ => general alternative places n d

end Real

end Scriptlet.Shell
