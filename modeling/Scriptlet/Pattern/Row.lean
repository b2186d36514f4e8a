import Scriptlet.Unicode.CodeSet

/-!
# Rows of octets

The octets that spell the characters of a set, as rows of ranges of octets. Each row stands for the
characters whose octets are in its ranges, one after the other; the rows of a set ascend, and no
two of them have a character in common.
-/

namespace Scriptlet.Pattern

open Unicode (CodeSet)

/-- A range of octets. -/
abbrev OctetRange := Nat × Nat

/-- Ranges of octets that follow one another. -/
abbrev Row := List OctetRange

/-- Rows of the characters from `low` to `high`, written with so many octets behind the first, or
the same for the octets behind, where these characters are counted from zero. `mark` is what is
added to the first octet. -/
def octetRows (mark : Nat) : Nat → Nat → Nat → List Row
  | 0, low, high => [[(mark + low, mark + high)]]
  | n + 1, low, high =>
    let span := Nat.pow 64 (n + 1)
    let (a, low) := (low / span, low % span)
    let (b, high) := (high / span, high % span)
    let behind (first : OctetRange) (rows : List Row) : List Row :=
      rows.map fun row => (mark + first.1, mark + first.2) :: row
    if a = b then behind (a, a) (octetRows 0x80 n low high)
    else
      let (start, a) := if low = 0 then ([], a)
        else (behind (a, a) (octetRows 0x80 n low (span - 1)), a + 1)
      let (stop, b) := if high = span - 1 then ([], b)
        else (behind (b, b) (octetRows 0x80 n 0 high), b - 1)
      let middle := if a ≤ b then behind (a, b) (octetRows 0x80 n 0 (span - 1)) else []
      start ++ middle ++ stop

/-- The rows of the characters from `low` to `high`, in ascending order. -/
def rowsOfRange (low high : Nat) : List Row :=
  let part (first last mark n : Nat) : List Row :=
    if max low first ≤ min high last then octetRows mark n (max low first) (min high last) else []
  part 0 0x7F 0 0 ++ part 0x80 0x7FF 0xC0 1 ++ part 0x800 0xFFFF 0xE0 2 ++
    part 0x10000 0x10FFFF 0xF0 3

def rowsOfSet (s : CodeSet) : List Row :=
  s.ranges.flatMap fun r => rowsOfRange r.1 r.2

/-- The first ranges of rows, each with what is behind it in the rows that start with it. -/
def grouped (rows : List Row) : List (OctetRange × List Row) :=
  rows.foldr (fun row groups =>
    match row, groups with
    | [], groups => groups
    | r :: rest, (r', rests) :: groups =>
      if r = r' then (r', rest :: rests) :: groups else (r, [rest]) :: (r', rests) :: groups
    | r :: rest, [] => [(r, [rest])]) []

end Scriptlet.Pattern
