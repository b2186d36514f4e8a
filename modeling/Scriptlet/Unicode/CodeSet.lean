/-!
# Sets of code points

A set of code points is kept as the code points at which membership changes, in ascending order: the
first of them is the least member, the next is the least code point behind it that is no member, and
so on. So the members are the code points that have an odd number of changes at or below them, and
an operation on sets is one walk along the changes of both.

Only code points of characters are ever members, that is, surrogates never are.
-/

namespace Scriptlet.Unicode

/-- A set of code points. -/
structure CodeSet where
  /-- The code points at which membership changes. -/
  changes : Array Nat := #[]
deriving DecidableEq, Repr, Inhabited

namespace CodeSet

/-- The set without members. -/
def empty : CodeSet := {}

/-- How many of the changes with indices from `low` to below `high` are at or below `code`, and
`low`; found by halving. -/
def rank (changes : Array Nat) (code low high : Nat) : Nat :=
  if low < high then
    let middle := (low + high) / 2
    if changes.getD middle 0 ≤ code then rank changes code (middle + 1) high
    else rank changes code low middle
  else low
termination_by high - low

def containsCode (s : CodeSet) (code : Nat) : Bool :=
  rank s.changes code 0 s.changes.size % 2 = 1

def contains (s : CodeSet) (c : Char) : Bool :=
  s.containsCode c.toNat

/-- A change at `at`, unless membership is the same behind it. -/
def change (before after : Bool) (place : Nat) (rest : List Nat) : List Nat :=
  if before = after then rest else place :: rest

/-- The changes of a set whose members are told from the membership in two sets, given the changes
of both and whether the code points in front of all these are members. -/
def mergeChanges (member : Bool → Bool → Bool) (inA inB : Bool) (as bs : List Nat) : List Nat :=
  match as, bs with
  | [], [] => []
  | a :: as, [] =>
    change (member inA inB) (member (!inA) inB) a (mergeChanges member (!inA) inB as [])
  | [], b :: bs =>
    change (member inA inB) (member inA (!inB)) b (mergeChanges member inA (!inB) [] bs)
  | a :: as, b :: bs =>
    if a < b then
      change (member inA inB) (member (!inA) inB) a (mergeChanges member (!inA) inB as (b :: bs))
    else if b < a then
      change (member inA inB) (member inA (!inB)) b (mergeChanges member inA (!inB) (a :: as) bs)
    else
      change (member inA inB) (member (!inA) (!inB)) a (mergeChanges member (!inA) (!inB) as bs)
termination_by as.length + bs.length

/-- The set whose members are told from the membership in two sets. What belongs to neither must not
be a member. -/
def combine (member : Bool → Bool → Bool) (a b : CodeSet) : CodeSet :=
  ⟨(mergeChanges member false false a.changes.toList b.changes.toList).toArray⟩

def union (a b : CodeSet) : CodeSet :=
  combine or a b

def inter (a b : CodeSet) : CodeSet :=
  combine and a b

def diff (a b : CodeSet) : CodeSet :=
  combine (fun x y => x && !y) a b

def symmDiff (a b : CodeSet) : CodeSet :=
  combine xor a b

/-- The code points of all characters. -/
def scalars : CodeSet := ⟨#[0, 0xD800, 0xE000, 0x110000]⟩

def compl (a : CodeSet) : CodeSet :=
  scalars.diff a

def range (low high : Nat) : CodeSet :=
  if low ≤ high then scalars.inter ⟨#[low, high + 1]⟩ else empty

def single (c : Char) : CodeSet :=
  ⟨#[c.toNat, c.toNat + 1]⟩

def unions (sets : List CodeSet) : CodeSet :=
  sets.foldl union empty

def ofRanges (ranges : List (Nat × Nat)) : CodeSet :=
  unions (ranges.map fun r => range r.1 r.2)

/-- The changes that make members of some code points, which ascend. -/
def pointChanges : List Nat → List Nat
  | [] => []
  | [a] => [a, a + 1]
  | a :: b :: rest =>
    match pointChanges (b :: rest) with
    | c :: more => if c = a + 1 then a :: more else a :: (a + 1) :: c :: more
    | [] => [a, a + 1]

/-- The set of some code points, of which there may be several of a kind. -/
def ofPoints (points : List Nat) : CodeSet :=
  let sorted := (points.mergeSort fun a b => decide (a ≤ b)).eraseReps
  ⟨(pointChanges sorted).toArray⟩

def pairs : List Nat → List (Nat × Nat)
  | low :: stop :: rest => (low, stop - 1) :: pairs rest
  | _ => []

/-- The ranges of members, each with its first and last code point. -/
def ranges (s : CodeSet) : List (Nat × Nat) :=
  pairs s.changes.toList

def isEmpty (s : CodeSet) : Bool :=
  s.changes.isEmpty

/-- The only member, if there is one and no other. -/
def single? (s : CodeSet) : Option Nat :=
  match s.changes.toList with
  | [a, b] => if b = a + 1 then some a else none
  | _ => none

def isAscii (s : CodeSet) : Bool :=
  s.changes.all fun c => c ≤ 0x80

/-! ## Reading sets -/

/-- The decimal numbers that a line spells, with blanks between them. -/
def numbers (line : String) : List Nat :=
  (line.splitOn " ").map fun digits =>
    digits.toList.foldl (fun n d => n * 10 + (d.toNat - 48)) 0

/-- The changes that are at these distances from one another. -/
def placesFrom (place : Nat) : List Nat → List Nat
  | [] => []
  | n :: rest => (place + n) :: placesFrom (place + n) rest

/-- The set that some lines spell: how many code points are no members, how many behind them are,
and so on in turn. -/
def ofLines (lines : List String) : CodeSet :=
  ⟨(placesFrom 0 (lines.flatMap numbers)).toArray⟩

end CodeSet

/-! ## Runs -/

/-- A run of code points that have the same value. -/
structure Run where
  value : String
  first : Nat
  count : Nat
deriving Repr, Inhabited

/-- The runs that some words spell, from the code point `first` on. A word is a value, followed by
the length of the run unless it is one. -/
def readRuns (first : Nat) : List String → List Run
  | [] => []
  | word :: rest =>
    let value := word.toList.takeWhile fun c => !c.isDigit
    let digits := word.toList.dropWhile fun c => !c.isDigit
    let count := if digits.isEmpty then 1 else digits.foldl (fun n d => n * 10 + (d.toNat - 48)) 0
    ⟨String.ofList value, first, count⟩ :: readRuns (first + count) rest

/-- The runs that some lines spell, from code point zero on. -/
def runsOfLines (lines : List String) : List Run :=
  readRuns 0 (lines.flatMap fun line => line.splitOn " ")

/-- The changes of the set of the runs that satisfy a condition. -/
def changesOf (wanted : String → Bool) (inside : Bool) : List Run → List Nat
  | [] => []
  | r :: rest =>
    let here := wanted r.value
    let more := changesOf wanted here rest
    if here = inside then more else r.first :: more

/-- The characters in the runs whose values satisfy a condition. -/
def setOfRuns (runs : List Run) (wanted : String → Bool) : CodeSet :=
  CodeSet.scalars.inter ⟨(changesOf wanted false runs).toArray⟩

end Scriptlet.Unicode
