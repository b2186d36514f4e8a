import Scriptlet.Pattern.Notation

/-!
# Matching

Whether a pattern matches somewhere in a text. The places of a text are those between its characters
and at its ends, counted from zero. A set of places is a number: its binary digit number `i` is one
if place `i` belongs to the set.

A pattern leads from a set of places to the set of those at which a match that begins at one of them
can end. Characters lead one place further and assertions nowhere else, where they hold; for a given
text, both are known as sets of places.

`Pattern.compile` is what the executable takes for `Environment.compile`.
-/

namespace Scriptlet.Pattern

def ofDigits : List Bool → Nat
  | [] => 0
  | b :: bs => b.toNat + 2 * ofDigits bs

def surroundings (before : Option Char) : List Char → List (Option Char × Option Char)
  | [] => [(before, none)]
  | c :: rest => (before, some c) :: surroundings (some c) rest

/-- A pattern as far as one text is concerned. -/
inductive Walk where
  /-- Leads nowhere else, at these places. -/
  | stay (places : Nat)
  /-- Leads one place further, from these places. -/
  | advance (places : Nat)
  | sequence (parts : List Walk)
  | choice (branches : List Walk)
  | repetition (w : Walk) (least : Nat) (most : Option Nat)

mutual

/-- The pattern on a text. -/
def onText (text : List Char) : Pattern → Walk
  | empty => .sequence []
  | literal text' => .sequence (text'.map fun c => .advance (ofDigits (text.map (· == c))))
  | set s => .advance (ofDigits (text.map s.contains))
  | assertion a => .stay (ofDigits ((surroundings none text).map fun s => a.holds s.1 s.2))
  | sequence parts => .sequence (allOnText text parts)
  | choice branches => .choice (allOnText text branches)
  | repetition p least most => .repetition (p.onText text) least most
  | group p => p.onText text

def allOnText (text : List Char) : List Pattern → List Walk
  | [] => []
  | p :: ps => p.onText text :: allOnText text ps

end

/-- Applies `f` so many times. Once nothing changes, nothing will. -/
def times (f : Nat → Nat) : Nat → Nat → Nat
  | 0, places => places
  | n + 1, places =>
    let next := f places
    if next = places then places else times f n next

/-- The places to which `f` leads when it is applied at most so many times. -/
def spread (f : Nat → Nat) : Nat → Nat → Nat
  | 0, places => places
  | n + 1, places =>
    let next := places ||| f places
    if next = places then places else spread f n next

mutual

/-- The places to which a pattern leads, in a text of this length. -/
def Walk.reach (length : Nat) : Walk → Nat → Nat
  | .stay places, start => start &&& places
  | .advance places, start => (start &&& places) <<< 1
  | .sequence parts, start => reachThrough length parts start
  | .choice branches, start => reachAny length branches start
  | .repetition w least none, start =>
    spread (w.reach length) (length + 1) (times (w.reach length) least start)
  | .repetition w least (some most), start =>
    spread (w.reach length) (most - least) (times (w.reach length) least start)

def reachThrough (length : Nat) : List Walk → Nat → Nat
  | [], start => start
  | w :: ws, start => reachThrough length ws (w.reach length start)

def reachAny (length : Nat) : List Walk → Nat → Nat
  | [], _ => 0
  | w :: ws, start => w.reach length start ||| reachAny length ws start

end

def matchesIn (p : Pattern) (text : String) : Bool :=
  let text := text.toList
  let everywhere := Nat.pow 2 (text.length + 1) - 1
  (p.onText text).reach text.length everywhere != 0

/-- The texts in which a pattern matches somewhere, if a text spells a pattern. Why a text spells
none is not told. -/
def compile (text : String) : Except String (String → Bool) :=
  match read? text with
  | some p => .ok p.matchesIn
  | none => .error ""

end Scriptlet.Pattern
