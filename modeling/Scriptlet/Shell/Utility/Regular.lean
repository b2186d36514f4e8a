import Scriptlet.Shell.Glob
import Scriptlet.Shell.Numeral

/-!
# Regular expressions

The expressions that utilities look for in texts of octets, in the basic and in the extended
notation. Of several matches the first is taken, and of those the longest; groups remember what they
match.
-/

namespace Scriptlet.Shell

/-- A regular expression. -/
inductive Regular where
  | empty
  | any
  | bracket (isComplement : Bool) (members : List Member)
  | start
  | stop
  /-- A place where a word starts, or ends, or either, or neither. -/
  | wordStart
  | wordEnd
  | wordEdge
  | noWordEdge
  /-- A group with its number. -/
  | group (number : Nat) (r : Regular)
  /-- What a group has matched. -/
  | back (number : Nat)
  | sequence (r s : Regular)
  | choice (r s : Regular)
  | repetition (r : Regular) (least : Nat) (most : Option Nat)

namespace Regular

/-! ## Notation -/

/-- How something is read off a text, given how many groups have been opened. -/
abbrev Parser := StateT (List Char × Nat) (Except String)

def char (c : Char) : Regular :=
  bracket false [.range c c]

def isWordChar (c : Char) : Bool :=
  c.isAlphanum || c = '_'

/-- The expression for a letter behind a backslash that stands for more than itself. -/
def escape? (c : Char) : Option Regular :=
  match c with
  | 'w' => some (bracket false [.named isWordChar])
  | 'W' => some (bracket true [.named isWordChar])
  | 's' => some (bracket false [.named isSpace])
  | 'S' => some (bracket true [.named isSpace])
  | '<' => some wordStart
  | '>' => some wordEnd
  | 'b' => some wordEdge
  | 'B' => some noWordEdge
  | '\x60' => some start
  | '\'' => some stop
  | 'n' => some (char '\n')
  | 't' => some (char '\t')
  | _ => none

/-- The bounds of a repetition in braces, and what is behind the closing one. -/
def bounds? (isExtended : Bool) (cs : List Char) : Option ((Nat × Option Nat) × List Char) :=
  let inside := cs.takeWhile fun c => c.isDigit || c = ','
  let rest? := match isExtended, cs.drop inside.length with
    | true, '\x7d' :: rest => some rest
    | false, '\\' :: '\x7d' :: rest => some rest
    | _, _ => none
  let number (ds : List Char) : Option Nat := Numeral.natural10? (String.ofList ds)
  rest?.bind fun rest =>
    match cutAt (· == ',') inside with
    | [a] => (number a).map fun n => ((n, some n), rest)
    | [a, b] =>
      let low := (number a).getD 0
      if b.isEmpty then some ((low, none), rest)
      else (number b).bind fun high => if low ≤ high then some ((low, some high), rest) else none
    | _ => none

/-- The bounds of the repetition that stands at the start, and what is behind it. -/
def repetition? (isExtended : Bool) (cs : List Char) : Option ((Nat × Option Nat) × List Char) :=
  match isExtended, cs with
  | _, '*' :: rest => some ((0, none), rest)
  | true, '+' :: rest | false, '\\' :: '+' :: rest => some ((1, none), rest)
  | true, '?' :: rest | false, '\\' :: '?' :: rest => some ((0, some 1), rest)
  | true, '\x7b' :: rest => bounds? true rest
  | false, '\\' :: '\x7b' :: rest => bounds? false rest
  | _, _ => none

/-- An expression with the repetitions behind it. The number bounds how many there are. -/
def repeated (isExtended : Bool) : Nat → Regular → List Char → Regular × List Char
  | 0, r, cs => (r, cs)
  | n + 1, r, cs =>
    match repetition? isExtended cs with
    | some ((least, most), rest) => repeated isExtended n (repetition r least most) rest
    | none => (r, cs)

/-- Whether a group or a choice is closed at the start, or a branch of a choice ends there. -/
def endsBranch (isExtended : Bool) (depth : Nat) : List Char → Bool
  | [] => true
  | '|' :: _ => isExtended
  | ')' :: _ => isExtended && depth > 0
  | '\\' :: '|' :: _ => !isExtended
  | '\\' :: ')' :: _ => !isExtended
  | _ => false

def bracketMarks (cs : List Char) : List Mark :=
  cs.map fun c => (c, c = '\\')

mutual

/-- The branches of a choice. The first number bounds how many steps there are, the second tells how
many groups are open. -/
def readChoice (isExtended : Bool) (depth : Nat) : Nat → Parser Regular
  | 0 => throw "Regular expression too big"
  | n + 1 => do
    let first ← readBranch isExtended depth true n
    match isExtended, (← get).1 with
    | true, '|' :: rest | false, '\\' :: '|' :: rest =>
      modify fun s => (rest, s.2)
      return choice first (← readChoice isExtended depth n)
    | _, _ => return first
termination_by structural n => n

/-- The parts of a branch. -/
def readBranch (isExtended : Bool) (depth : Nat) (isFirst : Bool) : Nat → Parser Regular
  | 0 => throw "Regular expression too big"
  | n + 1 => do
    let cs := (← get).1
    if endsBranch isExtended depth cs then return empty
    else
      let r ← readPart isExtended depth isFirst n
      let isAnchor := r matches .start
      if isAnchor && !isExtended then
        return sequence r (← readBranch isExtended depth true n)
      else
        let (cs, groups) ← get
        let (r, rest) := repeated isExtended cs.length r cs
        set (rest, groups)
        return sequence r (← readBranch isExtended depth false n)
termination_by structural n => n

/-- A part without repetitions. -/
def readPart (isExtended : Bool) (depth : Nat) (isFirst : Bool) : Nat → Parser Regular
  | 0 => throw "Regular expression too big"
  | n + 1 => do
    let (cs, groups) ← get
    let take (rest : List Char) (r : Regular) : Parser Regular := do
      modify fun s => (rest, s.2)
      return r
    let openGroup (rest : List Char) : Parser Regular := do
      modify fun s => (rest, s.2 + 1)
      let r ← readChoice isExtended (depth + 1) n
      match isExtended, (← get).1 with
      | true, ')' :: rest | false, '\\' :: ')' :: rest => take rest (group (groups + 1) r)
      | true, _ => throw "Unmatched ( or \\("
      | false, _ => throw "Unmatched ( or \\("
    match isExtended, cs with
    | _, [] => return empty
    | true, '(' :: rest => openGroup rest
    | false, '\\' :: '(' :: rest => openGroup rest
    | _, '.' :: rest => take rest any
    | _, '[' :: rest =>
      let (isComplement, inside) := match rest with
        | '^' :: inside => (true, inside)
        | inside => (false, inside)
      match readMembers true inside.length (bracketMarks inside) with
      | some (members, marks) => take (marks.map Prod.fst) (bracket isComplement members)
      | none => throw "Unmatched [, [^, [:, [., or [="
    | true, '^' :: rest => take rest start
    | true, '$' :: rest => take rest stop
    | false, '^' :: rest => take rest (if isFirst then start else char '^')
    | false, '$' :: rest =>
      take rest (if endsBranch false depth rest then stop else char '$')
    | _, ['\\'] => throw "Trailing backslash"
    | _, '\\' :: c :: rest =>
      if '1' ≤ c && c ≤ '9' then
        let k := c.toNat - 48
        if k ≤ groups then take rest (back k) else throw "Invalid back reference"
      else if c = ')' && !isExtended then throw "Unmatched ) or \\)"
      else take rest ((escape? c).getD (char c))
    | true, ')' :: _ => throw "Unmatched ) or \\)"
    | _, c :: rest => take rest (char c)
termination_by structural n => n

end

/-- The expression that a text is, and how many groups are in it. -/
def ofText (isExtended : Bool) (cs : List Char) : Except String (Regular × Nat) := do
  let (r, rest, groups) ← readChoice isExtended 0 (4 * cs.length + 4) |>.run (cs, 0)
  if rest.isEmpty then return (r, groups) else throw "Unmatched ) or \\)"

/-! ## Matching -/

/-- A place within a text, and what groups have matched. -/
structure Place where
  before : Option Char
  rest : List Char
  index : Nat
  groups : List (Nat × List Char) := []
deriving Repr

namespace Place

def advance (p : Place) (n : Nat) : Place :=
  { p with
    before := if n = 0 then p.before else p.rest[n - 1]?
    rest := p.rest.drop n
    index := p.index + n }

def distinct (ps : List Place) : List Place :=
  (ps.foldl (fun (seen : List Place) p =>
    if seen.any fun q => q.index = p.index then seen else p :: seen) []).reverse

/-- Whether a character of a word is in front, and whether one is behind. -/
def inWord (p : Place) : Bool × Bool :=
  (p.before.any isWordChar, p.rest.head?.any isWordChar)

end Place

/-- The places behind further repetitions, at most so many, the last ones first. -/
def manyTimes (once : Place → List Place) : Nat → List Place → List Place → List Place
  | 0, _, found => found
  | n + 1, now, found =>
    let next := (Place.distinct (now.flatMap once)).filter fun p =>
      !found.any fun q => q.index = p.index
    if next.isEmpty then found else manyTimes once n next (next ++ found)

def exactly (once : Place → List Place) : Nat → List Place → List Place
  | 0, now => now
  | n + 1, now => exactly once n (Place.distinct (now.flatMap once))

/-- Whether an expression is the same for letters of both cases, and the places behind its matches
at a place, those that are preferred first. -/
def places (ignoresCase : Bool) : Regular → Place → List Place
  | empty, p => [p]
  | any, p => if p.rest.isEmpty then [] else [p.advance 1]
  | bracket isComplement members, p =>
    match p.rest with
    | [] => []
    | c :: _ =>
      let holds (c : Char) : Bool := members.any (Member.holds c)
      let isIn := holds c || (ignoresCase && (holds c.toLower || holds c.toUpper))
      if isIn != isComplement then [p.advance 1] else []
  | start, p => if p.before.isNone then [p] else []
  | stop, p => if p.rest.isEmpty then [p] else []
  | wordStart, p => if !p.inWord.1 && p.inWord.2 then [p] else []
  | wordEnd, p => if p.inWord.1 && !p.inWord.2 then [p] else []
  | wordEdge, p => if p.inWord.1 != p.inWord.2 then [p] else []
  | noWordEdge, p => if p.inWord.1 = p.inWord.2 then [p] else []
  | group number r, p =>
    (places ignoresCase r p).map fun q =>
      { q with
        groups := (number, p.rest.take (q.index - p.index)) ::
          q.groups.filter fun g => g.1 != number }
  | back number, p =>
    match p.groups.lookup number with
    | none => []
    | some text =>
      let fold (c : Char) : Char := if ignoresCase then c.toLower else c
      if (p.rest.take text.length).map fold = text.map fold then [p.advance text.length] else []
  | sequence r s, p => Place.distinct ((places ignoresCase r p).flatMap (places ignoresCase s))
  | choice r s, p => Place.distinct (places ignoresCase r p ++ places ignoresCase s p)
  | repetition r least most, p =>
    let first := exactly (places ignoresCase r) least [p]
    let room := match most with
      | some n => n - least
      | none => p.rest.length
    let found := manyTimes (places ignoresCase r) room first first
    found.mergeSort fun a b => b.index ≤ a.index

/-- A match: the text in front of it, itself, what is behind it, and what groups have matched. -/
structure Match where
  before : List Char
  text : List Char
  rest : List Char
  groups : List (Nat × List Char)
deriving Repr

def matchAt? (ignoresCase : Bool) (r : Regular) (p : Place) : Option Place :=
  (places ignoresCase r p).foldl (fun best q =>
    match best with
    | some b => if b.index < q.index then some q else some b
    | none => some q) none

/-- The first match behind a place that is so many characters behind the one before. The list of
characters in between is in reverse. -/
def search (ignoresCase : Bool) (r : Regular) (passed : List Char) (before : Option Char)
    (cs : List Char) : Option Match :=
  match matchAt? ignoresCase r { before, rest := cs, index := 0 } with
  | some q =>
    some { before := passed.reverse, text := cs.take q.index, rest := q.rest, groups := q.groups }
  | none =>
    match cs with
    | [] => none
    | c :: rest => search ignoresCase r (c :: passed) (some c) rest

/-- All matches that do not overlap, each with the text between it and the one in front of it. An
empty one does not stand at the end of the one in front. The number bounds how many there are. -/
def searchAll (ignoresCase : Bool) (r : Regular) : Nat → Bool → Option Char → List Char →
    List Match
  | 0, _, _, _ => []
  | n + 1, isBehind, before, cs =>
    match search ignoresCase r [] before cs with
    | none => []
    | some m =>
      if !m.text.isEmpty then m :: searchAll ignoresCase r n true m.text.getLast? m.rest
      else
        let others := match m.rest with
          | [] => []
          | c :: rest =>
            (searchAll ignoresCase r n false (some c) rest).modifyHead fun next =>
              { next with before := c :: next.before }
        if isBehind && m.before.isEmpty then others else m :: others

def matchesIn (ignoresCase : Bool) (r : Regular) (cs : List Char) : List Match :=
  searchAll ignoresCase r (cs.length + 1) false none cs

end Regular

end Scriptlet.Shell
