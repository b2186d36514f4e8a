import Scriptlet.Pattern
import Scriptlet.Pattern.Plan

/-!
# The room that patterns take

A pattern is matched by an automaton over octets, and one that would take too much room is refused.
A repetition is written out, so that its pattern takes its room over and over.

The automaton is built twice, to be run from either end. Backwards there are no states for groups,
and sequences and texts are turned round.

Which patterns are refused for this reason matters to the executable only.
-/

namespace Scriptlet.Pattern

open Unicode (CodeSet)

/-! ## What settles the plan -/

mutual

/-- The least length of what a pattern matches. A pattern that needs a character of an empty set
has none. -/
def leastLength? : Pattern → Option Nat
  | empty => some 0
  | literal text => some text.length
  | set s => if s.isEmpty then none else some 1
  | assertion _ => some 0
  | sequence parts => leastTogether? parts
  | choice branches => leastOfAny? branches
  | repetition p least _ => p.leastLength?.map (· * least)
  | group p => p.leastLength?

def leastTogether? : List Pattern → Option Nat
  | [] => some 0
  | p :: ps => do
    let a ← p.leastLength?
    let b ← leastTogether? ps
    some (a + b)

/-- The least length of what any of several patterns matches, if each of them has one. -/
def leastOfAny? : List Pattern → Option Nat
  | [] => none
  | [p] => p.leastLength?
  | p :: ps => do
    let a ← p.leastLength?
    let b ← leastOfAny? ps
    some (min a b)

end

mutual

/-- Whether the first assertions of a pattern bind it to the start of the text or, backwards, the
last ones to its end. -/
def isBound (backward : Bool) : Pattern → Bool
  | assertion a => a = if backward then .textEnd else .textStart
  | sequence parts => if backward then isLastBound parts else isFirstBound parts
  | choice branches => areBound backward branches
  | repetition p least _ => 0 < least && p.isBound backward
  | group p => p.isBound backward
  | _ => false

/-- Whether the first of several patterns bind all to the start of the text. -/
def isFirstBound : List Pattern → Bool
  | [] => false
  | p :: ps => p.isBound false || (p.isZeroWidth && isFirstBound ps)

/-- Whether the last of several patterns bind all to the end of the text. -/
def isLastBound : List Pattern → Bool
  | [] => false
  | p :: ps => isLastBound ps || (areZeroWidth ps && p.isBound true)

def areBound (backward : Bool) : List Pattern → Bool
  | [] => true
  | p :: ps => p.isBound backward && areBound backward ps

end

/-! ## Texts -/

def octets (text : List Char) : List Nat :=
  text.flatMap fun c => (String.utf8EncodeChar c).map UInt8.toNat

def text? : Pattern → Option (List Char)
  | literal text => some text
  | _ => none

/-- The texts behind every first octet, in the order in which they come. -/
def byFirst (texts : List (List Nat)) : List (Nat × List (List Nat)) :=
  texts.foldr (fun text groups =>
    match text with
    | [] => groups
    | c :: rest =>
      match groups.partition fun g => g.1 = c with
      | ([], groups) => (c, [rest]) :: groups
      | (same, groups) => (c, rest :: same.flatMap Prod.snd) :: groups) []

/-- How often texts end where they begin. As long as none has gone on, that counts once. -/
def ends (texts : List (List Nat)) : Nat :=
  (if texts.head?.any List.isEmpty then 1 else 0) +
    ((texts.dropWhile List.isEmpty).filter List.isEmpty).length

/-- The size of a choice between texts of less than so many octets. They share what they have in
common at the start, unless a text that ends there comes between them. -/
def choiceSize : Nat → List (List Nat) → Size
  | 0, _ => {}
  | n + 1, texts =>
    let runs := (texts.splitBy fun a b => a.isEmpty = b.isEmpty).filter fun run =>
      !run.head?.any List.isEmpty
    runs.foldl (fun size run =>
      let groups := byFirst run
      let own : Size := ⟨1, if groups.length = 1 then 0 else rangeRoom * groups.length⟩
      groups.foldl (fun size g =>
        if g.2.all List.isEmpty then size else size.add (choiceSize n g.2)) (size.add own))
      (Size.fork (runs.length + ends texts))

/-- The size of a choice between texts, with the state in which they end. -/
def textsSize (texts : List (List Nat)) : Size :=
  Size.add ⟨1, 0⟩ (choiceSize ((texts.map List.length).foldl max 0 + 1) texts)

/-! ## Plans of patterns -/

def statePlan : Plan :=
  .fixed ⟨1, 0⟩

/-- A state that leads on to one of several others at once. -/
def forkPlan (ways : Nat) : Plan :=
  .fixed (Size.fork ways)

/-- The plan of a set. One of ASCII characters takes a single state, and one to go on from. -/
def setPlan (backward : Bool) (s : CodeSet) : Plan :=
  if s.isAscii then .fixed ⟨2, rangeRoom * s.ranges.length⟩
  else if backward then .backward (rowsOfSet s)
  else .forward (rowsOfSet s)

/-- The plan of a choice. The state that leads on to the branches is made behind the second. -/
def choicePlan (branches : List Plan) : Plan :=
  .sequence (branches.take 2 ++ [forkPlan branches.length, statePlan] ++ branches.drop 2)

/-- The plan of a repetition, given whether what is repeated can match where nothing is. -/
def repetitionPlan (p : Plan) (canBeEmpty : Bool) (least : Nat) (most : Option Nat) : Plan :=
  match least, most with
  | 0, some 1 => .sequence [forkPlan 2, p, statePlan]
  | 0, none =>
    if canBeEmpty then .sequence [p, forkPlan 2, forkPlan 2, statePlan]
    else .sequence [forkPlan 2, p]
  | least, none => .sequence [.times least p, forkPlan 2]
  | least, some most =>
    if least = most then .times least p
    else
      .sequence
        [if least = 0 then statePlan else .times least p, statePlan,
          .times (most - least) (.sequence [forkPlan 2, p])]

mutual

/-- The plan of a pattern. -/
def plan (backward : Bool) : Pattern → Plan
  | empty => statePlan
  | literal text => .fixed ⟨(octets text).length, 0⟩
  | set s => setPlan backward s
  | assertion _ => statePlan
  | sequence parts =>
    let plans := plans backward parts
    .sequence (if backward then plans.reverse else plans)
  | choice branches =>
    match branches.mapM text? with
    | some texts =>
      let texts := texts.map octets
      .fixed (textsSize (if backward then texts.map List.reverse else texts))
    | none => choicePlan (plans backward branches)
  | repetition p least most =>
    repetitionPlan (p.plan backward) (!p.leastLength?.any (0 < ·)) least most
  | group p =>
    if backward then p.plan backward else .sequence [statePlan, p.plan backward, statePlan]

def plans (backward : Bool) : List Pattern → List Plan
  | [] => []
  | p :: ps => p.plan backward :: plans backward ps

end

/-- The plan of the whole automaton for a pattern. States that look for the start of a match stand
in front, unless the pattern is bound, and one in which it ends stands behind. Forwards, the whole
is a group. -/
def wholePlan (backward : Bool) (p : Pattern) : Plan :=
  let search : Plan := if p.isBound backward then statePlan
    else .sequence [forkPlan 2, .fixed ⟨2, rangeRoom⟩]
  .sequence [search, (group p).plan backward, statePlan]

/-- Whether a pattern is a choice between so many texts that they are looked for without an
automaton. -/
def isLongChoice : Pattern → Bool
  | choice branches => 3000 ≤ branches.length && branches.all fun p => p.text?.isSome
  | _ => false

def fits (p : Pattern) : Bool :=
  p.isLongChoice || ((p.wholePlan false).fits && (p.wholePlan true).fits)

end Scriptlet.Pattern
