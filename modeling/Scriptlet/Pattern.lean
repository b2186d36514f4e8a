import Scriptlet.Unicode.Trait

/-!
# Patterns

Regular expressions as trees. What a pattern matches does not depend on which of several ways is
tried first, so the tree does not tell greedy from reluctant repetition.

Patterns are built in a *reduced* form by `ofSet`, `sequenceOf`, `choiceOf` and `repeated`: a
sequence holds no sequences, no empty parts and no two texts side by side, a choice holds no
choices, a choice between characters is a set, and what matches no characters is not repeated.

Patterns serve the executable only. A run takes how patterns are read and what they match as a
parameter (`Environment.compile`), and what is proved of runs is proved for every such parameter.
-/

namespace Scriptlet

open Unicode (CodeSet)

namespace Pattern

/-- What can be asked about a place between two characters. Where words matter, they may be words of
ASCII characters only. -/
inductive Assertion where
  | textStart
  | textEnd
  /-- The text starts or a line feed precedes. -/
  | lineStart
  | lineEnd
  /-- The same where carriage returns, too, end lines, alone or before a line feed. -/
  | lineStartCrlf
  | lineEndCrlf
  | wordBoundary (ascii : Bool)
  | noWordBoundary (ascii : Bool)
  | wordStart (ascii : Bool)
  | wordEnd (ascii : Bool)
  /-- No character of a word precedes. -/
  | noWordBefore (ascii : Bool)
  /-- No character of a word follows. -/
  | noWordAfter (ascii : Bool)
deriving DecidableEq, Repr

/-- Whether there is a character, and one that belongs to words. -/
def inWord (ascii : Bool) (c : Option Char) : Bool :=
  c.any fun c => Unicode.wordCharacters.contains c && (!ascii || c.toNat < 0x80)

/-- Whether an assertion holds between two characters, of which there may be none at the ends. -/
def Assertion.holds (a : Assertion) (before after : Option Char) : Bool :=
  match a with
  | textStart => before.isNone
  | textEnd => after.isNone
  | lineStart => before.isNone || before = some '\n'
  | lineEnd => after.isNone || after = some '\n'
  | lineStartCrlf =>
    before.isNone || before = some '\n' || (before = some '\r' && !(after = some '\n'))
  | lineEndCrlf =>
    after.isNone || after = some '\r' || (after = some '\n' && !(before = some '\r'))
  | wordBoundary ascii => inWord ascii before != inWord ascii after
  | noWordBoundary ascii => inWord ascii before == inWord ascii after
  | wordStart ascii => !inWord ascii before && inWord ascii after
  | wordEnd ascii => inWord ascii before && !inWord ascii after
  | noWordBefore ascii => !inWord ascii before
  | noWordAfter ascii => !inWord ascii after

end Pattern

/-- A pattern. -/
inductive Pattern where
  /-- Matches where nothing is. -/
  | empty
  /-- Matches a text. -/
  | literal (text : List Char)
  /-- Matches one character. -/
  | set (s : CodeSet)
  /-- Matches where nothing is, at certain places. -/
  | assertion (a : Pattern.Assertion)
  | sequence (parts : List Pattern)
  | choice (branches : List Pattern)
  /-- Matches what the pattern matches several times over. -/
  | repetition (p : Pattern) (least : Nat) (most : Option Nat)
  /-- A group that is captured, which makes no difference to what is matched. -/
  | group (p : Pattern)
deriving Inhabited

namespace Pattern

mutual

/-- Whether two patterns are the same. -/
def same : Pattern → Pattern → Bool
  | empty, empty => true
  | literal a, literal b => a = b
  | set a, set b => a = b
  | assertion a, assertion b => a = b
  | sequence a, sequence b => allSame a b
  | choice a, choice b => allSame a b
  | repetition p least most, repetition q least' most' =>
    same p q && least = least' && most = most'
  | group p, group q => same p q
  | _, _ => false

def allSame : List Pattern → List Pattern → Bool
  | [], [] => true
  | p :: ps, q :: qs => same p q && allSame ps qs
  | _, _ => false

end

mutual

/-- Whether a pattern matches no characters. -/
def isZeroWidth : Pattern → Bool
  | empty => true
  | literal _ => false
  | set _ => false
  | assertion _ => true
  | sequence parts => areZeroWidth parts
  | choice branches => areZeroWidth branches
  | repetition p _ _ => p.isZeroWidth
  | group p => p.isZeroWidth

def areZeroWidth : List Pattern → Bool
  | [] => true
  | p :: ps => p.isZeroWidth && areZeroWidth ps

end

/-! ## Building patterns -/

def ofSet (s : CodeSet) : Pattern :=
  match s.single? with
  | some code => literal [Char.ofNat code]
  | none => set s

def parts : Pattern → List Pattern
  | empty => []
  | sequence parts => parts
  | p => [p]

/-- Puts a part in front of others. Texts side by side become one. -/
def consPart (p : Pattern) (rest : List Pattern) : List Pattern :=
  match p, rest with
  | literal a, literal b :: rest => literal (a ++ b) :: rest
  | p, rest => p :: rest

def sequenceOf (ps : List Pattern) : Pattern :=
  match (ps.flatMap parts).foldr consPart [] with
  | [] => empty
  | [p] => p
  | parts => sequence parts

def branches : Pattern → List Pattern
  | choice branches => branches
  | p => [p]

/-- The characters that a pattern matches, if it matches single characters only. -/
def characters? : Pattern → Option CodeSet
  | set s => some s
  | literal [c] => some (.single c)
  | _ => none

def commonStart : List Pattern → List Pattern → List Pattern
  | p :: ps, q :: qs => if same p q then p :: commonStart ps qs else []
  | _, _ => []

def sharedStart : List Pattern → List Pattern
  | [] => []
  | [sequence parts] => parts
  | sequence parts :: rest => commonStart parts (sharedStart rest)
  | _ => []

def dropParts (n : Nat) (p : Pattern) : Pattern :=
  sequenceOf (p.parts.drop n)

/-- Matches what any of several patterns matches. -/
def plainChoiceOf (ps : List Pattern) : Pattern :=
  match ps.flatMap branches with
  | [] => set .empty
  | [p] => p
  | all =>
    match all.mapM characters? with
    | some sets => ofSet (.unions sets)
    | none => choice all

/-- Matches what any of several patterns matches. What all have in common at the start stands in
front of the choice. -/
def choiceOf (ps : List Pattern) : Pattern :=
  match plainChoiceOf ps with
  | choice all =>
    match sharedStart all with
    | [] => choice all
    | start => sequenceOf (start ++ [plainChoiceOf (all.map (dropParts start.length))])
  | p => p

/-- Matches what a pattern matches, at least and at most so many times over. -/
def repeated (p : Pattern) (least : Nat) (most : Option Nat) : Pattern :=
  let (least, most) := if p.isZeroWidth then (min least 1, some (min (most.getD 1) 1))
    else (least, most)
  if least = 0 ∧ most = some 0 then empty
  else if least = 1 ∧ most = some 1 then p
  else repetition p least most

end Pattern

end Scriptlet
