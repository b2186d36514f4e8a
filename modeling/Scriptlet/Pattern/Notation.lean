import Scriptlet.Pattern.Property
import Scriptlet.Pattern.Room
import Scriptlet.Unicode.Addition
import Scriptlet.Unicode.Folding

/-!
# The notation of patterns

Reading patterns. A pattern is read from left to right with a stack of the groups that are open;
flags hold from where they are set to the end of the group. A set in brackets is read in the same
way, with a stack of the brackets that are open.

Each step takes at least one character, which is what makes the reading end. A step that took none
would make the reading fail.

How deep a pattern is nested is counted as it is written: groups, repetitions, choices, sequences of
several items and sets in brackets each lie around what is in them.

Like all about patterns, this serves the executable only.
-/

namespace Scriptlet.Unicode

def isBlank (c : Char) : Bool :=
  whiteSpace.contains c

end Scriptlet.Unicode

namespace Scriptlet.Pattern

open Unicode (CodeSet)

/-- The flags of a pattern. Whether repetition is greedy makes no difference here. -/
structure Flags where
  caseless : Bool := false
  multiLine : Bool := false
  dotAll : Bool := false
  crlf : Bool := false
  verbose : Bool := false
  unicode : Bool := true
deriving DecidableEq, Repr, Inhabited

/-- What is read from the start of a text, and the rest. -/
abbrev Reader (α : Type) := List Char → Option (α × List Char)

/-- Drops blanks, and comments up to the ends of their lines. -/
def dropBlanks (inComment : Bool) : List Char → List Char
  | [] => []
  | c :: rest =>
    if inComment then dropBlanks (c != '\n') rest
    else if c = '#' then dropBlanks true rest
    else if Unicode.isBlank c then dropBlanks false rest
    else c :: rest

theorem dropBlanks_length (inComment : Bool) (cs : List Char) :
    (dropBlanks inComment cs).length ≤ cs.length := by
  fun_induction dropBlanks inComment cs <;> simp <;> omega

def Flags.skip (flags : Flags) (cs : List Char) : List Char :=
  if flags.verbose then dropBlanks false cs else cs

theorem Flags.skip_length (flags : Flags) (cs : List Char) :
    (flags.skip cs).length ≤ cs.length := by
  unfold Flags.skip
  split
  · exact dropBlanks_length false cs
  · exact Nat.le_refl _

/-! ## Numbers -/

def hexValue? (c : Char) : Option Nat :=
  if c.isDigit then some (c.toNat - 48)
  else if 'a' ≤ c ∧ c ≤ 'f' then some (c.toNat - 87)
  else if 'A' ≤ c ∧ c ≤ 'F' then some (c.toNat - 55)
  else none

def ofHex? (digits : List Nat) : Option Char :=
  let code := digits.foldl (fun n d => n * 16 + d) 0
  if code.isValidChar then some (Char.ofNat code) else none

/-- So many hexadecimal digits. -/
def readHexDigits (flags : Flags) : Nat → Reader (List Nat)
  | 0, cs => some ([], cs)
  | n + 1, cs =>
    match flags.skip cs with
    | [] => none
    | c :: rest => do
      let d ← hexValue? c
      let (ds, rest) ← readHexDigits flags n rest
      some (d :: ds, rest)

/-- The characters up to a closing brace that count. Blanks and comments between them do not where
they are skipped. -/
def readBraced (flags : Flags) (cs : List Char) : Option (List Char × List Char) :=
  match _h : flags.skip cs with
  | [] => none
  | '\x7d' :: rest => some ([], rest)
  | c :: rest => (readBraced flags rest).map fun r => (c :: r.1, r.2)
termination_by cs.length
decreasing_by
  have shorter := flags.skip_length cs
  rw [_h, List.length_cons] at shorter
  omega

/-- A character by its code point, in braces or with so many digits. -/
def readCode (flags : Flags) (digits : Nat) (cs : List Char) : Option (Char × List Char) :=
  match flags.skip cs with
  | '\x7b' :: rest => do
    let (inner, rest) ← readBraced flags rest
    let ds ← inner.mapM hexValue?
    if ds.isEmpty then none
    else
      let c ← ofHex? ds
      some (c, rest)
  | cs => do
    let (ds, rest) ← readHexDigits flags digits cs
    let c ← ofHex? ds
    some (c, rest)

/-- The decimal digits at the start, between which blanks are skipped where these do not count. -/
def readDigits (flags : Flags) (cs : List Char) : List Char × List Char :=
  match cs with
  | [] => ([], [])
  | c :: rest =>
    if c.isDigit then
      let r := readDigits flags (flags.skip rest)
      (c :: r.1, r.2)
    else ([], c :: rest)
termination_by cs.length
decreasing_by
  have := flags.skip_length rest
  simp
  omega

/-- A decimal number of 32 bits, with or without blanks around it. -/
def readDecimal (flags : Flags) (cs : List Char) : Option (Nat × List Char) :=
  let (digits, rest) := readDigits flags (cs.dropWhile Unicode.isBlank)
  let n := digits.foldl (fun n d => n * 10 + (d.toNat - 48)) 0
  if digits.isEmpty || n ≥ Nat.pow 2 32 then none
  else some (n, flags.skip (rest.dropWhile Unicode.isBlank))

/-- The bounds of a repetition, behind the opening brace. -/
def readBounds (flags : Flags) (cs : List Char) : Option ((Nat × Option Nat) × List Char) := do
  let (least, rest) ← readDecimal flags (flags.skip cs)
  match rest with
  | '\x7d' :: rest => some ((least, some least), rest)
  | ',' :: rest =>
    match flags.skip rest with
    | '\x7d' :: rest => some ((least, none), rest)
    | rest => do
      let (most, rest) ← readDecimal flags rest
      match rest with
      | '\x7d' :: rest => if least ≤ most then some ((least, some most), rest) else none
      | _ => none
  | _ => none

/-! ## Escapes -/

/-- What stands behind a backslash. -/
inductive Escape where
  | char (c : Char)
  /-- A character that is given by the two digits of an octet. -/
  | octet (c : Char)
  | set (s : CodeSet)
  | assertion (a : Assertion)

/-- A named class, by its letter in lower case. -/
def Flags.namedClass (flags : Flags) (letter : Char) : CodeSet :=
  match letter, flags.unicode with
  | 'd', true => Unicode.Category.set [.decimalNumber]
  | 's', true => Unicode.whiteSpace
  | _, true => Unicode.wordCharacters
  | 'd', false => .range 0x30 0x39
  | 's', false => .ofRanges [(0x9, 0xD), (0x20, 0x20)]
  | _, false => .ofRanges [(0x30, 0x39), (0x41, 0x5A), (0x5F, 0x5F), (0x61, 0x7A)]

/-- Closes a set under differences of case if the flags say so. -/
def Flags.fold (flags : Flags) (s : CodeSet) : CodeSet :=
  if !flags.caseless then s
  else if flags.unicode then s.caseless
  else s.caselessAscii

def negatedIf (negated : Bool) (s : CodeSet) : CodeSet :=
  if negated then s.compl else s

/-- Whether a set may be written under these flags. No set must hold parts of characters, which
without Unicode everything beyond ASCII is. -/
def Flags.admits (flags : Flags) (s : CodeSet) : Bool :=
  flags.unicode || s.isAscii

/-- The set of a property, behind the letter `p`. Differences of case are closed up before it is
negated, not after that. -/
def readProperty (flags : Flags) (negated : Bool) (cs : List Char) :
    Option (Escape × List Char) := do
  let ((s, others), rest) ← match flags.skip cs with
    | '\x7b' :: rest => do
      let (inner, rest) ← readBraced flags rest
      let read ← bracedSet? inner
      some (read, rest)
    | c :: rest => do
      let s ← propertySet? (String.singleton c)
      some ((s, false), rest)
    | [] => none
  if flags.unicode then some (.set (negatedIf (negated != others) (flags.fold s)), rest) else none

/-- The name in braces of a kind of word boundary. Braces that do not start with a letter or hyphen
are bounds of a repetition instead. -/
def readBoundary (flags : Flags) (cs : List Char) : Option (Assertion × List Char) :=
  let isName (c : Char) : Bool := c.isAlpha || c = '-'
  let ascii := !flags.unicode
  match cs with
  | '\x7b' :: inner =>
    match flags.skip inner with
    | [] => none
    | c :: _ =>
      if isName c then do
        let (name, rest) ← readBraced flags inner
        match String.ofList name with
        | "start" => some (.wordStart ascii, rest)
        | "end" => some (.wordEnd ascii, rest)
        | "start-half" => some (.noWordBefore ascii, rest)
        | "end-half" => some (.noWordAfter ascii, rest)
        | _ => none
      else some (.wordBoundary ascii, cs)
  | cs => some (.wordBoundary ascii, cs)

/-- What stands behind a backslash. Letters and digits that mean nothing are refused; what is
neither stands for itself. -/
def readEscape (flags : Flags) (cs : List Char) : Option (Escape × List Char) :=
  let ascii := !flags.unicode
  match cs with
  | [] => none
  | 'x' :: rest =>
    (readCode flags 2 rest).map fun r =>
      ((if (flags.skip rest).head? = some '\x7b' then .char r.1 else .octet r.1), r.2)
  | 'u' :: rest => (readCode flags 4 rest).map fun r => (.char r.1, r.2)
  | 'U' :: rest => (readCode flags 8 rest).map fun r => (.char r.1, r.2)
  | 'p' :: rest => readProperty flags false rest
  | 'P' :: rest => readProperty flags true rest
  | 'b' :: rest => (readBoundary flags rest).map fun r => (.assertion r.1, r.2)
  | c :: rest =>
    let standing (e : Escape) : Option (Escape × List Char) := some (e, rest)
    match c with
    | 'd' | 's' | 'w' => standing (.set (flags.namedClass c))
    | 'D' | 'S' | 'W' => standing (.set (flags.namedClass c.toLower).compl)
    | 'a' => standing (.char '\x07')
    | 'f' => standing (.char '\x0c')
    | 't' => standing (.char '\t')
    | 'n' => standing (.char '\n')
    | 'r' => standing (.char '\r')
    | 'v' => standing (.char '\x0b')
    | 'A' => standing (.assertion .textStart)
    | 'z' => standing (.assertion .textEnd)
    | 'B' => standing (.assertion (.noWordBoundary ascii))
    | '<' => standing (.assertion (.wordStart ascii))
    | '>' => standing (.assertion (.wordEnd ascii))
    | c => if c.toNat < 0x80 && !c.isAlphanum then standing (.char c) else none

/-! ## Sets in brackets -/

/-- The operators between sets in brackets, which all bind alike. -/
inductive SetOperator where
  | inter
  | diff
  | symmDiff

def SetOperator.apply : SetOperator → CodeSet → CodeSet → CodeSet
  | inter => .inter
  | diff => .diff
  | symmDiff => .symmDiff

/-- A set as it is written, with how deep it is nested. -/
structure NestedSet where
  set : CodeSet
  depth : Nat := 0
deriving Inhabited

/-- An open bracket. -/
structure OpenSet where
  negated : Bool := false
  /-- What stands before the last operator, and that operator. -/
  left : Option (NestedSet × SetOperator) := none
  /-- The items behind it. -/
  items : List NestedSet := []
deriving Inhabited

namespace OpenSet

def add (o : OpenSet) (s : NestedSet) : OpenSet :=
  { o with items := s :: o.items }

def together (o : OpenSet) : NestedSet :=
  match o.items with
  | [] => ⟨.empty, 0⟩
  | [item] => item
  | items => ⟨.unions (items.map NestedSet.set), (items.map NestedSet.depth).foldl max 0 + 1⟩

def value (o : OpenSet) (flags : Flags) : NestedSet :=
  let right := o.together
  match o.left with
  | none => right
  | some (left, operator) =>
    ⟨operator.apply (flags.fold left.set) (flags.fold right.set), max left.depth right.depth + 1⟩

def operate (o : OpenSet) (flags : Flags) (operator : SetOperator) : OpenSet :=
  { o with left := some (o.value flags, operator), items := [] }

def close? (o : OpenSet) (flags : Flags) : Option NestedSet :=
  let value := o.value flags
  let set := negatedIf o.negated (flags.fold value.set)
  if flags.admits set then some ⟨set, value.depth + 1⟩ else none

end OpenSet

/-- Takes hyphens that stand for themselves at the start of a bracket. -/
def leadingHyphens (flags : Flags) (o : OpenSet) (cs : List Char) : OpenSet × List Char :=
  match _h : flags.skip cs with
  | '-' :: rest => leadingHyphens flags (o.add ⟨.single '-', 0⟩) rest
  | cs => (o, cs)
termination_by cs.length
decreasing_by
  have shorter := flags.skip_length cs
  rw [_h, List.length_cons] at shorter
  omega

/-- The start of a set, behind the bracket. A closing bracket in the first place stands for
itself. -/
def openSet (flags : Flags) (cs : List Char) : OpenSet × List Char :=
  let (o, cs) := match flags.skip cs with
    | '^' :: rest => ({ negated := true : OpenSet }, flags.skip rest)
    | cs => ({}, cs)
  match leadingHyphens flags o cs with
  | (o, ']' :: rest) =>
    if o.items.isEmpty then (o.add ⟨.single ']', 0⟩, rest) else (o, ']' :: rest)
  | (o, cs) => (o, cs)

/-- A class with a name, behind the bracket that opens it. -/
def readNamedSet (flags : Flags) (cs : List Char) : Option (CodeSet × List Char) := do
  let (negated, cs) ← match cs with
    | ':' :: '^' :: rest => some (true, rest)
    | ':' :: rest => some (false, rest)
    | _ => none
  let s ← asciiSet? (String.ofList (cs.takeWhile fun c => c != ':'))
  match cs.dropWhile fun c => c != ':' with
  | ':' :: ']' :: rest => some (negatedIf negated (flags.fold s), rest)
  | _ => none

/-- The character for which an escape stands within brackets, where without Unicode there are none
but those of ASCII. -/
def Escape.char? (flags : Flags) : Escape → Option Char
  | .char c | .octet c => if flags.unicode || c.toNat < 0x80 then some c else none
  | _ => none

def Escape.set? (flags : Flags) (e : Escape) : Option CodeSet :=
  match e with
  | .set s => some s
  | .assertion _ => none
  | e => (e.char? flags).map .single

def readItem (flags : Flags) : List Char → Option (Escape × List Char)
  | [] => none
  | '\\' :: rest => readEscape flags rest
  | c :: rest => some (.char c, rest)

/-- What comes next when one only looks ahead: where blanks do not count, they are passed over, and
so is the sign that begins a comment, but not what stands in the comment. -/
def Flags.peek? (flags : Flags) (cs : List Char) : Option Char :=
  if !flags.verbose then cs.head?
  else
    match cs.dropWhile Unicode.isBlank with
    | '#' :: rest => (rest.dropWhile Unicode.isBlank).head?
    | rest => rest.head?

/-- An item or a range. A hyphen before a closing bracket or another hyphen makes no range. -/
def readRange (flags : Flags) (cs : List Char) : Option (CodeSet × List Char) := do
  let (a, rest) ← readItem flags cs
  let rest := flags.skip rest
  let alone : Option (CodeSet × List Char) := (a.set? flags).map fun s => (s, rest)
  match rest with
  | '-' :: after =>
    if flags.peek? after = some ']' || flags.peek? after = some '-' then alone
    else
      let (b, rest) ← readItem flags (flags.skip after)
      let low ← a.char? flags
      let high ← b.char? flags
      if low ≤ high then some (.range low.toNat high.toNat, rest) else none
  | _ => alone

/-- A step in reading a set. -/
inductive SetStep where
  | item (s : CodeSet)
  | opened (o : OpenSet)
  | operator (operator : SetOperator)
  | closed

/-- The next step in reading a set. -/
def readSetStep (flags : Flags) (cs : List Char) : Option (SetStep × List Char) :=
  match flags.skip cs with
  | [] => none
  | '[' :: rest =>
    match readNamedSet flags rest with
    | some (s, rest) => some (.item s, rest)
    | none =>
      let (o, rest) := openSet flags rest
      some (.opened o, rest)
  | ']' :: rest => some (.closed, rest)
  | '&' :: '&' :: rest => some (.operator .inter, rest)
  | '-' :: '-' :: rest => some (.operator .diff, rest)
  | '~' :: '~' :: rest => some (.operator .symmDiff, rest)
  | cs => (readRange flags cs).map fun r => (.item r.1, r.2)

/-- The rest of a set with these brackets open, up to where the outermost is closed. Every item and
every bracket must be one that the flags admit, also where the whole would be. -/
def readSet (flags : Flags) (current : OpenSet) (outer : List OpenSet) (cs : List Char) :
    Option (NestedSet × List Char) :=
  match readSetStep flags cs with
  | none => none
  | some (step, rest) =>
    if _h : rest.length < cs.length then
      match step, outer with
      | .item s, outer =>
        if flags.admits s then readSet flags (current.add ⟨s, 0⟩) outer rest else none
      | .opened o, outer => readSet flags o (current :: outer) rest
      | .operator operator, outer => readSet flags (current.operate flags operator) outer rest
      | .closed, outer =>
        match current.close? flags, outer with
        | none, _ => none
        | some s, [] => some (s, rest)
        | some s, o :: outer => readSet flags (o.add s) outer rest
    else none
termination_by cs.length

/-! ## Flags and groups -/

/-- The flags that a letter sets, if it is the letter of one. -/
def Flags.set? (flags : Flags) (on : Bool) : Char → Option Flags
  | 'i' => some { flags with caseless := on }
  | 'm' => some { flags with multiLine := on }
  | 's' => some { flags with dotAll := on }
  | 'R' => some { flags with crlf := on }
  | 'x' => some { flags with verbose := on }
  | 'u' => some { flags with unicode := on }
  | 'U' => some flags
  | _ => none

/-- The flags up to a colon or closing parenthesis, given the letters before. None may come twice,
and a hyphen must be followed by a letter. -/
def readFlags (flags : Flags) (on : Bool) (seen : List Char) : Reader Flags
  | [] => none
  | c :: rest =>
    if c = ':' || c = ')' then
      if seen.head? = some '-' then none else some (flags, c :: rest)
    else if seen.contains c then none
    else if c = '-' then readFlags flags false (c :: seen) rest
    else do
      let flags ← flags.set? on c
      readFlags flags on (c :: seen) rest

def nameStarts : CodeSet :=
  .unions [Unicode.alphabetic, Unicode.addedAlphabetic, .single '_']

/-- The characters that may stand in names of groups behind the first. -/
def nameCharacters : CodeSet :=
  .unions [nameStarts, Unicode.Category.set Unicode.Category.numbers, Unicode.addedDigits,
    .ofPoints ['.'.toNat, '['.toNat, ']'.toNat]]

/-- The name of a group, up to the closing angle bracket. -/
def readName (cs : List Char) : Option (String × List Char) :=
  let name := cs.takeWhile fun c => c != '>'
  match name, cs.dropWhile fun c => c != '>' with
  | c :: more, _ :: rest =>
    if nameStarts.contains c && more.all nameCharacters.contains then
      some (String.ofList name, rest)
    else none
  | _, _ => none

/-- What a group is for. -/
inductive GroupKind where
  | captured (name : Option String)
  | plain

/-- An item of a pattern as it is written. -/
structure Item where
  pattern : Pattern
  /-- How deep it is nested. -/
  depth : Nat := 0
  /-- Whether it can be repeated, which settings of flags cannot. -/
  repeatable : Bool := true
deriving Inhabited

/-- A step in reading a pattern. -/
inductive Step where
  | item (i : Item)
  | repeated (least : Nat) (most : Option Nat)
  | opened (kind : GroupKind) (flags : Flags)
  | closed
  | branch
  | flags (flags : Flags)

/-- The beginning of a group, behind the parenthesis. -/
def readGroup (flags : Flags) (cs : List Char) : Option (Step × List Char) :=
  let named (rest : List Char) : Option (Step × List Char) :=
    (readName rest).map fun r => (.opened (.captured (some r.1)) flags, r.2)
  match flags.skip cs with
  | '?' :: 'P' :: '<' :: rest => named rest
  | '?' :: '<' :: rest => named rest
  | '?' :: rest =>
    match readFlags flags true [] rest with
    | some (flags, ':' :: rest) => some (.opened .plain flags, rest)
    | some (flags, _ :: after) =>
      if rest.head? = some ')' then none else some (.flags flags, after)
    | _ => none
  | cs => some (.opened (.captured none) flags, cs)

def Flags.literal (flags : Flags) (c : Char) : Pattern :=
  if !flags.caseless then .literal [c]
  else if flags.unicode then ofSet (Unicode.caseVariants c)
  else ofSet (CodeSet.single c).caselessAscii

def Flags.pattern? (flags : Flags) (s : CodeSet) : Option Pattern :=
  if flags.admits s then some (ofSet s) else none

def Flags.dot (flags : Flags) : CodeSet :=
  .compl (.ofPoints (
    if flags.dotAll then []
    else if flags.crlf then ['\n'.toNat, '\r'.toNat]
    else ['\n'.toNat]))

def Flags.start (flags : Flags) : Assertion :=
  if !flags.multiLine then .textStart else if flags.crlf then .lineStartCrlf else .lineStart

def Flags.stop (flags : Flags) : Assertion :=
  if !flags.multiLine then .textEnd else if flags.crlf then .lineEndCrlf else .lineEnd

def Escape.pattern? (flags : Flags) : Escape → Option Pattern
  | .char c => some (flags.literal c)
  | .octet c => if flags.unicode || c.toNat < 0x80 then some (flags.literal c) else none
  | .set s => flags.pattern? s
  | .assertion a => some (.assertion a)

/-- Drops the question mark that makes a repetition reluctant. -/
def dropReluctant : List Char → List Char
  | '?' :: rest => rest
  | cs => cs

/-- The next step in reading a pattern. -/
def readStep (flags : Flags) (cs : List Char) : Option (Step × List Char) :=
  let item (p : Option Pattern) (rest : List Char) : Option (Step × List Char) :=
    p.map fun p => (.item { pattern := p }, rest)
  match cs with
  | [] => none
  | '(' :: rest => readGroup flags rest
  | ')' :: rest => some (.closed, rest)
  | '|' :: rest => some (.branch, rest)
  | '?' :: rest => some (.repeated 0 (some 1), dropReluctant rest)
  | '*' :: rest => some (.repeated 0 none, dropReluctant rest)
  | '+' :: rest => some (.repeated 1 none, dropReluctant rest)
  | '\x7b' :: rest =>
    (readBounds flags rest).map fun r =>
      (.repeated r.1.1 r.1.2, dropReluctant (flags.skip r.2))
  | '[' :: rest => do
    let (o, rest) := openSet flags rest
    let (s, rest) ← readSet flags o [] rest
    let pattern ← flags.pattern? s.set
    some (.item { pattern, depth := s.depth }, rest)
  | '\\' :: rest => (readEscape flags rest).bind fun r => item (r.1.pattern? flags) r.2
  | '.' :: rest => item (flags.pattern? flags.dot) rest
  | '^' :: rest => item (some (.assertion flags.start)) rest
  | '$' :: rest => item (some (.assertion flags.stop)) rest
  | c :: rest => item (some (flags.literal c)) rest

/-! ## Patterns -/

/-- An open group, or the whole pattern. -/
structure OpenGroup where
  kind : GroupKind := .plain
  /-- The flags that hold where the reading is. -/
  flags : Flags := {}
  /-- The finished branches, the last first. -/
  branches : List Item := []
  /-- The items of the current branch, the last first. -/
  items : List Item := []

namespace OpenGroup

def add (g : OpenGroup) (i : Item) : OpenGroup :=
  { g with items := i :: g.items }

def branch (g : OpenGroup) : Item :=
  match g.items with
  | [] => { pattern := .empty }
  | [i] => i
  | items =>
    { pattern := sequenceOf (items.reverse.map Item.pattern),
      depth := (items.map Item.depth).foldl max 0 + 1 }

def value (g : OpenGroup) : Item :=
  match g.branches with
  | [] => g.branch
  | branches =>
    let all := (g.branch :: branches).reverse
    { pattern := choiceOf (all.map Item.pattern),
      depth := (all.map Item.depth).foldl max 0 + 1 }

def close (g : OpenGroup) : Item :=
  let value := g.value
  let pattern := match g.kind with
    | .captured _ => .group value.pattern
    | .plain => value.pattern
  { pattern, depth := value.depth + 1 }

def nextBranch (g : OpenGroup) : OpenGroup :=
  { g with branches := g.branch :: g.branches, items := [] }

/-- Repeats the last item, which must not be a setting of flags. -/
def repeatLast (g : OpenGroup) (least : Nat) (most : Option Nat) : Option OpenGroup :=
  match g.items with
  | [] => none
  | i :: items =>
    if i.repeatable then
      let item := { pattern := repeated i.pattern least most, depth := i.depth + 1 : Item }
      some { g with items := item :: items }
    else none

def setFlags (g : OpenGroup) (flags : Flags) : OpenGroup :=
  { g.add { pattern := .empty, repeatable := false } with flags }

end OpenGroup

/-- The names of groups, and that of one more. No two groups have the same name. -/
def addName (names : List String) : GroupKind → Option (List String)
  | .captured (some name) => if names.contains name then none else some (name :: names)
  | _ => some names

/-- The rest of a pattern with these groups open. -/
def readGroups (names : List String) (current : OpenGroup) (outer : List OpenGroup)
    (cs : List Char) : Option Item :=
  match current.flags.skip cs, outer with
  | [], [] => some current.value
  | [], _ :: _ => none
  | cs', outer =>
    match readStep current.flags cs' with
    | none => none
    | some (step, rest) =>
      if _h : rest.length < cs.length then
        match step, outer with
        | .item i, outer => readGroups names (current.add i) outer rest
        | .repeated least most, outer =>
          match current.repeatLast least most with
          | some current => readGroups names current outer rest
          | none => none
        | .opened kind flags, outer =>
          match addName names kind with
          | some names => readGroups names { kind, flags } (current :: outer) rest
          | none => none
        | .closed, [] => none
        | .closed, g :: outer => readGroups names (g.add current.close) outer rest
        | .branch, outer => readGroups names current.nextBranch outer rest
        | .flags flags, outer => readGroups names (current.setFlags flags) outer rest
      else none
termination_by cs.length

/-- How deep patterns may be nested. -/
def maxDepth : Nat := 250

def read? (text : String) : Option Pattern := do
  let item ← readGroups [] {} [] text.toList
  if item.depth ≤ maxDepth && item.pattern.fits then some item.pattern else none

end Scriptlet.Pattern
