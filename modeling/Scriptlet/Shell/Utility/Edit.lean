import Scriptlet.Shell.Utility.Characters
import Scriptlet.Shell.Utility.Lines
import Scriptlet.Shell.Utility.Regular

/-!
# Editing lines

A script of editing commands is run on each line in turn. A command has addresses, which tell the
lines that it is for. The line is in the pattern space; another text can be kept beside it.
-/

namespace Scriptlet.Shell.Utility

/-- What lines an address stands for. -/
inductive Address where
  | line (n : Nat)
  | last
  /-- Lines that match a pattern, or the one that was used last. -/
  | pattern (r : Option Regular) (ignoresCase : Bool)
  /-- Every so many lines from one on. -/
  | every (first step : Nat)

/-- Where a range of lines ends. -/
inductive RangeEnd where
  | address (a : Address)
  /-- So many lines behind. -/
  | behind (n : Nat)
  /-- At the next line whose number is a multiple. -/
  | multiple (n : Nat)

/-- The lines that a command is for. -/
structure Lines where
  first : Option Address := none
  stop : Option RangeEnd := none
  isNegated : Bool := false

/-- How letters are written. -/
inductive LetterCase where
  | asIs
  | upper
  | lower
deriving DecidableEq, Repr

/-- A part of what a match is replaced by. -/
inductive Replacement where
  | char (c : Char)
  | group (n : Nat)
  /-- From here on letters are in a case. -/
  | letters (c : LetterCase)
  /-- The next letter is in a case. -/
  | letter (c : LetterCase)

/-- A substitution. -/
structure Substitution where
  pattern : Option Regular
  ignoresCase : Bool := false
  replacement : List Replacement
  /-- The number of the first match that is replaced, from one on. -/
  number : Nat := 1
  isGlobal : Bool := false
  /-- Whether the line is written when something has been replaced. -/
  prints : Bool := false

/-- An editing command. -/
inductive Edit where
  | substitute (s : Substitution)
  | replaceCharacters (pairs : List (Char × Char))
  | print
  | printFirst
  | printNumber
  | printVisibly
  | delete
  | deleteFirst
  | next
  | appendNext
  | hold
  | holdMore
  | fetch
  | fetchMore
  | exchange
  | writeBefore (text : String)
  | writeBehind (text : String)
  | writeInstead (text : String)
  | quit (code : Nat) (prints : Bool)
  | clear
  /-- Goes on at a label, or at the end. -/
  | branch (label : String)
  | branchIfReplaced (label : String)
  | branchUnlessReplaced (label : String)
  | label (name : String)
  /-- The start and the end of commands that are run together. -/
  | opening
  | closing

/-! ## Reading scripts -/

namespace Edit

/-- How scripts are read. -/
abbrev ScriptReader := StateT (List Char) (Except String)

def takeWhile (p : Char → Bool) : ScriptReader (List Char) := do
  let cs ← get
  let taken := cs.takeWhile p
  set (cs.drop taken.length)
  return taken

def number? : ScriptReader (Option Nat) := do
  let ds ← takeWhile Char.isDigit
  return if ds.isEmpty then none else some (Numeral.digits 10 0 ds).1

def skipBlanks : ScriptReader Unit := do
  let _ ← takeWhile fun c => c = ' ' || c = '\t'

/-- The text up to a delimiter, and what is behind it. A backslash in front of the delimiter takes
its meaning away, and so do brackets in a pattern. -/
def upTo (delimiter : Char) (isPattern inBrackets : Bool) : List Char →
    Option (List Char × List Char)
  | [] => none
  | '\\' :: c :: rest =>
    (upTo delimiter isPattern inBrackets rest).map fun (cs, behind) =>
      (if c = delimiter && !inBrackets then c :: cs
        else if c = 'n' && isPattern && inBrackets then '\n' :: cs
        else '\\' :: c :: cs, behind)
  | c :: rest =>
    if c = delimiter && !inBrackets then some ([], rest)
    else
      let inside := if !isPattern then false
        else if inBrackets then c != ']' else c = '['
      (upTo delimiter isPattern inside rest).map fun (cs, behind) => (c :: cs, behind)

def delimited (delimiter : Char) (isPattern : Bool) (complaint : String) :
    ScriptReader (List Char) := do
  match upTo delimiter isPattern false (← get) with
  | some (cs, rest) =>
    set rest
    return cs
  | none => throw complaint

/-- The expression that a text is; an empty one stands for the one used last. -/
def pattern? (isExtended : Bool) (cs : List Char) : ScriptReader (Option Regular) := do
  if cs.isEmpty then return none
  match Regular.ofText isExtended cs with
  | .ok (r, _) => return some r
  | .error message => throw message

/-- Takes an address, if there is one. -/
def address? (isExtended : Bool) : ScriptReader (Option Address) := do
  match ← get with
  | '$' :: rest =>
    set rest
    return some .last
  | c :: rest =>
    if c.isDigit then
      let n := (← number?).getD 0
      match ← get with
      | '~' :: rest =>
        set rest
        return some (.every n ((← number?).getD 0))
      | _ => return some (.line n)
    else
      let from' : Option (Char × List Char) := match c, rest with
        | '/', rest => some ('/', rest)
        | '\\', d :: rest => some (d, rest)
        | _, _ => none
      match from' with
      | none => return none
      | some (delimiter, rest) =>
        set rest
        let cs ← delimited delimiter true "unterminated address regex"
        let r ← pattern? isExtended cs
        let flags ← takeWhile fun c => c = 'I' || c = 'M'
        return some (.pattern r (flags.contains 'I'))
  | [] => return none

/-- Takes the addresses in front of a command. -/
def lines (isExtended : Bool) : ScriptReader Lines := do
  let first ← address? isExtended
  skipBlanks
  let stop ← match first, ← get with
    | some _, ',' :: rest => do
      set rest
      skipBlanks
      match ← get with
      | '+' :: rest =>
        set rest
        pure (some (RangeEnd.behind ((← number?).getD 0)))
      | '~' :: rest =>
        set rest
        pure (some (RangeEnd.multiple ((← number?).getD 0)))
      | _ =>
        match ← address? isExtended with
        | some a => pure (some (RangeEnd.address a))
        | none => throw "unexpected `,'"
    | _, _ => pure none
  skipBlanks
  let signs ← takeWhile fun c => c = '!' || c = ' '
  return { first, stop, isNegated := signs.contains '!' }

/-- What a match is replaced by. -/
def replacement : List Char → List Replacement
  | '\\' :: c :: rest =>
    let r : Replacement :=
      if c.isDigit then .group (c.toNat - 48)
      else match c with
        | 'n' => .char '\n'
        | 't' => .char '\t'
        | 'r' => .char '\r'
        | 'U' => .letters .upper
        | 'L' => .letters .lower
        | 'E' => .letters .asIs
        | 'u' => .letter .upper
        | 'l' => .letter .lower
        | c => .char c
    r :: replacement rest
  | '&' :: rest => .group 0 :: replacement rest
  | c :: rest => .char c :: replacement rest
  | [] => []

/-- The rest of a substitution behind its letter. -/
def substitution (isExtended : Bool) : ScriptReader Edit := do
  match ← get with
  | [] => throw "unterminated `s' command"
  | delimiter :: rest =>
    set rest
    let complaint := "unterminated `s' command"
    let pattern ← pattern? isExtended (← delimited delimiter true complaint)
    let text ← delimited delimiter false complaint
    let flags ← takeWhile fun c => c.isDigit || "gpiIme".toList.contains c
    let digits := flags.filter Char.isDigit
    return .substitute
      { pattern
        ignoresCase := flags.contains 'i' || flags.contains 'I'
        replacement := replacement text
        number := if digits.isEmpty then 1 else (Numeral.digits 10 0 digits).1
        isGlobal := flags.contains 'g'
        prints := flags.contains 'p' }

/-- The text behind a command that writes it: the rest of the line, and further lines behind
backslashes. -/
def text (cs : List Char) : List Char × List Char :=
  match cs with
  | '\\' :: '\n' :: rest => let (t, behind) := text rest; ('\n' :: t, behind)
  | '\\' :: c :: rest => let (t, behind) := text rest; (c :: t, behind)
  | '\n' :: rest => ([], rest)
  | c :: rest => let (t, behind) := text rest; (c :: t, behind)
  | [] => ([], [])

/-- Takes the text behind a command that writes it. -/
def takeText : ScriptReader String := do
  skipBlanks
  match ← get with
  | '\\' :: rest =>
    let rest := rest.dropWhile fun c => c = ' ' || c = '\t'
    match rest with
    | '\n' :: rest => set rest
    | _ => set (if rest.isEmpty then [] else rest)
  | [] => throw "expected \\ after 'a', 'c' or 'i'"
  | _ => pure ()
  let (t, rest) := text (← get)
  set rest
  return String.ofList t ++ "\n"

def takeLabel : ScriptReader String := do
  skipBlanks
  let cs ← takeWhile fun c => c != '\n' && c != ';' && c != '\x7d'
  return String.ofList (cs.reverse.dropWhile isSpace).reverse

/-- Takes a command. -/
def command (isExtended : Bool) : ScriptReader Edit := do
  match ← get with
  | [] => throw "missing command"
  | c :: rest =>
    set rest
    match c with
    | 's' => substitution isExtended
    | 'y' =>
      match ← get with
      | [] => throw "unterminated `y' command"
      | delimiter :: rest =>
        set rest
        let plain (cs : List Char) : List Char :=
          (SetItem.readSet cs.length cs).toOption.getD [] |>.flatMap SetItem.characters
        let a := plain (← delimited delimiter false "unterminated `y' command")
        let b := plain (← delimited delimiter false "unterminated `y' command")
        if a.length != b.length then
          throw "strings for `y' command are different lengths"
        return .replaceCharacters (a.zip b)
    | 'p' => return .print
    | 'P' => return .printFirst
    | '=' => return .printNumber
    | 'l' => return .printVisibly
    | 'd' => return .delete
    | 'D' => return .deleteFirst
    | 'n' => return .next
    | 'N' => return .appendNext
    | 'h' => return .hold
    | 'H' => return .holdMore
    | 'g' => return .fetch
    | 'G' => return .fetchMore
    | 'x' => return .exchange
    | 'z' => return .clear
    | 'i' => return .writeBefore (← takeText)
    | 'a' => return .writeBehind (← takeText)
    | 'c' => return .writeInstead (← takeText)
    | 'q' | 'Q' =>
      skipBlanks
      return .quit ((← number?).getD 0) (c = 'q')
    | 'b' => return .branch (← takeLabel)
    | 't' => return .branchIfReplaced (← takeLabel)
    | 'T' => return .branchUnlessReplaced (← takeLabel)
    | ':' => return .label (← takeLabel)
    | '\x7b' => return .opening
    | '\x7d' => return .closing
    | c => throw ("unknown command: `" ++ String.singleton c ++ "'")

/-- Takes the commands of a script. The number bounds how many there are. -/
def script (isExtended : Bool) : Nat → ScriptReader (List (Lines × Edit))
  | 0 => return []
  | n + 1 => do
    let _ ← takeWhile fun c => isSpace c || c = ';'
    match ← get with
    | [] => return []
    | '#' :: _ =>
      let _ ← takeWhile (· != '\n')
      script isExtended n
    | _ =>
      let where' ← lines isExtended
      let edit ← command isExtended
      let isWritten := edit matches .writeBefore _ | .writeBehind _ | .writeInstead _
      unless isWritten || edit matches .opening do
        skipBlanks
        match ← get with
        | [] => pure ()
        | c :: _ =>
          unless c = '\n' || c = ';' || c = '\x7d' || c = '#' do
            throw "extra characters after command"
      return (where', edit) :: (← script isExtended n)

end Edit

/-! ## Running scripts -/

/-- What a script works on. -/
structure Editing where
  /-- Lines that have not been read. -/
  left : List (List Char)
  /-- Whether the last line has a line feed. -/
  endsLine : Bool
  number : Nat := 0
  space : List Char := []
  held : List Char := []
  /-- What has been written, in reverse. -/
  written : List String := []
  /-- Whether the last line that has been written has no line feed yet. -/
  owesLineEnd : Bool := false
  /-- What is to be written behind the line, in reverse. -/
  behind : List String := []
  hasReplaced : Bool := false
  lastPattern : Option Regular := none
  /-- The ranges that lines are in: the number of the command, and of the last line if known. -/
  ranges : List (Nat × Option Nat) := []
  /-- Whether the next line is not read because something is left of this one. -/
  keepsSpace : Bool := false

/-- How the commands for a line end. -/
inductive EditEnd where
  | line
  | deleted
  | quit (code : Nat) (prints : Bool)

namespace Editing

def write (e : Editing) (s : String) : Editing :=
  { e with
    written := s :: if e.owesLineEnd then "\n" :: e.written else e.written
    owesLineEnd := false }

/-- Writes a line. The last one has no line feed if it had none, unless something follows. -/
def writeLine (e : Editing) (l : List Char) : Editing :=
  if e.left.isEmpty && !e.endsLine then { e.write (String.ofList l) with owesLineEnd := true }
  else e.write (String.ofList l ++ "\n")

def flush (e : Editing) : Editing :=
  { e.behind.foldr (fun s e => e.write s) e with behind := [] }

def advance? (e : Editing) : Option (List Char × Editing) :=
  match e.left with
  | [] => none
  | l :: rest => some (l, { e.flush with left := rest, number := e.number + 1 })

/-- Whether the line is one that an address stands for. -/
def isAt (e : Editing) : Address → Bool × Editing
  | .line n => (e.number = n, e)
  | .last => (e.left.isEmpty, e)
  | .every first step =>
    (if step = 0 then e.number = first
      else e.number ≥ first && (e.number - first) % step = 0, e)
  | .pattern r ignoresCase =>
    match r.or e.lastPattern with
    | none => (false, e)
    | some r =>
      ((Regular.search ignoresCase r [] none e.space).isSome, { e with lastPattern := some r })

/-- Starts a range at the line, unless it ends there too. -/
def startRange (e : Editing) (i : Nat) (stop : RangeEnd) : Editing :=
  let starts (last : Option Nat) : Editing := { e with ranges := (i, last) :: e.ranges }
  match stop with
  | .address (.line n) => if n ≤ e.number then e else starts (some n)
  | .address _ => starts none
  | .behind n => if n = 0 then e else starts (some (e.number + n))
  | .multiple n =>
    if n = 0 || e.number % n = 0 then e else starts (some (e.number + n - e.number % n))

/-- Whether a command is for the line. -/
def isFor (e : Editing) (i : Nat) (ls : Lines) : Bool × Editing :=
  let (isIn, e) := match ls.first, ls.stop with
    | none, _ => (true, e)
    | some a, none => e.isAt a
    | some a, some stop =>
      let without : Editing := { e with ranges := e.ranges.filter fun r => r.1 != i }
      let isOpen := e.ranges.lookup i
      let isZero := (a matches .line 0) && e.number = 1 && isOpen.isNone
      match isOpen, stop with
      | some (some n), _ =>
        if e.number ≥ n then (e.number = n || !(stop matches .address _), without) else (true, e)
      | some none, .address b =>
        let (ends, e) := e.isAt b
        (true, if ends then { e with ranges := without.ranges } else e)
      | some none, _ => (true, e)
      | none, stop =>
        if isZero then
          match stop with
          | .address b =>
            let (ends, e) := e.isAt b
            (true, if ends then e else { e with ranges := (i, none) :: e.ranges })
          | _ => (true, e)
        else
          let (starts, e) := e.isAt a
          (starts, if starts then e.startRange i stop else e)
  (isIn != ls.isNegated, e)

def inCase (c : LetterCase) (a : Char) : Char :=
  match c with
  | .asIs => a
  | .upper => a.toUpper
  | .lower => a.toLower

/-- The text that a match is replaced by. The cases are those of all letters and of the next one. -/
def replaced (m : Regular.Match) (all : LetterCase) (next : Option LetterCase) :
    List Replacement → List Char
  | [] => []
  | .char c :: rest => inCase (next.getD all) c :: replaced m all none rest
  | .group n :: rest =>
    let cs := if n = 0 then m.text else (m.groups.lookup n).getD []
    match cs with
    | [] => replaced m all next rest
    | c :: cs => inCase (next.getD all) c :: cs.map (inCase all) ++ replaced m all none rest
  | .letters c :: rest => replaced m c none rest
  | .letter c :: rest => replaced m all (some c) rest

/-- Replaces matches in the pattern space. -/
def substitute (e : Editing) (s : Substitution) : Editing :=
  match s.pattern.or e.lastPattern with
  | none => e
  | some r =>
    let e := { e with lastPattern := some r }
    let all := Regular.matchesIn s.ignoresCase r e.space
    let isReplaced (i : Nat) : Bool := i + 1 = s.number || (s.isGlobal && i + 1 ≥ s.number)
    let text := all.zipIdx.flatMap fun (m, i) =>
      m.before ++ if isReplaced i then replaced m .asIs none s.replacement else m.text
    let length := all.foldr (fun m n => m.before.length + m.text.length + n) 0
    if all.zipIdx.any fun (_, i) => isReplaced i then
      let e := { e with space := text ++ e.space.drop length, hasReplaced := true }
      if s.prints then e.writeLine e.space else e
    else e

/-- The pattern space as `l` shows it, in pieces that end with a backslash. -/
def visible (l : List Char) : String :=
  let one (c : Char) : List Char :=
    match c with
    | '\\' => ['\\', '\\']
    | '\x07' => ['\\', 'a']
    | '\x08' => ['\\', 'b']
    | '\x0c' => ['\\', 'f']
    | '\n' => ['\\', 'n']
    | '\r' => ['\\', 'r']
    | '\t' => ['\\', 't']
    | '\x0b' => ['\\', 'v']
    | c =>
      if isPrint c then [c]
      else
        let ds := Nat.toDigits 8 c.toNat
        '\\' :: List.replicate (3 - ds.length) '0' ++ ds
  let rows := (l.map one).foldl (fun (rows : List (List Char)) item =>
    match rows with
    | row :: others =>
      if row.length + item.length > 69 then item :: (row ++ ['\\']) :: others
      else (row ++ item) :: others
    | [] => [item]) [[]]
  match rows with
  | last :: others => unlines ((last ++ ['$']) :: others).reverse
  | [] => "$\n"

def placeOf (commands : Array (Lines × Edit)) (label : String) : Nat :=
  if label = "" then commands.size
  else (commands.findIdx? fun c => match c.2 with
    | .label name => name = label
    | _ => false).getD commands.size

/-- The place behind the commands that are run together, from within so many on. -/
def behindBlock (depth i : Nat) : List (Lines × Edit) → Nat
  | [] => i
  | (_, .opening) :: rest => behindBlock (depth + 1) (i + 1) rest
  | (_, .closing) :: rest => if depth = 0 then i + 1 else behindBlock (depth - 1) (i + 1) rest
  | _ :: rest => behindBlock depth (i + 1) rest

/-- Runs the commands for a line, from one on. The number bounds how many are run. -/
def runCommands (commands : Array (Lines × Edit)) (quiet : Bool) : Nat → Nat → Editing →
    EditEnd × Editing
  | 0, _, e => (.line, e)
  | n + 1, i, e =>
    match commands[i]? with
    | none => (.line, e)
    | some (ls, edit) =>
      let (isFor, e) := e.isFor i ls
      let goOn (e : Editing) := runCommands commands quiet n (i + 1) e
      let goTo (label : String) (e : Editing) :=
        runCommands commands quiet n (placeOf commands label) e
      if !isFor then
        match edit with
        | .opening =>
          runCommands commands quiet n (behindBlock 0 (i + 1) (commands.toList.drop (i + 1))) e
        | _ => goOn e
      else
        let firstLine := e.space.takeWhile (· != '\n')
        match edit with
        | .opening | .closing | .label _ => goOn e
        | .substitute s => goOn (e.substitute s)
        | .replaceCharacters pairs =>
          goOn { e with space := e.space.map fun c => (pairs.lookup c).getD c }
        | .print => goOn (e.writeLine e.space)
        | .printFirst => goOn (e.write (String.ofList firstLine ++ "\n"))
        | .printNumber => goOn (e.write (toString e.number ++ "\n"))
        | .printVisibly => goOn (e.write (visible e.space))
        | .delete => (.deleted, e)
        | .deleteFirst =>
          if firstLine.length = e.space.length then (.deleted, e)
          else
            (.deleted,
              { e with space := e.space.drop (firstLine.length + 1), keepsSpace := true })
        | .next =>
          if e.left.isEmpty then (.quit 0 true, e)
          else
            let e := if quiet then e else e.writeLine e.space
            match e.advance? with
            | some (l, e) => goOn { e with space := l }
            | none => (.line, e)
        | .appendNext =>
          match e.advance? with
          | some (l, e) => goOn { e with space := e.space ++ '\n' :: l }
          | none => (.quit 0 true, e)
        | .hold => goOn { e with held := e.space }
        | .holdMore => goOn { e with held := e.held ++ '\n' :: e.space }
        | .fetch => goOn { e with space := e.held }
        | .fetchMore => goOn { e with space := e.space ++ '\n' :: e.held }
        | .exchange => goOn { e with space := e.held, held := e.space }
        | .clear => goOn { e with space := [] }
        | .writeBefore s => goOn (e.write s)
        | .writeBehind s => goOn { e with behind := s :: e.behind }
        | .writeInstead s =>
          let isWithin := ls.stop.isSome && !ls.isNegated && (e.ranges.lookup i).isSome
          (.deleted, if isWithin then e else e.write s)
        | .quit code prints => (.quit code prints, e)
        | .branch label => goTo label e
        | .branchIfReplaced label =>
          if e.hasReplaced then goTo label { e with hasReplaced := false } else goOn e
        | .branchUnlessReplaced label =>
          if e.hasReplaced then goOn { e with hasReplaced := false } else goTo label e

/-- How many commands are run for a line. -/
def commandRoom : Nat := Nat.pow 2 20

/-- Runs the script for each line, and gives the code. The number bounds how many rounds there
are. -/
def run (commands : Array (Lines × Edit)) (quiet : Bool) : Nat → Editing → Nat × Editing
  | 0, e => (0, e)
  | n + 1, e =>
    let start? : Option Editing :=
      if e.keepsSpace then some { e.flush with keepsSpace := false }
      else e.advance?.map fun (l, e) => { e with space := l, hasReplaced := false }
    match start? with
    | none => (0, e.flush)
    | some e =>
      let shown (e : Editing) : Editing := if quiet then e else e.writeLine e.space
      match runCommands commands quiet commandRoom 0 e with
      | (.line, e) => run commands quiet n (shown e)
      | (.deleted, e) => run commands quiet n e
      | (.quit code prints, e) => (code, if prints then (shown e).flush else e)

end Editing

/-- Edits files line by line. -/
def sed : Utility :=
  withOptions "sed" 1
    { letters := "nEre:szu"
      long := [("quiet", 'n'), ("silent", 'n'), ("regexp-extended", 'E'), ("expression", 'e'),
        ("separate", 's')] }
    fun t given operands =>
      let asked := (given.filter fun g => g.letter = 'e').map Given.value
      let (texts, names) := if asked.isEmpty then (operands.take 1, operands.drop 1)
        else (asked, operands)
      if texts.isEmpty then
        .ofComplaint
          "Usage: sed [OPTION]... \x7bscript-only-if-no-other-script\x7d [input-file]..." 1
      else
        let script := "\n".intercalate texts
        let isExtended := isGiven given 'E' || isGiven given 'r'
        match (Edit.script isExtended (script.length + 1)).run script.toList with
        | .error message =>
          .ofComplaint ("sed: -e expression #1, char " ++ toString script.length ++ ": " ++
            message) 1
        | .ok (commands, _) =>
          let all := contents "sed" t names
          let cs := all.flatMap fun (_, c) => c.toOption.getD []
          let complaints := all.filterMap fun (name, c) =>
            match c with
            | .ok _ => none
            | .error message =>
              let reason := message.toList.drop (name.length + 7)
              some (true, "sed: can't read " ++ name ++ ": " ++ String.ofList reason)
          let start : Editing := { left := lines cs, endsLine := cs.getLast? = some '\n' }
          let (code, e) := Editing.run commands.toArray (isGiven given 'n')
            (2 * cs.length + 2) start
          { written := complaints ++ [(false, String.join e.written.reverse)]
            code := if code != 0 then code else if complaints.isEmpty then 0 else 2
            reads := names.isEmpty || Task.reads names }

end Scriptlet.Shell.Utility
