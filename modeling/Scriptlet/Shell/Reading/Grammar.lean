import Scriptlet.Shell.Reading.Word

/-!
# Reading commands: the grammar

Tokens, and the commands that they make up. Where a command can start, words may be keywords or
aliases. Lists of commands are nested in commands, and commands in words; `read` ties the knot, one
level of nesting at a time.
-/

namespace Scriptlet.Shell

/-- What may stand next. -/
structure Expecting where
  keywords : Bool := false
  /-- Whether line ends are skipped. -/
  newLines : Bool := false
  aliases : Bool := false

def Expecting.command (newLines : Bool) : Expecting :=
  { keywords := true, newLines, aliases := true }

/-- Where a list of commands stands. -/
inductive Position where
  /-- In a line of its own. -/
  | line
  /-- In a command, where there must be something. -/
  | body
  /-- In a command, where there may be nothing. -/
  | optional
deriving DecidableEq, Repr

/-- What is read with nesting. -/
inductive Construct where
  | list (position : Position)
  | command

/-- How constructs at the next level are read. -/
abbrev Inner := Construct → Reader Command

/-! ## Tokens -/

namespace Reader

def found (t : Token) : Reader Token :=
  modifyGet fun s => (t, { s with last := t })

/-- An operator of two characters that are the same, or else of one. -/
def doubled (c : Char) (two one : Token) : Reader Token := do
  let _ ← raw?
  if ← takes c then found two else found one

/-- The rest of a redirection behind its descriptor. -/
def arrow (descriptor : Option Nat) (c : Char) : Reader Token := do
  let _ ← raw?
  let usual (n : Nat) := descriptor.getD n
  if c = '>' then
    let a : Arrow ←
      if ← takes '>' then pure (.file .append)
      else if ← takes '|' then pure (.file .overwrite)
      else if ← takes '&' then pure .copy
      else pure (.file .write)
    found (.arrow (usual 1) a)
  else
    let a : Arrow ←
      if ← takes '<' then pure (.document (← takes '-'))
      else if ← takes '&' then pure .copy
      else if ← takes '>' then pure (.file .both)
      else pure (.file .read)
    found (.arrow (usual 0) a)

def hasQuotes (w : Word) : Bool :=
  w.any fun
    | .quote => true
    | .char _ isQuoted => isQuoted
    | _ => false

/-- Whether a word is the descriptor of a redirection that follows at once. -/
def descriptor? : Word → Option (Option Nat)
  | [] => some none
  | [.char c false] => if c.isDigit then some (some (c.toNat - 48)) else none
  | _ => none

/-- The next token: the one that was put back, if there is one. -/
def scan (commands : Nested) : Reader Token := do
  let s ← get
  if s.isBack then
    set { s with isBack := false }
    return s.last
  let (line, rest) := skipBlanks false s.line s.rest
  set { s with line, rest }
  match ← peek? with
  | none => found .endOfInput
  | some '\n' => let _ ← raw?; found .newLine
  | some '&' => doubled '&' .andThen .ampersand
  | some '|' => doubled '|' .orElse .pipe
  | some ';' => doubled ';' .endOfCase .semicolon
  | some '(' => let _ ← raw?; found .opening
  | some ')' => let _ ← raw?; found .closing
  | some _ =>
    let w ← word commands
    match ← peek?, descriptor? w with
    | some '<', some n => arrow n '<'
    | some '>', some n => arrow n '>'
    | _, _ => found (.word w (hasQuotes w))

/-- Reads the documents that have been asked for. -/
def documents (commands : Nested) : Reader Unit := do
  let requests := (← get).requests
  modify fun s => { s with requests := [] }
  let last := (← get).last
  for r in requests do
    let delimiter := r.delimiter.toList
    let text : Word ←
      if ← startsLine delimiter r.withoutTabs then
        if r.quoted then
          repeating (fun w => do
            match ← raw? with
            | none => return .inr w.reverse
            | some '\n' =>
              let w := Part.char '\n' true :: w
              if ← startsLine delimiter r.withoutTabs then return .inl w else return .inr w.reverse
            | some c => return .inl (.char c true :: w)) []
        else parts commands (← get).room (.document delimiter r.withoutTabs) []
      else pure []
    modify fun s => { s with documents := (r.number, text) :: s.documents }
  modify fun s => { s with last }

/-- The alias to be replaced, unless the reading is in its replacement. -/
def aliasText? (name : String) : Reader (Option String) := do
  let s ← get
  if s.replaced.any fun r => r.1 = name then return none
  else return s.aliases.lookup name

/-- Leaves the replacements of aliases that have been read to their ends; true if a word behind one
of them can be an alias. -/
def leaveAliases : Reader Bool :=
  modifyGet fun s =>
    if s.replaced.isEmpty then (false, s)
    else
      let (_, rest) := skipBlanks false s.line s.rest
      let isOver (r : String × Nat) : Bool := rest.length ≤ r.2
      let ended := s.replaced.filter isOver
      let goesOn (r : String × Nat) : Bool :=
        ((s.aliases.lookup r.1).getD "").toList.getLast?.any fun c => c = ' ' || c = '\t'
      (ended.any goesOn, { s with replaced := s.replaced.filter fun r => !isOver r })

def scanBehindLines (commands : Nested) (newLines : Bool) : Reader Token :=
  repeating (fun () => do
    let t ← scan commands
    if newLines && t matches .newLine then
      documents commands
      return .inl ()
    else return .inr t) ()

/-- The next token where something is expected. -/
def token (commands : Nested) (e : Expecting) : Reader Token :=
  repeating (fun () => do
    let behindAlias ← leaveAliases
    let t ← scanBehindLines commands e.newLines
    match t.plain? with
    | none => return .inr t
    | some name =>
      match if e.keywords then Keyword.spellings.lookup name else none with
      | some k => return .inr (← found (.keyword k))
      | none =>
        match ← if e.aliases || behindAlias then aliasText? name else pure none with
        | none => return .inr t
        | some text =>
          modify fun s =>
            { s with
              rest := text.toList ++ s.rest
              replaced := (name, s.rest.length) :: s.replaced }
          return .inl ()) ()

def expect (commands : Nested) (e : Expecting) (wanted : Token) (fits : Token → Bool) :
    Reader Unit := do
  unless fits (← token commands e) do
    unexpected (some wanted)

def expectKeyword (commands : Nested) (e : Expecting) (k : Keyword) : Reader Unit :=
  expect commands e (.keyword k) fun
    | .keyword l => l = k
    | _ => false

end Reader

open Reader

/-! ## Redirections -/

/-- The rest of a redirection behind its arrow. -/
def readRedirection (commands : Nested) (descriptor : Nat) : Arrow → Reader Redirection
  | .file access => do
    match ← token commands {} with
    | .word w _ => return .file descriptor access w
    | _ => unexpected none
  | .copy => do
    match ← token commands {} with
    | .word w _ => return .copy descriptor w
    | _ => unexpected none
  | .document withoutTabs => do
    let s ← get
    let (line, rest) := skipBlanks false s.line s.rest
    set { s with line, rest }
    if (← peek?).all endsWord then
      let _ ← token commands {}
      unexpected none
    let (delimiter, quoted) ← delimiter
    modifyGet fun s =>
      (.document descriptor s.documentCount,
        { s with
          documentCount := s.documentCount + 1
          requests := s.requests ++ [⟨s.documentCount, delimiter, withoutTabs, quoted⟩]
          last := .word [] quoted })

/-- The redirections behind a compound command. -/
def readRedirections (commands : Nested) : Reader (List Redirection) :=
  repeating (fun redirections => do
    match ← token commands { keywords := true, aliases := true } with
    | .arrow descriptor a =>
      return .inl ((← readRedirection commands descriptor a) :: redirections)
    | _ =>
      back
      return .inr redirections.reverse) []

/-! ## Commands -/

/-- The names that no function can have: those of builtins that stand for themselves. -/
def specialBuiltins : List String :=
  [".", ":", "break", "continue", "eval", "exec", "exit", "export", "local", "readonly", "return",
   "set", "shift", "times", "trap", "unset"]

/-- The words read so far of a simple command. -/
structure Simple where
  assignments : List Word := []
  words : List Word := []
  redirections : List Redirection := []

/-- A simple command, or the definition of a function. -/
def readSimple (commands : Nested) (inner : Inner) : Reader Command := do
  let line := (← get).line
  repeating (fun (c : Simple) => do
    let isStart := c.words.isEmpty
    match ← token commands { aliases := isStart } with
    | .word w _ =>
      if isStart && (Word.assignment? w).isSome then
        return .inl { c with assignments := w :: c.assignments }
      else return .inl { c with words := w :: c.words }
    | .arrow descriptor a =>
      let r ← readRedirection commands descriptor a
      return .inl { c with redirections := r :: c.redirections }
    | t =>
      match t, c.words, c.assignments, c.redirections with
      | .opening, [w], [], [] =>
        expect commands {} .closing fun t => t matches .closing
        let name := (Word.plain? w).getD ""
        if !isName name || specialBuiltins.contains name then fail "Bad function name"
        let _ ← token commands (.command true)
        back
        let line := (← get).line
        return .inr (.function line name (← inner .command))
      | _, _, _, _ =>
        back
        return .inr (.simple line c.assignments.reverse c.words.reverse c.redirections.reverse)) {}

/-- The rest of a conditional command behind its first keyword. -/
def readConditional (commands : Nested) (inner : Inner) : Reader Command := do
  let branch : Reader (Command × Command) := do
    let condition ← inner (.list .body)
    expectKeyword commands {} .thenWord
    return (condition, ← inner (.list .body))
  let first ← branch
  repeating (fun (branches : List (Command × Command)) => do
    let close (no : Option Command) : Option Command :=
      branches.foldl (fun no (condition, yes) => some (.conditional condition yes no)) no
    match ← token commands {} with
    | .keyword .elifWord => return .inl ((← branch) :: branches)
    | .keyword .elseWord => return .inr ((close (some (← inner (.list .body)))).getD .nothing)
    | _ =>
      back
      return .inr ((close none).getD .nothing)) [first]

/-- The rest of a loop over words behind its keyword. -/
def readEach (commands : Nested) (inner : Inner) (line : Nat) : Reader Command := do
  let name ← match ← token commands {} with
    | .word w false => pure ((Word.plain? w).getD "")
    | _ => pure ""
  if !isName name then fail "Bad for loop variable"
  let words : List Word ←
    match ← token commands (.command true) with
    | .keyword .inWord =>
      repeating (fun words => do
        match ← token commands {} with
        | .word w _ => return .inl (w :: words)
        | .newLine | .semicolon => return .inr words.reverse
        | _ => unexpected none) []
    | t =>
      unless t matches .semicolon do back
      pure [[.quote, .parameter "@" .value true, .quote]]
  expectKeyword commands (.command true) .doWord
  return .each line name words (← inner (.list .body))

/-- The patterns of a case, up to the parenthesis behind them. The first one has been read. -/
def readPatterns (commands : Nested) : Reader (List Word) := do
  let t ← if (← get).last matches .opening then token commands {} else pure (← get).last
  let text : Token → Word
    | .word w _ => w
    | .keyword k => k.spelling.toList.map (.char · false)
    | _ => []
  repeating (fun patterns => do
    match ← token commands {} with
    | .pipe => return .inl (text (← token commands {}) :: patterns)
    | .closing => return .inr patterns.reverse
    | _ => unexpected (some .closing)) [text t]

/-- The rest of a choice behind its keyword. -/
def readChoice (commands : Nested) (inner : Inner) (line : Nat) : Reader Command := do
  let word ← match ← token commands {} with
    | .word w _ => pure w
    | _ => unexpected (some (.word [] false))
  expectKeyword commands (.command true) .inWord
  repeating (fun cases => do
    let finish := Sum.inr (Command.choice line word cases.reverse)
    match ← token commands { keywords := true, newLines := true } with
    | .keyword .esac => return finish
    | _ =>
      let patterns ← readPatterns commands
      let body ← inner (.list .optional)
      let case := Case.mk patterns body
      match ← token commands { keywords := true, newLines := true } with
      | .endOfCase => return .inl (case :: cases)
      | .keyword .esac => return .inr (.choice line word (case :: cases).reverse)
      | _ => unexpected (some .endOfCase)) []

def readCompound (commands : Nested) (body : Reader Command) (line : Nat) : Reader Command := do
  let command ← body
  match command, ← readRedirections commands with
  | command, [] => return command
  | .apart line body [] waits, redirections => return .apart line body redirections waits
  | command, redirections => return .redirected line command redirections

/-- A command. -/
def readCommand (commands : Nested) (inner : Inner) : Reader Command := do
  let t ← token commands {}
  let line := (← get).line
  let compound (body : Reader Command) : Reader Command := readCompound commands body line
  match t with
  | .keyword .ifWord =>
    compound do
      let c ← readConditional commands inner
      expectKeyword commands {} .fi
      return c
  | .keyword .whileWord | .keyword .untilWord =>
    compound do
      let condition ← inner (.list .body)
      expectKeyword commands {} .doWord
      let body ← inner (.list .body)
      expectKeyword commands {} .done
      return .loop (t matches .keyword .untilWord) condition body
  | .keyword .forWord =>
    compound do
      let c ← readEach commands inner line
      expectKeyword commands {} .done
      return c
  | .keyword .caseWord => compound (readChoice commands inner line)
  | .opening =>
    compound do
      let body ← inner (.list .body)
      expect commands {} .closing fun t => t matches .closing
      return .apart line body [] true
  | .keyword .opening =>
    compound do
      let body ← inner (.list .body)
      expectKeyword commands {} .closing
      return body
  | .word _ _ | .arrow _ _ =>
    back
    readSimple commands inner
  | _ => unexpected none

/-- Commands of which each hands on what it writes. -/
def readPipeline (commands : Nested) (inner : Inner) (e : Expecting) : Reader Command := do
  let negates := (← token commands e) matches .keyword .bang
  if negates then
    let _ ← token commands { keywords := true, aliases := true }
  back
  let first ← readCommand commands inner
  let all ← repeating (fun all => do
    match ← token commands {} with
    | .pipe =>
      let _ ← token commands (.command true)
      back
      return .inl ((← readCommand commands inner) :: all)
    | _ =>
      back
      return .inr all.reverse) [first]
  let command := match all with
    | [c] => c
    | all => .pipeline all true
  return if negates then .negated command else command

/-- Pipelines that depend on one another. -/
def readChain (commands : Nested) (inner : Inner) : Reader Command := do
  let first ← readPipeline commands inner {}
  repeating (fun (before : Command) => do
    match ← token commands {} with
    | .andThen => return .inl (.both before (← readPipeline commands inner (.command true)))
    | .orElse => return .inl (.either before (← readPipeline commands inner (.command true)))
    | _ =>
      back
      return .inr before) first

def Command.inBackground : Command → Command
  | .pipeline commands _ => .pipeline commands false
  | .redirected line body redirections => .apart line body redirections false
  | command => .apart 0 command [] false

/-- A list of commands. -/
def readList (commands : Nested) (inner : Inner) (position : Position) : Reader Command := do
  let isLine := position = .line
  repeating (fun (before : Option Command) => do
    let finish := Sum.inr (before.getD .nothing)
    let t ← token commands (.command !isLine)
    let mayEnd := before.isSome || position = .optional
    match t with
    | .newLine =>
      documents commands
      return finish
    | .endOfInput =>
      documents commands
      let _ ← found .endOfInput
      back
      return finish
    | t =>
      back
      if !isLine && mayEnd && t.ends then return finish
      let chain ← readChain commands inner
      let t ← token commands {}
      let this := if t matches .ampersand then chain.inBackground else chain
      let all := match before with
        | none => this
        | some before => .sequence before this
      match t with
      | .endOfInput =>
        documents commands
        let _ ← found .endOfInput
        back
        return .inr all
      | .newLine =>
        back
        return .inl (some all)
      | .ampersand | .semicolon => return .inl (some all)
      | _ =>
        if isLine then unexpected none
        back
        return .inr all) none

/-- How commands within words are read, given how constructs are at the next level of nesting. A
list leaves the token behind it as one that was put back. -/
def nestedOf (inner : Inner) : Nested where
  toEnd := inner (.list .optional)
  toParenthesis := do
    let command ← inner (.list .optional)
    modify fun s => { s with isBack := false }
    match (← get).last with
    | .closing => return command
    | _ => unexpected (some .closing)

def read : Nat → Construct → Reader Command
  | 0, _ => fail "too deep"
  | n + 1, .list position => readList (nestedOf (read n)) (read n) position
  | n + 1, .command => readCommand (nestedOf (read n)) (read n)

namespace Source

def ofText (text : String) (documentCount : Nat) : Source where
  rest := text.toList
  size := text.length
  documentCount

def isEmpty (s : Source) : Bool :=
  s.rest.isEmpty

/-- Reads the commands of a line and the lines that they go on in. -/
def readLine (aliases : List (String × String)) (s : Source) :
    Except Misreading (Command × Source) :=
  let inAliases := aliases.foldr (fun a n => a.2.length + 1 + n) 0
  let room := (s.size + 3) * (inAliases + 1)
  read room (.list .line) { s with room, aliases, isBack := false, requests := [] }

end Source

end Scriptlet.Shell
