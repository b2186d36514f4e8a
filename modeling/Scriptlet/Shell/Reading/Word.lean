import Scriptlet.Shell.Reading

/-!
# Reading words

A word ends at a blank or an operator outside of quotes and braces. What is in quotes, in braces, in
an arithmetic expression or in a document ends elsewhere, and other characters have a meaning in it.
How commands are read within a word is a parameter.
-/

namespace Scriptlet.Shell

/-- What the reading of a word is within. -/
inductive Context where
  | outside
  | double
  /-- The braces of a parameter. -/
  | braces
  /-- The braces of a parameter within double quotes. Double quotes in them, when open, take the
  meaning of the closing brace away. -/
  | doubleBraces (isOpen : Bool)
  /-- An arithmetic expression, with so many parentheses open. -/
  | arithmetic (depth : Nat)
  | document (delimiter : List Char) (withoutTabs : Bool)
deriving DecidableEq, Repr

namespace Context

def isQuoted : Context → Bool
  | outside | braces => false
  | _ => true

/-- The context within the braces of a parameter. Patterns start unquoted. -/
def inBraces (ctx : Context) (isPattern : Bool) : Context :=
  if isPattern || !ctx.isQuoted then braces else doubleBraces false

/-- Whether a backslash takes the meaning of a character away, and is itself gone. -/
def escapes (ctx : Context) (c : Char) : Bool :=
  !ctx.isQuoted || c = '\\' || c = '\x60' || c = '$' ||
    match ctx with
    | document _ _ => false
    | doubleBraces _ => c = '"' || c = '\x7d'
    | _ => c = '"'

def complaint : Context → Option String
  | outside | document _ _ => none
  | double | doubleBraces _ => some "Unterminated quoted string"
  | braces => some "Missing '\x7d'"
  | arithmetic _ => some "Missing '))'"

end Context

def endsWord (c : Char) : Bool :=
  c = ' ' || c = '\t' || c = '\n' || c = '<' || c = '>' || c = '(' || c = ')' || c = ';' ||
    c = '&' || c = '|'

def isSpecialName (c : Char) : Bool :=
  c.isDigit || c = '@' || c = '*' || c = '#' || c = '?' || c = '-' || c = '$' || c = '!'

/-- The rest of a text behind a line that is a delimiter, if it starts with one. -/
def behindDelimiter? (delimiter cs : List Char) : Option (List Char) :=
  match behind? delimiter cs with
  | some [] => some []
  | some ('\n' :: rest) => some rest
  | _ => none

namespace Reader

/-- Starts a line of a document; false if the document ends there. -/
def startsLine (delimiter : List Char) (withoutTabs : Bool) : Reader Bool := do
  if withoutTabs then modify fun s => { s with rest := s.rest.dropWhile (· = '\t') }
  let s ← get
  match behindDelimiter? delimiter s.rest with
  | some rest =>
    set { s with rest, line := s.line + 1 }
    return false
  | none => return !s.rest.isEmpty

def singleQuoted : Reader (List Char) :=
  repeating (fun cs => do
    match ← raw? with
    | none => fail "Unterminated quoted string"
    | some '\'' => return .inr cs.reverse
    | some c => return .inl (c :: cs)) []

/-- The text up to a backquote, which is taken. Backslashes that take the meaning of a character
away are gone. -/
def backquoted (quoted : Bool) : Reader (List Char) :=
  repeating (fun cs => do
    match ← next? with
    | none => fail "EOF in backquote substitution"
    | some '\x60' => return .inr cs.reverse
    | some '\\' =>
      match ← raw? with
      | none => fail "EOF in backquote substitution"
      | some c =>
        let escaped := c = '\\' || c = '\x60' || c = '$' || (quoted && c = '"')
        return .inl (if escaped then c :: cs else c :: '\\' :: cs)
    | some c => return .inl (c :: cs)) []

/-- The text up to a double quote, which is taken, when nothing in it is replaced. -/
def doubleQuoted : Reader (List Char) :=
  repeating (fun cs => do
    match ← next? with
    | none => fail "Unterminated quoted string"
    | some '"' => return .inr cs.reverse
    | some '\\' =>
      match ← raw? with
      | none => return .inl ('\\' :: cs)
      | some c => return .inl (if Context.double.escapes c then c :: cs else c :: '\\' :: cs)
    | some c => return .inl (c :: cs)) []

/-- Documents that are asked for within a substitution, but do not stand in it, are empty. -/
def dropRequests : Reader Unit :=
  modify fun s =>
    { s with
      requests := []
      documents := (s.requests.map fun r => (r.number, [])) ++ s.documents }

def nested (commands : Reader Command) : Reader Command := do
  let requests := (← get).requests
  modify fun s => { s with requests := [] }
  let command ← commands
  dropRequests
  modify fun s => { s with requests, isBack := false }
  return command

/-- Reads another text, and goes on with the source behind it. -/
def insteadOf (text : List Char) (commands : Reader Command) : Reader Command := do
  let s ← get
  set { s with rest := text, line := 1, isBack := false }
  let command ← commands
  modify fun t => { t with rest := s.rest, line := s.line, isBack := false }
  return command

/-- Takes the operator behind the name of a parameter in braces. -/
def operator : Reader (List Part → Operation) := do
  let emptyToo ← takes ':'
  match ← peek? with
  | some '-' => let _ ← raw?; return .choose .default emptyToo
  | some '+' => let _ ← raw?; return .choose .alternative emptyToo
  | some '?' => let _ ← raw?; return .choose .demand emptyToo
  | some '=' => let _ ← raw?; return .choose .assign emptyToo
  | some c =>
    if emptyToo then
      let _ ← raw?
      return fun _ => if c = '\x7d' then .value else .unknown
    else if c = '%' then
      let _ ← raw?
      return .cutEnd (← takes '%')
    else if c = '#' then
      let _ ← raw?
      return .cutStart (← takes '#')
    else return fun _ => .unknown
  | none => return fun _ => .unknown

/-- The name of a parameter in braces, and whether its length is asked for. -/
def bracedName : Reader (Option String × Bool) := do
  let name (isLength : Bool) : Reader (Option String × Bool) := do
    let isDigits := (← peek?).any Char.isDigit
    let cs ← takeWhile fun c => if isDigits then c.isDigit else isNameChar c
    return (some (String.ofList cs), isLength)
  match ← peek? with
  | none => return (none, false)
  | some '\x7d' => return (none, false)
  | some c =>
    if isNameChar c then name false
    else
      let _ ← raw?
      if c = '#' then
        match ← peek? with
        | none => return (some "#", false)
        | some d =>
          if isNameChar d then name true
          else
            let s ← get
            let _ ← raw?
            let isLength := d != '\x7d' && (← peek?) = some '\x7d'
            if isLength then
              return (if isSpecialName d then some (String.singleton d) else none, true)
            else
              set s
              return (some "#", false)
      else return (if isSpecialName c then some (String.singleton c) else none, false)

end Reader

/-- How commands within words are read. -/
structure Nested where
  /-- Commands to the end of the source. -/
  toEnd : Reader Command
  /-- Commands and the parenthesis behind them. -/
  toParenthesis : Reader Command

/-- The parts of a word from within a context on, behind those before, which are in reverse. -/
def parts (commands : Nested) : Nat → Context → List Part → Reader Word
  | 0, _, _ => Reader.fail "too long"
  | n + 1, ctx, before => do
    let isQuoted := ctx.isQuoted
    let goOn (ctx : Context) (more : List Part) := parts commands n ctx (more.reverse ++ before)
    let take (c : Char) : Reader Word := do
      let _ ← Reader.raw?
      goOn ctx [.char c isQuoted]
    let finish : Reader Word := do
      let _ ← Reader.raw?
      return before.reverse
    match ← Reader.peek? with
    | none =>
      match ctx.complaint with
      | some message => Reader.fail message
      | none => return before.reverse
    | some '\\' =>
      let _ ← Reader.raw?
      match ← Reader.raw? with
      | none => goOn ctx [.char '\\' true]
      | some c =>
        goOn ctx (if ctx.escapes c then [.char c true] else [.char '\\' true, .char c true])
    | some '\x60' =>
      let _ ← Reader.raw?
      let text ← Reader.backquoted isQuoted
      let command ← Reader.nested (Reader.insteadOf text commands.toEnd)
      goOn ctx [.output command isQuoted]
    | some '$' =>
      let _ ← Reader.raw?
      match ← Reader.peek? with
      | some '(' =>
        let _ ← Reader.raw?
        if ← Reader.takes '(' then
          goOn ctx [.arithmetic (← parts commands n (.arithmetic 0) []) isQuoted]
        else goOn ctx [.output (← Reader.nested commands.toParenthesis) isQuoted]
      | some '\x7b' =>
        let _ ← Reader.raw?
        let (name, isLength) ← Reader.bracedName
        match name, isLength, ← Reader.peek? with
        | some name, false, some '\x7d' =>
          let _ ← Reader.raw?
          goOn ctx [.parameter name .value isQuoted]
        | some name, true, some '\x7d' =>
          let _ ← Reader.raw?
          goOn ctx [.parameter name .length isQuoted]
        | some name, false, _ =>
          let operation ← Reader.operator
          let isPattern := operation [] matches .cutEnd .. | .cutStart ..
          let word ← parts commands n (ctx.inBraces isPattern) []
          goOn ctx [.parameter name (operation word) isQuoted]
        | _, _, _ =>
          let _ ← parts commands n (ctx.inBraces false) []
          goOn ctx [.parameter "" .unknown isQuoted]
      | some c =>
        if isNameStart c then
          let name ← Reader.takeWhile isNameChar
          goOn ctx [.parameter (String.ofList name) .value isQuoted]
        else if isSpecialName c then
          let _ ← Reader.raw?
          goOn ctx [.parameter (String.singleton c) .value isQuoted]
        else goOn ctx [.char '$' isQuoted]
      | none => goOn ctx [.char '$' isQuoted]
    | some c =>
      match ctx, c with
      | .outside, '\'' | .braces, '\'' =>
        let _ ← Reader.raw?
        let cs ← Reader.singleQuoted
        goOn ctx (.quote :: cs.map (.char · true) ++ [.quote])
      | .outside, '"' | .braces, '"' =>
        let _ ← Reader.raw?
        goOn ctx (.quote :: (← parts commands n .double []) ++ [.quote])
      | .outside, c => if endsWord c then return before.reverse else take c
      | .double, '"' => finish
      | .braces, '\x7d' => finish
      | .doubleBraces false, '\x7d' => finish
      | .doubleBraces isOpen, '"' =>
        let _ ← Reader.raw?
        goOn (.doubleBraces !isOpen) []
      | .arithmetic depth, '(' =>
        let _ ← Reader.raw?
        goOn (.arithmetic (depth + 1)) [.char c true]
      | .arithmetic depth, ')' =>
        let _ ← Reader.raw?
        if depth > 0 then goOn (.arithmetic (depth - 1)) [.char c true]
        else if ← Reader.takes ')' then return before.reverse
        else goOn ctx [.char c true]
      | .document delimiter withoutTabs, '\n' =>
        let _ ← Reader.raw?
        if ← Reader.startsLine delimiter withoutTabs then goOn ctx [.char c true]
        else return (Part.char c true :: before).reverse
      | _, c => take c

def word (commands : Nested) : Reader Word := do
  parts commands (← get).room .outside []

/-- A word that is the delimiter of a document, in which nothing is replaced. -/
def delimiter : Reader (String × Bool) :=
  Reader.repeating (fun (cs, isQuoted) => do
    let text := (String.ofList cs.reverse, isQuoted)
    match ← Reader.peek? with
    | none => return .inr text
    | some '\'' =>
      let _ ← Reader.raw?
      return .inl ((← Reader.singleQuoted).reverse ++ cs, true)
    | some '"' =>
      let _ ← Reader.raw?
      let inside ← Reader.doubleQuoted
      return .inl (inside.reverse ++ cs, true)
    | some '\\' =>
      let _ ← Reader.raw?
      match ← Reader.raw? with
      | none => return .inl ('\\' :: cs, true)
      | some c => return .inl (c :: cs, true)
    | some c =>
      if endsWord c then return .inr text
      else
        let _ ← Reader.raw?
        return .inl (c :: cs, isQuoted)) ([], false)

end Scriptlet.Shell
