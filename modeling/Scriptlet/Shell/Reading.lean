import Scriptlet.Shell.Command

/-!
# Reading commands: the source

Reading takes characters off a source, and knows the line that it is in. A token can be put back. A
document whose text stands below the line that asks for it is noted until that line has ended. The
name of an alias is replaced in the source itself, unless it stands in what replaced it. What is
read are the commands of the shell, for the executable only; the language has a grammar of its own.
-/

namespace Scriptlet.Shell

/-- The words that have a meaning where a command can start. -/
inductive Keyword where
  | bang | caseWord | doWord | done | elifWord | elseWord | esac | fi | forWord | ifWord | inWord
  | thenWord | untilWord | whileWord | opening | closing
deriving DecidableEq, Repr

namespace Keyword

def spellings : List (String × Keyword) :=
  [("!", bang), ("case", caseWord), ("do", doWord), ("done", done), ("elif", elifWord),
   ("else", elseWord), ("esac", esac), ("fi", fi), ("for", forWord), ("if", ifWord),
   ("in", inWord), ("then", thenWord), ("until", untilWord), ("while", whileWord),
   ("\x7b", opening), ("\x7d", closing)]

def spelling (k : Keyword) : String :=
  ((spellings.find? fun p => p.2 = k).map Prod.fst).getD ""

def ends : Keyword → Bool
  | doWord | done | elifWord | elseWord | esac | fi | thenWord | closing => true
  | _ => false

end Keyword

/-- What stands at the start of a redirection. -/
inductive Arrow where
  | file (access : Access)
  | copy
  | document (withoutTabs : Bool)
deriving DecidableEq, Repr

/-- A token. -/
inductive Token where
  | endOfInput
  | newLine
  | semicolon
  | ampersand
  | andThen
  | orElse
  | pipe
  | opening
  | closing
  | endOfCase
  | arrow (descriptor : Nat) (arrow : Arrow)
  /-- A word, and whether anything in it is quoted. -/
  | word (w : Word) (quoted : Bool)
  | keyword (k : Keyword)

namespace Token

/-- The wording of a token. -/
def describe : Token → String
  | endOfInput => "end of file"
  | newLine => "newline"
  | semicolon => "\";\""
  | ampersand => "\"&\""
  | andThen => "\"&&\""
  | orElse => "\"||\""
  | pipe => "\"|\""
  | opening => "\"(\""
  | closing => "\")\""
  | endOfCase => "\";;\""
  | arrow _ _ => "redirection"
  | word _ _ => "word"
  | keyword k => "\"" ++ k.spelling ++ "\""

def ends : Token → Bool
  | endOfInput | closing | endOfCase => true
  | keyword k => k.ends
  | _ => false

def plain? : Token → Option String
  | word w false => w.plain?
  | _ => none

end Token

instance : Inhabited Token := ⟨.endOfInput⟩

/-- A document that has been asked for. -/
structure Request where
  number : Nat
  delimiter : String
  withoutTabs : Bool
  /-- Whether the text stands for itself. -/
  quoted : Bool
deriving Repr

/-- Why a source is no command, and the line in which that is found. -/
structure Misreading where
  line : Nat
  message : String
deriving Repr

/-- What is left to be read. -/
structure Source where
  rest : List Char
  /-- How long the whole text is. -/
  size : Nat
  /-- How often a step may be repeated: more often than there is anything to take. -/
  room : Nat := 0
  line : Nat := 1
  /-- The token read last. -/
  last : Token := .endOfInput
  /-- Whether it has been put back. -/
  isBack : Bool := false
  requests : List Request := []
  /-- The texts of documents, by number, the latest first. -/
  documents : List (Nat × Word) := []
  documentCount : Nat := 0
  aliases : List (String × String) := []
  /-- The aliases in whose replacement the reading is, and how much is left behind that. -/
  replaced : List (String × Nat) := []
  /-- Whether the next word can be an alias because the last replacement ends with a blank. -/
  aliasNext : Bool := false

/-- Reads something off a source. -/
abbrev Reader := StateT Source (Except Misreading)

namespace Reader

variable {α σ : Type}

def fail (message : String) : Reader α := do
  throw { line := (← get).line, message := "Syntax error: " ++ message }

def unexpected (expected : Option Token) : Reader α := do
  let found := (← get).last.describe ++ " unexpected"
  match expected with
  | none => fail found
  | some token => fail (found ++ " (expecting " ++ token.describe ++ ")")

/-- Repeats a step until it gives a result, at most so many times. -/
def repeatWithin (step : σ → Reader (σ ⊕ α)) : Nat → σ → Reader α
  | 0, _ => fail "too long"
  | n + 1, s => do
    match ← step s with
    | .inl s => repeatWithin step n s
    | .inr a => pure a

/-- Repeats a step that takes something off the source, until it gives a result. -/
def repeating (step : σ → Reader (σ ⊕ α)) (s : σ) : Reader α := do
  repeatWithin step (← get).room s

def raw? : Reader (Option Char) :=
  modifyGet fun s =>
    match s.rest with
    | [] => (none, s)
    | c :: rest => (some c, { s with rest, line := if c = '\n' then s.line + 1 else s.line })

/-- The lines and the text behind line ends that are taken away by a backslash. -/
def joined (line : Nat) : List Char → Nat × List Char
  | '\\' :: '\n' :: rest => joined (line + 1) rest
  | cs => (line, cs)

def skipJoins : Reader Unit :=
  modify fun s =>
    match s.rest with
    | '\\' :: '\n' :: _ =>
      let (line, rest) := joined s.line s.rest
      { s with line, rest }
    | _ => s

def peek? : Reader (Option Char) := do
  skipJoins
  return (← get).rest.head?

def next? : Reader (Option Char) := do
  skipJoins
  raw?

def takes (c : Char) : Reader Bool := do
  if (← peek?) = some c then
    let _ ← raw?
    return true
  else return false

/-- Takes characters as long as they satisfy a condition. -/
def takeWhile (p : Char → Bool) : Reader (List Char) :=
  repeating (fun cs => do
    match ← peek? with
    | some c =>
      if p c then
        let _ ← raw?
        return .inl (c :: cs)
      else return .inr cs.reverse
    | none => return .inr cs.reverse) []

def back : Reader Unit :=
  modify fun s => { s with isBack := true }

end Reader

/-- The line and the text behind blanks and comments. -/
def skipBlanks (inComment : Bool) (line : Nat) : List Char → Nat × List Char
  | [] => (line, [])
  | c :: rest =>
    if inComment then if c = '\n' then (line, c :: rest) else skipBlanks true line rest
    else if c = ' ' || c = '\t' then skipBlanks false line rest
    else if c = '#' then skipBlanks true line rest
    else
      match c, rest with
      | '\\', '\n' :: rest => skipBlanks false (line + 1) rest
      | c, rest => (line, c :: rest)

end Scriptlet.Shell
