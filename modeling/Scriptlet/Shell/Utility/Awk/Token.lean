import Scriptlet.Shell.Format
import Scriptlet.Shell.Utility.Awk.Value

/-!
# Tokens of programs over records

A slash starts a pattern where an operand can stand, and divides behind one.
-/

namespace Scriptlet.Shell.Awk

/-- A token. -/
inductive Token where
  | number (x : Float)
  | text (s : String)
  | pattern (cs : List Char)
  | name (s : String)
  /-- A name with an opening parenthesis right behind it. -/
  | called (s : String)
  | keyword (s : String)
  | builtin (s : String)
  | sign (s : String)
  | lineEnd

namespace Token

def keywords : List String :=
  ["BEGIN", "END", "function", "if", "else", "while", "for", "do", "break", "continue", "next",
   "nextfile", "exit", "return", "delete", "in", "getline", "print", "printf"]

def builtins : List String :=
  ["length", "substr", "index", "split", "sub", "gsub", "match", "sprintf", "sin", "cos", "atan2",
   "exp", "log", "sqrt", "int", "rand", "srand", "tolower", "toupper", "close", "fflush"]

/-- The signs, longer ones before those that they start with. -/
def signs : List String :=
  ["&&", "||", "==", "!=", "<=", ">=", "++", "--", "+=", "-=", "*=", "/=", "%=", "^=", ">>", "!~",
   "\x7b", "\x7d", "(", ")", "[", "]", ";", ",", "+", "-", "*", "/", "%", "^", "!", "<", ">", "?",
   ":", "~", "$", "="]

def endsOperand : Token → Bool
  | number _ | text _ | pattern _ | name _ | builtin _ => true
  | sign s => s = ")" || s = "]" || s = "++" || s = "--"
  | _ => false

/-- A text in quotes up to the closing one, with its escapes replaced, and what is behind it. The
number bounds how long it is. -/
def readText : Nat → List Char → Option (List Char × List Char)
  | 0, _ => none
  | _, [] => none
  | _, '\n' :: _ => none
  | _, '"' :: rest => some ([], rest)
  | n + 1, '\\' :: c :: rest =>
    let (cs, rest) : List Char × List Char :=
      if c = '\n' then ([], rest)
      else if c = '"' then ([c], rest)
      else if c = 'e' then (['\\', c], rest)
      else
        let (d, behind) := escape (c :: rest)
        if d = '\\' && c != '\\' then (['\\', c], rest) else ([d], behind)
    (readText n rest).map fun (ds, rest) => (cs ++ ds, rest)
  | n + 1, c :: rest => (readText n rest).map fun (cs, rest) => (c :: cs, rest)

/-- A pattern up to the slash that closes it, and what is behind it. A slash in brackets, or behind
a backslash, closes nothing. -/
def readPattern (inBrackets : Bool) : List Char → Option (List Char × List Char)
  | [] => none
  | '\n' :: _ => none
  | '\\' :: '/' :: rest => (readPattern inBrackets rest).map fun (cs, rest) => ('/' :: cs, rest)
  | '\\' :: c :: rest =>
    (readPattern inBrackets rest).map fun (cs, rest) => ('\\' :: c :: cs, rest)
  | c :: rest =>
    if c = '/' && !inBrackets then some ([], rest)
    else
      let inBrackets := if inBrackets then c != ']' else c = '['
      (readPattern inBrackets rest).map fun (cs, rest) => (c :: cs, rest)

def ofWord (word : String) (rest : List Char) : Token :=
  if word = "func" then keyword "function"
  else if keywords.contains word then keyword word
  else if builtins.contains word then builtin word
  else if rest.head? = some '(' then called word
  else name word

/-- The tokens of a text. The number bounds how many there are, and the flag tells whether an
operand is in front. -/
def scan : Nat → Bool → List Char → Except String (List Token)
  | 0, _, _ => .ok []
  | _, _, [] => .ok []
  | n + 1, behindOperand, c :: rest => do
    let goOn (token : Token) (rest : List Char) : Except String (List Token) := do
      return token :: (← scan n token.endsOperand rest)
    if c = '\n' then goOn lineEnd rest
    else if c = '#' then scan n behindOperand (rest.dropWhile (· != '\n'))
    else if c = '\\' && rest.head? = some '\n' then scan n behindOperand (rest.drop 1)
    else if isSpace c then scan n behindOperand rest
    else if c = '"' then
      match readText (rest.length + 1) rest with
      | some (cs, rest) => goOn (text (String.ofList cs)) rest
      | none => throw "runaway string constant"
    else if c = '/' && !behindOperand then
      match readPattern false rest with
      | some (cs, rest) => goOn (pattern cs) rest
      | none => throw "runaway regular expression"
    else if isNameStart c then
      let word := (c :: rest).takeWhile isNameChar
      let rest := (c :: rest).drop word.length
      goOn (ofWord (String.ofList word) rest) rest
    else if c.isDigit || (c = '.' && rest.head?.any Char.isDigit) then
      let isZero :=
        c = '0' && rest.head?.any fun next => next.isAlpha && next.toLower != 'e'
      match if isZero then some (.finite 0 0, rest) else Real.magnitude? (c :: rest) with
      | some (m, rest) => goOn (number ({ magnitude := m } : Real).toFloat) rest
      | none => throw "bad numeral"
    else
      match signs.find? fun s => (behind? s.toList (c :: rest)).isSome with
      | some s => goOn (sign s) ((c :: rest).drop s.length)
      | none => throw ("unexpected character '" ++ String.singleton c ++ "'")

def ofText (cs : List Char) : Except String (List Token) :=
  scan (cs.length + 1) false cs

end Token

end Scriptlet.Shell.Awk
