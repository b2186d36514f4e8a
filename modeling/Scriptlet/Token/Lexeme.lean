import Scriptlet.Token

/-!
# Lexemes

The longest piece of text at the front of a source that is a token, taken without regard to where
it stands. `Lexeme.first` classifies it; `first_text_append` says that nothing is lost, and
`first_rest_length` that every lexeme takes up at least one character.
-/

namespace Scriptlet

/-- What a piece of text is. -/
inductive Lexeme.Shape where
  /-- A token of this kind. -/
  | token (kind : Token.Kind)
  /-- A quote and everything after it, for want of a closing quote. -/
  | openString
  /-- A character that starts no token. -/
  | unknown
deriving DecidableEq, Repr

/-- A piece of text and what follows it. -/
structure Lexeme where
  shape : Lexeme.Shape
  text : List Char
  rest : List Char
deriving DecidableEq, Repr

namespace Lexeme

/-- Blanks separate tokens and are otherwise skipped. A line break is none of them. -/
def isBlank (c : Char) : Bool :=
  c = ' ' || c = '\t' || c = '\r' || c = '\x0c'

/-- Decimal digits, of ASCII only. -/
def isDigit (c : Char) : Bool :=
  '0' ≤ c && c ≤ '9'

/-- Characters that start a name: the letters of ASCII and the underscore. -/
def isNameStart (c : Char) : Bool :=
  ('a' ≤ c && c ≤ 'z') || ('A' ≤ c && c ≤ 'Z') || c = '_'

/-- Characters that continue a name. -/
def isNamePart (c : Char) : Bool :=
  isNameStart c || isDigit c

/-- The kind of a word: some names are reserved. -/
def wordKind (word : String) : Token.Kind :=
  match word with
  | "true" => .trueWord
  | "false" => .falseWord
  | "if" => .ifWord
  | "else" => .elseWord
  | "for" => .forWord
  | "in" => .inWord
  | "not" => .notWord
  | "return" => .returnWord
  | "break" => .breakWord
  | "continue" => .continueWord
  | _ => .name

/-- The kind of a character that is a token by itself, unless a longer one starts with it. -/
def symbolKind (c : Char) : Option Token.Kind :=
  match c with
  | '\n' => some .newLine
  | '+' => some .plus
  | '-' => some .minus
  | '*' => some .star
  | '/' => some .slash
  | '>' => some .greater
  | '<' => some .less
  | '=' => some .assign
  | '.' => some .dot
  | ',' => some .comma
  | '(' => some .leftParen
  | ')' => some .rightParen
  | '{' => some .leftBrace
  | '}' => some .rightBrace
  | '[' => some .leftBracket
  | ']' => some .rightBracket
  | _ => none

/-- The kind of a comparison sign followed by an equals sign. -/
def withEqualKind (c : Char) : Option Token.Kind :=
  match c with
  | '>' => some .greaterEqual
  | '<' => some .lessEqual
  | '=' => some .equalEqual
  | _ => none

/-- The lexeme that starts with the character `c` and takes all of `cs` that satisfies `p`. -/
def run (shape : List Char → Shape) (p : Char → Bool) (c : Char) (cs : List Char) : Lexeme :=
  let text := c :: cs.takeWhile p
  { shape := shape text, text, rest := cs.dropWhile p }

/-- The string literal whose opening quote stands before `cs`. -/
def quoted (cs : List Char) : Lexeme :=
  let body := cs.takeWhile (· != '\'')
  match cs.dropWhile (· != '\'') with
  | [] => { shape := .openString, text := '\'' :: body, rest := [] }
  | q :: rest => { shape := .token .string, text := '\'' :: body ++ [q], rest }

/-- The lexeme of a character that starts neither a word, a number nor a string. -/
def symbol (c : Char) (cs : List Char) : Lexeme :=
  let single : Lexeme :=
    { shape := (symbolKind c).elim .unknown .token, text := [c], rest := cs }
  match cs with
  | [] => single
  | d :: ds =>
    if c = '/' && d = '/' then
      run (fun _ => .token .comment) (· != '\n') c cs
    else if d = '=' then
      (withEqualKind c).elim single fun kind =>
        { shape := .token kind, text := [c, d], rest := ds }
    else single

/-- The lexeme at the front of a text that starts with `c`. -/
def firstFrom (c : Char) (cs : List Char) : Lexeme :=
  if isNameStart c then
    run (fun text => .token (wordKind (String.ofList text))) isNamePart c cs
  else if isDigit c then
    run (fun _ => .token .integer) isDigit c cs
  else if c = '\'' then quoted cs
  else symbol c cs

/-- The lexeme at the front of a text; there is none exactly when the text is empty. -/
def first : List Char → Option Lexeme
  | [] => none
  | c :: cs => some (firstFrom c cs)

/-- What a token of this text carries: strings lose their quotes, comments their slashes. -/
def data (kind : Token.Kind) (text : List Char) : String :=
  match kind with
  | .string => String.ofList (text.drop 1).dropLast
  | .comment => String.ofList (text.drop 2)
  | _ => String.ofList text

theorem run_text_append (shape : List Char → Shape) (p : Char → Bool) (c : Char)
    (cs : List Char) : (run shape p c cs).text ++ (run shape p c cs).rest = c :: cs := by
  simp [run]

theorem quoted_text_append (cs : List Char) :
    (quoted cs).text ++ (quoted cs).rest = '\'' :: cs := by
  have h := List.takeWhile_append_dropWhile (p := (· != '\'')) (l := cs)
  unfold quoted
  split
  · rename_i h'
    rw [h', List.append_nil] at h
    simpa using h
  · rename_i h'
    rw [h'] at h
    simpa using h

theorem symbol_text_append (c : Char) (cs : List Char) :
    (symbol c cs).text ++ (symbol c cs).rest = c :: cs := by
  unfold symbol
  split
  · rfl
  · rename_i d ds
    split
    · exact run_text_append ..
    · split
      · cases withEqualKind c <;> rfl
      · rfl

theorem firstFrom_text_append (c : Char) (cs : List Char) :
    (firstFrom c cs).text ++ (firstFrom c cs).rest = c :: cs := by
  unfold firstFrom
  split
  · exact run_text_append ..
  · split
    · exact run_text_append ..
    · split
      · rename_i h
        subst h
        exact quoted_text_append cs
      · exact symbol_text_append c cs

/-- A lexeme and what follows it make up the text. -/
theorem first_text_append {cs : List Char} {l : Lexeme} (h : first cs = some l) :
    l.text ++ l.rest = cs := by
  cases cs with
  | nil => simp [first] at h
  | cons c cs =>
    obtain rfl : firstFrom c cs = l := by simpa [first] using h
    exact firstFrom_text_append c cs

theorem firstFrom_text_ne_nil (c : Char) (cs : List Char) : (firstFrom c cs).text ≠ [] := by
  unfold firstFrom
  split
  · simp [run]
  · split
    · simp [run]
    · split
      · unfold quoted
        split <;> simp
      · unfold symbol
        split
        · simp
        · split
          · simp [run]
          · split
            · cases withEqualKind c <;> simp
            · simp

/-- A lexeme takes up at least one character. -/
theorem first_rest_length {cs : List Char} {l : Lexeme} (h : first cs = some l) :
    l.rest.length < cs.length := by
  have hne : l.text ≠ [] := by
    cases cs with
    | nil => simp [first] at h
    | cons c cs =>
      obtain rfl : firstFrom c cs = l := by simpa [first] using h
      exact firstFrom_text_ne_nil c cs
  have hlen := congrArg List.length (first_text_append h)
  have hpos := List.length_pos_iff.mpr hne
  simp only [List.length_append] at hlen
  omega

end Lexeme

end Scriptlet
