import Scriptlet.Position

/-!
# Tokens

The words that a program is made of, each with its text and its place in the source, and the error
for text that is no word.
-/

namespace Scriptlet

/-- What a token is, whatever its text. -/
inductive Token.Kind where
  /-- An identifier. -/
  | name
  /-- Decimal digits. -/
  | integer
  /-- A text between single quotes. -/
  | string
  | trueWord
  | falseWord
  | plus
  | minus
  | star
  | slash
  | greater
  | greaterEqual
  | less
  | lessEqual
  | equalEqual
  | assign
  | dot
  | comma
  | leftParen
  | rightParen
  | leftBrace
  | rightBrace
  | leftBracket
  | rightBracket
  | ifWord
  | elseWord
  | forWord
  | inWord
  | notWord
  /-- The two words `not in`, which form one operator. -/
  | notIn
  | returnWord
  | breakWord
  | continueWord
  /-- A line break, which ends a statement. -/
  | newLine
  /-- Two slashes and the rest of the line. -/
  | comment
  /-- The end of the source. -/
  | endOfInput
deriving DecidableEq, Repr, Inhabited

/-- A token. The `data` of a string leaves out the quotes, that of a comment the two slashes. -/
structure Token where
  kind : Token.Kind
  data : String
  position : Position
deriving DecidableEq, Repr, Inhabited

def Token.display (t : Token) : String :=
  match t.kind with
  | .endOfInput => "end of input"
  | .newLine => "new line"
  | .string => "'" ++ t.data ++ "'"
  | .comment => "//" ++ t.data
  | _ => t.data

/-- Why a source has no tokens. -/
inductive LexError where
  /-- A character that starts no token. -/
  | unrecognizedInput (text : String) (position : Position)
  /-- A quote without a partner. -/
  | unterminatedString (position : Position)
  /-- Octets that are no text. -/
  | invalidUtf8 (position : Position)
deriving DecidableEq, Repr

namespace LexError

def position : LexError → Position
  | unrecognizedInput _ p | unterminatedString p | invalidUtf8 p => p

def details : LexError → String
  | unrecognizedInput text _ => "Unrecognized input '" ++ text ++ "'."
  | unterminatedString _ => "Unterminated string literal."
  | invalidUtf8 _ => "Source is not valid UTF-8."

/-- The message: the place and what is wrong there. -/
def message (e : LexError) : String :=
  e.position.blame e.details

end LexError

end Scriptlet
