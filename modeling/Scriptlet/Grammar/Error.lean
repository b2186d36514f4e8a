import Scriptlet.Token

/-!
# Why a source is no program

The causes for which reading a program fails, and their wording. Reading stops at the first.
-/

namespace Scriptlet

/-- What would have let the reading go on. -/
inductive Expectation where
  | statement
  | expression
  | name
  | memberName
  | inWord
  | openParen
  | closeParen
  | closeBracket
  | openBrace
  /-- What may follow an element of a list in brackets or parentheses. -/
  | elementEnd
  /-- What may follow the word `else`. -/
  | branch
  /-- What may follow a statement within braces. -/
  | statementEndInBlock
  /-- What may follow a statement outside of braces. -/
  | statementEnd
deriving DecidableEq, Repr

/-- The wording of an expectation. -/
def Expectation.describe : Expectation → String
  | statement => "a statement"
  | expression => "an expression"
  | name => "a name"
  | memberName => "a member name"
  | inWord => "'in'"
  | openParen => "'('"
  | closeParen => "')'"
  | closeBracket => "']'"
  | openBrace => "'\x7b'"
  | elementEnd => "',' or a closing delimiter"
  | branch => "'if' or '\x7b' after else"
  | statementEndInBlock => "a new line or '\x7d'"
  | statementEnd => "a new line"

/-- Why a source is no program. -/
inductive ParseError where
  /-- It has no tokens. -/
  | lex (error : LexError)
  /-- A token stands where it cannot. -/
  | unexpectedToken (token : String) (expected : Expectation) (position : Position)
  /-- The tokens end within something. -/
  | unexpectedEndOfInput (expected : Expectation) (position : Position)
  /-- A brace is never closed; the position is the brace's. -/
  | unterminatedBlock (position : Position)
  /-- What stands before an equals sign is neither a name nor a member. -/
  | invalidAssignmentTarget (target : String) (position : Position)
  /-- A parameter is not a name. -/
  | invalidParameter (parameter : String) (position : Position)
  /-- A numeral is beyond 64 bits. -/
  | literalTooLarge (literal : String) (position : Position)
deriving DecidableEq, Repr

namespace ParseError

/-- The place to which the error refers. -/
def position : ParseError → Position
  | lex e => e.position
  | unexpectedToken _ _ p => p
  | unexpectedEndOfInput _ p => p
  | unterminatedBlock p => p
  | invalidAssignmentTarget _ p => p
  | invalidParameter _ p => p
  | literalTooLarge _ p => p

/-- What is wrong, without the place. -/
def details : ParseError → String
  | lex e => e.details
  | unexpectedToken token expected _ =>
    "Unexpected token '" ++ token ++ "', expected " ++ expected.describe ++ "."
  | unexpectedEndOfInput expected _ =>
    "Unexpected end of input, expected " ++ expected.describe ++ "."
  | unterminatedBlock _ => "Block is never closed."
  | invalidAssignmentTarget target _ => "Cannot assign to '" ++ target ++ "'."
  | invalidParameter parameter _ =>
    "Invalid parameter '" ++ parameter ++ "', parameters must be names."
  | literalTooLarge literal _ => "Integer literal '" ++ literal ++ "' is too large."

/-- The message: the place and what is wrong there. -/
def message (e : ParseError) : String :=
  e.position.blame e.details

end ParseError

end Scriptlet
