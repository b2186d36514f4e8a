import Scriptlet.Token.Cursor

/-!
# The lexer

A cursor with a memory of its source, so that it can be rewound, and of whether its stream of tokens
has ended. The stream ends behind the token for the end of the source and behind an error; reading
tokens one by one goes on regardless.
-/

namespace Scriptlet

/-- A cursor over a source, and whether its stream has ended. -/
structure Lexer where
  source : List Char
  cursor : Cursor
  finished : Bool := false
deriving DecidableEq, Repr, Inhabited

namespace Lexer

def ofSource (source : String) : Lexer :=
  { source := source.toList, cursor := .start source.toList }

/-- The lexer at the start of its source again. -/
def reset (lexer : Lexer) : Lexer :=
  { source := lexer.source, cursor := .start lexer.source }

/-- The octet that is the `k`-th to come, counted from one. -/
def peek (lexer : Lexer) (k : Nat) : Option UInt8 :=
  lexer.cursor.peek k

/-- Moves over `k` octets, rounded up to whole characters, and answers what was passed. -/
def consume (lexer : Lexer) (k : Nat) : String × Lexer :=
  let (taken, cursor) := lexer.cursor.consume k
  (String.ofList taken, { lexer with cursor })

/-- Reads the next token. The token for the end of the source ends the stream. -/
def nextToken (lexer : Lexer) : Except LexError Token × Lexer :=
  let (result, cursor) := lexer.cursor.next
  let ends := match result with
    | .ok token => token.kind = .endOfInput
    | .error _ => false
  (result, { lexer with cursor, finished := lexer.finished || ends })

/-- The next element of the stream, if it has not ended. An error is its last element. -/
def next? (lexer : Lexer) : Option (Except LexError Token) × Lexer :=
  if lexer.finished then (none, lexer)
  else
    match lexer.nextToken with
    | (.error e, after) => (some (.error e), { after with finished := true })
    | (.ok token, after) => (some (.ok token), after)

end Lexer

end Scriptlet
