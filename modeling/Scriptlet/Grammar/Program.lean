import Scriptlet.Grammar.Parser
import Scriptlet.Token.Cursor

/-!
# From sources to programs

The entry points: a program from tokens, from a text, or from octets.
-/

namespace Scriptlet

/-- Reads a program, up to but not including the token for the end of the source. -/
def Grammar.program (tokens : List Token) : Parsed Program (tokens.length + 1) :=
  statements .endOfInput tokens

/-- Reads one statement, other than a line break or a comment. -/
def Grammar.firstStatement (tokens : List Token) : Parsed Statement tokens.length :=
  match tokens with
  | [] => .fail (exhausted .statement) []
  | t :: rest => statement t rest

def parseTokens (tokens : List Token) : Except ParseError Program :=
  (Grammar.program tokens).result

def parse (source : String) : Except ParseError Program :=
  ((tokenize source).mapError .lex).bind parseTokens

/-- The expression with which a text begins. -/
def parseExpression (source : String) : Except ParseError Expr :=
  ((tokenize source).mapError .lex).bind fun tokens => (Grammar.expression tokens).result

def parseOctets (octets : List UInt8) : Except ParseError Program :=
  ((tokenizeOctets octets).mapError .lex).bind parseTokens

end Scriptlet
