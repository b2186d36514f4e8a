/-!
# Source positions

A position names a stretch of the source by the line it starts on, the column of its first octet
within that line, and its length in octets. Lines and columns count from zero; messages show them
counted from one.
-/

namespace Scriptlet

/-- A stretch of source text. The default value is the empty stretch at the very start. -/
structure Position where
  /-- Number of line breaks before the stretch. -/
  line : Nat := 0
  /-- Octets between the last of those line breaks and the stretch. -/
  column : Nat := 0
  /-- Octets in the stretch. -/
  length : Nat := 0
deriving DecidableEq, Repr, Inhabited

namespace Position

/-- The form used in messages: line and column, both counted from one. -/
def place (p : Position) : String :=
  toString (p.line + 1) ++ ":" ++ toString (p.column + 1)

def blame (p : Position) (details : String) : String :=
  "Error at " ++ p.place ++ ": " ++ details

end Position

/-- The number of octets that `text` takes when it is written out. -/
def octets (text : List Char) : Nat :=
  text.foldr (fun c n => c.utf8Size + n) 0

end Scriptlet
