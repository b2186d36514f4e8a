import Scriptlet.Shell.Format
import Scriptlet.Shell.Utility.Regular

/-!
# Patterns of programs over records

Extended regular expressions in which a backslash stands in front of an escape or of a character for
itself, in brackets too.
-/

namespace Scriptlet.Shell.Awk

/-- What stands between brackets. -/
structure Bracket where
  isComplement : Bool := false
  /-- What needs no place of its own, in reverse. -/
  body : List Char := []
  /-- Whether a closing bracket, a caret or a hyphen stands for itself. -/
  hasClose : Bool := false
  hasCaret : Bool := false
  hasHyphen : Bool := false

namespace Bracket

def add (b : Bracket) (c : Char) : Bracket :=
  match c with
  | ']' => { b with hasClose := true }
  | '^' => { b with hasCaret := true }
  | '-' => { b with hasHyphen := true }
  | c => { b with body := c :: b.body }

/-- The notation without backslashes: each of the signs has a place where it stands for itself. -/
def spell (b : Bracket) : List Char :=
  let inside := (if b.hasClose then [']'] else []) ++ b.body.reverse
  let inside := if b.hasHyphen && inside.isEmpty then ['-'] else inside
  let hyphen := if b.hasHyphen && inside != ['-'] then ['-'] else []
  let caret := if b.hasCaret then ['^'] else []
  if inside.isEmpty && b.hasCaret && !b.isComplement then ['\\', '^']
  else '[' :: (if b.isComplement then ['^'] else []) ++ inside ++ caret ++ hyphen ++ [']']

end Bracket

/-- The character that is meant by what stands behind a backslash, and what is behind it. -/
def escaped (c : Char) (rest : List Char) : Char × List Char :=
  let (d, behind) := escape (c :: rest)
  if c = 'e' || d = '\\' then (c, rest) else (d, behind)

/-- The notation of a pattern in which backslashes stand only in front of signs. The number bounds
how long it is; inside of brackets, what has been read of them is given. -/
def plainNotation : Nat → Option Bracket → List Char → List Char
  | 0, _, _ => []
  | _, none, [] => []
  | _, some b, [] => '[' :: b.body.reverse
  | n + 1, none, '\\' :: c :: rest =>
    if c.isAlphanum then
      let (d, rest) := escaped c rest
      d :: plainNotation n none rest
    else '\\' :: c :: plainNotation n none rest
  | n + 1, none, '[' :: '^' :: ']' :: rest =>
    plainNotation n (some { isComplement := true, hasClose := true }) rest
  | n + 1, none, '[' :: '^' :: rest => plainNotation n (some { isComplement := true }) rest
  | n + 1, none, '[' :: ']' :: rest => plainNotation n (some { hasClose := true }) rest
  | n + 1, none, '[' :: rest => plainNotation n (some {}) rest
  | n + 1, none, c :: rest => c :: plainNotation n none rest
  | n + 1, some b, '\\' :: c :: rest =>
    let (d, rest) := escaped c rest
    plainNotation n (some (b.add d)) rest
  | n + 1, some b, '[' :: ':' :: rest =>
    let name := rest.takeWhile (· != ']')
    let body := (']' :: name.reverse) ++ ':' :: '[' :: b.body
    plainNotation n (some { b with body }) (rest.drop (name.length + 1))
  | n + 1, some b, ']' :: rest => b.spell ++ plainNotation n none rest
  | n + 1, some b, c :: rest => plainNotation n (some { b with body := c :: b.body }) rest

def patternOf (cs : List Char) : Except String Regular := do
  return (← Regular.ofText true (plainNotation (cs.length + 1) none cs)).1

def partsBetween (r : Regular) (cs : List Char) : List String :=
  let all := (r.matchesIn false cs).filter fun m => !m.text.isEmpty
  let last := (all.getLast?.map Regular.Match.rest).getD cs
  if cs.isEmpty then []
  else (all.map fun m => String.ofList m.before) ++ [String.ofList last]

end Scriptlet.Shell.Awk
