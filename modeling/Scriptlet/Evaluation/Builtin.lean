import Scriptlet.Evaluation.Environment
import Scriptlet.Text.Utf8

/-!
# The built-in functions

Each takes a fixed number of arguments, except that the two that print take any number.
-/

namespace Scriptlet

/-- The texts of values with spaces between them. -/
def displayAll (values : List Value) : String :=
  separated " " (values.map Value.display)

namespace Builtin

def print (text : String) : Eval Value := do
  Exec.record (.printed text)
  pure .nil

/-- The number of characters of a text, or of elements of a collection. -/
def length (v : Value) (site : Position) : Except RuntimeError Value :=
  let counted (n : Nat) : Except RuntimeError Value := .ok (.int (Int64.ofNat n))
  match v with
  | .string s => counted s.length
  | .list items => counted items.length
  | .map entries => counted entries.size
  | v => .error (v.typeError (.native len.name) site)

/-- Reads a pattern, on behalf of this function. -/
def readPattern (env : Environment) (b : Builtin) (pattern : String) (site : Position) :
    Except RuntimeError (String → Bool) :=
  match env.compile pattern with
  | .ok isMatch => .ok isMatch
  | .error details => .error (.native b.name details site)

/-- Whether a pattern matches somewhere in a text. The pattern is read before the text is looked
at. -/
def isMatch (env : Environment) (pattern text : Value) (site : Position) :
    Except RuntimeError Bool := do
  let pattern ← pattern.asString (.native regexMatch.name) site
  let isMatch ← readPattern env regexMatch pattern site
  let text ← text.asString (.native regexMatch.name) site
  pure (isMatch text)

/-- The value of the first entry whose key is a pattern that matches somewhere in the text. Later
patterns are not read. -/
def firstMatch (env : Environment) (b : Builtin) (text : String) (site : Position) :
    List (String × Value) → Except RuntimeError (Option Value)
  | [] => .ok none
  | (pattern, value) :: rest => do
    let isMatch ← readPattern env b pattern site
    if isMatch text then .ok (some value) else firstMatch env b text site rest

/-- The value of the first entry of a mapping whose key matches. -/
def searchMap (env : Environment) (b : Builtin) (patterns text : Value) (site : Position) :
    Except RuntimeError (Option Value) :=
  match patterns with
  | .map entries => do
    let text ← text.asString (.native b.name) site
    firstMatch env b text site entries.entries
  | patterns => .error (.type (.native b.name) (.two patterns.kind text.kind) site)

/-- Runs a shell command for its output. That the command reports a failure is recorded only. -/
def runCommand (env : Environment) (command : Value) (site : Position) : Eval Value := do
  let command ← Exec.ofOutcome (command.asString (.native sh.name) site)
  Exec.record (.commandStarted command)
  match env.shell command with
  | .error details => throw (.native sh.name details site)
  | .ok outcome =>
    unless outcome.status.isSuccess do
      Exec.record (.commandFailed command outcome.status)
    pure (.string (String.ofList (Utf8.decodeLossy outcome.output)))

/-- Calls a built-in function. -/
def call (env : Environment) (b : Builtin) (arguments : List Value) (site : Position) :
    Eval Value :=
  match b, arguments with
  | echo, values => print (displayAll values)
  | echoln, values => print (displayAll values ++ "\n")
  | len, [v] => Exec.ofOutcome (length v site)
  | typeOf, [v] => pure (.string v.kind.name)
  | str, [v] => pure (.string v.display)
  | regexMatch, [pattern, text] =>
    Exec.ofOutcome ((isMatch env pattern text site).map Value.bool)
  | regexMapMatch, [patterns, text] =>
    Exec.ofOutcome ((searchMap env regexMapMatch patterns text site).map fun found =>
      .bool found.isSome)
  | regexMapValue, [patterns, text] =>
    Exec.ofOutcome ((searchMap env regexMapValue patterns text site).map fun found =>
      found.getD .nil)
  | sh, [command] => runCommand env command site
  | b, arguments => throw (.arity b.name b.arity arguments.length site)

end Builtin

end Scriptlet
