import Scriptlet.Shell.Octets

/-!
# Commands and words

A command as it has been read: a tree of commands over words. A word is a row of parts; some of them
are replaced when the word is expanded, and one kind of part is again a command.
-/

namespace Scriptlet.Shell

/-- When the word of a parameter stands in for its value. -/
inductive Choice where
  /-- If there is no value. -/
  | default
  /-- If there is a value. -/
  | alternative
  /-- If there is no value; it becomes the value. -/
  | assign
  /-- If there is no value; it is a complaint. -/
  | demand
deriving DecidableEq, Repr, Inhabited

/-- How a redirection opens a file. -/
inductive Access where
  | read
  /-- Makes the file empty. -/
  | write
  /-- Makes the file empty even if files are protected. -/
  | overwrite
  | append
  | both
deriving DecidableEq, Repr, Inhabited

mutual

/-- A part of a word. Whether it is in quotes decides what happens to what it is replaced by. -/
inductive Part where
  | char (c : Char) (quoted : Bool)
  /-- A quote. A word that has any is a field even if nothing is between them. -/
  | quote
  | parameter (name : String) (operation : Operation) (quoted : Bool)
  | arithmetic (expression : List Part) (quoted : Bool)
  /-- What a command writes. -/
  | output (command : Command) (quoted : Bool)

/-- What is done with the value of a parameter. -/
inductive Operation where
  | value
  | length
  /-- Takes the word instead under a condition; an empty value may count as none. -/
  | choose (choice : Choice) (emptyToo : Bool) (word : List Part)
  /-- Takes away the shortest or longest end that fits a pattern. -/
  | cutEnd (longest : Bool) (pattern : List Part)
  /-- Takes away the shortest or longest start that fits a pattern. -/
  | cutStart (longest : Bool) (pattern : List Part)
  /-- Nothing that could be done. -/
  | unknown

/-- A redirection of a descriptor. -/
inductive Redirection where
  | file (descriptor : Nat) (access : Access) (name : List Part)
  /-- To where another descriptor leads, or nowhere. -/
  | copy (descriptor : Nat) (source : List Part)
  /-- To a text in the command, by number. -/
  | document (descriptor : Nat) (number : Nat)

/-- A command. Numbers are those of the lines in which commands start. -/
inductive Command where
  | nothing
  | simple (line : Nat) (assignments words : List (List Part)) (redirections : List Redirection)
  | pipeline (commands : List Command) (waits : Bool)
  | redirected (line : Nat) (body : Command) (redirections : List Redirection)
  /-- A command in a process of its own, which is waited for or not. -/
  | apart (line : Nat) (body : Command) (redirections : List Redirection) (waits : Bool)
  | sequence (first second : Command)
  /-- The second command is run if the first succeeds. -/
  | both (first second : Command)
  /-- The second command is run if the first fails. -/
  | either (first second : Command)
  | negated (body : Command)
  | conditional (condition yes : Command) (no : Option Command)
  /-- Repeats the body while the condition succeeds, or until it does. -/
  | loop (untilSuccess : Bool) (condition body : Command)
  | each (line : Nat) (name : String) (words : List (List Part)) (body : Command)
  | choice (line : Nat) (word : List Part) (cases : List Case)
  | function (line : Nat) (name : String) (body : Command)

/-- A case of a choice: patterns, and what is run for them. -/
inductive Case where
  | mk (patterns : List (List Part)) (body : Command)

end

/-- A word. -/
abbrev Word := List Part

instance : Inhabited Part := ⟨.quote⟩
instance : Inhabited Command := ⟨.nothing⟩

/-- The text of a word that is nothing but unquoted characters. -/
def Word.plain? (w : Word) : Option String :=
  (w.mapM fun
    | Part.char c false => some c
    | _ => none).map String.ofList

def Word.characters (w : Word) : String :=
  String.ofList (w.filterMap fun
    | Part.char c _ => some c
    | _ => none)

/-- The name and the value of an assignment: a word that starts with a name and an equals sign. -/
def Word.assignment? (w : Word) : Option (String × Word) :=
  let name := w.takeWhile fun
    | Part.char c false => isNameChar c
    | _ => false
  match w.drop name.length with
  | .char '=' false :: value =>
    let name := Word.characters name
    if isName name then some (name, value) else none
  | _ => none

end Scriptlet.Shell
