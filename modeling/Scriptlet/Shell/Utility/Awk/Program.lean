import Scriptlet.Shell.Utility.Regular

/-!
# Programs over records

What a program over records consists of: patterns with actions, and functions. Actions are made up
of statements, and those of expressions over numbers and texts.
-/

namespace Scriptlet.Shell.Awk

/-- An operator that makes a number out of two. -/
inductive Arithmetic where
  | add
  | subtract
  | multiply
  | divide
  | remainder
  | power
deriving DecidableEq, Repr

/-- A comparison. -/
inductive Comparison where
  | less
  | atMost
  | same
  | other
  | greater
  | atLeast
deriving DecidableEq, Repr

/-- An expression. -/
inductive Expression where
  | number (x : Float)
  | text (s : String)
  /-- A pattern by itself, which the record is matched with. -/
  | pattern (r : Regular)
  | named (name : String)
  | field (index : Expression)
  | element (name : String) (subscripts : List Expression)
  | isElement (subscripts : List Expression) (name : String)
  /-- An assignment, perhaps of what an operator makes out of the old and the new value. -/
  | assign (operator : Option Arithmetic) (target value : Expression)
  /-- Adds a number to a target; the value is the one before or the one after. -/
  | change (isBefore : Bool) (amount : Float) (target : Expression)
  | negative (e : Expression)
  | positive (e : Expression)
  | not (e : Expression)
  | arithmetic (operator : Arithmetic) (a b : Expression)
  | comparison (operator : Comparison) (a b : Expression)
  | join (a b : Expression)
  | matching (isNegated : Bool) (e pattern : Expression)
  | and (a b : Expression)
  | or (a b : Expression)
  | choice (condition a b : Expression)
  | call (name : String) (arguments : List Expression)
  | builtin (name : String) (arguments : List Expression)
  /-- Reads a line into a target, or into the record, of a file or of the input. -/
  | readLine (target file : Option Expression)
  /-- Expressions in parentheses. -/
  | group (es : List Expression)

def Expression.isTarget : Expression → Bool
  | named _ | field _ | element _ _ => true
  | _ => false

/-- Where an output goes. -/
inductive Destination where
  | output
  | file (isAppended : Bool) (name : Expression)

/-- A statement. -/
inductive Statement where
  | expression (e : Expression)
  | print (arguments : List Expression) (destination : Destination)
  | printf (arguments : List Expression) (destination : Destination)
  | choice (condition : Expression) (yes no : Statement)
  | loop (condition : Expression) (body : Statement)
  | loopAfter (body : Statement) (condition : Expression)
  /-- A loop over the keys of an array. -/
  | each (name array : String) (body : Statement)
  /-- A body of a loop with what is done behind each round. -/
  | round (body behind : Statement)
  | sequence (first second : Statement)
  | nothing
  | next
  | nextFile
  | exit (code : Option Expression)
  | leave
  | goOn
  | finish (value : Option Expression)
  | delete (name : String) (subscripts : List Expression)

/-- What settles whether an action is done. -/
inductive Condition where
  | atStart
  | atEnd
  | always
  | when (e : Expression)
  /-- From a record for which one holds to one for which the other does. -/
  | between (first last : Expression)

/-- A function. -/
structure Function where
  parameters : List String
  body : Statement

/-- A program. -/
structure Program where
  rules : List (Condition × Statement) := []
  functions : List (String × Function) := []

end Scriptlet.Shell.Awk
