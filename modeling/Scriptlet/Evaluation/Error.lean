import Scriptlet.Grammar.Error
import Scriptlet.Syntax

/-!
# Why a run fails

The causes for which running a program fails, and their wording.
-/

namespace Scriptlet

/-- The types of values. -/
inductive ValueKind where
  | nil
  | bool
  | int
  | string
  | list
  | map
  | function
  | native
deriving DecidableEq, Repr, Inhabited

/-- The name of a type, in programs as in messages. -/
def ValueKind.name : ValueKind → String
  | nil => "nil"
  | bool => "bool"
  | int => "int"
  | string => "string"
  | list => "list"
  | map => "map"
  | function => "function"
  | native => "native"

/-- How many arguments a function takes. -/
inductive Arity where
  | exactly (n : Nat)
  | any
deriving DecidableEq, Repr, Inhabited

namespace Arity

def admits : Arity → Nat → Bool
  | exactly n, m => m = n
  | any, _ => true

def describe : Arity → String
  | exactly n => toString n
  | any => "any number of"

end Arity

/-- What was tried on values of the wrong types. -/
inductive Operation where
  | operator (o : Operator)
  | condition
  | loop
  | fieldAccess
  | index
  | memberAssignment
  /-- A call of what `name` stands for. -/
  | call (name : String)
  /-- The work of a function that is not written in the language, or of its host. -/
  | native (name : String)
deriving DecidableEq, Repr

/-- The wording of an operation. -/
def Operation.describe : Operation → String
  | operator o => "'" ++ o.symbol ++ "'"
  | condition => "if condition"
  | loop => "for loop"
  | fieldAccess => "field access"
  | index => "index"
  | memberAssignment => "member assignment"
  | call name => "call '" ++ name ++ "'"
  | native name => name

/-- The types of the values on which something was tried. -/
inductive Operands where
  | one (kind : ValueKind)
  | two (left right : ValueKind)
deriving DecidableEq, Repr

def Operands.describe : Operands → String
  | one kind => kind.name
  | two left right => left.name ++ " and " ++ right.name

/-- What makes no sense where it stands. -/
inductive StructureFault where
  | breakOutsideLoop
  | continueOutsideLoop
  /-- An assignment to something that is no place. -/
  | notAPlace (target : String)
  /-- An assignment to a member of something that is no place. -/
  | notThrough (place : String)
  /-- An assignment to the outcome of a member call. -/
  | callTarget (call : String)
  /-- An assignment to an element that a list does not have. -/
  | outOfBounds (index : Int64)
  /-- A statement in a mapping literal that is no entry. -/
  | notAnEntry
deriving DecidableEq, Repr

/-- The wording of a structure fault. -/
def StructureFault.describe : StructureFault → String
  | breakOutsideLoop => "'break' outside of a loop."
  | continueOutsideLoop => "'continue' outside of a loop."
  | notAPlace target => "Cannot assign to '" ++ target ++ "'."
  | notThrough place => "Cannot assign through '" ++ place ++ "'."
  | callTarget call => "Cannot assign to the call '" ++ call ++ "'."
  | outOfBounds index => "Index " ++ toString index.toInt ++ " is out of bounds."
  | notAnEntry => "A mapping literal may only contain assignments to names."

/-- Why a run fails. -/
inductive RuntimeError where
  /-- A name stands for nothing. -/
  | undefined (name : String) (position : Position)
  /-- A function gets too many or too few arguments. -/
  | arity (name : String) (expected : Arity) (found : Nat) (position : Position)
  /-- An operation is not defined on values of these types. -/
  | type (operation : Operation) (operands : Operands) (position : Position)
  | divisionByZero (position : Position)
  | structural (fault : StructureFault) (position : Position)
  /-- A native function of this name is there already. -/
  | duplicateName (name : String)
  /-- The result of an operator is beyond 64 bits. -/
  | overflow (operator : Operator) (position : Position)
  /-- More calls are open than allowed. -/
  | callDepth (limit : Nat) (position : Position)
  /-- A native function gives up. -/
  | native (name details : String) (position : Position)
deriving DecidableEq, Repr

namespace RuntimeError

/-- The place to which the error refers, if it refers to one. -/
def position : RuntimeError → Option Position
  | undefined _ p => some p
  | arity _ _ _ p => some p
  | type _ _ p => some p
  | divisionByZero p => some p
  | structural _ p => some p
  | duplicateName _ => none
  | overflow _ p => some p
  | callDepth _ p => some p
  | native _ _ p => some p

/-- What is wrong, without the place. -/
def details : RuntimeError → String
  | undefined name _ => "'" ++ name ++ "' is not defined."
  | arity name expected found _ =>
    "'" ++ name ++ "' expects " ++ expected.describe ++ " argument(s), but got " ++
      toString found ++ "."
  | type operation operands _ =>
    "Cannot apply " ++ operation.describe ++ " to " ++ operands.describe ++ "."
  | divisionByZero _ => "Division by zero."
  | structural fault _ => fault.describe
  | duplicateName name => "A native function named '" ++ name ++ "' is already registered."
  | overflow operator _ => "Integer overflow in '" ++ operator.symbol ++ "'."
  | callDepth limit _ => "Maximum call depth of " ++ toString limit ++ " exceeded."
  | native name details _ => name ++ ": " ++ details

/-- The message: the place, if any, and what is wrong there. -/
def message (e : RuntimeError) : String :=
  match e.position with
  | some p => p.blame e.details
  | none => e.details

end RuntimeError

/-- Why a source has no result. -/
inductive Failure where
  /-- It is no program. -/
  | parse (error : ParseError)
  /-- Running it fails. -/
  | runtime (error : RuntimeError)
deriving DecidableEq, Repr

def Failure.message : Failure → String
  | parse e => e.message
  | runtime e => e.message

end Scriptlet
