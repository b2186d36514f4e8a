import Scriptlet.Position

/-!
# The syntax tree

Programs as trees. Every node carries the position of the token that introduced it, and line breaks
and comments are kept as statements, so that a tree can be written out and can be asked where in the
source its parts stand.

Two surface forms have no node of their own: `-x` is the difference `0 - x`, and `not x` is the
comparison `x == false`. An `else if` is an else-branch that holds one conditional.
-/

namespace Scriptlet

/-- The binary operators. -/
inductive Operator where
  | isIn
  | notIn
  | equal
  | greater
  | greaterEqual
  | less
  | lessEqual
  | add
  | sub
  | mul
  | div
deriving DecidableEq, Repr, Inhabited

/-- The way an operator is written. -/
def Operator.symbol : Operator → String
  | isIn => "in"
  | notIn => "not in"
  | equal => "=="
  | greater => ">"
  | greaterEqual => ">="
  | less => "<"
  | lessEqual => "<="
  | add => "+"
  | sub => "-"
  | mul => "*"
  | div => "/"

/-- A constant. -/
inductive Literal where
  | bool (b : Bool)
  | int (n : Int64)
  | string (s : String)
deriving DecidableEq, Repr, Inhabited

/-- A name and where it stands. -/
structure Variable where
  name : String
  position : Position
deriving DecidableEq, Repr, Inhabited

/-- A comment: its text behind the two slashes, and where it stands. -/
structure Comment where
  text : String
  position : Position
deriving DecidableEq, Repr, Inhabited

mutual

/-- An expression. -/
inductive Expr where
  | var (v : Variable)
  | literal (value : Literal) (position : Position)
  /-- An operator between two operands; the position is the operator's. -/
  | binary (left : Expr) (operator : Operator) (right : Expr) (position : Position)
  | list (values : List Expr) (position : Position)
  /-- A block in the place of an expression, which spells a mapping. -/
  | block (b : Block)
  | call (c : Call)
  /-- A member of an object; the position is the object's. -/
  | field (object : Expr) (member : Member) (position : Position)

/-- What stands behind an object. -/
inductive Member where
  /-- A dot and a name. -/
  | name (v : Variable)
  /-- A dot, a name and arguments. -/
  | call (c : Call)
  /-- A key in brackets. -/
  | index (key : Expr)

/-- A call by name. -/
structure Call where
  name : String
  arguments : List Expr
  position : Position

/-- A statement. -/
inductive Statement where
  /-- An assignment; the position is the target's. -/
  | assign (target value : Expr) (position : Position)
  | function (f : Function)
  | conditional (condition : Expr) (body : Block) (otherwise : Option Block) (position : Position)
  /-- A loop over a collection, which may name the index besides the item. -/
  | loop (index : Option Variable) (item : Variable) (iterable : Expr) (body : Block)
      (position : Position)
  /-- The statement `return`, with a value or without. -/
  | exit (value : Option Expr) (position : Position)
  /-- The statement `break`. -/
  | stop (position : Position)
  /-- The statement `continue`. -/
  | skip (position : Position)
  /-- An expression that is evaluated for its effects. -/
  | expression (e : Expr)
  | newLine (position : Position)
  | comment (c : Comment)

/-- Statements in braces; the position is the opening brace's. -/
structure Block where
  statements : List Statement
  position : Position

/-- A function definition; the position is the name's. -/
structure Function where
  name : String
  parameters : List Variable
  body : Block
  position : Position

end

instance : Inhabited Expr := ⟨.var default⟩
instance : Inhabited Statement := ⟨.newLine default⟩

/-- A program is the list of its statements. -/
abbrev Program := List Statement

/-- Where an expression stands. -/
def Expr.position : Expr → Position
  | .var v => v.position
  | .literal _ p => p
  | .binary _ _ _ p => p
  | .list _ p => p
  | .block b => b.position
  | .call c => c.position
  | .field _ _ p => p

/-- Where a statement stands. -/
def Statement.position : Statement → Position
  | .assign _ _ p => p
  | .function f => f.position
  | .conditional _ _ _ p => p
  | .loop _ _ _ _ p => p
  | .exit _ p => p
  | .stop p => p
  | .skip p => p
  | .expression e => e.position
  | .newLine p => p
  | .comment c => c.position

/-- Line breaks and comments, which have no effect. -/
def Statement.isTrivia : Statement → Bool
  | .newLine _ => true
  | .comment _ => true
  | _ => false

/-- A statement that ends in a closing brace, after which no separator is needed. -/
def Statement.endsInBlock : Statement → Bool
  | .function _ => true
  | .conditional .. => true
  | .loop .. => true
  | _ => false

/-- What may stand on the left of an assignment. -/
def Expr.isPlace : Expr → Bool
  | .var _ => true
  | .field .. => true
  | _ => false

end Scriptlet
