import Scriptlet.Syntax

/-!
# What a program consists of

Questions that tools ask of a tree: which functions it defines and which it calls at the top, which
lines a block covers, and which comments document a declaration.
-/

namespace Scriptlet

/-- The functions defined at the top of a program. -/
def Program.functions (program : Program) : List Function :=
  program.filterMap fun
    | .function f => some f
    | _ => none

/-- The calls that are statements at the top of a program. -/
def Program.calls (program : Program) : List Call :=
  program.filterMap fun
    | .expression (.call c) => some c
    | _ => none

/-- Where the last statement of a block starts; for an empty block, where the block starts. -/
def Block.endPosition (b : Block) : Position :=
  (b.statements.getLast?.map Statement.position).getD b.position

/-- Whether a line lies between the opening brace and the start of the last statement. -/
def Block.containsLine (b : Block) (line : Nat) : Bool :=
  b.position.line ≤ line && line ≤ b.endPosition.line

/-- Whether a statement can be documented by comments: definitions and assignments can. -/
def Statement.isDeclaration : Statement → Bool
  | .function _ => true
  | .assign .. => true
  | _ => false

/-- The documentation of the first declaration at `place`, when `comments` have been met and since
then `breaks` line breaks. Two line breaks in a row and any other statement drop what was met. -/
def docCommentsFrom (place : Position) (comments : List Comment) (breaks : Nat) :
    List Statement → List Comment
  | [] => []
  | .comment c :: rest => docCommentsFrom place (comments ++ [c]) 0 rest
  | .newLine _ :: rest =>
    docCommentsFrom place (if breaks + 1 > 1 then [] else comments) (breaks + 1) rest
  | s :: rest =>
    if s.isDeclaration && s.position = place then comments
    else docCommentsFrom place [] 0 rest

/-- The comments right above the first declaration at `place`. -/
def docComments (statements : List Statement) (place : Position) : List Comment :=
  docCommentsFrom place [] 0 statements

end Scriptlet
