import Scriptlet.Syntax

/-!
# Writing trees out

The text of a tree. Statements follow one another without separators of their own, since line
breaks are statements too. An operand that is itself an operation is put in parentheses, so the text
reads back as the same tree.
-/

namespace Scriptlet

def Literal.render : Literal → String
  | bool true => "true"
  | bool false => "false"
  | int n => toString n.toInt
  | string s => "'" ++ s ++ "'"

/-- The elements of a list with `separator` between neighbours. -/
def separated (separator : String) (parts : List String) : String :=
  separator.intercalate parts

/-- The text of an operand, given the text of the expression. -/
def Expr.parenthesized (e : Expr) (text : String) : String :=
  match e with
  | .binary .. => "(" ++ text ++ ")"
  | _ => text

mutual

/-- The text of an expression. -/
def Expr.render : Expr → String
  | .var v => v.name
  | .literal value _ => value.render
  | .binary left operator right _ =>
    left.parenthesized left.render ++ " " ++ operator.symbol ++ " " ++
      right.parenthesized right.render
  | .list values _ => "[" ++ separated ", " (renderAll values) ++ "]"
  | .block b => b.render
  | .call c => c.render
  | .field object member _ => object.parenthesized object.render ++ member.render

def renderAll : List Expr → List String
  | [] => []
  | e :: es => e.render :: renderAll es

def Member.render : Member → String
  | .name v => "." ++ v.name
  | .call c => "." ++ c.render
  | .index key => "[" ++ key.render ++ "]"

def Call.render : Call → String
  | ⟨name, arguments, _⟩ => name ++ "(" ++ separated ", " (renderAll arguments) ++ ")"

/-- The text of a statement. -/
def Statement.render : Statement → String
  | .assign target value _ => target.render ++ " = " ++ value.render
  | .function f => f.render
  | .conditional condition body none _ => "if " ++ condition.render ++ " " ++ body.render
  | .conditional condition body (some ⟨[.conditional c b o p], _⟩) _ =>
    "if " ++ condition.render ++ " " ++ body.render ++ " else " ++
      Statement.render (.conditional c b o p)
  | .conditional condition body (some otherwise) _ =>
    "if " ++ condition.render ++ " " ++ body.render ++ " else " ++ otherwise.render
  | .loop none item iterable body _ =>
    "for " ++ item.name ++ " in " ++ iterable.render ++ " " ++ body.render
  | .loop (some index) item iterable body _ =>
    "for " ++ index.name ++ ", " ++ item.name ++ " in " ++ iterable.render ++ " " ++ body.render
  | .exit none _ => "return"
  | .exit (some value) _ => "return " ++ value.render
  | .stop _ => "break"
  | .skip _ => "continue"
  | .expression e => e.render
  | .newLine _ => "\n"
  | .comment c => "//" ++ c.text

/-- The text of statements one after the other. -/
def renderStatements : List Statement → String
  | [] => ""
  | s :: ss => s.render ++ renderStatements ss

def Block.render : Block → String
  | ⟨statements, _⟩ => "\x7b" ++ renderStatements statements ++ "\x7d"

def Function.render : Function → String
  | ⟨name, parameters, body, _⟩ =>
    name ++ "(" ++ separated ", " (parameters.map (·.name)) ++ ") " ++ body.render

end

def Program.render (program : Program) : String :=
  renderStatements program

/-- The head of a function definition, which is also how a call of it looks. -/
def Function.signature (f : Function) : String :=
  f.name ++ "(" ++ separated ", " (f.parameters.map (·.name)) ++ ")"

end Scriptlet
