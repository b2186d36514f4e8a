import Scriptlet.Syntax

/-!
# Trees without positions

`erase` replaces every position of a tree by the default one. Two trees with equal erasures are the
same program at different places.
-/

namespace Scriptlet

def Variable.erase (v : Variable) : Variable :=
  ⟨v.name, default⟩

def Comment.erase (c : Comment) : Comment :=
  ⟨c.text, default⟩

mutual

/-- The expression without its positions. -/
def Expr.erase : Expr → Expr
  | .var v => .var v.erase
  | .literal value _ => .literal value default
  | .binary left operator right _ => .binary left.erase operator right.erase default
  | .list values _ => .list (eraseExprs values) default
  | .block b => .block b.erase
  | .call c => .call c.erase
  | .field object member _ => .field object.erase member.erase default

/-- The expressions without their positions. -/
def eraseExprs : List Expr → List Expr
  | [] => []
  | e :: es => e.erase :: eraseExprs es

def Member.erase : Member → Member
  | .name v => .name v.erase
  | .call c => .call c.erase
  | .index key => .index key.erase

def Call.erase : Call → Call
  | ⟨name, arguments, _⟩ => ⟨name, eraseExprs arguments, default⟩

/-- The statement without its positions. -/
def Statement.erase : Statement → Statement
  | .assign target value _ => .assign target.erase value.erase default
  | .function f => .function f.erase
  | .conditional condition body none _ =>
    .conditional condition.erase body.erase none default
  | .conditional condition body (some otherwise) _ =>
    .conditional condition.erase body.erase (some otherwise.erase) default
  | .loop index item iterable body _ =>
    .loop (index.map Variable.erase) item.erase iterable.erase body.erase default
  | .exit none _ => .exit none default
  | .exit (some value) _ => .exit (some value.erase) default
  | .stop _ => .stop default
  | .skip _ => .skip default
  | .expression e => .expression e.erase
  | .newLine _ => .newLine default
  | .comment c => .comment c.erase

/-- The statements without their positions. -/
def eraseStatements : List Statement → List Statement
  | [] => []
  | s :: ss => s.erase :: eraseStatements ss

def Block.erase : Block → Block
  | ⟨statements, _⟩ => ⟨eraseStatements statements, default⟩

/-- The function definition without its positions. -/
def Function.erase : Function → Function
  | ⟨name, parameters, body, _⟩ => ⟨name, parameters.map Variable.erase, body.erase, default⟩

end

def Program.erase (program : Program) : Program :=
  eraseStatements program

end Scriptlet
