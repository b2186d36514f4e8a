import Scriptlet.Proofs.Grammar.Derivation
import Scriptlet.Syntax.Outline

/-!
# The nodes of a tree

A node is whatever has a position of its own. The nodes of a tree are listed in the order of the
tree, each in front of those inside it (`Expr.nodes` and its companions). The lists of statements of
a program are that of the program and those of its blocks (`Program.lists`).
-/

namespace Scriptlet

/-- What has a position of its own. -/
inductive Node where
  /-- A variable that is read, or a name that is bound or stands behind a dot. -/
  | variable (v : Variable)
  | literal (value : Literal) (position : Position)
  | binary (left : Expr) (operator : Operator) (right : Expr) (position : Position)
  | list (values : List Expr) (position : Position)
  | field (object : Expr) (member : Member) (position : Position)
  | call (c : Call)
  | block (b : Block)
  | statement (s : Statement)

namespace Node

/-- Where a node stands. -/
def position : Node → Position
  | .variable v => v.position
  | .literal _ p => p
  | .binary _ _ _ p => p
  | .list _ p => p
  | .field _ _ p => p
  | .call c => c.position
  | .block b => b.position
  | .statement s => s.position

/-- The statement that a node is. -/
def statement? : Node → Option Statement
  | .statement s => some s
  | _ => none

/-- The statements of the block that a node is. -/
def statements? : Node → Option (List Statement)
  | .block b => some b.statements
  | _ => none

end Node

/-- The node at the root of an expression. -/
def Expr.node : Expr → Node
  | .var v => .variable v
  | .literal value p => .literal value p
  | .binary left o right p => .binary left o right p
  | .list values p => .list values p
  | .block b => .block b
  | .call c => .call c
  | .field object member p => .field object member p

/-! ## Where expressions stand -/

namespace Expr

variable {p : Position}

@[simp]
theorem position_var (v : Variable) : (var v).position = v.position :=
  rfl

@[simp]
theorem position_literal (value : Literal) : (literal value p).position = p :=
  rfl

@[simp]
theorem position_binary (left right : Expr) (o : Operator) :
    (binary left o right p).position = p :=
  rfl

@[simp]
theorem position_list (values : List Expr) : (list values p).position = p :=
  rfl

@[simp]
theorem position_block (b : Block) : (block b).position = b.position :=
  rfl

@[simp]
theorem position_call (c : Call) : (call c).position = c.position :=
  rfl

@[simp]
theorem position_field (object : Expr) (member : Member) :
    (field object member p).position = p :=
  rfl

@[simp]
theorem position_node (e : Expr) : e.node.position = e.position := by
  cases e <;> rfl

end Expr

/-! ## The nodes inside -/

mutual

/-- The nodes of an expression. -/
def Expr.nodes : Expr → List Node
  | .var v => [.variable v]
  | .literal value p => [.literal value p]
  | .binary left o right p => .binary left o right p :: (left.nodes ++ right.nodes)
  | .list values p => .list values p :: nodesOfAll values
  | .block b => b.nodes
  | .call c => c.nodes
  | .field object member p => .field object member p :: (object.nodes ++ member.nodes)

/-- The nodes of some expressions. -/
def nodesOfAll : List Expr → List Node
  | [] => []
  | e :: es => e.nodes ++ nodesOfAll es

def Member.nodes : Member → List Node
  | .name v => [.variable v]
  | .call c => c.nodes
  | .index key => key.nodes

def Call.nodes : Call → List Node
  | ⟨name, arguments, p⟩ => .call ⟨name, arguments, p⟩ :: nodesOfAll arguments

/-- The nodes of a statement, which is one itself. -/
def Statement.nodes : Statement → List Node
  | .assign target value p => .statement (.assign target value p) :: (target.nodes ++ value.nodes)
  | .function f => .statement (.function f) :: f.nodes
  | .conditional condition body none p =>
    .statement (.conditional condition body none p) :: (condition.nodes ++ body.nodes)
  | .conditional condition body (some otherwise) p =>
    .statement (.conditional condition body (some otherwise) p) ::
      (condition.nodes ++ body.nodes ++ otherwise.nodes)
  | .loop index item iterable body p =>
    .statement (.loop index item iterable body p) ::
      ((index.toList ++ [item]).map Node.variable ++ (iterable.nodes ++ body.nodes))
  | .exit none p => [.statement (.exit none p)]
  | .exit (some value) p => .statement (.exit (some value) p) :: value.nodes
  | .stop p => [.statement (.stop p)]
  | .skip p => [.statement (.skip p)]
  | .expression e => .statement (.expression e) :: e.nodes
  | .newLine p => [.statement (.newLine p)]
  | .comment c => [.statement (.comment c)]

/-- The nodes of some statements. -/
def nodesOfStatements : List Statement → List Node
  | [] => []
  | s :: ss => s.nodes ++ nodesOfStatements ss

def Block.nodes : Block → List Node
  | ⟨statements, p⟩ => .block ⟨statements, p⟩ :: nodesOfStatements statements

/-- The nodes of the parameters and the body of a function. -/
def Function.nodes : Function → List Node
  | ⟨_, parameters, body, _⟩ => parameters.map Node.variable ++ body.nodes

end

/-- The lists of statements in a program: its own and those of its blocks. -/
def Program.lists (program : Program) : List (List Statement) :=
  program :: (nodesOfStatements program).filterMap Node.statements?

theorem mem_nodesOfStatements {n : Node} {ss : List Statement} :
    n ∈ nodesOfStatements ss ↔ ∃ s ∈ ss, n ∈ s.nodes := by
  induction ss with
  | nil => simp [nodesOfStatements]
  | cons s ss ih => simp [nodesOfStatements, ih]

theorem Block.nodes_eq (b : Block) : b.nodes = .block b :: nodesOfStatements b.statements := by
  obtain ⟨ss, p⟩ := b
  rw [Block.nodes]

theorem Statement.mem_nodes (s : Statement) : .statement s ∈ s.nodes := by
  cases s with
  | conditional condition body otherwise p => cases otherwise <;> simp [Statement.nodes]
  | exit value p => cases value <;> simp [Statement.nodes]
  | _ => simp [Statement.nodes]

theorem Expr.mem_nodes (e : Expr) : e.node ∈ e.nodes := by
  cases e with
  | block b => simp [Expr.node, Expr.nodes, b.nodes_eq]
  | call c =>
    obtain ⟨name, arguments, p⟩ := c
    simp [Expr.node, Expr.nodes, Call.nodes]
  | _ => simp [Expr.node, Expr.nodes]

/-- A list of statements in a program is its own or that of a block. -/
theorem Program.mem_lists {program : Program} {ss : List Statement} :
    ss ∈ program.lists ↔
      ss = program ∨ ∃ b, .block b ∈ nodesOfStatements program ∧ b.statements = ss := by
  rw [lists, List.mem_cons, List.mem_filterMap]
  refine or_congr Iff.rfl ⟨?_, ?_⟩
  · rintro ⟨n, hn, hss⟩
    cases n with
    | block b => exact ⟨b, hn, Option.some.inj hss⟩
    | _ => cases hss
  · rintro ⟨b, hb, rfl⟩
    exact ⟨_, hb, rfl⟩

namespace Grammar

/-- The nodes of what is spelled. -/
def Phrase.nodes : Phrase → List Node
  | .tier _ e | .members e | .primary e => e.nodes
  | .arguments es => nodesOfAll es
  | .call c => c.nodes
  | .block b | .branch b => b.nodes
  | .statements ss => nodesOfStatements ss
  | .statement s | .conditional s => s.nodes

/-- The expression that is spelled. -/
def Phrase.expr? : Phrase → Option Expr
  | .tier _ e | .members e | .primary e => some e
  | .call c => some (.call c)
  | .block b => some (.block b)
  | _ => none

end Grammar

end Scriptlet
