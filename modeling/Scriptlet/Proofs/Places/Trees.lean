import Mathlib.Data.List.Forall2
import Scriptlet.Proofs.Places.Definitions
import Scriptlet.Proofs.Rendering.Erasure

/-!
# The same tree at other places

Two trees are alike if they are equal up to positions and the functions that are defined in them
correspond, one by one, in a given relation (`Expr.Like` and its companions). The relation says
which definition of one program is which of another. Where a tree of a known form is alike to
another, that one has the same form, and their parts are alike (`Expr.Like.of_binary` and so on).
-/

namespace Scriptlet

/-- Two lists with equally long first parts correspond if both parts do. -/
theorem forall₂_append {α β : Type} {R : α → β → Prop} {l₁ l₂ : List α} {l₁' l₂' : List β}
    (hlength : l₁.length = l₁'.length) (h : List.Forall₂ R (l₁ ++ l₂) (l₁' ++ l₂')) :
    List.Forall₂ R l₁ l₁' ∧ List.Forall₂ R l₂ l₂' := by
  have htake := List.forall₂_take l₁.length h
  have hdrop := List.forall₂_drop l₁.length h
  rw [List.take_left, hlength, List.take_left] at htake
  rw [List.drop_left, hlength, List.drop_left] at hdrop
  exact ⟨htake, hdrop⟩

/-- Which function of one program is which of another. -/
abbrev Correspondence := Function → Function → Prop

variable (P : Correspondence)

def Expr.Like (e e' : Expr) : Prop :=
  e.erase = e'.erase ∧ List.Forall₂ P e.functions e'.functions

def LikeAll (es es' : List Expr) : Prop :=
  eraseExprs es = eraseExprs es' ∧ List.Forall₂ P (functionsOfAll es) (functionsOfAll es')

def Member.Like (m m' : Member) : Prop :=
  m.erase = m'.erase ∧ List.Forall₂ P m.functions m'.functions

def Call.Like (c c' : Call) : Prop :=
  c.erase = c'.erase ∧ List.Forall₂ P c.functions c'.functions

def Statement.Like (s s' : Statement) : Prop :=
  s.erase = s'.erase ∧ List.Forall₂ P s.functions s'.functions

def LikeStatements (ss ss' : List Statement) : Prop :=
  eraseStatements ss = eraseStatements ss' ∧
    List.Forall₂ P (functionsOfStatements ss) (functionsOfStatements ss')

def Block.Like (b b' : Block) : Prop :=
  b.erase = b'.erase ∧ List.Forall₂ P b.functions b'.functions

def Function.Like (f f' : Function) : Prop :=
  f.erase = f'.erase ∧ List.Forall₂ P f.functions f'.functions

variable {P}

/-! ## How many functions there are -/

theorem Expr.functions_length {e e' : Expr} (h : e.erase = e'.erase) :
    e.functions.length = e'.functions.length := by
  have hfunctions := congrArg (·.functions.length) h
  simpa [Expr.functions_erase] using hfunctions

theorem Statement.functions_length {s s' : Statement} (h : s.erase = s'.erase) :
    s.functions.length = s'.functions.length := by
  have hfunctions := congrArg (·.functions.length) h
  simpa [Statement.functions_erase] using hfunctions

theorem Block.functions_length {b b' : Block} (h : b.erase = b'.erase) :
    b.functions.length = b'.functions.length := by
  have hfunctions := congrArg (·.functions.length) h
  simpa [Block.functions_erase] using hfunctions

/-! ## Names -/

theorem Variable.name_eq {v v' : Variable} (h : v.erase = v'.erase) : v.name = v'.name := by
  have hname := congrArg Variable.name h
  exact hname

theorem Variable.names_eq {vs vs' : List Variable}
    (h : vs.map Variable.erase = vs'.map Variable.erase) :
    vs.map Variable.name = vs'.map Variable.name := by
  have hnames := congrArg (List.map Variable.name) h
  rwa [List.map_map, List.map_map] at hnames

/-! ## Expressions -/

namespace Expr.Like

variable {e' : Expr}

theorem of_var {v : Variable} (h : (Expr.var v).Like P e') :
    ∃ v', e' = .var v' ∧ v.name = v'.name := by
  obtain ⟨herase, -⟩ := h
  cases e' <;> simp only [Expr.erase, reduceCtorEq, Expr.var.injEq] at herase
  exact ⟨_, rfl, Variable.name_eq herase⟩

theorem of_literal {value : Literal} {p : Position} (h : (Expr.literal value p).Like P e') :
    ∃ p', e' = .literal value p' := by
  obtain ⟨herase, -⟩ := h
  cases e' <;> simp only [Expr.erase, reduceCtorEq, Expr.literal.injEq] at herase
  obtain ⟨rfl, -⟩ := herase
  exact ⟨_, rfl⟩

theorem of_binary {left right : Expr} {o : Operator} {p : Position}
    (h : (Expr.binary left o right p).Like P e') :
    ∃ left' right' p', e' = .binary left' o right' p' ∧ left.Like P left' ∧
      right.Like P right' := by
  obtain ⟨herase, hfunctions⟩ := h
  cases e' <;> simp only [Expr.erase, reduceCtorEq, Expr.binary.injEq] at herase
  obtain ⟨hleft, rfl, hright, -⟩ := herase
  obtain ⟨h₁, h₂⟩ := forall₂_append (functions_length hleft) hfunctions
  exact ⟨_, _, _, rfl, ⟨hleft, h₁⟩, ⟨hright, h₂⟩⟩

theorem of_list {values : List Expr} {p : Position} (h : (Expr.list values p).Like P e') :
    ∃ values' p', e' = .list values' p' ∧ LikeAll P values values' := by
  obtain ⟨herase, hfunctions⟩ := h
  cases e' <;> simp only [Expr.erase, reduceCtorEq, Expr.list.injEq] at herase
  exact ⟨_, _, rfl, herase.1, hfunctions⟩

theorem of_block {b : Block} (h : (Expr.block b).Like P e') :
    ∃ b', e' = .block b' ∧ b.Like P b' := by
  obtain ⟨herase, hfunctions⟩ := h
  cases e' <;> simp only [Expr.erase, reduceCtorEq, Expr.block.injEq] at herase
  exact ⟨_, rfl, herase, hfunctions⟩

theorem of_call {c : Call} (h : (Expr.call c).Like P e') : ∃ c', e' = .call c' ∧ c.Like P c' := by
  obtain ⟨herase, hfunctions⟩ := h
  cases e' <;> simp only [Expr.erase, reduceCtorEq, Expr.call.injEq] at herase
  exact ⟨_, rfl, herase, hfunctions⟩

theorem of_field {object : Expr} {member : Member} {p : Position}
    (h : (Expr.field object member p).Like P e') :
    ∃ object' member' p', e' = .field object' member' p' ∧ object.Like P object' ∧
      member.Like P member' := by
  obtain ⟨herase, hfunctions⟩ := h
  cases e' <;> simp only [Expr.erase, reduceCtorEq, Expr.field.injEq] at herase
  obtain ⟨hobject, hmember, -⟩ := herase
  obtain ⟨h₁, h₂⟩ := forall₂_append (functions_length hobject) hfunctions
  exact ⟨_, _, _, rfl, ⟨hobject, h₁⟩, ⟨hmember, h₂⟩⟩

theorem render_eq {e e' : Expr} (h : e.Like P e') : e.render = e'.render := by
  rw [← e.render_erase, h.1, e'.render_erase]

end Expr.Like

namespace LikeAll

variable {es' : List Expr}

theorem of_nil (h : LikeAll P [] es') : es' = [] := by
  obtain ⟨herase, -⟩ := h
  cases es' with
  | nil => rfl
  | cons e' es' => cases herase

theorem of_cons {e : Expr} {es : List Expr} (h : LikeAll P (e :: es) es') :
    ∃ e' rest', es' = e' :: rest' ∧ e.Like P e' ∧ LikeAll P es rest' := by
  obtain ⟨herase, hfunctions⟩ := h
  cases es' with
  | nil => cases herase
  | cons e' es' =>
    simp only [eraseExprs, List.cons.injEq] at herase
    obtain ⟨h₁, h₂⟩ := forall₂_append (Expr.functions_length herase.1) hfunctions
    exact ⟨_, _, rfl, ⟨herase.1, h₁⟩, ⟨herase.2, h₂⟩⟩

end LikeAll

namespace Member.Like

variable {m' : Member}

theorem of_name {v : Variable} (h : (Member.name v).Like P m') :
    ∃ v', m' = .name v' ∧ v.name = v'.name := by
  obtain ⟨herase, -⟩ := h
  cases m' <;> simp only [Member.erase, reduceCtorEq, Member.name.injEq] at herase
  exact ⟨_, rfl, Variable.name_eq herase⟩

theorem of_call {c : Call} (h : (Member.call c).Like P m') :
    ∃ c', m' = .call c' ∧ c.Like P c' := by
  obtain ⟨herase, hfunctions⟩ := h
  cases m' <;> simp only [Member.erase, reduceCtorEq, Member.call.injEq] at herase
  exact ⟨_, rfl, herase, hfunctions⟩

theorem of_index {key : Expr} (h : (Member.index key).Like P m') :
    ∃ key', m' = .index key' ∧ key.Like P key' := by
  obtain ⟨herase, hfunctions⟩ := h
  cases m' <;> simp only [Member.erase, reduceCtorEq, Member.index.injEq] at herase
  exact ⟨_, rfl, herase, hfunctions⟩

end Member.Like

namespace Call.Like

variable {name : String} {arguments : List Expr} {p : Position} {c' : Call}

theorem of_mk (h : (Call.mk name arguments p).Like P c') :
    ∃ arguments' p', c' = ⟨name, arguments', p'⟩ ∧ LikeAll P arguments arguments' := by
  obtain ⟨herase, hfunctions⟩ := h
  obtain ⟨name', arguments', p'⟩ := c'
  simp only [Call.erase, Call.mk.injEq] at herase
  obtain ⟨rfl, harguments, -⟩ := herase
  exact ⟨_, _, rfl, harguments, hfunctions⟩

theorem render_eq {c c' : Call} (h : c.Like P c') : c.render = c'.render := by
  rw [← c.render_erase, h.1, c'.render_erase]

end Call.Like

namespace Block.Like

variable {statements : List Statement} {p : Position} {b' : Block}

theorem of_mk (h : (Block.mk statements p).Like P b') :
    ∃ statements' p', b' = ⟨statements', p'⟩ ∧ LikeStatements P statements statements' := by
  obtain ⟨herase, hfunctions⟩ := h
  obtain ⟨statements', p'⟩ := b'
  simp only [Block.erase, Block.mk.injEq] at herase
  exact ⟨_, _, rfl, herase.1, hfunctions⟩

end Block.Like

namespace Function.Like

variable {f f' : Function}

theorem corresponds (h : f.Like P f') : P f f' := by
  have hfunctions := h.2
  rw [f.functions_eq, f'.functions_eq] at hfunctions
  exact (List.forall₂_cons.mp hfunctions).1

theorem body (h : f.Like P f') : LikeStatements P f.body.statements f'.body.statements := by
  obtain ⟨herase, hfunctions⟩ := h
  obtain ⟨name, parameters, ⟨statements, _⟩, position⟩ := f
  obtain ⟨name', parameters', ⟨statements', _⟩, position'⟩ := f'
  simp only [Function.erase, Block.erase, Function.mk.injEq, Block.mk.injEq] at herase
  simp only [Function.functions, Block.functions] at hfunctions
  exact ⟨herase.2.2.1.1, (List.forall₂_cons.mp hfunctions).2⟩

theorem name_eq (h : f.Like P f') : f.name = f'.name := by
  obtain ⟨name, parameters, body, position⟩ := f
  obtain ⟨name', parameters', body', position'⟩ := f'
  have herase := h.1
  simp only [Function.erase, Function.mk.injEq] at herase
  exact herase.1

theorem parameters_eq (h : f.Like P f') :
    f.parameters.map (·.name) = f'.parameters.map (·.name) := by
  obtain ⟨name, parameters, body, position⟩ := f
  obtain ⟨name', parameters', body', position'⟩ := f'
  have herase := h.1
  simp only [Function.erase, Function.mk.injEq] at herase
  exact Variable.names_eq herase.2.1

theorem parameters_length (h : f.Like P f') : f.parameters.length = f'.parameters.length := by
  simpa using congrArg List.length h.parameters_eq

theorem signature_eq (h : f.Like P f') : f.signature = f'.signature := by
  rw [Function.signature, Function.signature, h.name_eq, h.parameters_eq]

end Function.Like

/-! ## Statements -/

namespace Statement.Like

variable {s' : Statement}

theorem of_assign {target value : Expr} {p : Position}
    (h : (Statement.assign target value p).Like P s') :
    ∃ target' value' p', s' = .assign target' value' p' ∧ target.Like P target' ∧
      value.Like P value' := by
  obtain ⟨herase, hfunctions⟩ := h
  cases s' <;> simp only [↓erase_conditional, ↓erase_exit, Statement.erase, reduceCtorEq,
    Statement.assign.injEq] at herase
  obtain ⟨htarget, hvalue, -⟩ := herase
  obtain ⟨h₁, h₂⟩ := forall₂_append (Expr.functions_length htarget) hfunctions
  exact ⟨_, _, _, rfl, ⟨htarget, h₁⟩, ⟨hvalue, h₂⟩⟩

theorem of_function {f : Function} (h : (Statement.function f).Like P s') :
    ∃ f', s' = .function f' ∧ f.Like P f' := by
  obtain ⟨herase, hfunctions⟩ := h
  cases s' <;> simp only [↓erase_conditional, ↓erase_exit, Statement.erase, reduceCtorEq,
    Statement.function.injEq] at herase
  exact ⟨_, rfl, herase, hfunctions⟩

theorem of_conditional {condition : Expr} {body : Block} {otherwise : Option Block} {p : Position}
    (h : (Statement.conditional condition body otherwise p).Like P s') :
    ∃ condition' body' otherwise' p', s' = .conditional condition' body' otherwise' p' ∧
      condition.Like P condition' ∧ body.Like P body' ∧
      Option.Rel (Block.Like P) otherwise otherwise' := by
  obtain ⟨herase, hfunctions⟩ := h
  cases s' <;> simp only [↓erase_conditional, ↓erase_exit, Statement.erase, reduceCtorEq,
    Statement.conditional.injEq] at herase
  rename_i condition' body' otherwise' p'
  obtain ⟨hcondition, hbody, hotherwise, -⟩ := herase
  refine ⟨_, _, _, _, rfl, ?_⟩
  cases otherwise with
  | none =>
    cases otherwise' with
    | none =>
      obtain ⟨h₁, h₂⟩ := forall₂_append (Expr.functions_length hcondition) hfunctions
      exact ⟨⟨hcondition, h₁⟩, ⟨hbody, h₂⟩, .none⟩
    | some b' => cases hotherwise
  | some b =>
    cases otherwise' with
    | none => cases hotherwise
    | some b' =>
      simp only [Option.map_some, Option.some.injEq] at hotherwise
      obtain ⟨h₁, h₂⟩ := forall₂_append (Expr.functions_length hcondition) hfunctions
      obtain ⟨h₂, h₃⟩ := forall₂_append (Block.functions_length hbody) h₂
      exact ⟨⟨hcondition, h₁⟩, ⟨hbody, h₂⟩, .some ⟨hotherwise, h₃⟩⟩

theorem of_loop {index : Option Variable} {item : Variable} {iterable : Expr} {body : Block}
    {p : Position} (h : (Statement.loop index item iterable body p).Like P s') :
    ∃ index' item' iterable' body' p', s' = .loop index' item' iterable' body' p' ∧
      index.map (·.name) = index'.map (·.name) ∧ item.name = item'.name ∧
      iterable.Like P iterable' ∧ body.Like P body' := by
  obtain ⟨herase, hfunctions⟩ := h
  cases s' <;> simp only [↓erase_conditional, ↓erase_exit, Statement.erase, reduceCtorEq,
    Statement.loop.injEq] at herase
  obtain ⟨hindex, hitem, hiterable, hbody, -⟩ := herase
  obtain ⟨h₁, h₂⟩ := forall₂_append (Expr.functions_length hiterable) hfunctions
  have hnames := congrArg (Option.map Variable.name) hindex
  rw [Option.map_map, Option.map_map] at hnames
  exact ⟨_, _, _, _, _, rfl, hnames, Variable.name_eq hitem, ⟨hiterable, h₁⟩, ⟨hbody, h₂⟩⟩

theorem of_exit {value : Option Expr} {p : Position} (h : (Statement.exit value p).Like P s') :
    ∃ value' p', s' = .exit value' p' ∧ Option.Rel (Expr.Like P) value value' := by
  obtain ⟨herase, hfunctions⟩ := h
  cases s' <;> simp only [↓erase_conditional, ↓erase_exit, Statement.erase, reduceCtorEq,
    Statement.exit.injEq] at herase
  rename_i value' p'
  refine ⟨_, _, rfl, ?_⟩
  cases value with
  | none =>
    cases value' with
    | none => exact .none
    | some e' => simp at herase
  | some e =>
    cases value' with
    | none => simp at herase
    | some e' =>
      simp only [Option.map_some, Option.some.injEq, and_true] at herase
      exact .some ⟨herase, hfunctions⟩

theorem of_stop {p : Position} (h : (Statement.stop p).Like P s') : ∃ p', s' = .stop p' := by
  obtain ⟨herase, -⟩ := h
  cases s' <;> simp only [↓erase_conditional, ↓erase_exit, Statement.erase, reduceCtorEq] at herase
  exact ⟨_, rfl⟩

theorem of_skip {p : Position} (h : (Statement.skip p).Like P s') : ∃ p', s' = .skip p' := by
  obtain ⟨herase, -⟩ := h
  cases s' <;> simp only [↓erase_conditional, ↓erase_exit, Statement.erase, reduceCtorEq] at herase
  exact ⟨_, rfl⟩

theorem of_expression {e : Expr} (h : (Statement.expression e).Like P s') :
    ∃ e', s' = .expression e' ∧ e.Like P e' := by
  obtain ⟨herase, hfunctions⟩ := h
  cases s' <;> simp only [↓erase_conditional, ↓erase_exit, Statement.erase, reduceCtorEq,
    Statement.expression.injEq] at herase
  exact ⟨_, rfl, herase, hfunctions⟩

theorem of_newLine {p : Position} (h : (Statement.newLine p).Like P s') :
    ∃ p', s' = .newLine p' := by
  obtain ⟨herase, -⟩ := h
  cases s' <;> simp only [↓erase_conditional, ↓erase_exit, Statement.erase, reduceCtorEq] at herase
  exact ⟨_, rfl⟩

theorem of_comment {c : Comment} (h : (Statement.comment c).Like P s') :
    ∃ c', s' = .comment c' := by
  obtain ⟨herase, -⟩ := h
  cases s' <;> simp only [↓erase_conditional, ↓erase_exit, Statement.erase, reduceCtorEq] at herase
  exact ⟨_, rfl⟩

end Statement.Like

namespace LikeStatements

variable {ss' : List Statement}

theorem of_nil (h : LikeStatements P [] ss') : ss' = [] := by
  obtain ⟨herase, -⟩ := h
  cases ss' with
  | nil => rfl
  | cons s' ss' => cases herase

theorem of_cons {s : Statement} {ss : List Statement} (h : LikeStatements P (s :: ss) ss') :
    ∃ s' rest', ss' = s' :: rest' ∧ s.Like P s' ∧ LikeStatements P ss rest' := by
  obtain ⟨herase, hfunctions⟩ := h
  cases ss' with
  | nil => cases herase
  | cons s' ss' =>
    simp only [eraseStatements, List.cons.injEq] at herase
    obtain ⟨h₁, h₂⟩ := forall₂_append (Statement.functions_length herase.1) hfunctions
    exact ⟨_, _, rfl, ⟨herase.1, h₁⟩, ⟨herase.2, h₂⟩⟩

end LikeStatements

end Scriptlet
