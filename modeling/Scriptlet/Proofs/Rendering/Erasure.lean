import Scriptlet.Syntax.Erasure
import Scriptlet.Syntax.Render

/-!
# The text of a tree without positions

Positions leave no trace in the text of a tree (`Expr.render_erase` and its companions). What stands
behind an `else` is written in one of two ways, which `Block.branchText` takes together.
-/

namespace Scriptlet

/-- What stands behind `else`: a conditional alone goes without the braces. -/
def Block.branchText (b : Block) : String :=
  match b with
  | ⟨[.conditional c b o p], _⟩ => Statement.render (.conditional c b o p)
  | b => b.render

theorem Statement.render_ifThenElse (condition : Expr) (body otherwise : Block) (p : Position) :
    (Statement.conditional condition body (some otherwise) p).render =
      "if " ++ condition.render ++ " " ++ body.render ++ " else " ++ otherwise.branchText := by
  unfold Block.branchText
  split
  · rw [Statement.render]
  · rename_i hplain
    rw [Statement.render]
    exact hplain

theorem Statement.erase_conditional (condition : Expr) (body : Block) (otherwise : Option Block)
    (p : Position) : (Statement.conditional condition body otherwise p).erase =
      .conditional condition.erase body.erase (otherwise.map Block.erase) default := by
  cases otherwise <;> simp [Statement.erase]

theorem Statement.erase_exit (value : Option Expr) (p : Position) :
    (Statement.exit value p).erase = .exit (value.map Expr.erase) default := by
  cases value <;> simp [Statement.erase]

theorem Expr.parenthesized_erase (e : Expr) (text : String) :
    e.erase.parenthesized text = e.parenthesized text := by
  cases e <;> simp [Expr.erase, Expr.parenthesized]

mutual

theorem Expr.render_erase : ∀ e : Expr, e.erase.render = e.render
  | .var v => by simp [Expr.erase, Expr.render, Variable.erase]
  | .literal _ _ => by simp [Expr.erase, Expr.render]
  | .binary left _ right _ => by
    simp [Expr.erase, Expr.render, Expr.parenthesized_erase, left.render_erase, right.render_erase]
  | .list values _ => by simp [Expr.erase, Expr.render, renderAll_erase values]
  | .block b => by simp [Expr.erase, Expr.render, b.render_erase]
  | .call c => by simp [Expr.erase, Expr.render, c.render_erase]
  | .field object member _ => by
    simp [Expr.erase, Expr.render, Expr.parenthesized_erase, object.render_erase,
      member.render_erase]

theorem renderAll_erase : ∀ es : List Expr, renderAll (eraseExprs es) = renderAll es
  | [] => by simp [eraseExprs, renderAll]
  | e :: es => by simp [eraseExprs, renderAll, e.render_erase, renderAll_erase es]

theorem Member.render_erase : ∀ m : Member, m.erase.render = m.render
  | .name v => by simp [Member.erase, Member.render, Variable.erase]
  | .call c => by simp [Member.erase, Member.render, c.render_erase]
  | .index key => by simp [Member.erase, Member.render, key.render_erase]

theorem Call.render_erase : ∀ c : Call, c.erase.render = c.render
  | ⟨_, arguments, _⟩ => by simp [Call.erase, Call.render, renderAll_erase arguments]

theorem Statement.render_erase : ∀ s : Statement, s.erase.render = s.render
  | .assign target value _ => by
    simp [Statement.erase, Statement.render, target.render_erase, value.render_erase]
  | .function f => by simp [Statement.erase, Statement.render, f.render_erase]
  | .conditional condition body none _ => by
    simp [Statement.erase, Statement.render, condition.render_erase, body.render_erase]
  | .conditional condition body (some otherwise) _ => by
    simp [Statement.erase, Statement.render_ifThenElse, condition.render_erase, body.render_erase,
      otherwise.branchText_erase]
  | .loop none item iterable body _ => by
    simp [Statement.erase, Statement.render, Variable.erase, iterable.render_erase,
      body.render_erase]
  | .loop (some index) item iterable body _ => by
    simp [Statement.erase, Statement.render, Variable.erase, iterable.render_erase,
      body.render_erase]
  | .exit (some value) _ => by simp [Statement.erase, Statement.render, value.render_erase]
  | .expression e => by simp [Statement.erase, Statement.render, e.render_erase]
  | .comment c => by simp [Statement.erase, Statement.render, Comment.erase]
  | .exit none _ | .stop _ | .skip _ | .newLine _ => by simp [Statement.erase, Statement.render]

theorem renderStatements_erase :
    ∀ ss : List Statement, renderStatements (eraseStatements ss) = renderStatements ss
  | [] => by simp [eraseStatements, renderStatements]
  | s :: ss => by
    simp [eraseStatements, renderStatements, s.render_erase, renderStatements_erase ss]

theorem Block.render_erase : ∀ b : Block, b.erase.render = b.render
  | ⟨statements, _⟩ => by simp [Block.erase, Block.render, renderStatements_erase statements]

theorem Block.branchText_erase : ∀ b : Block, b.erase.branchText = b.branchText
  | ⟨[], _⟩ => by simp [Block.erase, Block.branchText, eraseStatements, Block.render]
  | ⟨[s], _⟩ => by
    have hs := s.render_erase
    cases s with
    | conditional c b o p =>
      simpa [Block.erase, eraseStatements, Statement.erase_conditional, Block.branchText] using hs
    | exit v p =>
      simpa [Block.erase, eraseStatements, Statement.erase_exit, Block.branchText, Block.render,
        renderStatements] using hs
    | _ =>
      simpa [Block.erase, eraseStatements, Statement.erase, Block.branchText, Block.render,
        renderStatements] using hs
  | ⟨s :: t :: ss, _⟩ => by
    simp [Block.erase, Block.branchText, eraseStatements, Block.render, renderStatements,
      s.render_erase, t.render_erase, renderStatements_erase ss]

theorem Function.render_erase : ∀ f : Function, f.erase.render = f.render
  | ⟨_, parameters, body, _⟩ => by
    have hnames : parameters.map (Variable.name ∘ Variable.erase) = parameters.map Variable.name :=
      rfl
    simp [Function.erase, Function.render, hnames, body.render_erase]

end
end Scriptlet
