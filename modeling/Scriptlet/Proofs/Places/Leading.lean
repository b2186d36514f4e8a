import Scriptlet.Proofs.Places.Distinct
import Scriptlet.Proofs.Token.Succession
import Scriptlet.Syntax.Equality

/-!
# The first token of an expression

A member of an object stands where the object does, so a chain of members stands where its root does
(`Expr.root`). If the root is a name, a constant, a call or something in brackets or braces, this is
the place of its first token, and also if it is an operator in front of its operand. But the root
may be an operation in parentheses whose operator stands between its operands (`Expr.isInfix`), and
then the chain stands at this operator (`Grammar.Derives.leading`).
-/

namespace Scriptlet

/-- The tokens stand in the order of the text. -/
abbrev Increasing (ts : List Token) : Prop :=
  ts.Pairwise fun t u => t.position.Before u.position

/-! ## What comes first -/

/-- The first token, apart from parentheses that open and line breaks behind them. -/
def leading? (ts : List Token) : Option Token :=
  ts.find? fun t => t.kind != .leftParen && t.kind != .newLine

section

variable {t u : Token} {ts us : List Token}

theorem leading?_cons (h : t.kind ≠ .leftParen) (h' : t.kind ≠ .newLine) :
    leading? (t :: ts) = some t := by
  simp [leading?, h, h']

theorem leading?_paren (h : u.kind = .leftParen) : leading? (u :: ts) = leading? ts := by
  simp [leading?, h]

theorem leading?_breaks (h : Grammar.LineBreaks us) : leading? (us ++ ts) = leading? ts := by
  have hnone : us.find? (fun t => t.kind != .leftParen && t.kind != .newLine) = none := by
    simpa using fun u hu _ => h u hu
  rw [leading?, List.find?_append, hnone, Option.none_or]
  rfl

theorem leading?_append (h : leading? ts = some t) : leading? (ts ++ us) = some t := by
  rw [leading?] at h
  rw [leading?, List.find?_append, h, Option.some_or]

theorem mem_of_leading? (h : leading? ts = some t) : t ∈ ts :=
  List.mem_of_find?_eq_some h

end

/-! ## Roots -/

/-- What a chain of members starts with. -/
def Expr.root : Expr → Expr
  | .field object _ _ => object.root
  | e => e

/-- An operation whose operator stands between the operands. An operator in front of its operand is
told from it by the constant that it stands for, which has the same place. -/
def Expr.isInfix : Expr → Bool
  | .binary left o right p =>
    !(o == .sub && left == .literal (.int 0) p || o == .equal && right == .literal (.bool false) p)
  | _ => false

namespace Grammar

theorem isInfix_binary (o : Operator) {e e' : Expr} {p : Position} (h : e.position ≠ p)
    (h' : e'.position ≠ p) : (Expr.binary e o e' p).isInfix = true := by
  have hleft : e ≠ .literal (.int 0) p := by
    rintro rfl
    exact h rfl
  have hright : e' ≠ .literal (.bool false) p := by
    rintro rfl
    exact h' rfl
  simp [Expr.isInfix, hleft, hright]

/-- An expression has a first token, apart from the parentheses around it. It stands there exactly
if its root is no operation with the operator between the operands. -/
theorem Derives.leading {phrase : Phrase} {ts : List Token} (h : Derives phrase ts) {e : Expr}
    (he : phrase.expr? = some e) :
    ∃ t, leading? ts = some t ∧
      (Increasing ts → (e.position = t.position ↔ e.root.isInfix = false)) := by
  induction h generalizing e with
  | operand _ ih | members _ ih | primary _ ih | called _ ih | mapping _ ih => exact ih he
  | @binary o _ _ _ _ _ left _ right ih ih' =>
    cases he
    obtain ⟨t, ht, -⟩ := ih rfl
    refine ⟨t, leading?_append ht, fun hincreasing => ?_⟩
    obtain ⟨-, hright, hcross⟩ := List.pairwise_append.mp hincreasing
    obtain ⟨u, hu, hposition⟩ := left.position_mem rfl
    obtain ⟨v, hv, hposition'⟩ := right.position_mem rfl
    have hleft := (hcross u hu _ List.mem_cons_self).ne
    have hright := ((List.pairwise_cons.mp hright).1 v hv).ne
    have hroot := isInfix_binary o (hposition ▸ hleft) (hposition' ▸ hright.symm)
    have hne := (hcross t (mem_of_leading? ht) _ List.mem_cons_self).ne
    simp only [Expr.position_binary, Expr.root, hroot, hne.symm, Bool.true_eq_false]
  | @minus e t ts isMinus _ _ =>
    cases he
    refine ⟨t, leading?_cons (by simp [isMinus]) (by simp [isMinus]), fun _ => ?_⟩
    simp [Expr.root, Expr.isInfix]
  | @not e t ts isNot _ _ =>
    cases he
    refine ⟨t, leading?_cons (by simp [isNot]) (by simp [isNot]), fun _ => ?_⟩
    simp [Expr.root, Expr.isInfix]
  | memberName _ _ _ ih | memberCall _ _ _ ih | memberIndex _ _ _ _ _ _ ih =>
    cases he
    obtain ⟨t, ht, hiff⟩ := ih rfl
    exact ⟨t, leading?_append ht, fun hincreasing => hiff (List.pairwise_append.mp hincreasing).1⟩
  | integer isToken _ | string isToken | trueWord isToken | falseWord isToken | var isToken
  | list isToken _ _ _ | block isToken _ _ _ | call isToken _ _ _ _ =>
    cases he
    exact ⟨_, leading?_cons (by simp [isToken]) (by simp [isToken]), fun _ => by
      simp [Expr.root, Expr.isInfix]⟩
  | @parenthesized _ opening closing before ts after opens breaks _ _ _ ih =>
    cases he
    obtain ⟨t, ht, hiff⟩ := ih rfl
    have hspan : ts <:+: opening :: (before ++ ts ++ after ++ [closing]) :=
      ⟨opening :: before, after ++ [closing], by simp⟩
    refine ⟨t, ?_, fun hincreasing => hiff (hincreasing.sublist hspan.sublist)⟩
    rw [leading?_paren opens, List.append_assoc, List.append_assoc, leading?_breaks breaks]
    exact leading?_append ht
  | _ => cases he

end Grammar

end Scriptlet
