import Scriptlet.Proofs.Grammar.Follow

/-!
# Tokens have one derivation

Tokens have one derivation at most, and so they spell one tree at most (`Derivation.unique`). The
parts of a derivation have no marks between them: where a part ends must follow from the tokens. So
what is shown of a derivation speaks of tokens that go on behind it (`Derivation.Unique`), and there
is one lemma for each rule.

In each of these lemmas, a second derivation starts with the same tokens. Unless it was made by the
same rule, the two are told apart by the first token, or by the token behind the part that they have
in common. If it was, then their parts agree from the left to the right.
-/

namespace Scriptlet.Grammar

variable {c : Category}

namespace Derivation

/-- Wherever the tokens of this derivation start some tokens, no other derivation does so, provided
that what follows each of them shows that it stops there. -/
def Unique {a : c.Tree} (d : Derivation c a) : Prop :=
  ∀ ⦃a' : c.Tree⦄ (d' : Derivation c a') ⦃rest rest' : List Token⦄, c.Followed a rest →
    c.Followed a' rest' → d.tokens ++ rest = d'.tokens ++ rest' →
      (⟨a, d⟩ : (a : c.Tree) × Derivation c a) = ⟨a', d'⟩ ∧ rest = rest'

namespace Unique

/-- What stands between line breaks, in front of the end of an element. -/
theorem between {a a' : c.Tree} {d : Derivation c a} {d' : Derivation c a'} (ih : d.Unique)
    (hfollowed : ∀ {a : c.Tree} {ts : List Token}, EndsElement ts → c.Followed a ts)
    (hstarts : ∃ t us, d.tokens = t :: us ∧ startsExpression t.kind = true)
    (hstarts' : ∃ t us, d'.tokens = t :: us ∧ startsExpression t.kind = true)
    {before after before' after' : Breaks} {us us' : List Token}
    (hus : EndsElement us ∧ peekKind us ≠ .newLine)
    (hus' : EndsElement us' ∧ peekKind us' ≠ .newLine)
    (h : before.tokens ++ (d.tokens ++ (after.tokens ++ us)) =
      before'.tokens ++ (d'.tokens ++ (after'.tokens ++ us'))) :
    before = before' ∧ (⟨a, d⟩ : (a : c.Tree) × Derivation c a) = ⟨a', d'⟩ ∧ after = after' ∧
      us = us' := by
  obtain ⟨hbefore, h⟩ := Breaks.append_inj (peekKind_of_starts hstarts _ rfl)
    (peekKind_of_starts hstarts' _ rfl) h
  obtain ⟨hd, h⟩ := ih d' (hfollowed (hus.1.breaks after)) (hfollowed (hus'.1.breaks after')) h
  obtain ⟨hafter, h⟩ := Breaks.append_inj hus.2 hus'.2 h
  exact ⟨hbefore, hd, hafter, h⟩

/-- An expression between delimiters. -/
theorem delimited {e e' : Expr} {d : Derivation .expression e} {d' : Derivation .expression e'}
    (ih : d.Unique) {k : Token.Kind} (hk : k = .rightParen ∨ k = .rightBracket)
    {before after before' after' : Breaks} {closing closing' : Terminal k} {us us' : List Token}
    (h : before.tokens ++ (d.tokens ++ (after.tokens ++ closing.toToken :: us)) =
      before'.tokens ++ (d'.tokens ++ (after'.tokens ++ closing'.toToken :: us'))) :
    before = before' ∧ (⟨e, d⟩ : (e : Expr) × Derivation .expression e) = ⟨e', d'⟩ ∧
      after = after' ∧ closing = closing' ∧ us = us' := by
  have hends : ∀ (t : Terminal k) (vs : List Token),
      EndsElement (t.toToken :: vs) ∧ peekKind (t.toToken :: vs) ≠ .newLine := by
    intro t vs
    have hlist : EndsList (t.toToken :: vs) :=
      hk.imp (t.peekKind_cons vs).trans (t.peekKind_cons vs).trans
    exact ⟨hlist.element, hlist.peekKind_ne.1⟩
  obtain ⟨hbefore, hd, hafter, h⟩ := ih.between EndsElement.expression d.expression_starts
    d'.expression_starts (hends closing us) (hends closing' us') h
  exact ⟨hbefore, hd, hafter, Terminal.cons_inj h⟩

theorem operators {l : Level} {e e' : Expr} {first : Derivation (.tier l.tighter) e}
    {further : Derivation (.chain l e) e'} (ih : first.Unique) (ih' : further.Unique) :
    (operators first further).Unique := by
  intro a' d' rest rest' hrest hrest' hts
  cases d' with
  | operators first' further' =>
    simp only [tokens, List.append_assoc] at hts
    obtain ⟨hd, hus⟩ := ih first' (further.chain_ends hrest).operand
      (further'.chain_ends hrest').operand hts
    cases hd
    obtain ⟨hd, rfl⟩ := ih' further' hrest hrest' hus
    cases hd
    exact ⟨rfl, rfl⟩

theorem lastOperand {l : Level} {left : Expr} :
    (lastOperand : Derivation (.chain l left) left).Unique := by
  intro a' d' rest rest' hrest _ hts
  cases d' with
  | lastOperand => exact ⟨rfl, hts⟩
  | operator _ _ _ => exact absurd hts.symm (Sign.cons_ne hrest)

theorem operator {l : Level} {left e e' : Expr} {sign : Sign l}
    {operand : Derivation (.tier l.tighter) e}
    {further : Derivation (.chain l (.binary left sign.operator e sign.position)) e'}
    (ih : operand.Unique) (ih' : further.Unique) : (operator sign operand further).Unique := by
  intro a' d' rest rest' hrest hrest' hts
  cases d' with
  | lastOperand => exact absurd hts (Sign.cons_ne hrest')
  | operator sign' operand' further' =>
    simp only [tokens, List.cons_append, List.append_assoc] at hts
    obtain ⟨rfl, hus⟩ := Sign.cons_inj hts
    obtain ⟨hd, hvs⟩ := ih operand' (further.chain_ends hrest).operand
      (further'.chain_ends hrest').operand hus
    cases hd
    obtain ⟨hd, rfl⟩ := ih' further' hrest hrest' hvs
    cases hd
    exact ⟨rfl, rfl⟩

theorem minus {e : Expr} {sign : Terminal .minus} {operand : Derivation (.tier none) e}
    (ih : operand.Unique) : (minus sign operand).Unique := by
  intro a' d' rest rest' hrest hrest' hts
  cases d' with
  | minus sign' operand' =>
    obtain ⟨rfl, hus⟩ := Terminal.cons_inj hts
    obtain ⟨hd, rfl⟩ := ih operand' hrest hrest' hus
    cases hd
    exact ⟨rfl, rfl⟩
  | _ => exact absurd hts (apart rfl rfl rfl)

theorem not {e : Expr} {word : Terminal .notWord} {operand : Derivation (.tier none) e}
    (ih : operand.Unique) : (not word operand).Unique := by
  intro a' d' rest rest' hrest hrest' hts
  cases d' with
  | not word' operand' =>
    obtain ⟨rfl, hus⟩ := Terminal.cons_inj hts
    obtain ⟨hd, rfl⟩ := ih operand' hrest hrest' hus
    cases hd
    exact ⟨rfl, rfl⟩
  | _ => exact absurd hts (apart rfl rfl rfl)

theorem members {e e' : Expr} {object : Derivation .primary e}
    {further : Derivation (.postfixes e) e'} (ih : object.Unique) (ih' : further.Unique) :
    (members object further).Unique := by
  intro a' d' rest rest' hrest hrest' hts
  cases d' with
  | members object' further' =>
    simp only [tokens, List.append_assoc] at hts
    obtain ⟨hd, hus⟩ := ih object' (further.postfixes_ends hrest)
      (further'.postfixes_ends hrest') hts
    cases hd
    obtain ⟨hd, rfl⟩ := ih' further' hrest hrest' hus
    cases hd
    exact ⟨rfl, rfl⟩
  | _ => exact absurd hts (apart rfl rfl rfl)

theorem noMember {e : Expr} : (noMember : Derivation (.postfixes e) e).Unique := by
  intro a' d' rest rest' hrest _ hts
  have hrest : Ends 0 rest := hrest
  cases d' with
  | noMember => exact ⟨rfl, hts⟩
  | memberName _ _ _ | memberCall _ _ _ => exact absurd hts.symm (Terminal.cons_ne hrest.dot)
  | memberIndex _ _ _ _ _ _ => exact absurd hts.symm (Terminal.cons_ne hrest.bracket)

theorem memberName {e e' : Expr} {dot : Terminal .dot} {n : Terminal .name}
    {further : Derivation (.postfixes (.field e (.name ⟨n.data, n.position⟩) e.position)) e'}
    (ih : further.Unique) : (memberName dot n further).Unique := by
  intro a' d' rest rest' hrest hrest' hts
  have hends : Ends 0 rest' := hrest'
  cases d' with
  | noMember => exact absurd hts (Terminal.cons_ne hends.dot)
  | memberName dot' n' further' =>
    simp only [tokens, List.cons_append] at hts
    obtain ⟨rfl, hus⟩ := Terminal.cons_inj hts
    obtain ⟨rfl, hvs⟩ := Terminal.cons_inj hus
    obtain ⟨hd, rfl⟩ := ih further' hrest hrest' hvs
    cases hd
    exact ⟨rfl, rfl⟩
  | memberCall dot' method further' =>
    cases method with
    | call n' opening arguments closing =>
      simp only [tokens, List.cons_append] at hts
      obtain ⟨rfl, hus⟩ := Terminal.cons_inj hts
      obtain ⟨rfl, hvs⟩ := Terminal.cons_inj hus
      -- What follows the name as a member would be the parenthesis of a call.
      exact absurd hvs.symm (Terminal.cons_ne (further.postfixes_ends hrest))
  | memberIndex opening _ _ _ _ _ =>
    refine absurd hts (Terminal.cons_ne ?_)
    simp [peekKind, opening.isKind]

theorem memberCall {e e' : Expr} {call : Call} {dot : Terminal .dot}
    {method : Derivation .call call}
    {further : Derivation (.postfixes (.field e (.call call) e.position)) e'}
    (ih : method.Unique) (ih' : further.Unique) : (memberCall dot method further).Unique := by
  intro a' d' rest rest' hrest hrest' hts
  have hends : Ends 0 rest' := hrest'
  cases d' with
  | noMember => exact absurd hts (Terminal.cons_ne hends.dot)
  | memberName dot' n' further' =>
    cases method with
    | call n opening arguments closing =>
      simp only [tokens, List.cons_append] at hts
      obtain ⟨rfl, hus⟩ := Terminal.cons_inj hts
      obtain ⟨rfl, hvs⟩ := Terminal.cons_inj hus
      exact absurd hvs (Terminal.cons_ne (further'.postfixes_ends hrest'))
  | memberCall dot' method' further' =>
    simp only [tokens, List.cons_append, List.append_assoc] at hts
    obtain ⟨rfl, hus⟩ := Terminal.cons_inj hts
    obtain ⟨hd, hvs⟩ := ih method' trivial trivial hus
    cases hd
    obtain ⟨hd, rfl⟩ := ih' further' hrest hrest' hvs
    cases hd
    exact ⟨rfl, rfl⟩
  | memberIndex opening _ _ _ _ _ =>
    refine absurd hts (Terminal.cons_ne ?_)
    simp [peekKind, opening.isKind]

theorem memberIndex {e e' key : Expr} {opening : Terminal .leftBracket} {before after : Breaks}
    {index : Derivation .expression key} {closing : Terminal .rightBracket}
    {further : Derivation (.postfixes (.field e (.index key) e.position)) e'}
    (ih : index.Unique) (ih' : further.Unique) :
    (memberIndex opening before index after closing further).Unique := by
  intro a' d' rest rest' hrest hrest' hts
  have hends : Ends 0 rest' := hrest'
  cases d' with
  | noMember => exact absurd hts (Terminal.cons_ne hends.bracket)
  | memberName dot _ _ | memberCall dot _ _ =>
    refine absurd hts (Terminal.cons_ne ?_)
    simp [peekKind, dot.isKind]
  | memberIndex opening' before' index' after' closing' further' =>
    simp only [tokens, List.cons_append, List.append_assoc] at hts
    obtain ⟨rfl, hus⟩ := Terminal.cons_inj hts
    obtain ⟨rfl, hd, rfl, rfl, hvs⟩ := ih.delimited (.inr rfl) hus
    cases hd
    obtain ⟨hd, rfl⟩ := ih' further' hrest hrest' hvs
    cases hd
    exact ⟨rfl, rfl⟩

theorem constant {value : Literal} {t : Token} {h : Constant t value} :
    (constant t h).Unique := by
  intro a' d' rest rest' hrest hrest' hts
  cases d' with
  | constant t' h' =>
    obtain ⟨rfl, rfl⟩ := List.cons.inj hts
    obtain rfl := h.unique h'
    exact ⟨rfl, rfl⟩
  | parenthesized _ _ _ _ _ => exact absurd hts (apart rfl rfl rfl)
  | _ => exact absurd hts (apart rfl rfl rfl)

theorem var {n : Terminal .name} : (var n).Unique := by
  intro a' d' rest rest' hrest hrest' hts
  cases d' with
  | var n' =>
    obtain ⟨rfl, rfl⟩ := Terminal.cons_inj hts
    exact ⟨rfl, rfl⟩
  | called h =>
    cases h with
    | call n' opening arguments closing =>
      obtain ⟨rfl, hus⟩ := Terminal.cons_inj hts
      -- A variable is not followed by a parenthesis.
      exact absurd hus.symm (Terminal.cons_ne hrest)
  | _ => exact absurd hts (apart rfl rfl rfl)

theorem called {call : Call} {h : Derivation .call call} (ih : h.Unique) : (called h).Unique := by
  intro a' d' rest rest' hrest hrest' hts
  cases d' with
  | var n' =>
    cases h with
    | call n opening arguments closing =>
      obtain ⟨rfl, hus⟩ := Terminal.cons_inj hts
      exact absurd hus (Terminal.cons_ne hrest')
  | called h' =>
    obtain ⟨hd, rfl⟩ := ih h' trivial trivial hts
    cases hd
    exact ⟨rfl, rfl⟩
  | _ => exact absurd hts (apart rfl rfl rfl)

theorem parenthesized {e : Expr} {opening : Terminal .leftParen} {before after : Breaks}
    {inner : Derivation .expression e} {closing : Terminal .rightParen} (ih : inner.Unique) :
    (parenthesized opening before inner after closing).Unique := by
  intro a' d' rest rest' hrest hrest' hts
  cases d' with
  | parenthesized opening' before' inner' after' closing' =>
    simp only [tokens, List.cons_append, List.append_assoc] at hts
    obtain ⟨rfl, hus⟩ := Terminal.cons_inj hts
    obtain ⟨rfl, hd, rfl, rfl, hrests⟩ := ih.delimited (.inl rfl) hus
    cases hd
    exact ⟨rfl, hrests⟩
  | _ => exact absurd hts (apart rfl rfl rfl)

theorem list {es : List Expr} {opening : Terminal .leftBracket}
    {values : Derivation (.elements .expression) es} {closing : Terminal .rightBracket}
    (ih : values.Unique) : (list opening values closing).Unique := by
  intro a' d' rest rest' hrest hrest' hts
  cases d' with
  | list opening' values' closing' =>
    simp only [tokens, List.cons_append, List.append_assoc] at hts
    obtain ⟨rfl, hus⟩ := Terminal.cons_inj hts
    obtain ⟨hd, hvs⟩ := ih values' (.inr (closing.peekKind_cons _))
      (.inr (closing'.peekKind_cons _)) hus
    cases hd
    obtain ⟨rfl, rfl⟩ := Terminal.cons_inj hvs
    exact ⟨rfl, rfl⟩
  | _ => exact absurd hts (apart rfl rfl rfl)

theorem mapping {b : Block} {h : Derivation .block b} (ih : h.Unique) : (mapping h).Unique := by
  intro a' d' rest rest' hrest hrest' hts
  cases d' with
  | mapping h' =>
    obtain ⟨hd, rfl⟩ := ih h' trivial trivial hts
    cases hd
    exact ⟨rfl, rfl⟩
  | _ => exact absurd hts (apart rfl rfl rfl)

theorem call {es : List Expr} {n : Terminal .name} {opening : Terminal .leftParen}
    {arguments : Derivation (.elements .expression) es} {closing : Terminal .rightParen}
    (ih : arguments.Unique) : (call n opening arguments closing).Unique := by
  intro a' d' rest rest' hrest hrest' hts
  cases d' with
  | call n' opening' arguments' closing' =>
    simp only [tokens, List.cons_append, List.append_assoc] at hts
    obtain ⟨rfl, hus⟩ := Terminal.cons_inj hts
    obtain ⟨rfl, hvs⟩ := Terminal.cons_inj hus
    obtain ⟨hd, hws⟩ := ih arguments' (.inl (closing.peekKind_cons _))
      (.inl (closing'.peekKind_cons _)) hvs
    cases hd
    obtain ⟨rfl, rfl⟩ := Terminal.cons_inj hws
    exact ⟨rfl, rfl⟩

theorem value {e : Expr} {h : Derivation .expression e} (ih : h.Unique) : (value h).Unique := by
  intro a' d' rest rest' hrest hrest' hts
  cases d' with
  | value h' =>
    obtain ⟨hd, rfl⟩ := ih h' (EndsElement.expression hrest) (EndsElement.expression hrest') hts
    cases hd
    exact ⟨rfl, rfl⟩

theorem parameter {n : Terminal .name} : (parameter n).Unique := by
  intro a' d' rest rest' hrest hrest' hts
  cases d' with
  | parameter n' =>
    obtain ⟨rfl, rfl⟩ := Terminal.cons_inj hts
    exact ⟨rfl, rfl⟩

theorem noElements {i : Item} {breaks : Breaks} :
    (noElements breaks : Derivation (.elements i) []).Unique := by
  intro a' d' rest rest' hrest hrest' hts
  have hends : EndsList rest := hrest
  cases d' with
  | noElements breaks' =>
    have hends' : EndsList rest' := hrest'
    obtain ⟨rfl, rfl⟩ := Breaks.append_inj hends.peekKind_ne.1 hends'.peekKind_ne.1 hts
    exact ⟨rfl, rfl⟩
  | elements before first after further =>
    simp only [tokens, List.append_assoc] at hts
    have hfirst := fun {k} => peekKind_of_starts first.item_starts
      (after.tokens ++ (further.tokens ++ rest')) (k := k)
    obtain ⟨rfl, rfl⟩ := Breaks.append_inj hends.peekKind_ne.1 (hfirst rfl) hts
    rcases hends with h | h
    · exact absurd h (hfirst rfl)
    · exact absurd h (hfirst rfl)

theorem elements {i : Item} {a : i.Tree} {as : List i.Tree} {before after : Breaks}
    {first : Derivation (.item i) a} {further : Derivation (.further i) as} (ih : first.Unique)
    (ih' : further.Unique) : (elements before first after further).Unique := by
  intro a' d' rest rest' hrest hrest' hts
  cases d' with
  | noElements breaks' =>
    have hends' : EndsList rest' := hrest'
    simp only [tokens, List.append_assoc] at hts
    have hfirst := fun {k} => peekKind_of_starts first.item_starts
      (after.tokens ++ (further.tokens ++ rest)) (k := k)
    obtain ⟨rfl, rfl⟩ := Breaks.append_inj (hfirst rfl) hends'.peekKind_ne.1 hts
    rcases hends' with h | h
    · exact absurd h (hfirst rfl)
    · exact absurd h (hfirst rfl)
  | elements before' first' after' further' =>
    simp only [tokens, List.append_assoc] at hts
    obtain ⟨rfl, hd, rfl, hus⟩ := ih.between id first.item_starts first'.item_starts
      (further.further_ends hrest) (further'.further_ends hrest') hts
    cases hd
    obtain ⟨hd, rfl⟩ := ih' further' hrest hrest' hus
    cases hd
    exact ⟨rfl, rfl⟩

theorem lastElement {i : Item} : (lastElement : Derivation (.further i) []).Unique := by
  intro a' d' rest rest' hrest hrest' hts
  have hends : EndsList rest := hrest
  cases d' with
  | lastElement => exact ⟨rfl, hts⟩
  | further _ _ _ _ _ => exact absurd hts.symm (Terminal.cons_ne hends.peekKind_ne.2)

theorem further {i : Item} {a : i.Tree} {as : List i.Tree} {comma : Terminal .comma}
    {before after : Breaks} {following : Derivation (.item i) a}
    {further : Derivation (.further i) as} (ih : following.Unique) (ih' : further.Unique) :
    (Derivation.further comma before following after further).Unique := by
  intro a' d' rest rest' hrest hrest' hts
  cases d' with
  | lastElement =>
    have hends' : EndsList rest' := hrest'
    exact absurd hts (Terminal.cons_ne hends'.peekKind_ne.2)
  | further comma' before' following' after' further' =>
    simp only [tokens, List.cons_append, List.append_assoc] at hts
    obtain ⟨rfl, hus⟩ := Terminal.cons_inj hts
    obtain ⟨rfl, hd, rfl, hvs⟩ := ih.between id following.item_starts following'.item_starts
      (further.further_ends hrest) (further'.further_ends hrest') hus
    cases hd
    obtain ⟨hd, rfl⟩ := ih' further' hrest hrest' hvs
    cases hd
    exact ⟨rfl, rfl⟩

theorem block {ss : List Statement} {opening : Terminal .leftBrace}
    {body : Derivation .statements ss} {closing : Terminal .rightBrace} (ih : body.Unique) :
    (block opening body closing).Unique := by
  intro a' d' rest rest' hrest hrest' hts
  cases d' with
  | block opening' body' closing' =>
    simp only [tokens, List.cons_append, List.append_assoc] at hts
    obtain ⟨rfl, hus⟩ := Terminal.cons_inj hts
    obtain ⟨hd, hvs⟩ := ih body' (.inl (closing.peekKind_cons _))
      (.inl (closing'.peekKind_cons _)) hus
    cases hd
    obtain ⟨rfl, rfl⟩ := Terminal.cons_inj hvs
    exact ⟨rfl, rfl⟩

theorem noStatements : noStatements.Unique := by
  intro a' d' rest rest' hrest _ hts
  cases d' with
  | noStatements => exact ⟨rfl, hts⟩
  | _ => exact absurd hts (ne_of_closes rfl rfl hrest)

theorem newLine {ss : List Statement} {t : Terminal .newLine}
    {further : Derivation .statements ss} (ih : further.Unique) : (newLine t further).Unique := by
  intro a' d' rest rest' hrest hrest' hts
  cases d' with
  | noStatements => exact absurd hts.symm (ne_of_closes rfl rfl hrest')
  | newLine t' further' =>
    obtain ⟨rfl, hus⟩ := Terminal.cons_inj hts
    obtain ⟨hd, rfl⟩ := ih further' hrest hrest' hus
    cases hd
    exact ⟨rfl, rfl⟩
  | _ => exact absurd hts (apart rfl rfl rfl)

theorem comment {ss : List Statement} {t : Terminal .comment}
    {further : Derivation .statements ss} (ih : further.Unique) : (comment t further).Unique := by
  intro a' d' rest rest' hrest hrest' hts
  cases d' with
  | noStatements => exact absurd hts.symm (ne_of_closes rfl rfl hrest')
  | comment t' further' =>
    obtain ⟨rfl, hus⟩ := Terminal.cons_inj hts
    obtain ⟨hd, rfl⟩ := ih further' hrest hrest' hus
    cases hd
    exact ⟨rfl, rfl⟩
  | _ => exact absurd hts (apart rfl rfl rfl)

theorem next {s : Statement} {ss : List Statement} {first : Derivation .statement s}
    {ends : s.endsInBlock = true ∨ Separates ss} {further : Derivation .statements ss}
    (ih : first.Unique) (ih' : further.Unique) : (next first ends further).Unique := by
  intro a' d' rest rest' hrest hrest' hts
  cases d' with
  | noStatements => exact absurd hts.symm (ne_of_closes rfl rfl hrest')
  | next first' ends' further' =>
    simp only [tokens, List.append_assoc] at hts
    obtain ⟨hd, hus⟩ := ih first' (further.statements_ends ends hrest)
      (further'.statements_ends ends' hrest') hts
    cases hd
    obtain ⟨hd, rfl⟩ := ih' further' hrest hrest' hus
    cases hd
    exact ⟨rfl, rfl⟩
  | _ => exact absurd hts (apart rfl rfl rfl)

theorem conditional {s : Statement} {h : Derivation .conditional s} (ih : h.Unique) :
    (conditional h).Unique := by
  intro a' d' rest rest' hrest hrest' hts
  cases d' with
  | conditional h' =>
    obtain ⟨hd, rfl⟩ := ih h' hrest.1 hrest'.1 hts
    cases hd
    exact ⟨rfl, rfl⟩
  | _ => exact absurd hts (apart rfl rfl rfl)

/-- An expression and a block behind it. -/
theorem body {e e' : Expr} {b b' : Block} {d : Derivation .expression e}
    {d' : Derivation .expression e'} {body : Derivation .block b} {body' : Derivation .block b'}
    (ih : d.Unique) (ih' : body.Unique) {rest rest' : List Token}
    (h : d.tokens ++ (body.tokens ++ rest) = d'.tokens ++ (body'.tokens ++ rest')) :
    (⟨e, d⟩ : (e : Expr) × Derivation .expression e) = ⟨e', d'⟩ ∧
      (⟨b, body⟩ : (b : Block) × Derivation .block b) = ⟨b', body'⟩ ∧ rest = rest' := by
  obtain ⟨hd, h⟩ := ih d' (body.block_ends rest) (body'.block_ends rest') h
  exact ⟨hd, ih' body' trivial trivial h⟩

theorem loop {iterable : Expr} {b : Block} {word : Terminal .forWord} {item : Terminal .name}
    {inWord : Terminal .inWord} {iterated : Derivation .expression iterable}
    {body : Derivation .block b} (ih : iterated.Unique) (ih' : body.Unique) :
    (loop word item inWord iterated body).Unique := by
  intro a' d' rest rest' hrest hrest' hts
  cases d' with
  | loop word' item' inWord' iterated' body' =>
    simp only [tokens, List.cons_append, List.append_assoc] at hts
    obtain ⟨rfl, hus⟩ := Terminal.cons_inj hts
    obtain ⟨rfl, hvs⟩ := Terminal.cons_inj hus
    obtain ⟨rfl, hbodies⟩ := Terminal.cons_inj hvs
    obtain ⟨hd, hd', rfl⟩ := ih.body ih' hbodies
    cases hd
    cases hd'
    exact ⟨rfl, rfl⟩
  | indexedLoop word' index' comma' item' inWord' iterated' body' =>
    obtain ⟨rfl, hus⟩ := Terminal.cons_inj hts
    obtain ⟨rfl, hvs⟩ := Terminal.cons_inj hus
    refine absurd hvs (Terminal.cons_ne ?_)
    simp [peekKind, comma'.isKind]
  | _ => exact absurd hts (apart rfl rfl rfl)

theorem indexedLoop {iterable : Expr} {b : Block} {word : Terminal .forWord}
    {index : Terminal .name} {comma : Terminal .comma} {item : Terminal .name}
    {inWord : Terminal .inWord} {iterated : Derivation .expression iterable}
    {body : Derivation .block b} (ih : iterated.Unique) (ih' : body.Unique) :
    (indexedLoop word index comma item inWord iterated body).Unique := by
  intro a' d' rest rest' hrest hrest' hts
  cases d' with
  | loop word' item' inWord' iterated' body' =>
    obtain ⟨rfl, hus⟩ := Terminal.cons_inj hts
    obtain ⟨rfl, hvs⟩ := Terminal.cons_inj hus
    refine absurd hvs (Terminal.cons_ne ?_)
    simp [peekKind, inWord'.isKind]
  | indexedLoop word' index' comma' item' inWord' iterated' body' =>
    simp only [tokens, List.cons_append, List.append_assoc] at hts
    obtain ⟨rfl, hus⟩ := Terminal.cons_inj hts
    obtain ⟨rfl, hvs⟩ := Terminal.cons_inj hus
    obtain ⟨rfl, hws⟩ := Terminal.cons_inj hvs
    obtain ⟨rfl, hxs⟩ := Terminal.cons_inj hws
    obtain ⟨rfl, hbodies⟩ := Terminal.cons_inj hxs
    obtain ⟨hd, hd', rfl⟩ := ih.body ih' hbodies
    cases hd
    cases hd'
    exact ⟨rfl, rfl⟩
  | _ => exact absurd hts (apart rfl rfl rfl)

theorem exit {word : Terminal .returnWord} : (exit word).Unique := by
  intro a' d' rest rest' hrest hrest' hts
  cases d' with
  | exit word' =>
    obtain ⟨rfl, rfl⟩ := Terminal.cons_inj hts
    exact ⟨rfl, rfl⟩
  | exitWith word' result' =>
    obtain ⟨rfl, hus⟩ := Terminal.cons_inj hts
    exact absurd hus.symm (result'.apart_returnsNothing (hrest.nothing rfl))
  | _ => exact absurd hts (apart rfl rfl rfl)

theorem exitWith {e : Expr} {word : Terminal .returnWord} {result : Derivation .expression e}
    (ih : result.Unique) : (exitWith word result).Unique := by
  intro a' d' rest rest' hrest hrest' hts
  cases d' with
  | exit word' =>
    obtain ⟨rfl, hus⟩ := Terminal.cons_inj hts
    exact absurd hus (result.apart_returnsNothing (hrest'.nothing rfl))
  | exitWith word' result' =>
    obtain ⟨rfl, hus⟩ := Terminal.cons_inj hts
    obtain ⟨hd, rfl⟩ := ih result' (EndsExpression.of_returnsNothing (hrest.nothing rfl))
      (EndsExpression.of_returnsNothing (hrest'.nothing rfl)) hus
    cases hd
    exact ⟨rfl, rfl⟩
  | _ => exact absurd hts (apart rfl rfl rfl)

theorem stop {word : Terminal .breakWord} : (stop word).Unique := by
  intro a' d' rest rest' hrest hrest' hts
  cases d' with
  | stop word' =>
    obtain ⟨rfl, rfl⟩ := Terminal.cons_inj hts
    exact ⟨rfl, rfl⟩
  | _ => exact absurd hts (apart rfl rfl rfl)

theorem skip {word : Terminal .continueWord} : (skip word).Unique := by
  intro a' d' rest rest' hrest hrest' hts
  cases d' with
  | skip word' =>
    obtain ⟨rfl, rfl⟩ := Terminal.cons_inj hts
    exact ⟨rfl, rfl⟩
  | _ => exact absurd hts (apart rfl rfl rfl)

theorem definition {parameters : List Variable} {b : Block} {n : Terminal .name}
    {opening : Terminal .leftParen} {names : Derivation (.elements .parameter) parameters}
    {closing : Terminal .rightParen} {body : Derivation .block b} (ih : names.Unique)
    (ih' : body.Unique) : (definition n opening names closing body).Unique := by
  intro a' d' rest rest' hrest hrest' hts
  have hdefinition := startsDefinition_definition n opening names closing body rest
  cases d' with
  | definition n' opening' names' closing' body' =>
    simp only [tokens, List.cons_append, List.append_assoc] at hts
    obtain ⟨rfl, hus⟩ := Terminal.cons_inj hts
    obtain ⟨rfl, hvs⟩ := Terminal.cons_inj hus
    obtain ⟨hd, hws⟩ := ih names' (.inl (closing.peekKind_cons _))
      (.inl (closing'.peekKind_cons _)) hvs
    cases hd
    obtain ⟨rfl, hbodies⟩ := Terminal.cons_inj hws
    obtain ⟨hd, rfl⟩ := ih' body' trivial trivial hbodies
    cases hd
    exact ⟨rfl, rfl⟩
  -- The tokens cannot both look like a definition and not.
  | assign place isPlace sign content =>
    rw [hts, startsDefinition_assign] at hdefinition
    cases hdefinition
  | expression h =>
    rw [hts, tokens, startsDefinition_expression h (hrest'.nothing rfl)] at hdefinition
    cases hdefinition
  | _ => exact absurd hts (apart rfl rfl rfl)

theorem assign {target assigned : Expr} {place : Derivation .expression target}
    {isPlace : target.isPlace = true} {sign : Terminal .assign}
    {content : Derivation .expression assigned} (ih : place.Unique) (ih' : content.Unique) :
    (assign place isPlace sign content).Unique := by
  intro a' d' rest rest' hrest hrest' hts
  cases d' with
  | definition n opening names closing body =>
    have hdefinition := startsDefinition_definition n opening names closing body rest'
    rw [← hts, startsDefinition_assign] at hdefinition
    cases hdefinition
  | assign place' isPlace' sign' content' =>
    simp only [tokens, List.append_assoc, List.cons_append] at hts
    obtain ⟨hd, hus⟩ := ih place' (sign.ends _) (sign'.ends _) hts
    cases hd
    obtain ⟨rfl, hvs⟩ := Terminal.cons_inj hus
    obtain ⟨hd, rfl⟩ := ih' content' (EndsExpression.of_returnsNothing (hrest.nothing rfl))
      (EndsExpression.of_returnsNothing (hrest'.nothing rfl)) hvs
    cases hd
    exact ⟨rfl, rfl⟩
  | expression h =>
    simp only [tokens, List.append_assoc, List.cons_append] at hts
    obtain ⟨hd, hus⟩ := ih h (sign.ends _)
      (EndsExpression.of_returnsNothing (hrest'.nothing rfl)) hts
    exact absurd hus (Terminal.cons_ne (ne_of_returnsNothing (hrest'.nothing rfl) rfl))
  | _ => exact absurd hts (apart rfl rfl rfl)

theorem expression {e : Expr} {h : Derivation .expression e} (ih : h.Unique) :
    (expression h).Unique := by
  intro a' d' rest rest' hrest hrest' hts
  cases d' with
  | definition n opening names closing body =>
    have hdefinition := startsDefinition_definition n opening names closing body rest'
    rw [← hts, tokens, startsDefinition_expression h (hrest.nothing rfl)] at hdefinition
    cases hdefinition
  | assign place isPlace sign content =>
    simp only [tokens, List.append_assoc, List.cons_append] at hts
    obtain ⟨hd, hus⟩ := ih place (EndsExpression.of_returnsNothing (hrest.nothing rfl))
      (sign.ends _) hts
    exact absurd hus.symm (Terminal.cons_ne (ne_of_returnsNothing (hrest.nothing rfl) rfl))
  | expression h' =>
    obtain ⟨hd, rfl⟩ := ih h' (EndsExpression.of_returnsNothing (hrest.nothing rfl))
      (EndsExpression.of_returnsNothing (hrest'.nothing rfl)) hts
    cases hd
    exact ⟨rfl, rfl⟩
  | _ => exact absurd hts (apart rfl rfl rfl)

theorem ifThen {condition : Expr} {b : Block} {word : Terminal .ifWord}
    {test : Derivation .expression condition} {body : Derivation .block b} (ih : test.Unique)
    (ih' : body.Unique) : (ifThen word test body).Unique := by
  intro a' d' rest rest' hrest hrest' hts
  cases d' with
  | ifThen word' test' body' =>
    simp only [tokens, List.cons_append, List.append_assoc] at hts
    obtain ⟨rfl, hus⟩ := Terminal.cons_inj hts
    obtain ⟨hd, hd', rfl⟩ := ih.body ih' hus
    cases hd
    cases hd'
    exact ⟨rfl, rfl⟩
  | ifThenElse word' test' body' elseWord' otherwise' =>
    simp only [tokens, List.cons_append, List.append_assoc] at hts
    obtain ⟨rfl, hus⟩ := Terminal.cons_inj hts
    obtain ⟨-, -, hvs⟩ := ih.body ih' hus
    exact absurd hvs.symm (Terminal.cons_ne hrest)

theorem ifThenElse {condition : Expr} {b b' : Block} {word : Terminal .ifWord}
    {test : Derivation .expression condition} {body : Derivation .block b}
    {elseWord : Terminal .elseWord} {otherwise : Derivation .branch b'} (ih : test.Unique)
    (ih' : body.Unique) (ih'' : otherwise.Unique) :
    (ifThenElse word test body elseWord otherwise).Unique := by
  intro a' d' rest rest' hrest hrest' hts
  cases d' with
  | ifThen word' test' body' =>
    simp only [tokens, List.cons_append, List.append_assoc] at hts
    obtain ⟨rfl, hus⟩ := Terminal.cons_inj hts
    obtain ⟨-, -, hvs⟩ := ih.body ih' hus
    exact absurd hvs (Terminal.cons_ne hrest')
  | ifThenElse word' test' body' elseWord' otherwise' =>
    simp only [tokens, List.cons_append, List.append_assoc] at hts
    obtain ⟨rfl, hus⟩ := Terminal.cons_inj hts
    obtain ⟨hd, hd', hvs⟩ := ih.body ih' hus
    cases hd
    cases hd'
    obtain ⟨rfl, hws⟩ := Terminal.cons_inj hvs
    obtain ⟨hd, rfl⟩ := ih'' otherwise' hrest hrest' hws
    cases hd
    exact ⟨rfl, rfl⟩

theorem branchBlock {b : Block} {h : Derivation .block b} (ih : h.Unique) :
    (branchBlock h).Unique := by
  intro a' d' rest rest' hrest hrest' hts
  cases d' with
  | branchBlock h' =>
    obtain ⟨hd, rfl⟩ := ih h' trivial trivial hts
    cases hd
    exact ⟨rfl, rfl⟩
  | branchIf _ => exact absurd hts (apart rfl rfl rfl)

theorem branchIf {s : Statement} {nested : Derivation .conditional s} (ih : nested.Unique) :
    (branchIf nested).Unique := by
  intro a' d' rest rest' hrest hrest' hts
  cases d' with
  | branchBlock _ => exact absurd hts (apart rfl rfl rfl)
  | branchIf nested' =>
    obtain ⟨hd, rfl⟩ := ih nested' hrest hrest' hts
    cases hd
    exact ⟨rfl, rfl⟩

end Unique

/-- By induction on the derivation. A part of it is followed by the other parts, so the tokens
decide one part after the other. -/
theorem unique {a : c.Tree} (d : Derivation c a) : d.Unique := by
  induction d with
  | operators _ _ ih ih' => exact .operators ih ih'
  | lastOperand => exact .lastOperand
  | operator _ _ _ ih ih' => exact .operator ih ih'
  | minus _ _ ih => exact .minus ih
  | not _ _ ih => exact .not ih
  | members _ _ ih ih' => exact .members ih ih'
  | noMember => exact .noMember
  | memberName _ _ _ ih => exact .memberName ih
  | memberCall _ _ _ ih ih' => exact .memberCall ih ih'
  | memberIndex _ _ _ _ _ _ ih ih' => exact .memberIndex ih ih'
  | constant _ _ => exact .constant
  | var _ => exact .var
  | called _ ih => exact .called ih
  | parenthesized _ _ _ _ _ ih => exact .parenthesized ih
  | list _ _ _ ih => exact .list ih
  | mapping _ ih => exact .mapping ih
  | call _ _ _ _ ih => exact .call ih
  | value _ ih => exact .value ih
  | parameter _ => exact .parameter
  | noElements _ => exact .noElements
  | elements _ _ _ _ ih ih' => exact .elements ih ih'
  | lastElement => exact .lastElement
  | further _ _ _ _ _ ih ih' => exact .further ih ih'
  | block _ _ _ ih => exact .block ih
  | noStatements => exact .noStatements
  | newLine _ _ ih => exact .newLine ih
  | comment _ _ ih => exact .comment ih
  | next _ _ _ ih ih' => exact .next ih ih'
  | conditional _ ih => exact .conditional ih
  | loop _ _ _ _ _ ih ih' => exact .loop ih ih'
  | indexedLoop _ _ _ _ _ _ _ ih ih' => exact .indexedLoop ih ih'
  | exit _ => exact .exit
  | exitWith _ _ ih => exact .exitWith ih
  | stop _ => exact .stop
  | skip _ => exact .skip
  | definition _ _ _ _ _ ih ih' => exact .definition ih ih'
  | assign _ _ _ _ ih ih' => exact .assign ih ih'
  | expression _ ih => exact .expression ih
  | ifThen _ _ _ ih ih' => exact .ifThen ih ih'
  | ifThenElse _ _ _ _ _ ih ih' ih'' => exact .ifThenElse ih ih' ih''
  | branchBlock _ ih => exact .branchBlock ih
  | branchIf _ ih => exact .branchIf ih

end Derivation

end Scriptlet.Grammar
