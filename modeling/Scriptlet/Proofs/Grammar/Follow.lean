import Scriptlet.Proofs.Grammar.Rules

/-!
# Where derivations start and stop

What tells the derivations of the grammar apart, without regard to a reader: the first token decides
which rule was applied (`Derivation.apart`), up to a few rules that start alike, and the token
behind a derivation shows that it stops there (`Category.Followed`). Definitions and calls may start
alike for as long as one likes; what tells them apart is the brace behind the parentheses
(`Derivation.startsDefinition_definition`, `Derivation.startsDefinition_expression`).
-/

namespace Scriptlet.Grammar

variable {c : Category}

/-! ## Words -/

/-- Words of one kind are told apart by their tokens. -/
theorem Terminal.cons_inj {k : Token.Kind} {t t' : Terminal k} {us us' : List Token}
    (h : t.toToken :: us = t'.toToken :: us') : t = t' ∧ us = us' := by
  obtain ⟨t, ht⟩ := t
  obtain ⟨t', ht'⟩ := t'
  obtain ⟨rfl, rfl⟩ := List.cons.inj h
  exact ⟨rfl, rfl⟩

theorem Terminal.peekKind_cons {k : Token.Kind} (t : Terminal k) (us : List Token) :
    peekKind (t.toToken :: us) = k :=
  t.isKind

/-- A word does not stand where something else is next. -/
theorem Terminal.cons_ne {k : Token.Kind} {t : Terminal k} {us ts : List Token}
    (h : peekKind ts ≠ k) : t.toToken :: us ≠ ts := by
  rintro rfl
  exact h (t.peekKind_cons us)

theorem Sign.cons_inj {l : Level} {t t' : Sign l} {us us' : List Token}
    (h : t.toToken :: us = t'.toToken :: us') : t = t' ∧ us = us' := by
  obtain ⟨t, o, ho, hl⟩ := t
  obtain ⟨t', o', ho', hl'⟩ := t'
  obtain ⟨rfl, rfl⟩ := List.cons.inj h
  obtain rfl : o = o' := Option.some.inj (ho.symm.trans ho')
  exact ⟨rfl, rfl⟩

/-- An operator of the level does not stand where the level ends. -/
theorem Sign.cons_ne {l : Level} {t : Sign l} {us ts : List Token}
    (h : Ends (l.looseness + 1) ts) : t.toToken :: us ≠ ts := by
  rintro rfl
  have hloose : l.looseness + 1 ≤ t.operator.level.looseness := h.operator t.isOperator
  rw [t.ofLevel] at hloose
  omega

/-- Line breaks reach up to the first token that is none. -/
theorem Breaks.append_inj {b b' : Breaks} {us us' : List Token} (hus : peekKind us ≠ .newLine)
    (hus' : peekKind us' ≠ .newLine) (h : b.tokens ++ us = b'.tokens ++ us') :
    b = b' ∧ us = us' := by
  obtain rfl : us = us' := by
    rw [← skipNewLines_append b.each hus, h, skipNewLines_append b'.each hus']
  obtain ⟨ts, hts⟩ := b
  obtain ⟨ts', hts'⟩ := b'
  obtain rfl : ts = ts' := List.append_cancel_right h
  exact ⟨rfl, rfl⟩

/-- A token is one constant at most. -/
theorem Constant.unique {t : Token} {value value' : Literal} (h : Constant t value)
    (h' : Constant t value') : value = value' := by
  cases h with
  | integer isKind hn =>
    cases h' with
    | integer _ hn' => rw [Int64.toInt_inj.mp (Option.some.inj (hn.symm.trans hn'))]
    | _ => simp_all
  | _ => cases h' <;> simp_all

/-! ## What may follow -/

/-- Where an element of a list is over. -/
def EndsElement (rest : List Token) : Prop :=
  peekKind rest = .newLine ∨ peekKind rest = .comma ∨
    peekKind rest = .rightParen ∨ peekKind rest = .rightBracket

/-- Where a list is over. -/
def EndsList (rest : List Token) : Prop :=
  peekKind rest = .rightParen ∨ peekKind rest = .rightBracket

/-- Where a statement is over. -/
def EndsStatement (s : Statement) (rest : List Token) : Prop :=
  peekKind rest ≠ .elseWord ∧ (s.endsInBlock = true ∨ returnsNothing rest = true)

/-- What may follow, so that it is clear that the phrase stops in front of it. -/
def Category.Followed : (c : Category) → c.Tree → List Token → Prop
  | .tier (some l), _, rest | .chain l _, _, rest => Ends (l.looseness + 1) rest
  | .tier none, _, rest | .postfixes _, _, rest => Ends 0 rest
  | .primary, _, rest => peekKind rest ≠ .leftParen
  | .item _, _, rest => EndsElement rest
  | .elements _, _, rest | .further _, _, rest => EndsList rest
  | .call, _, _ | .block, _, _ => True
  | .statements, _, rest => Closes (peekKind rest)
  | .statement, s, rest => EndsStatement s rest
  | .conditional, _, rest | .branch, _, rest => peekKind rest ≠ .elseWord

/-- Where an operator of a level may follow, an operand of this level stops. -/
theorem Ends.operand {l : Level} {e : Expr} {rest : List Token} (h : Ends l.looseness rest) :
    (Category.tier l.tighter).Followed e rest := by
  cases l <;> exact h

theorem EndsElement.expression {e : Expr} {rest : List Token} (h : EndsElement rest) :
    Category.expression.Followed e rest := by
  rcases h with h | h | h | h <;> exact .of_kind h (by decide) rfl

/-- A statement that does not end in a block is followed by what may follow a `return`. -/
theorem EndsStatement.nothing {s : Statement} {rest : List Token} (h : EndsStatement s rest)
    (hs : s.endsInBlock = false) : returnsNothing rest = true :=
  h.2.resolve_left (ne_true_of_eq_false hs)

/-- An equals sign ends the expression in front of it. -/
theorem Terminal.ends {e : Expr} (sign : Terminal .assign) (rest : List Token) :
    Category.expression.Followed e (sign.toToken :: rest) :=
  Ends.of_kind sign.isKind (by decide) rfl

theorem EndsList.element {rest : List Token} (h : EndsList rest) : EndsElement rest :=
  .inr (.inr h)

theorem EndsElement.breaks {rest : List Token} (breaks : Breaks) (h : EndsElement rest) :
    EndsElement (breaks.tokens ++ rest) := by
  obtain ⟨ts, hts⟩ := breaks
  cases ts with
  | nil => exact h
  | cons t ts => exact .inl (hts t List.mem_cons_self)

theorem EndsList.peekKind_ne {rest : List Token} (h : EndsList rest) :
    peekKind rest ≠ .newLine ∧ peekKind rest ≠ .comma := by
  rcases h with h | h <;> rw [h] <;> decide

namespace Derivation

/-! What follows the first part of a derivation is the second part, and what follows that. -/

theorem chain_ends {l : Level} {left e : Expr} (d : Derivation (.chain l left) e)
    {rest : List Token} (h : Ends (l.looseness + 1) rest) :
    Ends l.looseness (d.tokens ++ rest) := by
  cases d with
  | lastOperand => exact h.mono (Nat.le_succ _)
  | operator sign operand further =>
    obtain ⟨t, o, ho, rfl⟩ := sign
    exact .of_operator ho _

theorem postfixes_ends {node e : Expr} (d : Derivation (.postfixes node) e)
    {rest : List Token} (h : Ends 0 rest) : peekKind (d.tokens ++ rest) ≠ .leftParen := by
  cases d with
  | noMember => exact h.paren
  | memberName dot _ _ | memberCall dot _ _ => simp [peekKind, dot.isKind]
  | memberIndex opening _ _ _ _ _ => simp [peekKind, opening.isKind]

theorem further_ends {i : Item} {as : List i.Tree} (d : Derivation (.further i) as)
    {rest : List Token} (h : EndsList rest) :
    EndsElement (d.tokens ++ rest) ∧ peekKind (d.tokens ++ rest) ≠ .newLine := by
  cases d with
  | lastElement => exact ⟨h.element, h.peekKind_ne.1⟩
  | further comma _ _ _ _ =>
    exact ⟨.inr (.inl comma.isKind), by simp [peekKind, comma.isKind]⟩

theorem statements_ends {s : Statement} {ss : List Statement} (d : Derivation .statements ss)
    (ends : s.endsInBlock = true ∨ Separates ss) {rest : List Token}
    (h : Closes (peekKind rest)) : EndsStatement s (d.tokens ++ rest) := by
  have hrest : peekKind rest = peekKind rest ∨ peekKind rest = .endOfInput := .inl rfl
  refine ⟨d.derives.peekKind_ne_else h hrest, ends.imp_right fun hss => ?_⟩
  exact returnsNothing_of_endsStatement h ((hss.separated d.derives).endsStatement hrest)

theorem block_ends {e : Expr} {b : Block} (d : Derivation .block b) (rest : List Token) :
    Category.expression.Followed e (d.tokens ++ rest) := by
  cases d with
  | block opening _ _ => exact Ends.of_kind opening.isKind (by decide) rfl

theorem expression_starts {e : Expr} (d : Derivation .expression e) :
    ∃ t us, d.tokens = t :: us ∧ startsExpression t.kind = true :=
  d.derives.starts rfl

/-- What starts an expression is no end of a statement. -/
theorem apart_returnsNothing {e : Expr} (d : Derivation .expression e) {rest rest' : List Token}
    (h : returnsNothing rest = true) : d.tokens ++ rest' ≠ rest := by
  obtain ⟨t, us, hts, ht⟩ := d.expression_starts
  rw [hts]
  rintro rfl
  rw [List.cons_append, returnsNothing_eq_false ht] at h
  cases h

theorem item_starts {i : Item} {a : i.Tree} (d : Derivation (.item i) a) :
    ∃ t us, d.tokens = t :: us ∧ startsExpression t.kind = true := by
  cases d with
  | value h => exact h.derives.starts rfl
  | parameter n => exact ⟨n.toToken, [], rfl, by rw [n.isKind]; rfl⟩

/-- What does not start an expression is not the first token of one. -/
theorem peekKind_of_starts {ts : List Token}
    (h : ∃ t us, ts = t :: us ∧ startsExpression t.kind = true) (rest : List Token)
    {k : Token.Kind} (hk : startsExpression k = false) : peekKind (ts ++ rest) ≠ k := by
  obtain ⟨t, us, rfl, ht⟩ := h
  rintro rfl
  rw [show startsExpression t.kind = _ from hk] at ht
  cases ht

/-! ## How the rules start -/

/-- The kinds of tokens with which a primary starts. -/
def primaryStarters : List Token.Kind :=
  [.integer, .string, .trueWord, .falseWord, .name, .leftParen, .leftBracket, .leftBrace]

/-- The kinds of tokens with which an expression starts. -/
def expressionStarters : List Token.Kind :=
  .minus :: .notWord :: primaryStarters

/-- The kinds of tokens with which a statement starts that is no line break and no comment. -/
def statementStarters : List Token.Kind :=
  .ifWord :: .forWord :: .returnWord :: .breakWord :: .continueWord :: expressionStarters

/-- The kinds of tokens with which the rule at the root of a derivation starts, for the rules that
are told apart by them. -/
def starters? {a : c.Tree} : Derivation c a → Option (List Token.Kind)
  | minus _ _ => some [.minus]
  | not _ _ => some [.notWord]
  | members _ _ => some primaryStarters
  | constant _ _ => some [.integer, .string, .trueWord, .falseWord]
  | var _ | called _ => some [.name]
  | parenthesized _ _ _ _ _ => some [.leftParen]
  | list _ _ _ => some [.leftBracket]
  | mapping _ => some [.leftBrace]
  | newLine _ _ => some [.newLine]
  | comment _ _ => some [.comment]
  | next _ _ _ => some statementStarters
  | conditional _ => some [.ifWord]
  | loop _ _ _ _ _ | indexedLoop _ _ _ _ _ _ _ => some [.forWord]
  | exit _ | exitWith _ _ => some [.returnWord]
  | stop _ => some [.breakWord]
  | skip _ => some [.continueWord]
  | definition _ _ _ _ _ => some [.name]
  | assign _ _ _ _ | expression _ => some expressionStarters
  | branchBlock _ => some [.leftBrace]
  | branchIf _ => some [.ifWord]
  | _ => none

theorem mem_of_startsPrimary {k : Token.Kind} (h : startsPrimary k = true) :
    k ∈ primaryStarters := by
  cases k <;> first | decide | cases h

theorem mem_of_startsExpression {k : Token.Kind} (h : startsExpression k = true) :
    k ∈ expressionStarters := by
  cases k <;> first | decide | cases h

theorem mem_of_startsStatement {k : Token.Kind} (h : startsStatement k = true) :
    k ∈ statementStarters := by
  cases k <;> first | decide | cases h

/-- A derivation starts with a token that fits its rule. -/
theorem starts {a : c.Tree} (d : Derivation c a) {ks : List Token.Kind}
    (h : d.starters? = some ks) : ∃ t us, d.tokens = t :: us ∧ t.kind ∈ ks := by
  cases d with
  | minus t _ | not t _ | var t | parenthesized t _ _ _ _ | list t _ _ | newLine t _
  | comment t _ | loop t _ _ _ _ | indexedLoop t _ _ _ _ _ _ | exit t | exitWith t _ | stop t
  | skip t | definition t _ _ _ _ =>
    cases h
    exact ⟨_, _, rfl, List.mem_singleton.mpr t.isKind⟩
  | members object rest =>
    cases h
    obtain ⟨t, us, hts, ht⟩ := object.derives.starts rfl
    exact ⟨t, us ++ rest.tokens, by rw [tokens, hts, List.cons_append], mem_of_startsPrimary ht⟩
  | constant t ht =>
    cases h
    refine ⟨_, _, rfl, ?_⟩
    cases ht <;> simp [*]
  | called d =>
    cases h
    cases d with
    | call n _ _ _ => exact ⟨_, _, rfl, List.mem_singleton.mpr n.isKind⟩
  | mapping d | branchBlock d =>
    cases h
    cases d with
    | block opening _ _ => exact ⟨_, _, rfl, List.mem_singleton.mpr opening.isKind⟩
  | next first _ rest =>
    cases h
    obtain ⟨t, us, hts, ht⟩ := first.derives.starts rfl
    exact ⟨t, us ++ rest.tokens, by rw [tokens, hts, List.cons_append], mem_of_startsStatement ht⟩
  | conditional d | branchIf d =>
    cases h
    cases d with
    | ifThen t _ _ | ifThenElse t _ _ _ _ => exact ⟨_, _, rfl, List.mem_singleton.mpr t.isKind⟩
  | assign place _ sign content =>
    cases h
    obtain ⟨t, us, hts, ht⟩ := place.derives.starts rfl
    exact ⟨t, us ++ sign.toToken :: content.tokens, by rw [tokens, hts, List.cons_append],
      mem_of_startsExpression ht⟩
  | expression d =>
    cases h
    obtain ⟨t, us, hts, ht⟩ := d.derives.starts rfl
    exact ⟨t, us, hts, mem_of_startsExpression ht⟩
  | _ => cases h

/-- Two rules that start differently do not start the same tokens. -/
theorem apart {a a' : c.Tree} {d : Derivation c a} {d' : Derivation c a'}
    {ks ks' : List Token.Kind} (h : d.starters? = some ks) (h' : d'.starters? = some ks')
    (hks : (ks.all fun k => decide (k ∉ ks')) = true) {rest rest' : List Token} :
    d.tokens ++ rest ≠ d'.tokens ++ rest' := by
  obtain ⟨t, us, hts, ht⟩ := d.starts h
  obtain ⟨t', us', hts', ht'⟩ := d'.starts h'
  rw [hts, hts']
  intro heq
  obtain ⟨rfl, -⟩ := List.cons.inj heq
  exact of_decide_eq_true (List.all_eq_true.mp hks _ ht) ht'

/-- Statements do not start where they are over. -/
theorem ne_of_closes {ss : List Statement} {d : Derivation .statements ss}
    {ks : List Token.Kind} (h : d.starters? = some ks)
    (hks : (ks.all fun k => decide (¬ Closes k)) = true) {rest rest' : List Token}
    (hrest : Closes (peekKind rest)) : rest ≠ d.tokens ++ rest' := by
  obtain ⟨t, us, hts, ht⟩ := d.starts h
  rw [hts]
  rintro rfl
  exact of_decide_eq_true (List.all_eq_true.mp hks _ ht) hrest

/-! ## Definitions and calls -/

/-- A definition looks like one. -/
theorem startsDefinition_definition {parameters : List Variable} {b : Block} (n : Terminal .name)
    (opening : Terminal .leftParen) (names : Derivation (.elements .parameter) parameters)
    (closing : Terminal .rightParen) (body : Derivation .block b) (rest : List Token) :
    startsDefinition ((definition n opening names closing body).tokens ++ rest) = true := by
  cases body with
  | block brace body closing' =>
    rw [tokens, List.cons_append, List.cons_append, List.append_assoc]
    exact startsDefinition_eq_true n.isKind opening.isKind names.derives closing.isKind brace.isKind

/-- An expression that is a statement does not look like a definition. -/
theorem startsDefinition_expression {e : Expr} (d : Derivation .expression e) {rest : List Token}
    (h : returnsNothing rest = true) : startsDefinition (d.tokens ++ rest) = false :=
  d.derives.startsDefinition_eq_false rfl (ne_of_returnsNothing h rfl) (ne_of_returnsNothing h rfl)

/-- An assignment does not look like a definition. -/
theorem startsDefinition_assign {target assigned : Expr} (place : Derivation .expression target)
    (isPlace : target.isPlace = true) (sign : Terminal .assign)
    (content : Derivation .expression assigned) (rest : List Token) :
    startsDefinition ((assign place isPlace sign content).tokens ++ rest) = false := by
  -- The target may end in a call, but an equals sign behind it is no body.
  rw [tokens, List.append_assoc]
  refine place.derives.startsDefinition_eq_false rfl ?_ ?_
  · simp [peekKind, sign.isKind]
  · simp [peekKind, sign.isKind]

end Derivation

end Scriptlet.Grammar
