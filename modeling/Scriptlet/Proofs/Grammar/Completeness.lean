import Scriptlet.Proofs.Grammar.Soundness

/-!
# What is spelled is read

From tokens that the rules of the grammar derive, the readers take exactly these tokens and the tree
that they spell, provided that what follows does not go on with the phrase
(`Derives.readOff`). The proof is an induction on derivations with one case for each rule; what has
to be shown of a phrase depends on the reader that is responsible for it (`Phrase.ReadOff`).

The operators of a level and the members of an object group to the left, while their readers carry
on with what they have read so far. So for these phrases, the reader is shown to get to the point
where the phrase is what it has read so far.
-/

namespace Scriptlet

/-- What is read, and what is left. -/
def Parsed.Yields {α : Type} {n : Nat} (p : Parsed α n) (a : α) (rest : List Token) : Prop :=
  ∃ h, p = .ok a rest h

namespace Parsed.Yields

variable {α β : Type} {m n : Nat} {a : α} {b : β} {us rest : List Token}

theorem ok {h : rest.length < n} : (Parsed.ok a rest h).Yields a rest :=
  ⟨h, rfl⟩

theorem andThen (a : α) (us : List Token) {p : Parsed α m}
    {k : (a : α) → (us : List Token) → us.length < m → Parsed β n} (hp : p.Yields a us)
    (hk : ∀ h, (k a us h).Yields b rest) :
    (p.andThen k).Yields b rest := by
  obtain ⟨h, rfl⟩ := hp
  exact hk h

theorem within {p : Parsed α m} {h : m ≤ n} (hp : p.Yields a rest) :
    (p.within h).Yields a rest := by
  obtain ⟨h', rfl⟩ := hp
  exact ⟨_, rfl⟩

theorem map {p : Parsed α m} (f : α → β) (hp : p.Yields a rest) :
    (p.map f).Yields (f a) rest := by
  obtain ⟨h, rfl⟩ := hp
  exact ⟨h, rfl⟩

end Parsed.Yields

namespace Grammar

variable {α : Type}

/-! ## Single tokens, line breaks and lists -/

theorem nextToken_yields (expected : Expectation) (t : Token) (rest : List Token) :
    (nextToken expected (t :: rest)).Yields t rest :=
  .ok

theorem expect_yields {kind : Token.Kind} (expected : Expectation) {t : Token}
    (ht : t.kind = kind) (rest : List Token) :
    (expect kind expected (t :: rest)).Yields t rest := by
  rw [expect, if_pos ht]
  exact .ok

theorem name_yields {n : Token} (hn : n.kind = .name) (rest : List Token) :
    (name (n :: rest)).Yields ⟨n.data, n.position⟩ rest :=
  (expect_yields .name hn rest).map _

theorem skipNewLines_append {breaks us : List Token} (hbreaks : LineBreaks breaks)
    (hus : peekKind us ≠ .newLine) : skipNewLines (breaks ++ us) = us := by
  induction breaks with
  | nil =>
    cases us with
    | nil => rfl
    | cons t us =>
      have ht : t.kind ≠ .newLine := hus
      simp [skipNewLines, ht]
  | cons t breaks ih =>
    have ht := hbreaks t List.mem_cons_self
    have h := ih fun u hu => hbreaks u (List.mem_cons_of_mem t hu)
    simpa [skipNewLines, ht] using h

theorem afterNewLines_yields (us : List Token) {tokens breaks : List Token} {a : α}
    {rest : List Token}
    {p : (us : List Token) → us.length ≤ tokens.length → Parsed α us.length}
    (htokens : tokens = breaks ++ us) (hbreaks : LineBreaks breaks)
    (hus : peekKind us ≠ .newLine) (hp : ∀ h, (p us h).Yields a rest) :
    (afterNewLines tokens p).Yields a rest := by
  have hskip : skipNewLines tokens = us := by
    rw [htokens, skipNewLines_append hbreaks hus]
  have hall : ∀ vs h, vs = us → (p vs h).Yields a rest := by
    rintro vs h rfl
    exact hp h
  exact .within (hall _ _ hskip)

/-- An element is read if a line break, a comma or the closing delimiter follows, and it does not
start with one of these. -/
def ReadsElement (closing : Token.Kind) {bound : Nat}
    (element : (us : List Token) → us.length ≤ bound → Parsed α us.length) (a : α)
    (ts : List Token) : Prop :=
  (ts ≠ [] ∧ peekKind ts ≠ .newLine ∧ peekKind ts ≠ closing) ∧
    ∀ rest h, peekKind rest = .newLine ∨ peekKind rest = .comma ∨ peekKind rest = closing →
      (element (ts ++ rest) h).Yields a rest

/-- What follows an element on its way to a comma or the closing delimiter. -/
theorem peekKind_breaks {closing : Token.Kind} {breaks rest : List Token} {t : Token}
    (hbreaks : LineBreaks breaks) (ht : t.kind = .comma ∨ t.kind = closing) :
    peekKind (breaks ++ t :: rest) = .newLine ∨ peekKind (breaks ++ t :: rest) = .comma ∨
      peekKind (breaks ++ t :: rest) = closing := by
  cases breaks with
  | nil => exact .inr ht
  | cons u us => exact .inl (hbreaks u List.mem_cons_self)

theorem elements_yields {closing : Token.Kind} (hline : closing ≠ .newLine)
    (hcomma : closing ≠ .comma) {bound : Nat}
    {element : (us : List Token) → us.length ≤ bound → Parsed α us.length} {as : List α}
    {ts : List Token} (hlisted : Listed (ReadsElement closing element) as ts) (hne : as ≠ [])
    {c : Token} (hc : c.kind = closing) (rest : List Token)
    (h : (ts ++ c :: rest).length ≤ bound) :
    (elements closing bound element (ts ++ c :: rest) h).Yields as rest := by
  induction hlisted with
  | none _ => exact absurd rfl hne
  | @last a before ts after hbefore helement hafter =>
    obtain ⟨⟨hts, hfirst, -⟩, hyields⟩ := helement
    rw [elements]
    refine .andThen a (after ++ c :: rest) ?_ fun h => ?_
    · refine afterNewLines_yields (ts ++ (after ++ c :: rest)) (by simp) hbefore
        (by rwa [peekKind_append hts]) fun h => ?_
      exact hyields _ _ (peekKind_breaks hafter (.inr hc))
    · refine .andThen c rest (afterNewLines_yields (c :: rest) rfl hafter ?_ fun h =>
        nextToken_yields _ c rest) fun h => ?_
      · simpa [peekKind, hc] using hline
      · rw [if_neg (by rwa [hc]), if_pos hc]
        exact .ok
  | @more a as comma before ts after ts' hbefore helement hafter hcomma' hfurther _ ih =>
    obtain ⟨⟨hts, hfirst, -⟩, hyields⟩ := helement
    rw [elements]
    refine .andThen a (after ++ comma :: (ts' ++ c :: rest)) ?_ fun h => ?_
    · refine afterNewLines_yields (ts ++ (after ++ comma :: (ts' ++ c :: rest))) (by simp) hbefore
        (by rwa [peekKind_append hts]) fun h => ?_
      exact hyields _ _ (peekKind_breaks hafter (.inl hcomma'))
    · refine .andThen comma (ts' ++ c :: rest) (afterNewLines_yields (comma :: (ts' ++ c :: rest))
        rfl hafter ?_ fun h => nextToken_yields _ comma _) fun h => ?_
      · simp [peekKind, hcomma']
      · rw [if_pos hcomma']
        exact .within (.map _ (ih hfurther _))

/-- Elements start, apart from line breaks, with something else than the closing delimiter. -/
theorem Listed.skipNewLines_ne {closing : Token.Kind} {bound : Nat}
    {element : (us : List Token) → us.length ≤ bound → Parsed α us.length} {as : List α}
    {ts : List Token} (h : Listed (ReadsElement closing element) as ts) (hne : as ≠ [])
    (rest : List Token) :
    ∃ t us, skipNewLines (ts ++ rest) = t :: us ∧ t.kind ≠ closing := by
  have hhead : ∀ {a : α} {before us more : List Token}, LineBreaks before →
      ReadsElement closing element a us →
      ∃ t vs, skipNewLines (before ++ (us ++ more)) = t :: vs ∧ t.kind ≠ closing := by
    rintro a before us more hbefore ⟨⟨hus, hfirst, hclosing⟩, -⟩
    rw [skipNewLines_append hbefore (by rwa [peekKind_append hus])]
    cases us with
    | nil => exact absurd rfl hus
    | cons t us => exact ⟨t, us ++ more, rfl, hclosing⟩
  cases h with
  | none _ => exact absurd rfl hne
  | last hbefore helement hafter =>
    simp only [List.append_assoc]
    exact hhead hbefore helement
  | more hbefore helement hafter _ _ _ =>
    simp only [List.append_assoc]
    exact hhead hbefore helement

theorem commaSeparated_yields {closing : Token.Kind} (hline : closing ≠ .newLine)
    (hcomma : closing ≠ .comma) {ts : List Token} {c : Token} (hc : c.kind = closing)
    (rest : List Token)
    {element : (us : List Token) → us.length ≤ (ts ++ c :: rest).length → Parsed α us.length}
    {as : List α} (hlisted : Listed (ReadsElement closing element) as ts) :
    (commaSeparated closing (ts ++ c :: rest) element).Yields as rest := by
  by_cases hne : as = []
  · subst hne
    cases hlisted with
    | none hbreaks =>
      have hskip : skipNewLines (ts ++ c :: rest) = c :: rest :=
        skipNewLines_append hbreaks (by simpa [peekKind, hc] using hline)
      rw [commaSeparated]
      split
      · rename_i h
        rw [hskip] at h
        cases h
      · rename_i t us h
        rw [hskip] at h
        cases h
        rw [if_pos hc]
        exact .ok
  · obtain ⟨t, us, hskip, ht⟩ := hlisted.skipNewLines_ne hne (c :: rest)
    have helements := elements_yields hline hcomma hlisted hne hc rest (Nat.le_refl _)
    rw [commaSeparated]
    split
    · exact helements
    · rename_i u vs h
      rw [hskip] at h
      cases h
      rw [if_neg ht]
      exact helements

theorem parameter_yields {n : Token} (hn : n.kind = .name) (rest : List Token) :
    (parameter (n :: rest)).Yields ⟨n.data, n.position⟩ rest := by
  rw [parameter, if_pos (.inl hn)]
  exact name_yields hn rest

theorem Named.readsElement {closing : Token.Kind} (hclosing : closing ≠ .name) {bound : Nat}
    {v : Variable} {ts : List Token} (h : Named v ts) :
    ReadsElement closing (fun us (_ : us.length ≤ bound) => parameter us) v ts := by
  obtain ⟨n, hn, rfl, rfl⟩ := h
  refine ⟨⟨List.cons_ne_nil _ _, by simp [peekKind, hn], ?_⟩, fun rest _ _ =>
    parameter_yields hn rest⟩
  simpa [peekKind, hn] using hclosing.symm

theorem Listed.mono {D D' : α → List Token → Prop} (h : ∀ a ts, D a ts → D' a ts) {as : List α}
    {ts : List Token} (hlisted : Listed D as ts) : Listed D' as ts := by
  induction hlisted with
  | none hbreaks => exact .none hbreaks
  | last hbefore helement hafter => exact .last hbefore (h _ _ helement) hafter
  | more hbefore helement hafter hcomma hfurther _ ih =>
    exact .more hbefore (h _ _ helement) hafter hcomma hfurther ih

/-! ## What may follow -/

/-- The tokens do not go on with an expression whose operators are at most so loose: they start with
no member, no arguments and no tighter operator. -/
structure Ends (looseness : Nat) (rest : List Token) : Prop where
  dot : peekKind rest ≠ .dot
  bracket : peekKind rest ≠ .leftBracket
  paren : peekKind rest ≠ .leftParen
  operator : ∀ {o}, Operator.ofKind (peekKind rest) = some o → looseness ≤ o.level.looseness

/-- Not even the loosest operator follows. -/
abbrev EndsExpression (rest : List Token) : Prop :=
  Ends 5 rest

theorem Ends.of_kind {n : Nat} {rest : List Token} {k : Token.Kind} (hk : peekKind rest = k)
    (hmember : k ≠ .dot ∧ k ≠ .leftBracket ∧ k ≠ .leftParen) (ho : Operator.ofKind k = none) :
    Ends n rest := by
  subst hk
  exact ⟨hmember.1, hmember.2.1, hmember.2.2, fun h => by rw [ho] at h; cases h⟩

theorem Ends.mono {m n : Nat} {rest : List Token} (h : Ends n rest) (hmn : m ≤ n) :
    Ends m rest :=
  ⟨h.dot, h.bracket, h.paren, fun ho => Nat.le_trans hmn (h.operator ho)⟩

theorem Ends.of_operator {o : Operator} {t : Token} (ho : Operator.ofKind t.kind = some o)
    (rest : List Token) : Ends o.level.looseness (t :: rest) := by
  refine ⟨?_, ?_, ?_, fun h => ?_⟩
  · intro hk
    simp [show t.kind = .dot from hk, Operator.ofKind] at ho
  · intro hk
    simp [show t.kind = .leftBracket from hk, Operator.ofKind] at ho
  · intro hk
    simp [show t.kind = .leftParen from hk, Operator.ofKind] at ho
  · have h' : some o = some _ := ho.symm.trans h
    cases h'
    exact Nat.le_refl _

theorem EndsExpression.of_returnsNothing {rest : List Token} (h : returnsNothing rest = true) :
    EndsExpression rest := by
  unfold returnsNothing at h
  cases hk : peekKind rest <;> rw [hk] at h <;> first
    | exact absurd h (by decide)
    | exact .of_kind hk (by decide) rfl

/-- Where an element ends, so does the expression that it is. -/
theorem EndsExpression.of_element {rest : List Token} {closing : Token.Kind}
    (hclosing : closing = .rightParen ∨ closing = .rightBracket)
    (h : peekKind rest = .newLine ∨ peekKind rest = .comma ∨ peekKind rest = closing) :
    EndsExpression rest := by
  rcases h with h | h | h
  · exact .of_kind h (by decide) rfl
  · exact .of_kind h (by decide) rfl
  · rcases hclosing with rfl | rfl
    · exact .of_kind h (by decide) rfl
    · exact .of_kind h (by decide) rfl

/-- Operators of a level stop where no operator of this level follows. -/
theorem chain_yields_self {level : Level} (e : Expr) {rest : List Token}
    (h : ∀ {o}, Operator.ofKind (peekKind rest) = some o → level.looseness < o.level.looseness) :
    (chain level e rest).Yields e rest := by
  cases rest with
  | nil =>
    rw [chain]
    exact .ok
  | cons t rest =>
    rw [chain]
    split
    · exact .ok
    · rename_i o ho
      have hloose : level.looseness < o.level.looseness := h ho
      have hne : o.level ≠ level := by
        rintro rfl
        omega
      rw [if_neg hne]
      exact .ok

theorem postfixes_yields_self (e : Expr) {rest : List Token} (hdot : peekKind rest ≠ .dot)
    (hbracket : peekKind rest ≠ .leftBracket) : (postfixes e rest).Yields e rest := by
  cases rest with
  | nil =>
    rw [postfixes]
    exact .ok
  | cons t rest =>
    have hdot' : t.kind ≠ .dot := hdot
    have hbracket' : t.kind ≠ .leftBracket := hbracket
    rw [postfixes, if_neg hdot', if_neg hbracket']
    exact .ok

/-! ## What has to be shown of a phrase -/

/-- The tokens are read as this expression wherever an expression ends behind them. -/
def ReadsExpression (e : Expr) (ts : List Token) : Prop :=
  ∀ rest, EndsExpression rest → (expression (ts ++ rest)).Yields e rest

/-- The tokens start like an expression, and are read as one. -/
def ReadsArgument (e : Expr) (ts : List Token) : Prop :=
  (∃ t us, ts = t :: us ∧ startsExpression t.kind = true) ∧ ReadsExpression e ts

/-- The reader that is responsible for a phrase takes the tokens, and what they spell. -/
def Phrase.ReadOff : Phrase → List Token → Prop
  | .tier (some level) e, ts => ∀ rest r us, Ends level.looseness rest →
    (Grammar.chain level e rest).Yields r us → (Grammar.binary level (ts ++ rest)).Yields r us
  | .tier none e, ts => ∀ rest, Ends 0 rest → (unary (ts ++ rest)).Yields e rest
  | .members e, ts => ∃ t us, ts = t :: us ∧ startsPrimary t.kind = true ∧
    ∀ rest, peekKind rest ≠ .leftParen → ∃ node vs,
      (Grammar.primary t (us ++ rest)).Yields node vs ∧
      ∀ r ws, (postfixes e rest).Yields r ws → (postfixes node vs).Yields r ws
  | .primary e, ts => ∃ t us, ts = t :: us ∧ startsPrimary t.kind = true ∧
    ∀ rest, peekKind rest ≠ .leftParen → (Grammar.primary t (us ++ rest)).Yields e rest
  | .arguments es, ts => Listed ReadsArgument es ts
  | .call c, ts => ∃ n us, ts = n :: us ∧ n.kind = .name ∧
    (∀ rest, peekKind (us ++ rest) = .leftParen) ∧
    ∀ rest, (Grammar.call n (us ++ rest)).Yields c rest
  | .block b, ts => ∃ t us, ts = t :: us ∧ t.kind = .leftBrace ∧
    ∀ rest, (Grammar.block t.position (us ++ rest)).Yields b rest
  | .statements ss, ts => ∀ closing rest, Closes closing →
    peekKind rest = closing ∨ peekKind rest = .endOfInput →
      (Grammar.statements closing (ts ++ rest)).Yields ss rest
  | .statement s, ts => ∃ t us, ts = t :: us ∧ startsStatement t.kind = true ∧
    ∀ rest, peekKind rest ≠ .elseWord → s.endsInBlock = true ∨ returnsNothing rest = true →
      (Grammar.statement t (us ++ rest)).Yields s rest
  | .conditional s, ts => ∃ t us, ts = t :: us ∧ t.kind = .ifWord ∧
    ∀ rest, peekKind rest ≠ .elseWord → (Grammar.conditional t.position (us ++ rest)).Yields s rest
  | .branch b, ts => ∀ rest, peekKind rest ≠ .elseWord → (otherwise (ts ++ rest)).Yields b rest

/-- An operand of a level is read where no operator follows that is tighter than the level. -/
theorem Phrase.ReadOff.operand {level : Level} {e : Expr} {ts : List Token}
    (h : (Phrase.tier level.tighter e).ReadOff ts) {rest : List Token}
    (hrest : Ends level.looseness rest) : (Grammar.operand level (ts ++ rest)).Yields e rest := by
  rw [Grammar.operand]
  split
  · rename_i tighter ht
    have hlt := Level.looseness_of_tighter ht
    rw [ht] at h
    exact h rest e rest (hrest.mono (Nat.le_of_lt hlt))
      (chain_yields_self e (hrest.mono hlt).operator)
  · rename_i ht
    rw [ht] at h
    exact h rest (hrest.mono (Nat.zero_le _))

theorem Phrase.ReadOff.expression {e : Expr} {ts : List Token}
    (h : (Phrase.expression e).ReadOff ts) : ReadsExpression e ts := by
  intro rest hrest
  rw [Grammar.expression]
  exact h rest e rest (hrest.mono (by decide)) (chain_yields_self e hrest.operator)

theorem ReadsArgument.readsElement {closing : Token.Kind}
    (hclosing : closing = .rightParen ∨ closing = .rightBracket) {bound : Nat} {e : Expr}
    {ts : List Token} (h : ReadsArgument e ts) :
    ReadsElement closing (fun us (_ : us.length ≤ bound) => expression us) e ts := by
  obtain ⟨⟨t, us, rfl, ht⟩, hreads⟩ := h
  refine ⟨⟨List.cons_ne_nil t us, ?_, ?_⟩,
    fun rest _ hrest => hreads rest (.of_element hclosing hrest)⟩
  · intro hk
    simp [show t.kind = .newLine from hk, startsExpression, startsPrimary] at ht
  · intro hk
    rcases hclosing with rfl | rfl
    · simp [show t.kind = .rightParen from hk, startsExpression, startsPrimary] at ht
    · simp [show t.kind = .rightBracket from hk, startsExpression, startsPrimary] at ht

/-- An expression between delimiters. -/
theorem ReadsArgument.delimited {closing : Token.Kind}
    (hclosing : closing = .rightParen ∨ closing = .rightBracket) {e : Expr}
    {before ts after : List Token} (h : ReadsArgument e ts) (hbefore : LineBreaks before)
    (hafter : LineBreaks after) {c : Token} (hc : c.kind = closing) (rest : List Token) :
    (afterNewLines (before ++ ts ++ after ++ [c] ++ rest) fun us _ => expression us).Yields e
      (after ++ c :: rest) := by
  have helement : ReadsElement closing
      (fun us (_ : us.length ≤ (before ++ ts ++ after ++ [c] ++ rest).length) => expression us)
      e ts := h.readsElement hclosing
  obtain ⟨⟨hts, hfirst, -⟩, hyields⟩ := helement
  refine afterNewLines_yields (ts ++ (after ++ c :: rest)) (by simp) hbefore
    (by rwa [peekKind_append hts]) fun hle => ?_
  exact hyields _ hle (peekKind_breaks hafter (.inr hc))

/-- The closing delimiter behind line breaks. -/
theorem closing_yields {closing : Token.Kind} (hline : closing ≠ .newLine)
    (expected : Expectation) {after : List Token} (hafter : LineBreaks after) {c : Token}
    (hc : c.kind = closing) (rest : List Token) :
    (afterNewLines (after ++ c :: rest) fun vs _ => expect closing expected vs).Yields c rest :=
  afterNewLines_yields (c :: rest) rfl hafter (by simpa [peekKind, hc] using hline) fun _ =>
    expect_yields expected hc rest

/-! ## Primaries that nothing goes on with

Only a name behind which a parenthesis opens is read differently, namely as a call. All other
primaries and members are read whatever follows. -/

/-- The tokens are read as this primary, whatever follows. -/
def ReadsPrimary (e : Expr) (ts : List Token) : Prop :=
  ∃ t us, ts = t :: us ∧ startsPrimary t.kind = true ∧
    ∀ rest, (primary t (us ++ rest)).Yields e rest

/-- The tokens are read up to where members may follow this expression, whatever follows. -/
def ReadsMembers (e : Expr) (ts : List Token) : Prop :=
  ∃ t us, ts = t :: us ∧ startsPrimary t.kind = true ∧
    ∀ rest, ∃ node vs, (primary t (us ++ rest)).Yields node vs ∧
      ∀ r ws, (postfixes e rest).Yields r ws → (postfixes node vs).Yields r ws

theorem ReadsPrimary.readOff {e : Expr} {ts : List Token} (h : ReadsPrimary e ts) :
    (Phrase.primary e).ReadOff ts := by
  obtain ⟨t, us, rfl, ht, hreads⟩ := h
  exact ⟨t, us, rfl, ht, fun rest _ => hreads rest⟩

theorem ReadsPrimary.members {e : Expr} {ts : List Token} (h : ReadsPrimary e ts) :
    ReadsMembers e ts := by
  obtain ⟨t, us, rfl, ht, hreads⟩ := h
  exact ⟨t, us, rfl, ht, fun rest => ⟨e, rest, hreads rest, fun _ _ h => h⟩⟩

theorem ReadsMembers.readOff {e : Expr} {ts : List Token} (h : ReadsMembers e ts) :
    (Phrase.members e).ReadOff ts := by
  obtain ⟨t, us, rfl, ht, hreads⟩ := h
  exact ⟨t, us, rfl, ht, fun rest _ => hreads rest⟩

namespace ReadsPrimary

variable {t : Token} {ts : List Token}

theorem integer {n : Int64} (isInteger : t.kind = .integer)
    (value : Decimal.readInt64? t.data = some n) :
    ReadsPrimary (.literal (.int n) t.position) [t] := by
  refine ⟨t, [], rfl, by rw [isInteger]; rfl, fun rest => ?_⟩
  simp only [Grammar.primary, isInteger, value]
  exact .ok

theorem string (isString : t.kind = .string) :
    ReadsPrimary (.literal (.string t.data) t.position) [t] := by
  refine ⟨t, [], rfl, by rw [isString]; rfl, fun rest => ?_⟩
  simp only [Grammar.primary, isString]
  exact .ok

theorem trueWord (isTrue : t.kind = .trueWord) :
    ReadsPrimary (.literal (.bool true) t.position) [t] := by
  refine ⟨t, [], rfl, by rw [isTrue]; rfl, fun rest => ?_⟩
  simp only [Grammar.primary, isTrue]
  exact .ok

theorem falseWord (isFalse : t.kind = .falseWord) :
    ReadsPrimary (.literal (.bool false) t.position) [t] := by
  refine ⟨t, [], rfl, by rw [isFalse]; rfl, fun rest => ?_⟩
  simp only [Grammar.primary, isFalse]
  exact .ok

theorem called {c : Call} (ih : (Phrase.call c).ReadOff ts) : ReadsPrimary (.call c) ts := by
  obtain ⟨n, us, rfl, hn, hparen, hcall⟩ := ih
  refine ⟨n, us, rfl, by rw [hn]; rfl, fun rest => ?_⟩
  simp only [Grammar.primary, hn]
  rw [if_pos (hparen rest)]
  exact .within ((hcall rest).map _)

theorem parenthesized {e : Expr} {opening closing : Token} {before after : List Token}
    (opens : opening.kind = .leftParen) (breaks : LineBreaks before) (he : ReadsArgument e ts)
    (breaks' : LineBreaks after) (closes : closing.kind = .rightParen) :
    ReadsPrimary e (opening :: (before ++ ts ++ after ++ [closing])) := by
  refine ⟨opening, _, rfl, by rw [opens]; rfl, fun rest => ?_⟩
  simp only [Grammar.primary, opens]
  refine .andThen e _ (he.delimited (.inl rfl) breaks breaks' closes rest) fun _ => ?_
  refine .andThen closing rest (closing_yields (by decide) _ breaks' closes rest) fun _ => ?_
  exact .ok

theorem list {es : List Expr} {opening closing : Token} (opens : opening.kind = .leftBracket)
    (ih : (Phrase.arguments es).ReadOff ts) (closes : closing.kind = .rightBracket) :
    ReadsPrimary (.list es opening.position) (opening :: (ts ++ [closing])) := by
  refine ⟨opening, _, rfl, by rw [opens]; rfl, fun rest => ?_⟩
  simp only [Grammar.primary, opens]
  rw [List.append_assoc]
  refine .within (.map _ (commaSeparated_yields (by decide) (by decide) closes rest ?_))
  exact Listed.mono (fun e us he => he.readsElement (.inr rfl)) ih

theorem mapping {b : Block} (ih : (Phrase.block b).ReadOff ts) :
    ReadsPrimary (.block b) ts := by
  obtain ⟨t, us, rfl, ht, hblock⟩ := ih
  refine ⟨t, us, rfl, by rw [ht]; rfl, fun rest => ?_⟩
  simp only [Grammar.primary, ht]
  exact .within ((hblock rest).map _)

end ReadsPrimary

namespace ReadsMembers

variable {e : Expr} {ts ts' : List Token}

theorem call {c : Call} {dot : Token} (isDot : dot.kind = .dot)
    (ih : (Phrase.members e).ReadOff ts) (ih' : (Phrase.call c).ReadOff ts') :
    ReadsMembers (.field e (.call c) e.position) (ts ++ dot :: ts') := by
  obtain ⟨t, us, rfl, ht, hreads⟩ := ih
  obtain ⟨n, us', rfl, hn, hparen, hcall⟩ := ih'
  refine ⟨t, us ++ dot :: n :: us', rfl, ht, fun rest => ?_⟩
  obtain ⟨node, vs, hnode, hcarry⟩ :=
    hreads (dot :: n :: (us' ++ rest)) (by simp [peekKind, isDot])
  refine ⟨node, vs, by rwa [List.append_assoc], fun r ws hr => hcarry r ws ?_⟩
  rw [postfixes, if_pos isDot]
  refine .andThen n (us' ++ rest) (expect_yields _ hn _) fun _ => ?_
  rw [if_pos (hparen rest)]
  exact .andThen c rest (hcall rest) fun _ => .within hr

theorem index {key : Expr} {opening closing : Token} {before after : List Token}
    (opens : opening.kind = .leftBracket) (breaks : LineBreaks before)
    (breaks' : LineBreaks after) (closes : closing.kind = .rightBracket)
    (ih : (Phrase.members e).ReadOff ts) (hkey : ReadsArgument key ts') :
    ReadsMembers (.field e (.index key) e.position)
      (ts ++ opening :: (before ++ ts' ++ after ++ [closing])) := by
  obtain ⟨t, us, rfl, ht, hreads⟩ := ih
  refine ⟨t, us ++ opening :: (before ++ ts' ++ after ++ [closing]), rfl, ht, fun rest => ?_⟩
  obtain ⟨node, vs, hnode, hcarry⟩ := hreads
    (opening :: (before ++ ts' ++ after ++ [closing] ++ rest)) (by simp [peekKind, opens])
  refine ⟨node, vs, by rwa [List.append_assoc], fun r ws hr => hcarry r ws ?_⟩
  rw [postfixes, if_neg (by rw [opens]; decide), if_pos opens]
  refine .andThen key _ (hkey.delimited (.inr rfl) breaks breaks' closes rest) fun _ => ?_
  refine .andThen closing rest (closing_yields (by decide) _ breaks' closes rest) fun _ => ?_
  exact .within hr

end ReadsMembers

/-- A primary is read with its members, if these end where the expression does. -/
theorem unary_yields {t : Token} {us rest vs : List Token} {e node : Expr}
    (ht : startsPrimary t.kind = true) (hnode : (primary t (us ++ rest)).Yields node vs)
    (hcarry : (postfixes node vs).Yields e rest) : (unary (t :: us ++ rest)).Yields e rest := by
  have hminus : t.kind ≠ .minus := by
    intro hk
    rw [hk] at ht
    cases ht
  have hnot : t.kind ≠ .notWord := by
    intro hk
    rw [hk] at ht
    cases ht
  rw [List.cons_append, unary, if_neg hminus, if_neg hnot]
  exact .andThen node vs hnode fun _ => .within hcarry

/-! ## Statements -/

theorem Closes.ne_of_kind {closing : Token.Kind} (hclosing : Closes closing) {t : Token}
    {k : Token.Kind} (ht : t.kind = k) (hk : ¬ Closes k) :
    ¬ (t.kind = closing ∨ t.kind = .endOfInput) := by
  rintro (h | h)
  · exact hk (ht ▸ h ▸ hclosing)
  · exact hk (ht ▸ .inr h)

theorem ne_of_startsStatement {k k' : Token.Kind} (h : startsStatement k = true)
    (h' : startsStatement k' = false) : k ≠ k' := by
  rintro rfl
  rw [h] at h'
  cases h'

theorem returnsNothing_eq_false {t : Token} (h : startsExpression t.kind = true)
    (rest : List Token) : returnsNothing (t :: rest) = false := by
  simp only [returnsNothing, peekKind]
  cases hk : t.kind <;> rw [hk] at h <;> first
    | rfl
    | cases h

/-- The kinds that are not listed do not follow a `return` without a value. -/
theorem ne_of_returnsNothing {rest : List Token} (h : returnsNothing rest = true) {k : Token.Kind}
    (hk : returnsNothing [⟨k, "", default⟩] = false) : peekKind rest ≠ k := by
  rintro rfl
  have heq : returnsNothing [⟨peekKind rest, "", default⟩] = returnsNothing rest := rfl
  rw [heq, h] at hk
  cases hk

theorem Separated.endsStatement {closing : Token.Kind} {ts rest : List Token} (h : Separated ts)
    (hrest : peekKind rest = closing ∨ peekKind rest = .endOfInput) :
    endsStatement closing (ts ++ rest) = true := by
  unfold Grammar.endsStatement
  cases ts with
  | nil =>
    rw [List.nil_append]
    rcases hrest with hk | hk
    · rw [hk]
      cases closing <;> rfl
    · rw [hk]
  | cons t ts =>
    rcases h with h | h | h
    · cases h
    · simp only [List.cons_append, peekKind, show t.kind = .newLine from h]
    · simp only [List.cons_append, peekKind, show t.kind = .comment from h]

theorem returnsNothing_of_endsStatement {closing : Token.Kind} (hclosing : Closes closing)
    {rest : List Token} (h : endsStatement closing rest = true) : returnsNothing rest = true := by
  unfold endsStatement at h
  unfold returnsNothing
  rcases hclosing with rfl | rfl <;> cases hk : peekKind rest <;> simp [hk] at h ⊢

/-- No statement starts with `else`. -/
theorem Derives.peekKind_ne_else {ss : List Statement} {ts : List Token}
    (h : Derives (.statements ss) ts) {closing : Token.Kind} (hclosing : Closes closing)
    {rest : List Token} (hrest : peekKind rest = closing ∨ peekKind rest = .endOfInput) :
    peekKind (ts ++ rest) ≠ .elseWord := by
  rcases h.statements_starts with rfl | ⟨t, us, rfl, hk | hk | hstarts⟩
  · rw [List.nil_append]
    rcases hclosing with rfl | rfl <;> rcases hrest with hk | hk <;> rw [hk] <;> decide
  · simp [peekKind, hk]
  · simp [peekKind, hk]
  · exact ne_of_startsStatement hstarts rfl

theorem body_yields {t : Token} (ht : t.kind = .leftBrace) {us : List Token} {b : Block}
    {rest : List Token} (h : (block t.position us).Yields b rest) :
    (body (t :: us)).Yields b rest := by
  rw [body]
  exact .andThen t us (expect_yields _ ht us) fun _ => .within h

/-- A statement that looks like no definition is an assignment or an expression. -/
theorem statement_yields {t : Token} (ht : startsExpression t.kind = true) {us : List Token}
    (hcall : startsDefinition (t :: us) = false) {s : Statement} {rest : List Token}
    (h : (assignmentOrExpression (t :: us)).Yields s rest) :
    (statement t us).Yields s rest := by
  rw [statement]
  split
  · rename_i hk
    rw [hk] at ht
    cases ht
  · rename_i hk
    rw [hk] at ht
    cases ht
  · rename_i hk
    rw [hk] at ht
    cases ht
  · rename_i hk
    rw [hk] at ht
    cases ht
  · rename_i hk
    rw [hk] at ht
    cases ht
  · rw [if_neg (ne_true_of_eq_false hcall)]
    exact h

/-- The rest of a loop behind its names. -/
theorem loop_yields {names : Option Variable × Variable} {tokens ts ts' rest : List Token}
    {inWord : Token} {iterable : Expr} {b : Block} {position : Position}
    (hnames : (loopNames tokens).Yields names (inWord :: (ts ++ ts' ++ rest)))
    (isIn : inWord.kind = .inWord) (hover : ReadsExpression iterable ts)
    (hblock : (Phrase.block b).ReadOff ts') :
    (loop position tokens).Yields (.loop names.1 names.2 iterable b position) rest := by
  obtain ⟨o, us, rfl, ho, hblock⟩ := hblock
  have hiterable := hover (o :: us ++ rest) (.of_kind ho (by decide) rfl)
  rw [← List.append_assoc] at hiterable
  rw [loop]
  refine .andThen names _ hnames fun _ => ?_
  refine .andThen inWord _ (expect_yields _ isIn _) fun _ => ?_
  refine .andThen iterable _ hiterable fun _ => ?_
  exact .within (.map _ (body_yields ho (hblock rest)))

/-! ## The rules -/

namespace Phrase.ReadOff

variable {e : Expr} {t : Token} {ts ts' : List Token}

theorem binary {o : Operator} {e e' : Expr} (isOperator : Operator.ofKind t.kind = some o)
    (ih : (Phrase.tier (some o.level) e).ReadOff ts)
    (ih' : (Phrase.tier o.level.tighter e').ReadOff ts') :
    (Phrase.tier (some o.level) (.binary e o e' t.position)).ReadOff (ts ++ t :: ts') := by
  intro rest r us hrest hchain
  -- The chain behind the left operand takes the operator and goes on from the whole operation.
  rw [List.append_assoc]
  refine ih _ r us (.of_operator isOperator _) ?_
  rw [List.cons_append, chain]
  split
  · rename_i hnone
    rw [isOperator] at hnone
    cases hnone
  · rename_i o' ho'
    obtain rfl : o = o' := Option.some.inj (isOperator.symm.trans ho')
    rw [if_pos rfl]
    exact .andThen e' rest (ih'.operand hrest) fun _ => .within hchain

theorem unary (ih : (Phrase.members e).ReadOff ts) : (Phrase.tier none e).ReadOff ts := by
  obtain ⟨t, us, rfl, ht, hreads⟩ := ih
  intro rest hrest
  obtain ⟨node, vs, hnode, hcarry⟩ := hreads rest hrest.paren
  exact unary_yields ht hnode (hcarry e rest (postfixes_yields_self e hrest.dot hrest.bracket))

theorem memberName {dot n : Token} (isDot : dot.kind = .dot) (isName : n.kind = .name)
    (ih : (Phrase.members e).ReadOff ts) :
    (Phrase.members (.field e (.name ⟨n.data, n.position⟩) e.position)).ReadOff
      (ts ++ [dot, n]) := by
  obtain ⟨t, us, rfl, ht, hreads⟩ := ih
  refine ⟨t, us ++ [dot, n], rfl, ht, fun rest hrest => ?_⟩
  obtain ⟨node, vs, hnode, hcarry⟩ := hreads (dot :: n :: rest) (by simp [peekKind, isDot])
  refine ⟨node, vs, by rwa [List.append_assoc], fun r ws hr => hcarry r ws ?_⟩
  rw [postfixes, if_pos isDot]
  refine .andThen n rest (expect_yields _ isName rest) fun _ => ?_
  rw [if_neg hrest]
  exact .within hr

theorem next {s : Statement} {ss : List Statement} (ends : s.endsInBlock = true ∨ Separated ts')
    (tail : Derives (.statements ss) ts') (ih : (Phrase.statement s).ReadOff ts)
    (ih' : (Phrase.statements ss).ReadOff ts') :
    (Phrase.statements (s :: ss)).ReadOff (ts ++ ts') := by
  intro closing rest hclosing hrest
  obtain ⟨t, us, rfl, ht, hreads⟩ := ih
  -- Whatever follows must let the statement end, and must not be taken for a part of it.
  have hends : s.endsInBlock = true ∨ endsStatement closing (ts' ++ rest) = true :=
    ends.imp_right fun hsep => hsep.endsStatement hrest
  have hfollows : s.endsInBlock = true ∨ returnsNothing (ts' ++ rest) = true :=
    hends.imp_right (returnsNothing_of_endsStatement hclosing)
  have helse : peekKind (ts' ++ rest) ≠ .elseWord := tail.peekKind_ne_else hclosing hrest
  rw [List.append_assoc, List.cons_append, Grammar.statements,
    if_neg (hclosing.ne_of_kind rfl (not_closes_of_startsStatement ht)),
    if_neg (ne_of_startsStatement ht rfl), if_neg (ne_of_startsStatement ht rfl)]
  refine .andThen s (ts' ++ rest) (hreads _ helse hfollows) fun _ => ?_
  rw [if_pos (Bool.or_eq_true_iff.mpr hends)]
  exact .within (.map _ (ih' closing rest hclosing hrest))

theorem ifThen {condition : Expr} {body : Block} (isIf : t.kind = .ifWord)
    (ih : (Phrase.expression condition).ReadOff ts) (ih' : (Phrase.block body).ReadOff ts') :
    (Phrase.conditional (.conditional condition body none t.position)).ReadOff
      (t :: (ts ++ ts')) := by
  refine ⟨t, _, rfl, isIf, fun rest helse => ?_⟩
  obtain ⟨o, us, rfl, ho, hblock⟩ := ih'
  have hbrace : EndsExpression (o :: us ++ rest) := .of_kind ho (by decide) rfl
  rw [List.append_assoc, Grammar.conditional]
  refine .andThen condition _ (ih.expression _ hbrace) fun _ => ?_
  refine .andThen body rest (body_yields ho (hblock rest)) fun _ => ?_
  cases rest with
  | nil => exact .ok
  | cons u rest =>
    have hu : u.kind ≠ .elseWord := helse
    dsimp only
    rw [if_neg hu]
    exact .ok

theorem ifThenElse {condition : Expr} {body otherwise : Block} {t' : Token}
    {ts'' : List Token} (isIf : t.kind = .ifWord) (isElse : t'.kind = .elseWord)
    (ih : (Phrase.expression condition).ReadOff ts) (ih' : (Phrase.block body).ReadOff ts')
    (ih'' : (Phrase.branch otherwise).ReadOff ts'') :
    (Phrase.conditional (.conditional condition body (some otherwise) t.position)).ReadOff
      (t :: (ts ++ ts' ++ t' :: ts'')) := by
  refine ⟨t, _, rfl, isIf, fun rest helse => ?_⟩
  obtain ⟨o, us, rfl, ho, hblock⟩ := ih'
  have hbrace : EndsExpression (o :: us ++ (t' :: (ts'' ++ rest))) := .of_kind ho (by decide) rfl
  have htokens : ts ++ (o :: us) ++ t' :: ts'' ++ rest =
      ts ++ (o :: us ++ (t' :: (ts'' ++ rest))) := by simp
  rw [htokens, Grammar.conditional]
  refine .andThen condition _ (ih.expression _ hbrace) fun _ => ?_
  refine .andThen body _ (body_yields ho (hblock _)) fun _ => ?_
  dsimp only
  rw [if_pos isElse]
  exact .andThen otherwise rest (ih'' rest helse) fun _ => .ok

theorem branchBlock {b : Block} (ih : (Phrase.block b).ReadOff ts) :
    (Phrase.branch b).ReadOff ts := by
  intro rest _
  obtain ⟨t, us, rfl, ht, hblock⟩ := ih
  rw [List.cons_append, Grammar.otherwise]
  refine .andThen t _ (nextToken_yields _ t _) fun _ => ?_
  rw [if_neg (by rw [ht]; decide), if_pos ht]
  exact .within (hblock rest)

theorem branchIf {s : Statement} (ih : (Phrase.conditional s).ReadOff (t :: ts)) :
    (Phrase.branch ⟨[s], t.position⟩).ReadOff (t :: ts) := by
  intro rest helse
  obtain ⟨u, us, heq, ht, hreads⟩ := ih
  obtain ⟨rfl, rfl⟩ := List.cons.inj heq
  rw [List.cons_append, Grammar.otherwise]
  refine .andThen t _ (nextToken_yields _ t _) fun _ => ?_
  rw [if_pos ht]
  exact .within (.map _ (hreads rest helse))

theorem loop {iterable : Expr} {body : Block} {item inWord : Token} (isFor : t.kind = .forWord)
    (isItem : item.kind = .name) (isIn : inWord.kind = .inWord)
    (ih : (Phrase.expression iterable).ReadOff ts) (ih' : (Phrase.block body).ReadOff ts') :
    (Phrase.statement (.loop none ⟨item.data, item.position⟩ iterable body t.position)).ReadOff
      (t :: item :: inWord :: (ts ++ ts')) := by
  refine ⟨t, _, rfl, by rw [isFor]; rfl, fun rest _ _ => ?_⟩
  simp only [Grammar.statement, isFor]
  have hnames : (loopNames (item :: inWord :: (ts ++ ts' ++ rest))).Yields
      (none, ⟨item.data, item.position⟩) (inWord :: (ts ++ ts' ++ rest)) := by
    refine .andThen _ _ (name_yields isItem _) fun _ => ?_
    dsimp only
    rw [if_neg (by rw [isIn]; decide)]
    exact .ok
  exact .within (loop_yields hnames isIn ih.expression ih')

theorem indexedLoop {iterable : Expr} {body : Block} {index comma item inWord : Token}
    (isFor : t.kind = .forWord) (isIndex : index.kind = .name) (isComma : comma.kind = .comma)
    (isItem : item.kind = .name) (isIn : inWord.kind = .inWord)
    (ih : (Phrase.expression iterable).ReadOff ts) (ih' : (Phrase.block body).ReadOff ts') :
    (Phrase.statement (.loop (some ⟨index.data, index.position⟩) ⟨item.data, item.position⟩
      iterable body t.position)).ReadOff
      (t :: index :: comma :: item :: inWord :: (ts ++ ts')) := by
  refine ⟨t, _, rfl, by rw [isFor]; rfl, fun rest _ _ => ?_⟩
  simp only [Grammar.statement, isFor]
  have hnames : (loopNames (index :: comma :: item :: inWord :: (ts ++ ts' ++ rest))).Yields
      (some ⟨index.data, index.position⟩, ⟨item.data, item.position⟩)
      (inWord :: (ts ++ ts' ++ rest)) := by
    refine .andThen _ _ (name_yields isIndex _) fun _ => ?_
    dsimp only
    rw [if_pos isComma]
    exact .within ((name_yields isItem _).map _)
  exact .within (loop_yields hnames isIn ih.expression ih')

theorem exitWith (isReturn : t.kind = .returnWord) (h : Derives (.expression e) ts)
    (ih : (Phrase.expression e).ReadOff ts) :
    (Phrase.statement (.exit (some e) t.position)).ReadOff (t :: ts) := by
  refine ⟨t, ts, rfl, by rw [isReturn]; rfl, fun rest _ hends => ?_⟩
  have hrest := hends.resolve_left (by simp [Statement.endsInBlock])
  obtain ⟨u, us, rfl, hu⟩ := h.starts rfl
  have hvalue : returnsNothing (u :: us ++ rest) = false := returnsNothing_eq_false hu _
  simp only [Grammar.statement, isReturn]
  rw [if_neg (ne_true_of_eq_false hvalue)]
  exact .within (.map _ (ih.expression rest (.of_returnsNothing hrest)))

theorem definition {parameters : List Variable} {body : Block} {n opening closing : Token}
    (isName : n.kind = .name) (opens : opening.kind = .leftParen)
    (names : Listed Named parameters ts) (closes : closing.kind = .rightParen)
    (ih : (Phrase.block body).ReadOff ts') :
    (Phrase.statement (.function ⟨n.data, parameters, body, n.position⟩)).ReadOff
      (n :: opening :: (ts ++ closing :: ts')) := by
  refine ⟨n, _, rfl, by rw [isName]; rfl, fun rest _ _ => ?_⟩
  obtain ⟨o, us, rfl, ho, hblock⟩ := ih
  have hdefinition : startsDefinition
      (n :: (opening :: (ts ++ closing :: (o :: us)) ++ rest)) = true := by
    rw [List.cons_append, List.append_assoc]
    exact startsDefinition_eq_true isName opens names closes ho
  simp only [Grammar.statement, isName]
  rw [if_pos hdefinition]
  refine .within (.map _ ?_)
  rw [List.cons_append, List.append_assoc, Grammar.definition]
  refine .andThen opening _ (expect_yields _ opens _) fun _ => ?_
  refine .andThen parameters _ (commaSeparated_yields (by decide) (by decide) closes _ ?_)
    fun _ => ?_
  · exact Listed.mono (fun v vs hv => hv.readsElement (by decide)) names
  · exact .within (.map _ (body_yields ho (hblock rest)))

theorem assign {target value : Expr} (place : Derives (.expression target) ts)
    (isPlace : target.isPlace = true) (isAssign : t.kind = .assign)
    (ih : (Phrase.expression target).ReadOff ts) (ih' : (Phrase.expression value).ReadOff ts') :
    (Phrase.statement (.assign target value target.position)).ReadOff (ts ++ t :: ts') := by
  obtain ⟨u, us, rfl, hu⟩ := place.starts rfl
  refine ⟨u, us ++ t :: ts', rfl, startsStatement_of_startsExpression hu, fun rest _ hends => ?_⟩
  have hnothing := hends.resolve_left (by simp [Statement.endsInBlock])
  have hrest := EndsExpression.of_returnsNothing hnothing
  have htarget : EndsExpression (t :: (ts' ++ rest)) := .of_kind isAssign (by decide) rfl
  -- The target may end in a call, but an equals sign behind it is no body.
  have hcall := place.startsDefinition_eq_false rfl htarget.paren (by simp [peekKind, isAssign])
  rw [List.append_assoc]
  refine statement_yields hu hcall ?_
  rw [assignmentOrExpression]
  refine .andThen target _ (ih.expression _ htarget) fun _ => ?_
  dsimp only
  rw [if_pos isAssign, if_pos isPlace]
  exact .within (.map _ (ih'.expression rest hrest))

theorem ofExpression (h : Derives (.expression e) ts) (ih : (Phrase.expression e).ReadOff ts) :
    (Phrase.statement (.expression e)).ReadOff ts := by
  obtain ⟨u, us, rfl, hu⟩ := h.starts rfl
  refine ⟨u, us, rfl, startsStatement_of_startsExpression hu, fun rest _ hends => ?_⟩
  have hnothing := hends.resolve_left (by simp [Statement.endsInBlock])
  have hrest := EndsExpression.of_returnsNothing hnothing
  have hcall := h.startsDefinition_eq_false rfl hrest.paren (ne_of_returnsNothing hnothing rfl)
  refine statement_yields hu hcall ?_
  rw [assignmentOrExpression]
  refine .andThen e rest (ih.expression _ hrest) fun _ => ?_
  cases rest with
  | nil => exact .ok
  | cons t rest =>
    have hassign : t.kind ≠ .assign := ne_of_returnsNothing hnothing rfl
    dsimp only
    rw [if_neg hassign]
    exact .ok

end Phrase.ReadOff

/-- Whatever the rules derive is read. -/
theorem Derives.readOff {phrase : Phrase} {ts : List Token} (h : Derives phrase ts) :
    phrase.ReadOff ts := by
  induction h with
  | @operand l e ts h ih =>
    intro rest r us hrest hchain
    rw [Grammar.binary]
    exact .andThen e rest (ih.operand hrest) fun _ => .within hchain
  | binary _ isOperator _ ih ih' => exact ih.binary isOperator ih'
  | @minus e t ts isMinus h ih =>
    intro rest hrest
    rw [List.cons_append, unary, if_pos isMinus]
    exact .within ((ih rest hrest).map _)
  | @not e t ts isNot h ih =>
    intro rest hrest
    rw [List.cons_append, unary, if_neg (by rw [isNot]; decide), if_pos isNot]
    exact .within ((ih rest hrest).map _)
  | members _ ih => exact ih.unary
  | @primary e ts h ih =>
    obtain ⟨t, us, rfl, ht, hreads⟩ := ih
    exact ⟨t, us, rfl, ht, fun rest hrest => ⟨e, rest, hreads rest hrest, fun _ _ h => h⟩⟩
  | memberName _ isDot isName ih => exact ih.memberName isDot isName
  | memberCall _ isDot _ ih ih' => exact (ReadsMembers.call isDot ih ih').readOff
  | memberIndex _ opens breaks index breaks' closes ih ih' =>
    exact (ReadsMembers.index opens breaks breaks' closes ih
      ⟨index.starts rfl, ih'.expression⟩).readOff
  | integer isInteger value => exact (ReadsPrimary.integer isInteger value).readOff
  | string isString => exact (ReadsPrimary.string isString).readOff
  | trueWord isTrue => exact (ReadsPrimary.trueWord isTrue).readOff
  | falseWord isFalse => exact (ReadsPrimary.falseWord isFalse).readOff
  | @var t isName =>
    refine ⟨t, [], rfl, by rw [isName]; rfl, fun rest hrest => ?_⟩
    simp only [Grammar.primary, isName]
    rw [List.nil_append, if_neg hrest]
    exact .ok
  | called _ ih => exact (ReadsPrimary.called ih).readOff
  | parenthesized opens breaks h breaks' closes ih =>
    exact (ReadsPrimary.parenthesized opens breaks ⟨h.starts rfl, ih.expression⟩ breaks'
      closes).readOff
  | list opens _ closes ih => exact (ReadsPrimary.list opens ih closes).readOff
  | mapping _ ih => exact (ReadsPrimary.mapping ih).readOff
  | noArguments breaks => exact .none breaks
  | lastArgument breaks h breaks' ih => exact .last breaks ⟨h.starts rfl, ih.expression⟩ breaks'
  | moreArguments breaks h breaks' isComma further _ ih ih' =>
    exact .more breaks ⟨h.starts rfl, ih.expression⟩ breaks' isComma further ih'
  | @call es n opening closing ts isName opens h closes ih =>
    refine ⟨n, _, rfl, isName, fun rest => opens, fun rest => ?_⟩
    rw [List.cons_append, List.append_assoc, Grammar.call]
    refine .andThen opening _ (expect_yields _ opens _) fun _ => .within (.map _ ?_)
    refine commaSeparated_yields (by decide) (by decide) closes rest ?_
    exact Listed.mono (fun e us he => he.readsElement (.inl rfl)) ih
  | @block ss opening closing ts opens h closes ih =>
    refine ⟨opening, _, rfl, opens, fun rest => ?_⟩
    rw [List.append_assoc, Grammar.block]
    refine .andThen ss (closing :: rest) (ih .rightBrace _ (.inl rfl) (.inl closes)) fun _ => ?_
    dsimp only
    rw [if_pos closes]
    exact .ok
  | noStatements =>
    intro closing rest _ hrest
    rw [List.nil_append]
    cases rest with
    | nil =>
      rw [Grammar.statements]
      exact .ok
    | cons t rest =>
      have ht : t.kind = closing ∨ t.kind = .endOfInput := hrest
      rw [Grammar.statements, if_pos ht]
      exact .ok
  | @newLine t ss ts isNewLine tail ih =>
    intro closing rest hclosing hrest
    rw [List.cons_append, Grammar.statements, if_neg (hclosing.ne_of_kind isNewLine (by decide)),
      if_pos isNewLine]
    exact .within (.map _ (ih closing rest hclosing hrest))
  | @comment t ss ts isComment tail ih =>
    intro closing rest hclosing hrest
    rw [List.cons_append, Grammar.statements, if_neg (hclosing.ne_of_kind isComment (by decide)),
      if_neg (by rw [isComment]; decide), if_pos isComment]
    exact .within (.map _ (ih closing rest hclosing hrest))
  | next _ ends tail ih ih' => exact .next ends tail ih ih'
  | @conditional s ts h ih =>
    obtain ⟨t, us, rfl, ht, hreads⟩ := ih
    refine ⟨t, us, rfl, by rw [ht]; rfl, fun rest helse _ => ?_⟩
    simp only [Grammar.statement, ht]
    exact .within (hreads rest helse)
  | ifThen isIf _ _ ih ih' => exact ih.ifThen isIf ih'
  | ifThenElse isIf _ _ isElse _ ih ih' ih'' => exact ih.ifThenElse isIf isElse ih' ih''
  | branchBlock _ ih => exact ih.branchBlock
  | branchIf _ ih => exact ih.branchIf
  | loop isFor isItem isIn _ _ ih ih' => exact ih.loop isFor isItem isIn ih'
  | indexedLoop isFor isIndex isComma isItem isIn _ _ ih ih' =>
    exact ih.indexedLoop isFor isIndex isComma isItem isIn ih'
  | @exit t isReturn =>
    refine ⟨t, [], rfl, by rw [isReturn]; rfl, fun rest _ hends => ?_⟩
    simp only [Grammar.statement, isReturn]
    rw [List.nil_append, if_pos (hends.resolve_left (by simp [Statement.endsInBlock]))]
    exact .ok
  | exitWith isReturn h ih => exact .exitWith isReturn h ih
  | @stop t isBreak =>
    refine ⟨t, [], rfl, by rw [isBreak]; rfl, fun rest _ _ => ?_⟩
    simp only [Grammar.statement, isBreak]
    exact .ok
  | @skip t isContinue =>
    refine ⟨t, [], rfl, by rw [isContinue]; rfl, fun rest _ _ => ?_⟩
    simp only [Grammar.statement, isContinue]
    exact .ok
  | definition isName opens names closes _ ih => exact ih.definition isName opens names closes
  | assign place isPlace isAssign _ ih ih' => exact .assign place isPlace isAssign ih ih'
  | expression h ih => exact .ofExpression h ih

end Grammar

end Scriptlet
