import Scriptlet.Proofs.Grammar.Acceptance

/-!
# What is taken can be completed

If a program cannot be read since a token does not fit, then the tokens in front of it are the
beginning of some program, and if it cannot be read since the tokens end too early, then all of them
are (`parseTokens_error_beginning`). For each reader it is shown that what it had taken when it
failed can be completed (`Parsed.Viable`): a reader that calls another one takes what completes the
construct of that one, and then completes its own.

The token that does not fit may be one that fits elsewhere. In `f(a(b)) { }` it is the second
parenthesis, since the brace makes a definition of what could have been a call.
-/

namespace Scriptlet

/-! ## Where reading stops -/

/-- Whether a statement goes on where it should end. The token that does not fit is not taken then;
otherwise it is. -/
def Expectation.isStatementEnd : Expectation → Bool
  | .statementEnd | .statementEndInBlock => true
  | _ => false

/-- Whether there is a token that does not fit, or is none where there should be. -/
def ParseError.isStructural : ParseError → Bool
  | .unexpectedToken .. | .unexpectedEndOfInput .. | .unterminatedBlock _ => true
  | _ => false

open Grammar

/-- Reading `tokens` failed behind `before`; the tokens that had not been taken are the last. -/
inductive ParseError.StopsBehind (before : List Token) :
    ParseError → List Token → List Token → Prop
  | atToken {t : Token} {expected : Expectation} {rest : List Token}
    (kind : t.kind ≠ .endOfInput) (taken : expected.isStatementEnd = false) :
    StopsBehind before (.unexpectedToken t.display expected t.position) (before ++ t :: rest) rest
  | atStatementEnd {t : Token} {expected : Expectation} {rest : List Token}
    (kind : t.kind ≠ .endOfInput) (left : expected.isStatementEnd = true) :
    StopsBehind before (.unexpectedToken t.display expected t.position) (before ++ t :: rest)
      (t :: rest)
  | atEnd {p : Position} {expected : Expectation} {left rest : List Token}
    (ends : peekKind left = .endOfInput) :
    StopsBehind before (.unexpectedEndOfInput expected p) (before ++ left) rest
  | unclosed {p : Position} {left rest : List Token} (ends : peekKind left = .endOfInput) :
    StopsBehind before (.unterminatedBlock p) (before ++ left) rest

theorem ParseError.StopsBehind.append {before tokens rest : List Token} {e : ParseError}
    (h : e.StopsBehind before tokens rest) (ts : List Token) :
    e.StopsBehind (ts ++ before) (ts ++ tokens) rest := by
  cases h with
  | atToken kind taken =>
    rw [← List.append_assoc]
    exact .atToken kind taken
  | atStatementEnd kind left =>
    rw [← List.append_assoc]
    exact .atStatementEnd kind left
  | atEnd ends =>
    rw [← List.append_assoc]
    exact .atEnd ends
  | unclosed ends =>
    rw [← List.append_assoc]
    exact .unclosed ends

theorem ParseError.StopsBehind.isPrefix {before tokens rest : List Token} {e : ParseError}
    (h : e.StopsBehind before tokens rest) : before <+: tokens := by
  cases h <;> exact List.prefix_append _ _

/-- Where reading fails at a token or at the end, the tokens up to there can be completed to some of
which `C` holds. -/
def Parsed.Viable {α : Type} {n : Nat} (p : Parsed α n) (tokens : List Token)
    (C : List Token → Prop) : Prop :=
  ∀ e rest, p = .fail e rest → e.isStructural = true →
    ∃ before more, e.StopsBehind before tokens rest ∧ C (before ++ more)

namespace Parsed.Viable

variable {α β : Type} {m n : Nat} {tokens : List Token} {C C' : List Token → Prop}

theorem ok {a : α} {us : List Token} {h : us.length < n} : (Parsed.ok a us h).Viable tokens C :=
  fun _ _ heq => by cases heq

/-- Of other failures nothing is said. -/
theorem other {e : ParseError} {us : List Token} (he : e.isStructural = false) :
    (Parsed.fail e us : Parsed α n).Viable tokens C := by
  intro e' rest heq hstructural
  cases heq
  rw [he] at hstructural
  cases hstructural

/-- The first token does not fit. -/
theorem unexpected {t : Token} {expected : Expectation} {rest more : List Token}
    (taken : expected.isStatementEnd = false) (h : C more) :
    (Parsed.fail (Grammar.unexpected t expected) rest : Parsed α n).Viable (t :: rest) C := by
  intro e us heq _
  cases heq
  unfold Grammar.unexpected
  split
  · rename_i ht
    have hstops : ParseError.StopsBehind [] (.unexpectedEndOfInput expected t.position)
        ([] ++ t :: rest) rest := .atEnd ht
    exact ⟨[], more, hstops, h⟩
  · rename_i ht
    exact ⟨[], more, .atToken ht taken, h⟩

/-- The first token, which is not taken, does not end a statement. -/
theorem statementEnd {t : Token} {expected : Expectation} {rest more : List Token}
    (left : expected.isStatementEnd = true) (ht : t.kind ≠ .endOfInput) (h : C more) :
    (Parsed.fail (Grammar.unexpected t expected) (t :: rest) : Parsed α n).Viable (t :: rest)
      C := by
  intro e us heq _
  cases heq
  rw [Grammar.unexpected, if_neg ht]
  exact ⟨[], more, .atStatementEnd ht left, h⟩

theorem exhausted {expected : Expectation} {more : List Token} (h : C more) :
    (Parsed.fail (Grammar.exhausted expected) [] : Parsed α n).Viable [] C := by
  intro e us heq _
  cases heq
  have hstops : ParseError.StopsBehind [] (Grammar.exhausted expected) ([] ++ []) [] := .atEnd rfl
  exact ⟨[], more, hstops, h⟩

theorem within {p : Parsed α m} {h : m ≤ n} (hp : p.Viable tokens C) :
    (p.within h).Viable tokens C := by
  intro e rest heq hstructural
  cases p with
  | ok a us hlt => cases heq
  | fail e us =>
    cases heq
    exact hp _ _ rfl hstructural

theorem map {f : α → β} {p : Parsed α m} (hp : p.Viable tokens C) : (p.map f).Viable tokens C := by
  intro e rest heq hstructural
  cases p with
  | ok a us hlt => cases heq
  | fail e us =>
    cases heq
    exact hp _ _ rfl hstructural

/-- What is completed to a part can be completed to the whole. -/
theorem complete {p : Parsed α m} (hp : p.Viable tokens C)
    (h : ∀ ts, C ts → ∃ more, C' (ts ++ more)) : p.Viable tokens C' := by
  intro e rest heq hstructural
  obtain ⟨before, more, hstops, hC⟩ := hp e rest heq hstructural
  obtain ⟨more', hC'⟩ := h _ hC
  exact ⟨before, more ++ more', hstops, by rwa [List.append_assoc] at hC'⟩

theorem mono {p : Parsed α m} (hp : p.Viable tokens C) (h : ∀ ts, C ts → C' ts) :
    p.Viable tokens C' :=
  hp.complete fun ts hC => ⟨[], by rw [List.append_nil]; exact h ts hC⟩

/-- What has been taken in front is a part of what is completed. -/
theorem append {p : Parsed α m} (ts : List Token) (hp : p.Viable tokens fun us => C (ts ++ us)) :
    p.Viable (ts ++ tokens) C := by
  intro e rest heq hstructural
  obtain ⟨before, more, hstops, hC⟩ := hp e rest heq hstructural
  exact ⟨ts ++ before, more, hstops.append ts, by rwa [List.append_assoc]⟩

theorem cons {t : Token} {p : Parsed α m} (hp : p.Viable tokens fun us => C (t :: us)) :
    p.Viable (t :: tokens) C :=
  append [t] hp

theorem andThen {D : α → List Token → Prop} {p : Parsed α m}
    {k : (a : α) → (us : List Token) → us.length < m → Parsed β n} (hp : p.Viable tokens C)
    (hsound : p.Sound tokens D)
    (hk : ∀ a us h ts, D a ts → (k a us h).Viable (ts ++ us) C) :
    (p.andThen k).Viable tokens C := by
  intro e rest heq hstructural
  cases p with
  | ok a us hlt =>
    obtain ⟨ts, rfl, hD⟩ := hsound a us hlt rfl
    exact hk a us hlt ts hD e rest heq hstructural
  | fail e us =>
    cases heq
    exact hp _ _ rfl hstructural

end Parsed.Viable

namespace Grammar

variable {α : Type} {tokens : List Token} {C : List Token → Prop}

/-! ## What completes -/

/-- The tokens spell something of a sort. -/
def Spelled (sort : α → Phrase) (ts : List Token) : Prop :=
  ∃ a, Derives (sort a) ts

/-- Some token of a kind. -/
def someToken (kind : Token.Kind) : Token :=
  ⟨kind, "x", default⟩

theorem someToken_kind (kind : Token.Kind) : (someToken kind).kind = kind :=
  rfl

theorem spelled_tier (level : Option Level) : Spelled (.tier level) [someToken .name] :=
  ⟨_, Derives.tier_of_members (.primary (.var rfl)) level⟩

theorem spelled_block : Spelled .block [someToken .leftBrace, someToken .rightBrace] :=
  ⟨_, .block rfl .noStatements rfl⟩

theorem named_someToken : ∃ v, Named v [someToken .name] :=
  ⟨_, _, rfl, rfl, rfl⟩

/-! ## Single tokens, line breaks and lists -/

theorem nextToken_viable {expected : Expectation} (more : List Token) (h : C more) :
    (nextToken expected tokens).Viable tokens C := by
  cases tokens with
  | nil => exact .exhausted h
  | cons t rest => exact .ok

theorem expect_viable {kind : Token.Kind} {expected : Expectation} {more : List Token}
    (taken : expected.isStatementEnd = false) (h : C more) :
    (expect kind expected tokens).Viable tokens C := by
  cases tokens with
  | nil => exact .exhausted h
  | cons t rest =>
    rw [expect]
    split
    · exact .ok
    · exact .unexpected taken h

theorem name_viable (more : List Token) (h : C more) : (name tokens).Viable tokens C :=
  .map (expect_viable rfl h)

theorem afterNewLines_viable
    {p : (us : List Token) → us.length ≤ tokens.length → Parsed α us.length}
    (hp : ∀ us h, (p us h).Viable us fun ts => ∀ breaks, LineBreaks breaks → C (breaks ++ ts)) :
    (afterNewLines tokens p).Viable tokens C := by
  obtain ⟨breaks, hbreaks, heq⟩ := lineBreaks_append_skipNewLines tokens
  have hskipped := (hp (skipNewLines tokens) (skipNewLines_length tokens)).mono
    fun ts hts => hts breaks hbreaks
  have happended := Parsed.Viable.append breaks hskipped
  rw [← heq] at happended
  exact .within happended

/-- Elements and the token that closes them. -/
def Closed (D : α → List Token → Prop) (closing : Token.Kind) (ts : List Token) : Prop :=
  ∃ as us t, ts = us ++ [t] ∧ t.kind = closing ∧ as ≠ [] ∧ Listed D as us

theorem Closed.single {D : α → List Token → Prop} {a : α} {ts before after : List Token}
    (hbefore : LineBreaks before) (ha : D a ts) (hafter : LineBreaks after) (closing : Token.Kind) :
    Closed D closing (before ++ ts ++ after ++ [someToken closing]) :=
  ⟨[a], before ++ ts ++ after, someToken closing, rfl, rfl, List.cons_ne_nil _ _,
    .last hbefore ha hafter⟩

theorem Closed.cons {D : α → List Token → Prop} {closing : Token.Kind} {a : α} {comma : Token}
    {ts before after us : List Token} (hbefore : LineBreaks before) (ha : D a ts)
    (hafter : LineBreaks after) (hcomma : comma.kind = .comma) (h : Closed D closing us) :
    Closed D closing (before ++ ts ++ after ++ comma :: us) := by
  obtain ⟨as, us, t, rfl, ht, hne, hlisted⟩ := h
  exact ⟨a :: as, before ++ ts ++ after ++ comma :: us, t, by simp, ht, List.cons_ne_nil _ _,
    .more hbefore ha hafter hcomma hne hlisted⟩

theorem elements_viable {D : α → List Token → Prop} (closing : Token.Kind) (bound : Nat)
    {element : (us : List Token) → us.length ≤ bound → Parsed α us.length}
    (hviable : ∀ us h, (element us h).Viable us fun ts => ∃ a, D a ts)
    (hsound : ∀ us h, (element us h).Sound us D) :
    ∀ (tokens : List Token) (h : tokens.length ≤ bound),
      (elements closing bound element tokens h).Viable tokens (Closed D closing) := by
  intro tokens h
  rw [elements]
  refine .andThen (D := fun a ts => ∃ before us, LineBreaks before ∧ ts = before ++ us ∧ D a us)
    (afterNewLines_viable fun us hus => (hviable us _).complete ?_)
    (afterNewLines_sound fun us hus => (hsound us _).mono fun a ts ha breaks hb =>
      ⟨breaks, ts, hb, rfl, ha⟩) ?_
  · rintro ts ⟨a, ha⟩
    refine ⟨[someToken closing], fun breaks hbreaks => ?_⟩
    simpa using Closed.single hbreaks ha .nil closing
  · rintro a us hus _ ⟨before, ts, hbefore, rfl, ha⟩
    refine .append _ (.andThen (D := fun t ts' => ∃ after, LineBreaks after ∧ ts' = after ++ [t])
      (afterNewLines_viable fun vs hvs => nextToken_viable [someToken closing]
        fun breaks hbreaks => ?_)
      (afterNewLines_sound fun vs hvs => (nextToken_sound _ vs).mono fun t ts' ht breaks hb =>
        ⟨breaks, hb, by rw [ht]⟩) ?_)
    · simpa using Closed.single hbefore ha hbreaks closing
    · rintro t vs hvs _ ⟨after, hafter, rfl⟩
      rw [List.append_assoc]
      refine .append after ?_
      split
      · rename_i hcomma
        refine .cons (.within (.map ((elements_viable closing bound hviable hsound vs
          (by omega)).mono fun us' hclosed => ?_)))
        simpa using Closed.cons hbefore ha hafter hcomma hclosed
      · split
        · exact .ok
        · have hclosed := Closed.single hbefore ha hafter closing
          exact .unexpected rfl (by simpa using hclosed)
termination_by tokens => tokens.length

theorem commaSeparated_viable {D : α → List Token → Prop} (closing : Token.Kind)
    {element : (us : List Token) → us.length ≤ tokens.length → Parsed α us.length}
    (hviable : ∀ us h, (element us h).Viable us fun ts => ∃ a, D a ts)
    (hsound : ∀ us h, (element us h).Sound us D) :
    (commaSeparated closing tokens element).Viable tokens (Closed D closing) := by
  have helements := elements_viable closing tokens.length hviable hsound tokens (Nat.le_refl _)
  rw [commaSeparated]
  split
  · exact helements
  · split
    · exact .ok
    · exact helements

/-- What is closed after an expression. -/
theorem delimited_viable {β : Type} {n : Nat} {closing : Token.Kind} {expected : Expectation}
    {k : Expr → (us : List Token) → us.length < tokens.length → Token → (vs : List Token) →
      vs.length < us.length → Parsed β n}
    (taken : expected.isStatementEnd = false)
    (hexpression : ∀ us : List Token, us.length ≤ tokens.length →
      (expression us).Viable us (Spelled .expression))
    (hclosed : ∀ {before e ts after} {c : Token}, LineBreaks before → Derives (.expression e) ts →
      LineBreaks after → c.kind = closing → C (before ++ ts ++ after ++ [c]))
    (hk : ∀ {before e ts after c}, LineBreaks before → Derives (.expression e) ts →
      LineBreaks after → c.kind = closing → ∀ us h vs h',
      (k e us h c vs h').Viable vs fun ts' => C (before ++ ts ++ after ++ [c] ++ ts')) :
    ((afterNewLines tokens fun us _ => expression us).andThen fun e us h =>
      (afterNewLines us fun vs _ => expect closing expected vs).andThen fun c vs h' =>
        k e us h c vs h').Viable tokens C := by
  refine .andThen (D := fun e ts => ∃ before us, LineBreaks before ∧ ts = before ++ us ∧
    Derives (.expression e) us) (afterNewLines_viable fun us hus => ?_)
    (afterNewLines_sound fun us hus => ?_) ?_
  · refine (hexpression us hus).complete ?_
    rintro ts ⟨e, he⟩
    refine ⟨[someToken closing], fun breaks hbreaks => ?_⟩
    simpa using hclosed hbreaks he .nil (someToken_kind closing)
  · exact (expression_sound us).mono fun e ts he breaks hb => ⟨breaks, ts, hb, rfl, he⟩
  · rintro e us h _ ⟨before, ts, hbefore, rfl, he⟩
    have hclosing : ∀ breaks, LineBreaks breaks →
        C (before ++ ts ++ (breaks ++ [someToken closing])) := by
      intro breaks hbreaks
      rw [← List.append_assoc]
      exact hclosed hbefore he hbreaks rfl
    refine .append (C := C) _ ?_
    refine .andThen (D := fun c ts' => ∃ after, LineBreaks after ∧ ts' = after ++ [c] ∧
      c.kind = closing) (afterNewLines_viable fun vs hvs => expect_viable taken hclosing)
      (afterNewLines_sound fun vs hvs => ?_) ?_
    · exact (expect_sound _ _ vs).mono fun c ts' hc breaks hb =>
        ⟨breaks, hb, by rw [hc.1], hc.2⟩
    · rintro c vs h' _ ⟨after, hafter, rfl, hc⟩
      refine .append _ ((hk hbefore he hafter hc us h vs h').mono fun ts' hts' => ?_)
      simpa using hts'

theorem parameter_viable (tokens : List Token) :
    (parameter tokens).Viable tokens fun ts => ∃ v, Named v ts := by
  cases tokens with
  | nil => exact name_viable _ named_someToken
  | cons t rest =>
    rw [parameter]
    split
    · exact name_viable _ named_someToken
    · exact .other rfl

theorem loopNames_viable (tokens : List Token) :
    (loopNames tokens).Viable tokens fun ts => ∃ names, LoopNames names ts := by
  refine .andThen (name_viable [someToken .name] ⟨_, .inl ⟨_, rfl, rfl, rfl⟩⟩)
    (name_sound tokens) ?_
  rintro first us h _ ⟨n, hn, rfl, rfl⟩
  refine .cons ?_
  cases us with
  | nil => exact .ok
  | cons t rest =>
    dsimp only
    split
    · rename_i hcomma
      refine .cons (.within (.map (name_viable [someToken .name] ?_)))
      exact ⟨_, .inr ⟨n, t, someToken .name, hn, hcomma, rfl, rfl, rfl⟩⟩
    · exact .ok

theorem spelled_loop {t inWord : Token} {names : Option Variable × Variable} {e : Expr} {b : Block}
    {ts ts' ts'' : List Token} (ht : t.kind = .forWord) (hnames : LoopNames names ts)
    (hin : inWord.kind = .inWord) (he : Derives (.expression e) ts')
    (hb : Derives (.block b) ts'') :
    Spelled .statement (t :: (ts ++ inWord :: (ts' ++ ts''))) := by
  rcases hnames with ⟨item, hitem, rfl, rfl⟩ | ⟨index, comma, item, hindex, hcomma, hitem, rfl, rfl⟩
  · exact ⟨_, .loop ht hitem hin he hb⟩
  · exact ⟨_, .indexedLoop ht hindex hcomma hitem hin he hb⟩

theorem missingEnd_isStatementEnd (closing : Token.Kind) :
    (missingEnd closing).isStatementEnd = true := by
  unfold missingEnd
  split <;> rfl

/-- What completes the statements behind a statement completes both. If nothing has been taken of
them, then nothing has to be added: they need not start where a statement may. -/
theorem spelled_next {closing : Token.Kind} (hclosing : Closes closing) {s : Statement}
    {ts us before more : List Token} (hs : Derives (.statement s) ts)
    (hends : (s.endsInBlock || endsStatement closing us) = true) (hus : before <+: us)
    (h : Spelled .statements (before ++ more)) :
    ∃ more', Spelled .statements (ts ++ (before ++ more')) := by
  obtain ⟨ss, hss⟩ := h
  obtain ⟨left, rfl⟩ := hus
  by_cases hbefore : before = []
  · subst hbefore
    exact ⟨[], _, .next hs (.inr (.inl rfl)) .noStatements⟩
  · refine ⟨more, _, .next hs ?_ hss⟩
    refine (Bool.or_eq_true_iff.mp hends).imp_right fun hend => ?_
    have hends' : endsStatement closing (before ++ more ++ []) = true := by
      rw [endsStatement, peekKind_append hbefore] at hend
      rwa [endsStatement, List.append_assoc, peekKind_append hbefore]
    exact separated_of_endsStatement hclosing hss hends'

/-! ## The readers

By induction along the recursion of the readers, with the measure of theirs. -/

mutual

theorem expression_viable (tokens : List Token) :
    (expression tokens).Viable tokens (Spelled .expression) := by
  rw [expression]
  exact binary_viable .membership tokens
termination_by 32 * tokens.length + 14
decreasing_by all_goals (simp [Level.looseness])

theorem binary_viable (level : Level) (tokens : List Token) :
    (binary level tokens).Viable tokens (Spelled (.tier (some level))) := by
  rw [binary]
  refine .andThen ((operand_viable level tokens).mono ?_) (operand_sound level tokens) ?_
  · rintro ts ⟨e, he⟩
    exact ⟨e, .operand he⟩
  · intro left us h ts hleft
    exact .append ts (.within (chain_viable (.operand hleft) us))
termination_by 32 * tokens.length + 2 * level.looseness + 5
decreasing_by all_goals (have hl := level.looseness_le; omega)

theorem operand_viable (level : Level) (tokens : List Token) :
    (operand level tokens).Viable tokens (Spelled (.tier level.tighter)) := by
  rw [operand]
  split
  · rename_i tighter h
    have := Level.looseness_of_tighter h
    exact (binary_viable tighter tokens).mono fun ts he => h ▸ he
  · rename_i h
    rw [h]
    exact unary_viable tokens
termination_by 32 * tokens.length + 2 * level.looseness + 4
decreasing_by all_goals omega

theorem chain_viable {level : Level} {left : Expr} {ts : List Token}
    (hleft : Derives (.tier (some level) left) ts) (tokens : List Token) :
    (chain level left tokens).Viable tokens fun ts' =>
      Spelled (.tier (some level)) (ts ++ ts') := by
  match tokens with
  | [] =>
    rw [chain]
    exact .ok
  | t :: rest =>
    rw [chain]
    split
    · exact .ok
    · rename_i o ho
      split
      · rename_i hlevel
        subst hlevel
        refine .cons (.andThen ((operand_viable o.level rest).mono ?_)
          (operand_sound o.level rest) ?_)
        · rintro ts' ⟨right, hright⟩
          exact ⟨_, .binary hleft ho hright⟩
        · intro right us h ts' hright
          refine .append ts' (.within ((chain_viable (.binary hleft ho hright) us).mono ?_))
          intro ts'' h
          simpa using h
      · exact .ok
termination_by 32 * tokens.length
decreasing_by all_goals (have hl := Level.looseness_le; simp only [List.length_cons]; grind)

theorem unary_viable (tokens : List Token) :
    (unary tokens).Viable tokens (Spelled (.tier none)) := by
  match tokens with
  | [] =>
    rw [unary]
    exact .exhausted (spelled_tier none)
  | t :: rest =>
    rw [unary]
    split
    · rename_i hminus
      refine .within (.cons (.map ((unary_viable rest).mono ?_)))
      rintro ts ⟨e, he⟩
      exact ⟨_, .minus hminus he⟩
    · split
      · rename_i hnot
        refine .within (.cons (.map ((unary_viable rest).mono ?_)))
        rintro ts ⟨e, he⟩
        exact ⟨_, .not hnot he⟩
      · refine .andThen (D := fun e ts => Derives (.primary e) ts) ((primary_viable t rest).mono ?_)
          ((primary_sound t rest).cons) ?_
        · rintro ts ⟨e, he⟩
          exact ⟨e, .members (.primary he)⟩
        · intro node us h ts hnode
          refine .append ts (.within ((postfixes_viable (.primary hnode) us).mono ?_))
          rintro ts' ⟨e, he⟩
          exact ⟨e, .members he⟩
termination_by 32 * tokens.length + 3
decreasing_by all_goals (simp only [List.length_cons]; omega)

theorem primary_viable (t : Token) (tokens : List Token) :
    (primary t tokens).Viable (t :: tokens) (Spelled .primary) := by
  rw [primary]
  split
  · split
    · exact .ok
    · exact .other rfl
  · exact .ok
  · exact .ok
  · exact .ok
  · rename_i hk
    split
    · refine .cons (.within (.map ((call_viable hk tokens).mono ?_)))
      rintro ts ⟨c, hc⟩
      exact ⟨_, .called hc⟩
    · exact .ok
  · rename_i hk
    refine .cons (delimited_viable rfl (fun us hus => expression_viable us) ?_ ?_)
    · exact fun hbefore he hafter hc => ⟨_, .parenthesized hk hbefore he hafter hc⟩
    · exact fun _ _ _ _ _ _ _ _ => .ok
  · rename_i hk
    refine .cons (.within (.map ((commaSeparated_viable _ (fun us hus => expression_viable us)
      fun us hus => expression_sound us).mono ?_)))
    rintro _ ⟨es, ts, c, rfl, hc, -, hlisted⟩
    exact ⟨_, .list hk (arguments_of_listed hlisted) hc⟩
  · rename_i hk
    refine .cons (.within (.map ((block_viable hk tokens).mono ?_)))
    rintro ts ⟨b, hb⟩
    exact ⟨_, .mapping hb⟩
  · exact .unexpected rfl ⟨_, .var (someToken_kind .name)⟩
termination_by 32 * tokens.length + 20
decreasing_by all_goals omega

theorem call_viable {t : Token} (ht : t.kind = .name) (tokens : List Token) :
    (call t tokens).Viable tokens fun ts => Spelled .call (t :: ts) := by
  have hempty : Spelled .call [t, someToken .leftParen, someToken .rightParen] :=
    ⟨_, .call ht rfl (.noArguments .nil) rfl⟩
  rw [call]
  refine .andThen (expect_viable rfl hempty) (expect_sound _ _ tokens) ?_
  rintro o us h _ ⟨rfl, ho⟩
  refine .cons (.within (.map ((commaSeparated_viable _ (fun vs hvs => expression_viable vs)
    fun vs hvs => expression_sound vs).mono ?_)))
  rintro _ ⟨es, ts, c, rfl, hc, -, hlisted⟩
  exact ⟨_, .call ht ho (arguments_of_listed hlisted) hc⟩
termination_by 32 * tokens.length
decreasing_by all_goals omega

theorem postfixes_viable {node : Expr} {ts : List Token} (hnode : Derives (.members node) ts)
    (tokens : List Token) :
    (postfixes node tokens).Viable tokens fun ts' => Spelled .members (ts ++ ts') := by
  match tokens with
  | [] =>
    rw [postfixes]
    exact .ok
  | t :: rest =>
    rw [postfixes]
    split
    · rename_i hdot
      have hnamed : ∀ n : Token, n.kind = .name → Spelled .members (ts ++ [t, n]) :=
        fun n hn => ⟨_, .memberName hnode hdot hn⟩
      refine .cons (.andThen (expect_viable rfl (hnamed (someToken .name) rfl))
        (expect_sound _ _ rest) ?_)
      rintro n us h _ ⟨rfl, hn⟩
      refine .cons ?_
      split
      · refine .andThen ((call_viable hn us).mono ?_) (call_sound n hn us) ?_
        · rintro ts' ⟨c, hc⟩
          exact ⟨_, .memberCall hnode hdot hc⟩
        · intro c vs h' ts' hc
          refine .append ts' (.within ((postfixes_viable (.memberCall hnode hdot hc) vs).mono ?_))
          intro ts'' h
          simpa using h
      · refine .within ((postfixes_viable (.memberName hnode hdot hn) us).mono ?_)
        intro ts' h
        simpa using h
    · split
      · rename_i hbracket
        refine .cons (delimited_viable rfl (fun us hus => expression_viable us) ?_ ?_)
        · exact fun hbefore hkey hafter hc =>
            ⟨_, .memberIndex hnode hbracket hbefore hkey hafter hc⟩
        · intro before key ts' after c hbefore hkey hafter hc us h vs h'
          refine .within ((postfixes_viable
            (.memberIndex hnode hbracket hbefore hkey hafter hc) vs).mono ?_)
          intro ts'' h
          simpa using h
      · exact .ok
termination_by 32 * tokens.length
decreasing_by all_goals (simp only [List.length_cons]; omega)

theorem statements_viable {closing : Token.Kind} (hclosing : Closes closing)
    (tokens : List Token) : (statements closing tokens).Viable tokens (Spelled .statements) := by
  match tokens with
  | [] =>
    rw [statements]
    exact .ok
  | t :: rest =>
    rw [statements]
    split
    · exact .ok
    · split
      · rename_i hline
        refine .within (.cons (.map ((statements_viable hclosing rest).mono ?_)))
        rintro ts ⟨ss, hss⟩
        exact ⟨_, .newLine hline hss⟩
      · split
        · rename_i hcomment
          refine .within (.cons (.map ((statements_viable hclosing rest).mono ?_)))
          rintro ts ⟨ss, hss⟩
          exact ⟨_, .comment hcomment hss⟩
        · have hlast : ∀ ts, Spelled .statement ts → Spelled .statements (ts ++ []) := by
            rintro ts ⟨s, hs⟩
            exact ⟨_, .next hs (.inr (.inl rfl)) .noStatements⟩
          refine .andThen ((statement_viable t rest).complete fun ts hs => ⟨[], hlast ts hs⟩)
            (statement_sound t rest).cons fun s us h ts hs => .append ts ?_
          split
          -- If nothing has been taken behind the statement, it is completed as the last one.
          · rename_i hends
            refine .within (.map fun e rest' heq hstructural => ?_)
            obtain ⟨before, more, hstops, hss⟩ :=
              statements_viable hclosing us e rest' heq hstructural
            obtain ⟨more', hmore'⟩ := spelled_next hclosing hs hends hstops.isPrefix hss
            exact ⟨before, more', hstops, hmore'⟩
          · rename_i hends
            obtain ⟨-, hend⟩ := Bool.or_eq_false_iff.mp (Bool.eq_false_iff.mpr hends)
            cases us with
            | nil => cases hend
            | cons u us =>
              refine .statementEnd (missingEnd_isStatementEnd closing) ?_ (hlast ts ⟨s, hs⟩)
              intro hu
              rw [List.headD_cons] at hu
              simp [endsStatement, peekKind, hu] at hend
termination_by 32 * tokens.length + 17
decreasing_by all_goals (simp only [List.length_cons]; omega)

theorem statement_viable (t : Token) (tokens : List Token) :
    (statement t tokens).Viable (t :: tokens) (Spelled .statement) := by
  rw [statement]
  split
  · rename_i hk
    refine .within (.cons ((conditional_viable hk tokens).mono ?_))
    rintro ts ⟨s, hs⟩
    exact ⟨s, .conditional hs⟩
  · rename_i hk
    exact .within (.cons (loop_viable hk tokens))
  · rename_i hk
    split
    · exact .ok
    · refine .within (.cons (.map ((expression_viable tokens).mono ?_)))
      rintro ts ⟨e, he⟩
      exact ⟨_, .exitWith hk he⟩
  · exact .ok
  · exact .ok
  · split
    · rename_i hdef
      exact .within (.cons (.map (definition_viable (name_of_startsDefinition hdef) tokens)))
    · exact assignmentOrExpression_viable (t :: tokens)
termination_by 32 * tokens.length + 48
decreasing_by all_goals (try simp only [List.length_cons]); omega

theorem conditional_viable {t : Token} (ht : t.kind = .ifWord) (tokens : List Token) :
    (conditional t.position tokens).Viable tokens fun ts => Spelled .conditional (t :: ts) := by
  rw [conditional]
  obtain ⟨b₀, hb₀⟩ := spelled_block
  refine .andThen ((expression_viable tokens).complete ?_) (expression_sound tokens) ?_
  · rintro ts ⟨e, he⟩
    exact ⟨_, _, .ifThen ht he hb₀⟩
  · intro condition us h ts hcondition
    refine .append ts (.andThen ((body_viable us).mono ?_) (body_sound us) ?_)
    · rintro ts' ⟨b, hb⟩
      exact ⟨_, .ifThen ht hcondition hb⟩
    · intro b vs h' ts' hb
      refine .append ts' ?_
      match vs with
      | [] => exact .ok
      | e :: rest =>
        dsimp only
        split
        · rename_i he
          refine .cons (.andThen ((otherwise_viable rest).mono ?_) (otherwise_sound rest)
            fun _ _ _ _ _ => .ok)
          rintro ts'' ⟨b', hb'⟩
          have hbranches := Derives.ifThenElse ht hcondition hb he hb'
          rw [List.append_assoc] at hbranches
          exact ⟨_, hbranches⟩
        · exact .ok
termination_by 32 * tokens.length + 15
decreasing_by all_goals (try simp only [List.length_cons] at *); omega

theorem otherwise_viable (tokens : List Token) :
    (otherwise tokens).Viable tokens (Spelled .branch) := by
  obtain ⟨b₀, hb₀⟩ := spelled_block
  have hblock : Spelled .branch [someToken .leftBrace, someToken .rightBrace] :=
    ⟨b₀, .branchBlock hb₀⟩
  rw [otherwise]
  refine .andThen (nextToken_viable _ hblock) (nextToken_sound _ tokens) ?_
  rintro t us h _ rfl
  split
  · rename_i hk
    refine .cons (.within (.map ((conditional_viable hk us).mono ?_)))
    rintro ts ⟨s, hs⟩
    exact ⟨_, .branchIf hs⟩
  · split
    · rename_i hk
      refine .cons (.within ((block_viable hk us).mono ?_))
      rintro ts ⟨b, hb⟩
      exact ⟨b, .branchBlock hb⟩
    · exact .unexpected rfl hblock
termination_by 32 * tokens.length
decreasing_by all_goals omega

theorem loop_viable {t : Token} (ht : t.kind = .forWord) (tokens : List Token) :
    (loop t.position tokens).Viable tokens fun ts => Spelled .statement (t :: ts) := by
  obtain ⟨b₀, hb₀⟩ := spelled_block
  obtain ⟨e₀, he₀⟩ := spelled_tier (some .membership)
  have hin := someToken_kind .inWord
  rw [loop]
  refine .andThen ((loopNames_viable tokens).complete ?_) (loopNames_sound tokens)
    fun names us h ts hnames => .append ts ?_
  · rintro ts ⟨names, hnames⟩
    exact ⟨_, spelled_loop ht hnames hin he₀ hb₀⟩
  · refine .andThen (expect_viable rfl (spelled_loop ht hnames hin he₀ hb₀))
      (expect_sound _ _ us) ?_
    rintro i vs h' _ ⟨rfl, hi⟩
    refine .cons (.andThen ((expression_viable vs).complete ?_) (expression_sound vs)
      fun iterable ws h'' ts' hiterable => .append ts' ?_)
    · rintro ts' ⟨e, he⟩
      exact ⟨_, spelled_loop ht hnames hi he hb₀⟩
    · refine .within (.map ((body_viable ws).mono ?_))
      rintro ts'' ⟨b, hb⟩
      exact spelled_loop ht hnames hi hiterable hb
termination_by 32 * tokens.length
decreasing_by all_goals omega

theorem definition_viable {t : Token} (ht : t.kind = .name) (tokens : List Token) :
    (definition t tokens).Viable tokens fun ts => Spelled .statement (t :: ts) := by
  obtain ⟨b₀, hb₀⟩ := spelled_block
  rw [definition]
  -- Without parameters and with an empty body it is complete at any point.
  have hempty := Derives.definition ht (someToken_kind .leftParen) (.none .nil)
    (someToken_kind .rightParen) hb₀
  refine .andThen (expect_viable rfl ⟨_, hempty⟩) (expect_sound _ _ tokens) ?_
  rintro o us h _ ⟨rfl, ho⟩
  refine .cons (.andThen ((commaSeparated_viable _ (fun vs hvs => parameter_viable vs)
    fun vs hvs => parameter_sound vs).complete ?_)
    (commaSeparated_sound _ fun vs hvs => parameter_sound vs) ?_)
  · rintro _ ⟨parameters, ts, c, rfl, hc, -, hlisted⟩
    have hdefinition := Derives.definition ht ho hlisted hc hb₀
    exact ⟨_, _, by simpa using hdefinition⟩
  · rintro parameters vs h' _ ⟨ts, c, rfl, hc, hlisted⟩
    refine .append _ (.within (.map ((body_viable vs).mono ?_)))
    rintro ts' ⟨b, hb⟩
    have hdefinition := Derives.definition ht ho hlisted hc hb
    exact ⟨_, by simpa using hdefinition⟩
termination_by 32 * tokens.length
decreasing_by all_goals omega

theorem assignmentOrExpression_viable (tokens : List Token) :
    (assignmentOrExpression tokens).Viable tokens (Spelled .statement) := by
  rw [assignmentOrExpression]
  refine .andThen ((expression_viable tokens).mono ?_) (expression_sound tokens) ?_
  · rintro ts ⟨e, he⟩
    exact ⟨_, .expression he⟩
  · intro e us h ts he
    refine .append ts ?_
    match us with
    | [] => exact .ok
    | t :: rest =>
      dsimp only
      split
      · rename_i hassign
        split
        · rename_i hplace
          refine .cons (.within (.map ((expression_viable rest).mono ?_)))
          rintro ts' ⟨value, hvalue⟩
          exact ⟨_, .assign he hplace hassign hvalue⟩
        · exact .other rfl
      · exact .ok
termination_by 32 * tokens.length + 15
decreasing_by all_goals (try simp only [List.length_cons] at *); omega

theorem body_viable (tokens : List Token) : (body tokens).Viable tokens (Spelled .block) := by
  rw [body]
  refine .andThen (expect_viable rfl spelled_block) (expect_sound _ _ tokens) ?_
  rintro t us h _ ⟨rfl, ht⟩
  exact .cons (.within (block_viable ht us))
termination_by 32 * tokens.length
decreasing_by all_goals omega

theorem block_viable {t : Token} (ht : t.kind = .leftBrace) (tokens : List Token) :
    (block t.position tokens).Viable tokens fun ts => Spelled .block (t :: ts) := by
  have hclosed : ∀ ts, Spelled .statements ts →
      Spelled .block (t :: (ts ++ [someToken .rightBrace])) := by
    rintro ts ⟨ss, hss⟩
    exact ⟨_, .block ht hss rfl⟩
  rw [block]
  intro e rest heq hstructural
  -- A block fails where its statements do, or, once they are read, at the end of the source.
  cases hread : statements .rightBrace tokens with
  | fail e' us =>
    rw [hread] at heq
    cases heq
    obtain ⟨before, more, hstops, hss⟩ :=
      statements_viable (.inl rfl) tokens e rest hread hstructural
    have hblock := hclosed _ hss
    rw [List.append_assoc] at hblock
    exact ⟨before, _, hstops, hblock⟩
  | ok ss us h =>
    obtain ⟨ts, htokens, hss⟩ := statements_sound .rightBrace (.inl rfl) tokens ss us h hread
    have hleaves := statements_leaves .rightBrace tokens ss us h hread
    rw [hread, Parsed.andThen] at heq
    split at heq
    · cases heq
      exact ⟨ts, _, htokens ▸ .unclosed rfl, hclosed ts ⟨ss, hss⟩⟩
    · rename_i c left
      split at heq
      · cases heq
      · rename_i hc
        cases heq
        exact ⟨ts, _, htokens ▸ .unclosed (hleaves.resolve_left hc), hclosed ts ⟨ss, hss⟩⟩
termination_by 32 * tokens.length + 19
decreasing_by all_goals omega

end

end Grammar

/-- The tokens are the beginning of some program. -/
def IsBeginning (ts : List Token) : Prop :=
  ∃ more, (∀ u ∈ ts ++ more, u.kind ≠ .endOfInput) ∧
    ∀ t : Token, t.kind = .endOfInput → ∃ program, parseTokens (ts ++ more ++ [t]) = .ok program

theorem isBeginning_of_derives {program : Program} {ts more : List Token}
    (h : Derives (.statements program) (ts ++ more)) : IsBeginning ts := by
  have hne : ∀ u ∈ ts ++ more, u.kind ≠ .endOfInput := fun u => h.balanced.kind_ne
  exact ⟨more, hne, fun t ht => ⟨program, (parseTokens_eq_ok_iff_derives hne ht program).mpr h⟩⟩

/-- The tokens up to the end of the source are all that have been taken when it is found. -/
theorem takeWhile_eq_of_peekKind {before left : List Token}
    (hbefore : ∀ u ∈ before, u.kind ≠ .endOfInput) (hleft : peekKind left = .endOfInput) :
    (before ++ left).takeWhile (·.kind ≠ .endOfInput) = before := by
  rw [List.takeWhile_append_of_pos fun u hu => decide_eq_true (hbefore u hu)]
  cases left with
  | nil => simp
  | cons t left =>
    have ht : t.kind = .endOfInput := hleft
    simp [ht]

/-- If a token does not fit, those in front of it are the beginning of some program. If the tokens
end too early, all of them are. -/
theorem parseTokens_error_beginning (tokens : List Token) :
    match parseTokens tokens with
    | .error (.unexpectedToken text expected position) =>
      ∃ before t after, tokens = before ++ t :: after ∧
        (program tokens).rest = (if expected.isStatementEnd then t :: after else after) ∧
        text = t.display ∧ position = t.position ∧ IsBeginning before
    | .error (.unexpectedEndOfInput _ _) | .error (.unterminatedBlock _) =>
      IsBeginning (tokens.takeWhile (·.kind ≠ .endOfInput))
    | _ => True := by
  have hviable := statements_viable (.inr rfl) tokens
  rw [parseTokens]
  cases hread : program tokens with
  | ok ss rest hlt => trivial
  | fail e rest =>
    cases hstructural : e.isStructural with
    | false => cases e <;> trivial
    | true =>
      obtain ⟨before, more, hstops, ss, hss⟩ := hviable e rest hread hstructural
      have hbeginning := isBeginning_of_derives hss
      have hbefore : ∀ u ∈ before, u.kind ≠ .endOfInput :=
        fun u hu => hss.balanced.kind_ne (List.mem_append_left _ hu)
      cases hstops with
      | @atToken t expected rest kind taken =>
        exact ⟨before, t, rest, rfl, by rw [taken]; rfl, rfl, rfl, hbeginning⟩
      | @atStatementEnd t expected rest kind left =>
        exact ⟨before, t, rest, rfl, by rw [left]; rfl, rfl, rfl, hbeginning⟩
      | atEnd ends | unclosed ends =>
        change IsBeginning _
        rwa [takeWhile_eq_of_peekKind hbefore ends]

/-- In `f(a(b)) { }` the second parenthesis does not fit, and `f(a` is the beginning of a call. -/
theorem parseTokens_error_beginning_of_call :
    let ts : List Token := [⟨.name, "f", ⟨0, 0, 1⟩⟩, ⟨.leftParen, "(", ⟨0, 1, 1⟩⟩,
      ⟨.name, "a", ⟨0, 2, 1⟩⟩, ⟨.leftParen, "(", ⟨0, 3, 1⟩⟩, ⟨.name, "b", ⟨0, 4, 1⟩⟩,
      ⟨.rightParen, ")", ⟨0, 5, 1⟩⟩, ⟨.rightParen, ")", ⟨0, 6, 1⟩⟩,
      ⟨.leftBrace, "\x7b", ⟨0, 8, 1⟩⟩, ⟨.rightBrace, "\x7d", ⟨0, 10, 1⟩⟩,
      ⟨.endOfInput, "", ⟨0, 11, 0⟩⟩]
    parseTokens ts = .error (.unexpectedToken "(" .elementEnd ⟨0, 3, 1⟩) ∧
      IsBeginning (ts.take 3) := by
  intro ts
  have herror : parseTokens ts = .error (.unexpectedToken "(" .elementEnd ⟨0, 3, 1⟩) := by
    with_unfolding_all rfl
  have hrest : (program ts).rest = ts.drop 4 := by with_unfolding_all rfl
  have hbeginning := parseTokens_error_beginning ts
  rw [herror] at hbeginning
  obtain ⟨before, t, after, hts, hafter, -, -, hbefore⟩ := hbeginning
  have hlength : (t :: after).length = (ts.drop 3).length :=
    congrArg (List.length · + 1) (hafter.symm.trans hrest)
  rw [← List.take_append_drop 3 ts] at hts
  exact ⟨herror, (List.append_inj' hts hlength.symm).1 ▸ hbefore⟩

end Scriptlet
