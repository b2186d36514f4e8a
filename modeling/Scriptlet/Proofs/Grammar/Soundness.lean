import Mathlib.Data.List.TakeWhile
import Scriptlet.Proofs.Grammar.Derivation

/-!
# What is read is spelled

Whatever a reader takes off a list of tokens, the rules of the grammar derive from the tokens that
it took (`Grammar.statements_sound` and its companions). The proofs follow the readers, with the
same measure: a combinator of readers has a lemma that says how what it takes is made up, and each
reader is one rule for each of its branches.
-/

namespace Scriptlet

/-- What is read is made up of the tokens that were taken, and `D` holds of both. -/
def Parsed.Sound {α : Type} {n : Nat} (p : Parsed α n) (tokens : List Token)
    (D : α → List Token → Prop) : Prop :=
  ∀ a rest h, p = .ok a rest h → ∃ ts, tokens = ts ++ rest ∧ D a ts

namespace Parsed.Sound

variable {α β : Type} {m n : Nat} {tokens : List Token}
variable {D : α → List Token → Prop} {D' : β → List Token → Prop}

theorem fail {e : ParseError} {us : List Token} :
    (Parsed.fail e us : Parsed α n).Sound tokens D :=
  fun _ _ _ h => by cases h

theorem ok {a : α} {us ts : List Token} {h : us.length < n} (ht : tokens = ts ++ us)
    (hD : D a ts) : (Parsed.ok a us h).Sound tokens D := by
  intro b rest h' heq
  cases heq
  exact ⟨ts, ht, hD⟩

/-- A success without any tokens taken. -/
theorem ok_nil {a : α} {us : List Token} {h : us.length < n} (hD : D a []) :
    (Parsed.ok a us h).Sound us D :=
  ok rfl hD

theorem within {p : Parsed α m} {h : m ≤ n} (hp : p.Sound tokens D) :
    (p.within h).Sound tokens D := by
  intro a rest h' heq
  cases p with
  | ok b us hlt =>
    cases heq
    exact hp a rest hlt rfl
  | fail e us => cases heq

theorem map {f : α → β} {p : Parsed α m} (hp : p.Sound tokens fun a ts => D' (f a) ts) :
    (p.map f).Sound tokens D' := by
  intro b rest h' heq
  cases p with
  | ok a us hlt =>
    cases heq
    exact hp a rest hlt rfl
  | fail e us => cases heq

/-- A consequence of what holds of the tokens that were taken, in view of those that are left. -/
theorem imp {E : α → List Token → Prop} {p : Parsed α m} (hp : p.Sound tokens D)
    (hDE : ∀ a ts rest, tokens = ts ++ rest → D a ts → E a ts) : p.Sound tokens E := by
  intro a rest h heq
  obtain ⟨ts, ht, hD⟩ := hp a rest h heq
  exact ⟨ts, ht, hDE a ts rest ht hD⟩

theorem mono {E : α → List Token → Prop} {p : Parsed α m} (hp : p.Sound tokens D)
    (hDE : ∀ a ts, D a ts → E a ts) : p.Sound tokens E :=
  hp.imp fun a ts _ _ => hDE a ts

/-- What two readers take one after the other. -/
theorem andThen {p : Parsed α m} {k : (a : α) → (us : List Token) → us.length < m → Parsed β n}
    (hp : p.Sound tokens D)
    (hk : ∀ a us h ts, D a ts → (k a us h).Sound us fun b ts' => D' b (ts ++ ts')) :
    (p.andThen k).Sound tokens D' := by
  intro b rest h' heq
  cases p with
  | ok a us hlt =>
    obtain ⟨ts, rfl, hD⟩ := hp a us hlt rfl
    obtain ⟨ts', rfl, hD'⟩ := hk a us hlt ts hD b rest h' heq
    exact ⟨ts ++ ts', (List.append_assoc ..).symm, hD'⟩
  | fail e us => cases heq

/-- What is taken behind a first token. -/
theorem cons {t : Token} {p : Parsed α m} (hp : p.Sound tokens fun a ts => D a (t :: ts)) :
    p.Sound (t :: tokens) D := by
  intro a rest h heq
  obtain ⟨ts, rfl, hD⟩ := hp a rest h heq
  exact ⟨t :: ts, rfl, hD⟩

/-- A reader that takes a token takes the first one. -/
theorem uncons {t : Token} {p : Parsed α m} (hp : p.Sound (t :: tokens) D)
    (hne : ∀ a ts, D a ts → ts ≠ []) : p.Sound tokens fun a ts => D a (t :: ts) := by
  intro a rest h heq
  obtain ⟨ts, ht, hD⟩ := hp a rest h heq
  cases ts with
  | nil => exact absurd rfl (hne a [] hD)
  | cons u us =>
    obtain ⟨rfl, rfl⟩ := List.cons.inj ht
    exact ⟨us, rfl, hD⟩

end Parsed.Sound

namespace Grammar

variable {α : Type} {tokens : List Token} {D : α → List Token → Prop}

/-! ## Single tokens, line breaks and lists -/

theorem nextToken_sound (expected : Expectation) (tokens : List Token) :
    (nextToken expected tokens).Sound tokens fun t ts => ts = [t] := by
  cases tokens with
  | nil => exact .fail
  | cons t rest => exact .ok (List.singleton_append).symm rfl

theorem expect_sound (kind : Token.Kind) (expected : Expectation) (tokens : List Token) :
    (expect kind expected tokens).Sound tokens fun t ts => ts = [t] ∧ t.kind = kind := by
  cases tokens with
  | nil => exact .fail
  | cons t rest =>
    rw [expect]
    split
    · rename_i hk
      exact .ok (List.singleton_append).symm ⟨rfl, hk⟩
    · exact .fail

theorem name_sound (tokens : List Token) : (name tokens).Sound tokens Named :=
  .map ((expect_sound .name .name tokens).mono fun t _ h => ⟨t, h.2, rfl, h.1⟩)

theorem lineBreaks_append_skipNewLines (tokens : List Token) :
    ∃ breaks, LineBreaks breaks ∧ tokens = breaks ++ skipNewLines tokens := by
  refine ⟨tokens.takeWhile (·.kind = .newLine), fun t ht => ?_,
    (List.takeWhile_append_dropWhile).symm⟩
  have hkind := List.mem_takeWhile_imp ht
  exact of_decide_eq_true hkind

theorem afterNewLines_sound
    {p : (us : List Token) → us.length ≤ tokens.length → Parsed α us.length}
    (hp : ∀ us h, (p us h).Sound us fun a ts =>
      ∀ breaks, LineBreaks breaks → D a (breaks ++ ts)) :
    (afterNewLines tokens p).Sound tokens D := by
  obtain ⟨breaks, hbreaks, heq⟩ := lineBreaks_append_skipNewLines tokens
  refine .within fun a rest h hok => ?_
  obtain ⟨ts, hts, hD⟩ := hp _ _ a rest h hok
  exact ⟨breaks ++ ts, by rw [List.append_assoc, ← hts, ← heq], hD breaks hbreaks⟩

theorem elements_sound (closing : Token.Kind) (bound : Nat)
    {element : (us : List Token) → us.length ≤ bound → Parsed α us.length}
    (helement : ∀ us h, (element us h).Sound us D) :
    ∀ (tokens : List Token) (h : tokens.length ≤ bound),
      (elements closing bound element tokens h).Sound tokens fun as ts =>
        as ≠ [] ∧ ∃ us t, ts = us ++ [t] ∧ t.kind = closing ∧ Listed D as us := by
  intro tokens h
  rw [elements]
  refine .andThen (D := fun a ts => ∃ before us, LineBreaks before ∧ ts = before ++ us ∧ D a us)
    (afterNewLines_sound fun us hus => (helement us _).mono fun a ts hD breaks hb => ?_) ?_
  · exact ⟨breaks, ts, hb, rfl, hD⟩
  · intro a us hus taken hspelled
    obtain ⟨before, ts, hbefore, rfl, hD⟩ := hspelled
    refine .andThen (D := fun t ts' => ∃ after, LineBreaks after ∧ ts' = after ++ [t])
      (afterNewLines_sound fun vs hvs => (nextToken_sound _ vs).mono fun t ts' ht breaks hb => ?_)
      ?_
    · exact ⟨breaks, hb, by rw [ht]⟩
    · intro t vs hvs taken hspelled
      obtain ⟨after, hafter, rfl⟩ := hspelled
      split
      · rename_i hcomma
        refine .within (.map ((elements_sound closing bound helement vs (by omega)).mono ?_))
        intro as taken hspelled
        obtain ⟨hne, ws, t', rfl, ht', hlisted⟩ := hspelled
        refine ⟨List.cons_ne_nil _ _, before ++ ts ++ after ++ t :: ws, t', by simp, ht', ?_⟩
        exact .more hbefore hD hafter hcomma hne hlisted
      · split
        · rename_i hclosing
          refine .ok_nil ⟨List.cons_ne_nil _ _, before ++ ts ++ after, t, by simp, hclosing, ?_⟩
          exact .last hbefore hD hafter
        · exact .fail
termination_by tokens => tokens.length

theorem commaSeparated_sound (closing : Token.Kind)
    {element : (us : List Token) → us.length ≤ tokens.length → Parsed α us.length}
    (helement : ∀ us h, (element us h).Sound us D) :
    (commaSeparated closing tokens element).Sound tokens fun as ts =>
      ∃ us t, ts = us ++ [t] ∧ t.kind = closing ∧ Listed D as us := by
  have helements := (elements_sound closing tokens.length helement tokens (Nat.le_refl _)).mono
    fun as ts h => h.2
  rw [commaSeparated]
  split
  · exact helements
  · rename_i t rest hskip
    split
    · rename_i hclosing
      obtain ⟨breaks, hbreaks, heq⟩ := lineBreaks_append_skipNewLines tokens
      have htokens : tokens = breaks ++ [t] ++ rest := by
        rw [heq, hskip]
        simp
      exact .ok htokens ⟨breaks, t, rfl, hclosing, .none hbreaks⟩
    · exact helements

theorem arguments_of_listed {es : List Expr} {ts : List Token}
    (h : Listed (fun e => Derives (.expression e)) es ts) : Derives (.arguments es) ts := by
  induction h with
  | none breaks => exact .noArguments breaks
  | last breaks element breaks' => exact .lastArgument breaks element breaks'
  | more breaks element breaks' isComma further _ ih =>
    exact .moreArguments breaks element breaks' isComma further ih

theorem parameter_sound (tokens : List Token) : (parameter tokens).Sound tokens Named := by
  cases tokens with
  | nil => exact name_sound []
  | cons t rest =>
    rw [parameter]
    split
    · exact name_sound (t :: rest)
    · exact .fail

/-- One name, or two with a comma between them. -/
def LoopNames (names : Option Variable × Variable) (ts : List Token) : Prop :=
  (∃ item : Token, item.kind = .name ∧ names = (none, ⟨item.data, item.position⟩) ∧
    ts = [item]) ∨
  ∃ index comma item : Token, index.kind = .name ∧ comma.kind = .comma ∧ item.kind = .name ∧
    names = (some ⟨index.data, index.position⟩, ⟨item.data, item.position⟩) ∧
    ts = [index, comma, item]

theorem loopNames_sound (tokens : List Token) : (loopNames tokens).Sound tokens LoopNames := by
  refine .andThen (name_sound tokens) ?_
  intro first us h taken hspelled
  obtain ⟨n, hn, rfl, rfl⟩ := hspelled
  cases us with
  | nil => exact .ok_nil (.inl ⟨n, hn, rfl, rfl⟩)
  | cons t rest =>
    dsimp only
    split
    · rename_i hcomma
      refine .within (.cons (.map ((name_sound rest).mono ?_)))
      intro taken taken hspelled
      obtain ⟨item, hitem, rfl, rfl⟩ := hspelled
      exact .inr ⟨n, t, item, hn, hcomma, hitem, rfl, rfl⟩
    · exact .ok_nil (.inl ⟨n, hn, rfl, rfl⟩)

theorem name_of_startsDefinition {t : Token} {tokens : List Token}
    (h : startsDefinition (t :: tokens) = true) : t.kind = .name := by
  by_contra hk
  rw [startsDefinition_of_ne hk] at h
  cases h

/-! ## The readers -/

mutual

theorem expression_sound (tokens : List Token) :
    (expression tokens).Sound tokens fun e => Derives (.expression e) := by
  rw [expression]
  exact binary_sound .membership tokens
termination_by 32 * tokens.length + 14
decreasing_by all_goals (simp [Level.looseness])

theorem binary_sound (level : Level) (tokens : List Token) :
    (binary level tokens).Sound tokens fun e => Derives (.tier (some level) e) := by
  rw [binary]
  refine .andThen (operand_sound level tokens) fun left us h ts hleft => .within ?_
  exact (chain_sound level left us).mono fun e ts' he => he ts (.operand hleft)
termination_by 32 * tokens.length + 2 * level.looseness + 5
decreasing_by all_goals (have hl := level.looseness_le; omega)

theorem operand_sound (level : Level) (tokens : List Token) :
    (operand level tokens).Sound tokens fun e => Derives (.tier level.tighter e) := by
  rw [operand]
  split
  · rename_i tighter h
    have := Level.looseness_of_tighter h
    exact (binary_sound tighter tokens).mono fun e ts he => h ▸ he
  · rename_i h
    rw [h]
    exact unary_sound tokens
termination_by 32 * tokens.length + 2 * level.looseness + 4
decreasing_by all_goals omega

theorem chain_sound (level : Level) (left : Expr) (tokens : List Token) :
    (chain level left tokens).Sound tokens fun e ts => ∀ ts₀,
      Derives (.tier (some level) left) ts₀ → Derives (.tier (some level) e) (ts₀ ++ ts) := by
  have hstop : ∀ us : List Token, ∀ h,
      (Parsed.ok left us h : Parsed Expr (us.length + 1)).Sound us fun e ts => ∀ ts₀,
        Derives (.tier (some level) left) ts₀ → Derives (.tier (some level) e) (ts₀ ++ ts) :=
    fun us h => .ok_nil fun ts₀ hleft => by rwa [List.append_nil]
  match tokens with
  | [] =>
    rw [chain]
    exact hstop [] _
  | t :: rest =>
    rw [chain]
    split
    · exact hstop (t :: rest) _
    · rename_i o ho
      split
      · rename_i hlevel
        subst hlevel
        refine .cons (.andThen (operand_sound o.level rest) fun right us h ts hright => .within ?_)
        refine (chain_sound o.level _ us).mono fun e ts' he ts₀ hleft => ?_
        have h := he (ts₀ ++ t :: ts) (.binary hleft ho hright)
        simpa using h
      · exact hstop (t :: rest) _
termination_by 32 * tokens.length
decreasing_by all_goals (have hl := Level.looseness_le; simp only [List.length_cons]; grind)

theorem unary_sound (tokens : List Token) :
    (unary tokens).Sound tokens fun e => Derives (.tier none e) := by
  match tokens with
  | [] =>
    rw [unary]
    exact .fail
  | t :: rest =>
    rw [unary]
    split
    · rename_i hminus
      exact .within (.cons (.map ((unary_sound rest).mono fun e ts he => .minus hminus he)))
    · split
      · rename_i hnot
        exact .within (.cons (.map ((unary_sound rest).mono fun e ts he => .not hnot he)))
      · refine .cons (.andThen (primary_sound t rest) fun node us h ts hnode => .within ?_)
        refine (postfixes_sound node us).mono fun e ts' he => ?_
        exact .members (he (t :: ts) (.primary hnode))
termination_by 32 * tokens.length + 3
decreasing_by all_goals (simp only [List.length_cons]; omega)

theorem primary_sound (t : Token) (tokens : List Token) :
    (primary t tokens).Sound tokens fun e ts => Derives (.primary e) (t :: ts) := by
  rw [primary]
  split
  · rename_i hk
    split
    · rename_i n hn
      exact .ok_nil (.integer hk hn)
    · exact .fail
  · rename_i hk
    exact .ok_nil (.string hk)
  · rename_i hk
    exact .ok_nil (.trueWord hk)
  · rename_i hk
    exact .ok_nil (.falseWord hk)
  · rename_i hk
    split
    · refine .within (.map ((call_sound t hk tokens).mono fun c ts hc => .called hc))
    · exact .ok_nil (.var hk)
  · rename_i hk
    refine .andThen (D := fun e ts => ∃ before us, LineBreaks before ∧ ts = before ++ us ∧
      Derives (.expression e) us) (afterNewLines_sound fun us hus => ?_) ?_
    · exact (expression_sound us).mono fun e ts he breaks hb => ⟨breaks, ts, hb, rfl, he⟩
    · intro e us h taken hspelled
      obtain ⟨before, ts, hbefore, rfl, he⟩ := hspelled
      refine .andThen (D := fun c ts' => ∃ after, LineBreaks after ∧ ts' = after ++ [c] ∧
        c.kind = .rightParen) (afterNewLines_sound fun vs hvs => ?_) ?_
      · exact (expect_sound _ _ vs).mono fun c ts' hc breaks hb =>
          ⟨breaks, hb, by rw [hc.1], hc.2⟩
      · intro c vs h' taken hspelled
        obtain ⟨after, hafter, rfl, hc⟩ := hspelled
        have hparens := Derives.parenthesized hk hbefore he hafter hc
        exact .ok_nil (by simpa using hparens)
  · rename_i hk
    refine .within (.map ((commaSeparated_sound _ fun us hus => expression_sound us).mono ?_))
    intro es taken hspelled
    obtain ⟨ts, c, rfl, hc, hlisted⟩ := hspelled
    exact .list hk (arguments_of_listed hlisted) hc
  · rename_i hk
    exact .within (.map ((block_sound t hk tokens).mono fun b ts hb => .mapping hb))
  · exact .fail
termination_by 32 * tokens.length + 20
decreasing_by all_goals omega

theorem call_sound (t : Token) (ht : t.kind = .name) (tokens : List Token) :
    (call t tokens).Sound tokens fun c ts => Derives (.call c) (t :: ts) := by
  rw [call]
  refine .andThen (expect_sound _ _ tokens) ?_
  intro o us h taken hspelled
  obtain ⟨rfl, ho⟩ := hspelled
  refine .within (.map ((commaSeparated_sound _ fun vs hvs => expression_sound vs).mono ?_))
  intro es taken hspelled
  obtain ⟨ts, c, rfl, hc, hlisted⟩ := hspelled
  exact .call ht ho (arguments_of_listed hlisted) hc
termination_by 32 * tokens.length
decreasing_by all_goals omega

theorem postfixes_sound (node : Expr) (tokens : List Token) :
    (postfixes node tokens).Sound tokens fun e ts => ∀ ts₀,
      Derives (.members node) ts₀ → Derives (.members e) (ts₀ ++ ts) := by
  have hstop : ∀ us : List Token, ∀ h,
      (Parsed.ok node us h : Parsed Expr (us.length + 1)).Sound us fun e ts => ∀ ts₀,
        Derives (.members node) ts₀ → Derives (.members e) (ts₀ ++ ts) :=
    fun us h => .ok_nil fun ts₀ hnode => by rwa [List.append_nil]
  match tokens with
  | [] =>
    rw [postfixes]
    exact hstop [] _
  | t :: rest =>
    rw [postfixes]
    split
    · rename_i hdot
      refine .cons (.andThen (expect_sound _ _ rest) ?_)
      intro n us h taken hspelled
      obtain ⟨rfl, hn⟩ := hspelled
      split
      · refine .andThen (call_sound n hn us) fun c vs h' ts hc => .within ?_
        refine (postfixes_sound _ vs).mono fun e ts' he ts₀ hnode => ?_
        have h := he _ (.memberCall hnode hdot hc)
        simpa using h
      · refine .within ((postfixes_sound _ us).mono fun e ts' he ts₀ hnode => ?_)
        have h := he _ (.memberName hnode hdot hn)
        simpa using h
    · split
      · rename_i hbracket
        refine .cons (.andThen (D := fun e ts => ∃ before us, LineBreaks before ∧
          ts = before ++ us ∧ Derives (.expression e) us) (afterNewLines_sound fun us hus => ?_) ?_)
        · exact (expression_sound us).mono fun e ts he breaks hb => ⟨breaks, ts, hb, rfl, he⟩
        · intro key us h taken hspelled
          obtain ⟨before, ts, hbefore, rfl, hkey⟩ := hspelled
          refine .andThen (D := fun c ts' => ∃ after, LineBreaks after ∧ ts' = after ++ [c] ∧
            c.kind = .rightBracket) (afterNewLines_sound fun vs hvs => ?_) ?_
          · exact (expect_sound _ _ vs).mono fun c ts' hc breaks hb =>
              ⟨breaks, hb, by rw [hc.1], hc.2⟩
          · intro c vs h' taken hspelled
            obtain ⟨after, hafter, rfl, hc⟩ := hspelled
            refine .within ((postfixes_sound _ vs).mono fun e ts' he ts₀ hnode => ?_)
            have h := he _ (.memberIndex hnode hbracket hbefore hkey hafter hc)
            simpa using h
      · exact hstop (t :: rest) _
termination_by 32 * tokens.length
decreasing_by all_goals (simp only [List.length_cons]; omega)

theorem statements_sound (closing : Token.Kind) (hclosing : Closes closing)
    (tokens : List Token) :
    (statements closing tokens).Sound tokens fun ss => Derives (.statements ss) := by
  match tokens with
  | [] =>
    rw [statements]
    exact .ok_nil .noStatements
  | t :: rest =>
    rw [statements]
    split
    · exact .ok_nil .noStatements
    · split
      · rename_i hline
        exact .within (.cons (.map ((statements_sound closing hclosing rest).mono fun ss ts hss =>
          .newLine hline hss)))
      · split
        · rename_i hcomment
          exact .within (.cons (.map ((statements_sound closing hclosing rest).mono
            fun ss ts hss => .comment hcomment hss)))
        · refine .cons (.andThen (statement_sound t rest) fun s us h ts hs => ?_)
          split
          · rename_i hends
            refine .within (.map ((statements_sound closing hclosing us).imp ?_))
            rintro ss ts' rest' rfl hss
            rcases Bool.or_eq_true_iff.mp hends with hblock | hend
            · exact .next hs (.inl hblock) hss
            · exact .next hs (.inr (separated_of_endsStatement hclosing hss hend)) hss
          · exact .fail
termination_by 32 * tokens.length + 17
decreasing_by all_goals (simp only [List.length_cons]; omega)

/-- A token of any other kind than those listed starts a definition, an assignment or an
expression. -/
theorem statement_sound (t : Token) (tokens : List Token) :
    (statement t tokens).Sound tokens fun s ts => Derives (.statement s) (t :: ts) := by
  rw [statement]
  split
  · rename_i hk
    exact .within ((conditional_sound t hk tokens).mono fun s ts hs => .conditional hs)
  · rename_i hk
    exact .within (loop_sound t hk tokens)
  · rename_i hk
    split
    · exact .ok_nil (.exit hk)
    · exact .within (.map ((expression_sound tokens).mono fun e ts he => .exitWith hk he))
  · rename_i hk
    exact .ok_nil (.stop hk)
  · rename_i hk
    exact .ok_nil (.skip hk)
  · split
    · rename_i hdef
      exact .within (.map ((definition_sound t (name_of_startsDefinition hdef) tokens)))
    · refine (assignmentOrExpression_sound (t :: tokens)).uncons fun s ts hs => ?_
      obtain ⟨u, us, rfl, -⟩ := hs.starts rfl
      exact List.cons_ne_nil u us
termination_by 32 * tokens.length + 48
decreasing_by all_goals (try simp only [List.length_cons]); omega

theorem conditional_sound (t : Token) (ht : t.kind = .ifWord) (tokens : List Token) :
    (conditional t.position tokens).Sound tokens fun s ts =>
      Derives (.conditional s) (t :: ts) := by
  rw [conditional]
  refine .andThen (expression_sound tokens) fun condition us h ts hcondition => ?_
  refine .andThen (body_sound us) fun b vs h' ts' hb => ?_
  match vs with
  | [] => exact .ok_nil (by simpa using .ifThen ht hcondition hb)
  | e :: rest =>
    dsimp only
    split
    · rename_i he
      refine .cons (.andThen (otherwise_sound rest) fun b' ws h'' ts'' hb' => ?_)
      refine .ok_nil ?_
      have halt := Derives.ifThenElse ht hcondition hb he hb'
      simpa using halt
    · exact .ok_nil (by simpa using .ifThen ht hcondition hb)
termination_by 32 * tokens.length + 15
decreasing_by all_goals (try simp only [List.length_cons] at *); omega

theorem otherwise_sound (tokens : List Token) :
    (otherwise tokens).Sound tokens fun b => Derives (.branch b) := by
  rw [otherwise]
  refine .andThen (nextToken_sound _ tokens) ?_
  rintro t us h _ rfl
  split
  · rename_i hk
    exact .within (.map ((conditional_sound t hk us).mono fun s ts hs => .branchIf hs))
  · split
    · rename_i hk
      exact .within ((block_sound t hk us).mono fun b ts hb => .branchBlock hb)
    · exact .fail
termination_by 32 * tokens.length
decreasing_by all_goals omega

theorem loop_sound (t : Token) (ht : t.kind = .forWord) (tokens : List Token) :
    (loop t.position tokens).Sound tokens fun s ts => Derives (.statement s) (t :: ts) := by
  rw [loop]
  refine .andThen (loopNames_sound tokens) fun names us h ts hnames => ?_
  refine .andThen (expect_sound _ _ us) ?_
  intro i vs h' taken hspelled
  obtain ⟨rfl, hi⟩ := hspelled
  refine .andThen (expression_sound vs) fun iterable ws h'' ts' hiterable => ?_
  refine .within (.map ((body_sound ws).mono fun b ts'' hb => ?_))
  rcases hnames with ⟨item, hitem, rfl, rfl⟩ | ⟨index, comma, item, hindex, hcomma, hitem, rfl, rfl⟩
  · have hloop := Derives.loop ht hitem hi hiterable hb
    simpa using hloop
  · have hloop := Derives.indexedLoop ht hindex hcomma hitem hi hiterable hb
    simpa using hloop
termination_by 32 * tokens.length
decreasing_by all_goals omega

theorem definition_sound (t : Token) (ht : t.kind = .name) (tokens : List Token) :
    (definition t tokens).Sound tokens fun f ts =>
      Derives (.statement (.function f)) (t :: ts) := by
  rw [definition]
  refine .andThen (expect_sound _ _ tokens) ?_
  intro o us h taken hspelled
  obtain ⟨rfl, ho⟩ := hspelled
  refine .andThen (commaSeparated_sound _ fun vs hvs => parameter_sound vs) ?_
  intro parameters vs h' taken hspelled
  obtain ⟨ts, c, rfl, hc, hlisted⟩ := hspelled
  refine .within (.map ((body_sound vs).mono fun b ts' hb => ?_))
  have hdefinition := Derives.definition ht ho hlisted hc hb
  simpa using hdefinition
termination_by 32 * tokens.length
decreasing_by all_goals omega

theorem assignmentOrExpression_sound (tokens : List Token) :
    (assignmentOrExpression tokens).Sound tokens fun s => Derives (.statement s) := by
  rw [assignmentOrExpression]
  refine .andThen (expression_sound tokens) fun e us h ts he => ?_
  have hstop : Derives (.statement (.expression e)) (ts ++ []) := by
    rw [List.append_nil]
    exact .expression he
  match us with
  | [] => exact .ok_nil hstop
  | t :: rest =>
    dsimp only
    split
    · rename_i hassign
      split
      · rename_i hplace
        exact .within (.cons (.map ((expression_sound rest).mono fun value ts' hvalue =>
          .assign he hplace hassign hvalue)))
      · exact .fail
    · exact .ok_nil hstop
termination_by 32 * tokens.length + 15
decreasing_by all_goals (try simp only [List.length_cons] at *); omega

theorem body_sound (tokens : List Token) :
    (body tokens).Sound tokens fun b => Derives (.block b) := by
  rw [body]
  refine .andThen (expect_sound _ _ tokens) ?_
  intro t us h taken hspelled
  obtain ⟨rfl, ht⟩ := hspelled
  exact .within ((block_sound t ht us).mono fun b ts hb => hb)
termination_by 32 * tokens.length
decreasing_by all_goals omega

theorem block_sound (t : Token) (ht : t.kind = .leftBrace) (tokens : List Token) :
    (block t.position tokens).Sound tokens fun b ts => Derives (.block b) (t :: ts) := by
  rw [block]
  refine .andThen (statements_sound .rightBrace (.inl rfl) tokens) fun ss us h ts hss => ?_
  cases us with
  | nil => exact .fail
  | cons c rest =>
    dsimp only
    split
    · rename_i hc
      exact .ok (List.singleton_append).symm (.block ht hss hc)
    · exact .fail
termination_by 32 * tokens.length + 19
decreasing_by all_goals omega

end

end Grammar

end Scriptlet
