import Scriptlet.Grammar.Program
import Scriptlet.Proofs.Grammar.Failure

/-!
# The end of the tokens

Tokens end where there are no more, and also where the next one stands for the end of the source,
whatever comes behind it. No reader tells one from the other: with any `tail` that is an end in this
sense, what it takes off `ts ++ tail` it takes off `ts` alone, and of the tail nothing
(`Parsed.Agrees`). If it fails, it fails for the same cause; only the wording of what is missing at
the end, and its place, may differ.

The readers look at the end in several ways: by the kind of the next token, by taking a token that
may be missing, and by searching for the brace of a definition. There is one lemma for each of these
ways, one for each combinator, and then one for each reader, by induction along their recursion.
-/

namespace Scriptlet

/-- The errors are the same, except for what is missing at the end of the tokens, and for the place
of the end. -/
inductive ParseError.SameCause : ParseError → ParseError → Prop
  | refl (e : ParseError) : SameCause e e
  | atEnd {expected expected' : Expectation} {p p' : Position} :
    SameCause (.unexpectedEndOfInput expected p) (.unexpectedEndOfInput expected' p')

/-- The outcome with the bound of a reading that may take nothing. -/
def Parsed.loosen {α : Type} {n : Nat} (p : Parsed α n) : Parsed α (n + 1) :=
  p.within (Nat.le_succ n)

/-- The second reading comes out as the first one does, which takes some of the tokens `ts`: it
leaves the same of these, and the whole `tail` behind them. -/
inductive Parsed.Agrees {α : Type} {m n : Nat} (ts tail : List Token) :
    Parsed α m → Parsed α n → Prop
  | ok {a : α} {left : List Token} {h : left.length < m} {h' : (left ++ tail).length < n}
    (suffix : left <:+ ts) : Agrees ts tail (.ok a left h) (.ok a (left ++ tail) h')
  | fail {e e' : ParseError} {us us' : List Token} (cause : e.SameCause e') :
    Agrees ts tail (.fail e us) (.fail e' us')

namespace Parsed.Agrees

variable {α β : Type} {m n m' n' : Nat} {ts us tail : List Token}
variable {p : Parsed α m} {q : Parsed α n}

theorem mono (h : p.Agrees us tail q) (hsuffix : us <:+ ts) : p.Agrees ts tail q := by
  cases h with
  | ok suffix => exact .ok (suffix.trans hsuffix)
  | fail cause => exact .fail cause

theorem within (h : p.Agrees ts tail q) (hm : m ≤ m') (hn : n ≤ n') :
    (p.within hm).Agrees ts tail (q.within hn) := by
  cases h with
  | ok suffix => exact .ok suffix
  | fail cause => exact .fail cause

theorem loosen (h : p.Agrees ts tail q) : p.loosen.Agrees ts tail q.loosen :=
  h.within (Nat.le_succ m) (Nat.le_succ n)

theorem map (f : α → β) (h : p.Agrees ts tail q) : (p.map f).Agrees ts tail (q.map f) := by
  cases h with
  | ok suffix => exact .ok suffix
  | fail cause => exact .fail cause

theorem andThen {k : (a : α) → (us : List Token) → us.length < m → Parsed β m'}
    {k' : (a : α) → (us : List Token) → us.length < n → Parsed β n'} (hp : p.Agrees ts tail q)
    (hk : ∀ a us h h', (k a us h).Agrees us tail (k' a (us ++ tail) h')) :
    (p.andThen k).Agrees ts tail (q.andThen k') := by
  cases hp with
  | ok suffix => exact (hk _ _ _ _).mono suffix
  | fail cause => exact .fail cause

/-- What is taken behind a first token. -/
theorem cons (t : Token) (h : p.Agrees ts tail q) : p.Agrees (t :: ts) tail q :=
  h.mono (List.suffix_cons t ts)

theorem of_yields {a : α} {left : List Token} (hp : p.Yields a left)
    (hq : q.Yields a (left ++ tail)) (suffix : left <:+ ts) : p.Agrees ts tail q := by
  obtain ⟨_, rfl⟩ := hp
  obtain ⟨_, rfl⟩ := hq
  exact .ok suffix

/-- Both readings miss something at the end. -/
theorem missing {expected expected' : Expectation} {p p' : Position} {us us' : List Token} :
    (Parsed.fail (.unexpectedEndOfInput expected p) us : Parsed α m).Agrees ts tail
      (.fail (.unexpectedEndOfInput expected' p') us' : Parsed α n) :=
  .fail .atEnd

end Parsed.Agrees

namespace Grammar

variable {α β : Type} {tail : List Token}

/-! ## Lists that are empty -/

theorem commaSeparated_of_closing {closing : Token.Kind} {ts rest : List Token} {t : Token}
    (hskip : skipNewLines ts = t :: rest) (ht : t.kind = closing)
    (element : (us : List Token) → us.length ≤ ts.length → Parsed α us.length) :
    (commaSeparated closing ts element).Yields [] rest := by
  rw [commaSeparated]
  split
  · rename_i hnil
    cases hskip.symm.trans hnil
  · rename_i u us hcons
    cases hskip.symm.trans hcons
    rw [if_pos ht]
    exact .ok

theorem commaSeparated_of_ne {closing : Token.Kind} {ts : List Token}
    {element : (us : List Token) → us.length ≤ ts.length → Parsed α us.length}
    (h : peekKind (skipNewLines ts) ≠ closing) :
    commaSeparated closing ts element =
      elements closing ts.length element ts (Nat.le_refl _) := by
  rw [commaSeparated]
  split
  · rfl
  · rename_i t rest hcons
    rw [hcons] at h
    exact if_neg h

/-! ## Looking at the next token -/

theorem unexpected_of_end {t : Token} (ht : t.kind = .endOfInput) (expected : Expectation) :
    unexpected t expected = .unexpectedEndOfInput expected t.position :=
  if_pos ht

/-- What is missing at the end is an expression, where one may start. -/
theorem unary_fails_at_end {t : Token} (ht : t.kind = .endOfInput) (rest : List Token) :
    (unary (t :: rest)).Fails (.unexpectedEndOfInput .expression t.position) := by
  have hprimary : (primary t rest).Fails (.unexpectedEndOfInput .expression t.position) := by
    rw [primary, ht, unexpected_of_end ht]
    exact .fail
  rw [unary, if_neg (by rw [ht]; decide), if_neg (by rw [ht]; decide)]
  exact .andThen hprimary

theorem statement_fails_at_end {t : Token} (ht : t.kind = .endOfInput) (rest : List Token) :
    (statement t rest).Fails (.unexpectedEndOfInput .expression t.position) := by
  have hexpression :
      (expression (t :: rest)).Fails (.unexpectedEndOfInput .expression t.position) := by
    rw [expression]
    exact binary_fails_of_unary (unary_fails_at_end ht rest) .membership
  rw [statement, ht, startsDefinition_of_ne (by rw [ht]; decide), assignmentOrExpression]
  exact .andThen hexpression

section

variable (hend : peekKind tail = .endOfInput)
include hend

theorem peekKind_append_end (ts : List Token) : peekKind (ts ++ tail) = peekKind ts := by
  cases ts with
  | nil => exact hend
  | cons t ts => rfl

theorem skipNewLines_append_end (ts : List Token) :
    skipNewLines (ts ++ tail) = skipNewLines ts ++ tail := by
  induction ts with
  | nil =>
    cases tail with
    | nil => rfl
    | cons t tail =>
      have ht : t.kind = .endOfInput := hend
      simp [skipNewLines, ht]
  | cons t ts ih =>
    by_cases ht : t.kind = .newLine
    · simpa [skipNewLines, ht] using ih
    · simp [skipNewLines, ht]

theorem braceFollows_append_end (depth : Nat) (ts : List Token) :
    braceFollows depth (ts ++ tail) = braceFollows depth ts := by
  induction ts generalizing depth with
  | nil =>
    cases tail with
    | nil => rfl
    | cons t tail =>
      have ht : t.kind = .endOfInput := hend
      rw [List.nil_append, braceFollows_cons, ht]
      rfl
  | cons t ts ih =>
    simp only [List.cons_append, braceFollows_cons, ih, peekKind_append_end hend]

theorem startsDefinition_append_end (ts : List Token) :
    startsDefinition (ts ++ tail) = startsDefinition ts := by
  rcases ts with _ | ⟨n, _ | ⟨p, ts⟩⟩
  · rcases tail with _ | ⟨n, _ | ⟨p, tail⟩⟩
    · rfl
    · rfl
    · have hn : n.kind = .endOfInput := hend
      simp [startsDefinition, hn]
  · rcases tail with _ | ⟨p, tail⟩
    · rfl
    · have hp : p.kind = .endOfInput := hend
      simp [startsDefinition, hp]
  · simp only [List.cons_append, startsDefinition, braceFollows_append_end hend]

theorem returnsNothing_append_end (ts : List Token) :
    returnsNothing (ts ++ tail) = returnsNothing ts := by
  rw [returnsNothing, returnsNothing, peekKind_append_end hend]

theorem endsStatement_append_end (closing : Token.Kind) (ts : List Token) :
    endsStatement closing (ts ++ tail) = endsStatement closing ts := by
  rw [endsStatement, endsStatement, peekKind_append_end hend]

/-! ## Single tokens, line breaks and lists -/

theorem expect_agree {kind : Token.Kind} (hkind : kind ≠ .endOfInput) (expected : Expectation)
    (ts : List Token) :
    (expect kind expected ts).Agrees ts tail (expect kind expected (ts ++ tail)) := by
  match ts, tail with
  | [], [] => exact .missing
  | [], t :: _ =>
    have ht : t.kind = .endOfInput := hend
    rw [List.nil_append, expect, expect, if_neg (ht ▸ hkind.symm), unexpected_of_end ht]
    exact .missing
  | t :: ts, tail =>
    rw [List.cons_append, expect, expect]
    split
    · exact .ok (List.suffix_cons t ts)
    · exact .fail (.refl _)

theorem name_agree (ts : List Token) : (name ts).Agrees ts tail (name (ts ++ tail)) :=
  (expect_agree hend (by decide) .name ts).map _

theorem afterNewLines_agree {ts : List Token}
    {p : (us : List Token) → us.length ≤ ts.length → Parsed α us.length}
    {q : (us : List Token) → us.length ≤ (ts ++ tail).length → Parsed α us.length}
    (h : ∀ us hus hus', (p us hus).Agrees us tail (q (us ++ tail) hus')) :
    (afterNewLines ts p).Agrees ts tail (afterNewLines (ts ++ tail) q) := by
  have hskipped : ∀ vs hvs, vs = skipNewLines ts ++ tail →
      (p (skipNewLines ts) (skipNewLines_length ts)).Agrees (skipNewLines ts) tail (q vs hvs) := by
    rintro vs hvs rfl
    exact h _ _ _
  have hagrees := hskipped _ (skipNewLines_length _) (skipNewLines_append_end hend ts)
  exact (hagrees.mono (List.dropWhile_suffix _)).within _ _

/-- A token of any kind may be missing, too. What goes on with one for the end of the source must
fail then. -/
theorem nextToken_agree {m n : Nat} {us : List Token} (expected : Expectation)
    {k : (t : Token) → (vs : List Token) → vs.length < us.length → Parsed β m}
    {k' : (t : Token) → (vs : List Token) → vs.length < (us ++ tail).length → Parsed β n}
    (hk : ∀ t vs h h', (k t vs h).Agrees vs tail (k' t (vs ++ tail) h'))
    (hk' : ∀ t vs h, t.kind = .endOfInput →
      ∃ expected p rest, k' t vs h = .fail (.unexpectedEndOfInput expected p) rest) :
    ((afterNewLines us fun vs _ => nextToken expected vs).andThen k).Agrees us tail
      ((afterNewLines (us ++ tail) fun vs _ => nextToken expected vs).andThen k') := by
  have hskipped : ∀ {vs vs'} (hvs : vs.length ≤ us.length)
      (hvs' : vs'.length ≤ (us ++ tail).length), vs <:+ us → vs' = vs ++ tail →
      (((nextToken expected vs).within hvs).andThen k).Agrees us tail
        (((nextToken expected vs').within hvs').andThen k') := by
    rintro vs _ hvs hvs' hsuffix rfl
    cases vs with
    | nil =>
      cases tail with
      | nil => exact .missing
      | cons t rest =>
        obtain ⟨expected', p, left, hfail⟩ := hk' t rest hvs' hend
        show Parsed.Agrees _ _ _ (k' t rest _)
        rw [hfail]
        exact .missing
    | cons t vs => exact ((hk t vs _ _).cons t).mono hsuffix
  exact hskipped (skipNewLines_length us) (skipNewLines_length (us ++ tail))
    (List.dropWhile_suffix _) (skipNewLines_append_end hend us)

theorem elements_agree {closing : Token.Kind} (hclosing : closing ≠ .endOfInput)
    {bound bound' : Nat} {element : (us : List Token) → us.length ≤ bound → Parsed α us.length}
    {element' : (us : List Token) → us.length ≤ bound' → Parsed α us.length}
    (helement : ∀ us h h', (element us h).Agrees us tail (element' (us ++ tail) h')) :
    ∀ (ts : List Token) (h : ts.length ≤ bound) (h' : (ts ++ tail).length ≤ bound'),
      (elements closing bound element ts h).Agrees ts tail
        (elements closing bound' element' (ts ++ tail) h') := by
  intro ts h h'
  rw [elements, elements]
  refine (afterNewLines_agree hend fun us _ _ => helement us _ _).andThen fun a us hus hus' => ?_
  refine nextToken_agree hend .elementEnd (fun t vs hvs hvs' => ?_) fun t vs hvs ht => ?_
  · split
    · exact ((elements_agree hclosing helement vs (by omega) (by omega)).map _).within _ _
    · split
      · exact .ok (List.suffix_refl vs)
      · exact .fail (.refl _)
  · rw [if_neg (by rw [ht]; decide), if_neg (ht ▸ hclosing.symm), unexpected_of_end ht]
    exact ⟨_, _, _, rfl⟩
termination_by ts => ts.length

theorem commaSeparated_agree {closing : Token.Kind} (hclosing : closing ≠ .endOfInput)
    {ts : List Token} {element : (us : List Token) → us.length ≤ ts.length → Parsed α us.length}
    {element' : (us : List Token) → us.length ≤ (ts ++ tail).length → Parsed α us.length}
    (helement : ∀ us h h', (element us h).Agrees us tail (element' (us ++ tail) h')) :
    (commaSeparated closing ts element).Agrees ts tail
      (commaSeparated closing (ts ++ tail) element') := by
  have hskip := skipNewLines_append_end hend ts
  by_cases hfirst : peekKind (skipNewLines ts) = closing
  · cases hcons : skipNewLines ts with
    | nil =>
      rw [hcons] at hfirst
      exact absurd hfirst.symm hclosing
    | cons t rest =>
      rw [hcons] at hfirst hskip
      exact .of_yields (commaSeparated_of_closing hcons hfirst element)
        (commaSeparated_of_closing hskip hfirst element')
        ((List.suffix_cons t rest).trans (hcons ▸ List.dropWhile_suffix _))
  · rw [commaSeparated_of_ne hfirst, commaSeparated_of_ne]
    · exact elements_agree hend hclosing helement ts (Nat.le_refl _) (Nat.le_refl _)
    · rwa [hskip, peekKind_append_end hend]

theorem parameter_agree (ts : List Token) :
    (parameter ts).Agrees ts tail (parameter (ts ++ tail)) := by
  match ts, tail with
  | [], [] => exact .missing
  | [], t :: rest =>
    have ht : t.kind = .endOfInput := hend
    rw [List.nil_append, parameter, parameter, if_pos (.inr ht)]
    exact name_agree hend []
  | t :: ts, tail =>
    rw [List.cons_append, parameter, parameter]
    split
    · exact name_agree hend (t :: ts)
    · exact .fail (.refl _)

theorem loopNames_agree (ts : List Token) :
    (loopNames ts).Agrees ts tail (loopNames (ts ++ tail)) := by
  refine (name_agree hend ts).andThen fun first us h h' => ?_
  match us, tail with
  | [], [] => exact .ok (List.suffix_refl _)
  | [], t :: rest =>
    have ht : t.kind = .endOfInput := hend
    show Parsed.Agrees _ _ _ (if t.kind = .comma then _ else _)
    rw [if_neg (by rw [ht]; decide)]
    exact .ok (List.suffix_refl _)
  | t :: us, tail =>
    show Parsed.Agrees _ _ (if t.kind = .comma then _ else _) (if t.kind = .comma then _ else _)
    split
    · exact (((name_agree hend us).map _).within _ _).cons t
    · exact .ok (List.suffix_refl _)

theorem statements_yields_end (closing : Token.Kind) :
    (statements closing tail).Yields [] tail := by
  cases tail with
  | nil =>
    rw [statements]
    exact .ok
  | cons t rest =>
    rw [statements, if_pos (.inr hend)]
    exact .ok

end

/-! ## The readers

By induction along the recursion of the readers, with the measure of theirs. -/

mutual

theorem expression_agree (hend : peekKind tail = .endOfInput) (ts : List Token) :
    (expression ts).Agrees ts tail (expression (ts ++ tail)) := by
  rw [expression, expression]
  exact binary_agree hend .membership ts
termination_by 32 * ts.length + 14
decreasing_by all_goals (simp [Level.looseness])

theorem binary_agree (hend : peekKind tail = .endOfInput) (level : Level) (ts : List Token) :
    (binary level ts).Agrees ts tail (binary level (ts ++ tail)) := by
  rw [binary, binary]
  refine (operand_agree hend level ts).andThen fun left us _ _ => ?_
  exact (chain_agree hend level left us).within _ _
termination_by 32 * ts.length + 2 * level.looseness + 5
decreasing_by all_goals (have hl := level.looseness_le; omega)

theorem operand_agree (hend : peekKind tail = .endOfInput) (level : Level) (ts : List Token) :
    (operand level ts).Agrees ts tail (operand level (ts ++ tail)) := by
  rw [operand, operand]
  split
  · rename_i tighter h
    have := Level.looseness_of_tighter h
    exact binary_agree hend tighter ts
  · exact unary_agree hend ts
termination_by 32 * ts.length + 2 * level.looseness + 4
decreasing_by all_goals omega

theorem chain_agree (hend : peekKind tail = .endOfInput) (level : Level) (left : Expr)
    (ts : List Token) :
    (chain level left ts).Agrees ts tail (chain level left (ts ++ tail)) := by
  match ts with
  | [] =>
    have hstop : ∀ us, peekKind us = .endOfInput → (chain level left us).Yields left us :=
      fun us hus => chain_yields_self left fun ho => by rw [hus] at ho; cases ho
    exact .of_yields (hstop [] rfl) (hstop tail hend) (List.suffix_refl _)
  | t :: rest =>
    rw [List.cons_append, chain, chain]
    split
    · exact .ok (List.suffix_refl _)
    · split
      · refine Parsed.Agrees.cons t ((operand_agree hend level rest).andThen
          fun right us h _ => ?_)
        exact (chain_agree hend level _ us).within _ _
      · exact .ok (List.suffix_refl _)
termination_by 32 * ts.length
decreasing_by all_goals (have hl := Level.looseness_le; simp only [List.length_cons]; grind)

theorem unary_agree (hend : peekKind tail = .endOfInput) (ts : List Token) :
    (unary ts).Agrees ts tail (unary (ts ++ tail)) := by
  match ts with
  | [] =>
    match tail with
    | [] =>
      rw [List.append_nil, unary]
      exact .missing
    | t :: rest =>
      obtain ⟨left, hfail⟩ := unary_fails_at_end hend rest
      rw [List.nil_append, unary, hfail]
      exact .missing
  | t :: rest =>
    rw [List.cons_append, unary, unary]
    split
    · exact (((unary_agree hend rest).map _).within _ _).cons t
    · split
      · exact (((unary_agree hend rest).map _).within _ _).cons t
      · refine Parsed.Agrees.cons t ((primary_agree hend t rest).andThen fun node us h _ => ?_)
        exact (postfixes_agree hend node us).within _ _
termination_by 32 * ts.length + 3
decreasing_by all_goals (simp only [List.length_cons]; omega)

theorem primary_agree (hend : peekKind tail = .endOfInput) (t : Token) (ts : List Token) :
    (primary t ts).Agrees ts tail (primary t (ts ++ tail)) := by
  rw [primary, primary]
  split
  · split
    · exact .ok (List.suffix_refl _)
    · exact .fail (.refl _)
  · exact .ok (List.suffix_refl _)
  · exact .ok (List.suffix_refl _)
  · exact .ok (List.suffix_refl _)
  · rw [peekKind_append_end hend]
    split
    · exact ((call_agree hend t ts).map _).within _ _
    · exact .ok (List.suffix_refl _)
  · refine (afterNewLines_agree hend fun us _ _ => expression_agree hend us).andThen
      fun e us _ _ => ?_
    refine (afterNewLines_agree hend fun vs _ _ => expect_agree hend (by decide) _ vs).andThen
      fun c vs _ _ => ?_
    exact .ok (List.suffix_refl _)
  · refine Parsed.Agrees.within (Parsed.Agrees.map _ ?_) _ _
    exact commaSeparated_agree hend (by decide) fun us _ _ => expression_agree hend us
  · exact ((block_agree hend t.position ts).map _).within _ _
  · exact .fail (.refl _)
termination_by 32 * ts.length + 20
decreasing_by all_goals omega

theorem call_agree (hend : peekKind tail = .endOfInput) (t : Token) (ts : List Token) :
    (call t ts).Agrees ts tail (call t (ts ++ tail)) := by
  rw [call, call]
  refine (expect_agree hend (by decide) _ ts).andThen fun o us h _ => ?_
  refine Parsed.Agrees.within (Parsed.Agrees.map _ ?_) _ _
  exact commaSeparated_agree hend (by decide) fun vs _ _ => expression_agree hend vs
termination_by 32 * ts.length
decreasing_by all_goals omega

theorem postfixes_agree (hend : peekKind tail = .endOfInput) (node : Expr) (ts : List Token) :
    (postfixes node ts).Agrees ts tail (postfixes node (ts ++ tail)) := by
  match ts with
  | [] =>
    have hstop : ∀ us, peekKind us = .endOfInput → (postfixes node us).Yields node us :=
      fun us hus => postfixes_yields_self node (by rw [hus]; decide) (by rw [hus]; decide)
    exact .of_yields (hstop [] rfl) (hstop tail hend) (List.suffix_refl _)
  | t :: rest =>
    rw [List.cons_append, postfixes, postfixes]
    split
    · refine Parsed.Agrees.cons t ((expect_agree hend (by decide) _ rest).andThen
        fun n us h _ => ?_)
      rw [peekKind_append_end hend]
      split
      · refine (call_agree hend n us).andThen fun c vs h' _ => ?_
        exact (postfixes_agree hend _ vs).within _ _
      · exact (postfixes_agree hend _ us).within _ _
    · split
      · refine Parsed.Agrees.cons t ((afterNewLines_agree hend
          fun us _ _ => expression_agree hend us).andThen fun key us h _ => ?_)
        refine (afterNewLines_agree hend fun vs _ _ => expect_agree hend (by decide) _ vs).andThen
          fun c vs h' _ => ?_
        exact (postfixes_agree hend _ vs).within _ _
      · exact .ok (List.suffix_refl _)
termination_by 32 * ts.length
decreasing_by all_goals (simp only [List.length_cons]; omega)

theorem statements_agree (hend : peekKind tail = .endOfInput) (closing : Token.Kind)
    (ts : List Token) :
    (statements closing ts).Agrees ts tail (statements closing (ts ++ tail)) := by
  match ts with
  | [] =>
    exact .of_yields (statements_yields_end rfl closing) (statements_yields_end hend closing)
      (List.suffix_refl _)
  | t :: rest =>
    rw [List.cons_append, statements, statements]
    split
    · exact .ok (List.suffix_refl _)
    · split
      · exact (((statements_agree hend closing rest).map _).within _ _).cons t
      · split
        · exact (((statements_agree hend closing rest).map _).within _ _).cons t
        · refine (statement_agree hend t rest).andThen fun s us h _ => ?_
          rw [endsStatement_append_end hend]
          split
          · exact ((statements_agree hend closing us).map _).within _ _
          · rename_i hends
            -- A statement may end at the end, so a token follows that is not in the tail.
            cases us with
            | nil => simp [endsStatement, peekKind] at hends
            | cons u us => exact .fail (.refl _)
termination_by 32 * ts.length + 17
decreasing_by all_goals (simp only [List.length_cons]; omega)

theorem statement_agree (hend : peekKind tail = .endOfInput) (t : Token) (ts : List Token) :
    (statement t ts).Agrees (t :: ts) tail (statement t (ts ++ tail)) := by
  rw [statement, statement]
  split
  · exact ((conditional_agree hend t.position ts).within _ _).cons t
  · exact ((loop_agree hend t.position ts).within _ _).cons t
  · rw [returnsNothing_append_end hend]
    split
    · exact .ok (List.suffix_cons t ts)
    · exact (((expression_agree hend ts).map _).within _ _).cons t
  · exact .ok (List.suffix_cons t ts)
  · exact .ok (List.suffix_cons t ts)
  · have hdefinition : startsDefinition (t :: (ts ++ tail)) = startsDefinition (t :: ts) :=
      startsDefinition_append_end hend (t :: ts)
    rw [hdefinition]
    split
    · exact (((definition_agree hend t ts).map _).within _ _).cons t
    · exact assignmentOrExpression_agree hend (t :: ts)
termination_by 32 * ts.length + 48
decreasing_by all_goals (try simp only [List.length_cons]); omega

theorem conditional_agree (hend : peekKind tail = .endOfInput) (position : Position)
    (ts : List Token) :
    (conditional position ts).Agrees ts tail (conditional position (ts ++ tail)) := by
  rw [conditional, conditional]
  refine (expression_agree hend ts).andThen fun condition us h _ => ?_
  refine (body_agree hend us).andThen fun thenBlock vs h' _ => ?_
  match vs with
  | [] =>
    match tail with
    | [] => exact .ok (List.suffix_refl _)
    | t :: rest =>
      have ht : t.kind = .endOfInput := hend
      show Parsed.Agrees _ _ _ (if t.kind = .elseWord then _ else _)
      rw [if_neg (by rw [ht]; decide)]
      exact .ok (List.suffix_refl _)
  | t :: rest =>
    show Parsed.Agrees _ _ (if t.kind = .elseWord then _ else _)
      (if t.kind = .elseWord then _ else _)
    split
    · refine Parsed.Agrees.cons t ((otherwise_agree hend rest).andThen fun elseBlock ws _ _ => ?_)
      exact .ok (List.suffix_refl _)
    · exact .ok (List.suffix_refl _)
termination_by 32 * ts.length + 15
decreasing_by all_goals (try simp only [List.length_cons] at *); omega

theorem otherwise_agree (hend : peekKind tail = .endOfInput) (ts : List Token) :
    (otherwise ts).Agrees ts tail (otherwise (ts ++ tail)) := by
  rw [otherwise, otherwise]
  match ts with
  | [] =>
    match tail with
    | [] => exact .missing
    | t :: rest =>
      have ht : t.kind = .endOfInput := hend
      show Parsed.Agrees _ _ _
        (if t.kind = .ifWord then _ else if t.kind = .leftBrace then _ else _)
      rw [if_neg (by rw [ht]; decide), if_neg (by rw [ht]; decide), unexpected_of_end ht]
      exact .missing
  | t :: us =>
    show Parsed.Agrees _ _ (if t.kind = .ifWord then _ else if t.kind = .leftBrace then _ else _)
      (if t.kind = .ifWord then _ else if t.kind = .leftBrace then _ else _)
    split
    · exact (((conditional_agree hend t.position us).map _).within _ _).cons t
    · split
      · exact ((block_agree hend t.position us).within _ _).cons t
      · exact .fail (.refl _)
termination_by 32 * ts.length
decreasing_by all_goals (simp only [List.length_cons]; omega)

theorem loop_agree (hend : peekKind tail = .endOfInput) (position : Position) (ts : List Token) :
    (loop position ts).Agrees ts tail (loop position (ts ++ tail)) := by
  rw [loop, loop]
  refine (loopNames_agree hend ts).andThen fun names us h _ => ?_
  refine (expect_agree hend (by decide) _ us).andThen fun _ vs h' _ => ?_
  refine (expression_agree hend vs).andThen fun iterable ws h'' _ => ?_
  exact ((body_agree hend ws).map _).within _ _
termination_by 32 * ts.length
decreasing_by all_goals omega

theorem definition_agree (hend : peekKind tail = .endOfInput) (t : Token) (ts : List Token) :
    (definition t ts).Agrees ts tail (definition t (ts ++ tail)) := by
  rw [definition, definition]
  refine (expect_agree hend (by decide) _ ts).andThen fun _ us h _ => ?_
  refine (commaSeparated_agree hend (by decide) fun vs _ _ => parameter_agree hend vs).andThen
    fun parameters vs h' _ => ?_
  exact ((body_agree hend vs).map _).within _ _
termination_by 32 * ts.length
decreasing_by all_goals omega

theorem assignmentOrExpression_agree (hend : peekKind tail = .endOfInput) (ts : List Token) :
    (assignmentOrExpression ts).Agrees ts tail (assignmentOrExpression (ts ++ tail)) := by
  rw [assignmentOrExpression, assignmentOrExpression]
  refine (expression_agree hend ts).andThen fun e us h _ => ?_
  match us with
  | [] =>
    match tail with
    | [] => exact .ok (List.suffix_refl _)
    | t :: rest =>
      have ht : t.kind = .endOfInput := hend
      show Parsed.Agrees _ _ _ (if t.kind = .assign then _ else _)
      rw [if_neg (by rw [ht]; decide)]
      exact .ok (List.suffix_refl _)
  | t :: rest =>
    show Parsed.Agrees _ _ (if t.kind = .assign then _ else _) (if t.kind = .assign then _ else _)
    split
    · split
      · exact (((expression_agree hend rest).map _).within _ _).cons t
      · exact .fail (.refl _)
    · exact .ok (List.suffix_refl _)
termination_by 32 * ts.length + 15
decreasing_by all_goals (try simp only [List.length_cons] at *); omega

theorem body_agree (hend : peekKind tail = .endOfInput) (ts : List Token) :
    (body ts).Agrees ts tail (body (ts ++ tail)) := by
  rw [body, body]
  refine (expect_agree hend (by decide) _ ts).andThen fun t us h _ => ?_
  exact (block_agree hend t.position us).within _ _
termination_by 32 * ts.length
decreasing_by all_goals omega

theorem block_agree (hend : peekKind tail = .endOfInput) (position : Position) (ts : List Token) :
    (block position ts).Agrees ts tail (block position (ts ++ tail)) := by
  rw [block, block]
  refine (statements_agree hend .rightBrace ts).andThen fun ss us h _ => ?_
  match us with
  | [] =>
    match tail with
    | [] => exact .fail (.refl _)
    | t :: rest =>
      have ht : t.kind = .endOfInput := hend
      show Parsed.Agrees _ _ _ (if t.kind = .rightBrace then _ else _)
      rw [if_neg (by rw [ht]; decide)]
      exact .fail (.refl _)
  | t :: rest =>
    show Parsed.Agrees _ _ (if t.kind = .rightBrace then _ else _)
      (if t.kind = .rightBrace then _ else _)
    split
    · exact .ok (List.suffix_cons t rest)
    · exact .fail (.refl _)
termination_by 32 * ts.length + 19
decreasing_by all_goals omega

end

theorem firstStatement_agree (hend : peekKind tail = .endOfInput) (ts : List Token) :
    (firstStatement ts).Agrees ts tail (firstStatement (ts ++ tail)) := by
  match ts with
  | [] =>
    match tail with
    | [] => exact .missing
    | t :: rest =>
      obtain ⟨left, hfail⟩ := statement_fails_at_end hend rest
      show Parsed.Agrees _ _ _ (statement t rest)
      rw [hfail]
      exact .missing
  | t :: ts => exact statement_agree hend t ts

/-! ## Entries -/

/-- What a reading may start with. A position is that of a token that has been taken already: `if`,
`for`, or an opening brace. -/
inductive Entry : Type → Type
  | program : Entry Program
  | statement : Entry Statement
  | expression : Entry Expr
  | binary (level : Level) : Entry Expr
  | unary : Entry Expr
  | conditional (position : Position) : Entry Statement
  | loop (position : Position) : Entry Statement
  | block (position : Position) : Entry Block

namespace Entry

def read : {α : Type} → Entry α → (tokens : List Token) → Parsed α (tokens.length + 1)
  | _, .program, tokens => Grammar.program tokens
  | _, .statement, tokens => (firstStatement tokens).loosen
  | _, .expression, tokens => (Grammar.expression tokens).loosen
  | _, .binary level, tokens => (Grammar.binary level tokens).loosen
  | _, .unary, tokens => (Grammar.unary tokens).loosen
  | _, .conditional position, tokens => (Grammar.conditional position tokens).loosen
  | _, .loop position, tokens => (Grammar.loop position tokens).loosen
  | _, .block position, tokens => (Grammar.block position tokens).loosen

theorem read_agree (entry : Entry α) (hend : peekKind tail = .endOfInput) (ts : List Token) :
    (entry.read ts).Agrees ts tail (entry.read (ts ++ tail)) := by
  cases entry with
  | program => exact statements_agree hend .endOfInput ts
  | statement => exact (firstStatement_agree hend ts).loosen
  | expression => exact (expression_agree hend ts).loosen
  | binary level => exact (binary_agree hend level ts).loosen
  | unary => exact (unary_agree hend ts).loosen
  | conditional position => exact (conditional_agree hend position ts).loosen
  | loop position => exact (loop_agree hend position ts).loosen
  | block position => exact (block_agree hend position ts).loosen

/-- Tokens are read the same whatever ends them: that there are no more, or a token for the end of
the source with anything behind it. Either a tree is read, with the same tokens left in front of the
end, all of which is left too, or the reading fails for the same cause. -/
theorem read_up_to_end (entry : Entry α) (ts : List Token) :
    (∃ a left, left <:+ ts ∧ ∀ tail, peekKind tail = .endOfInput →
      (entry.read (ts ++ tail)).result = .ok a ∧ (entry.read (ts ++ tail)).rest = left ++ tail) ∨
    ∃ e : ParseError, ∀ tail, peekKind tail = .endOfInput →
      ∃ e', (entry.read (ts ++ tail)).result = .error e' ∧ e.SameCause e' := by
  have hagrees : ∀ tail, peekKind tail = .endOfInput →
      (entry.read ts).Agrees ts tail (entry.read (ts ++ tail)) :=
    fun tail hend => entry.read_agree hend ts
  cases hread : entry.read ts with
  | ok a left h =>
    rw [hread] at hagrees
    have hsuffix : left <:+ ts := by
      have hself := hagrees [] rfl
      generalize entry.read (ts ++ []) = q at hself
      cases hself with
      | ok suffix => exact suffix
    refine .inl ⟨a, left, hsuffix, fun tail hend => ?_⟩
    have hsame := hagrees tail hend
    generalize entry.read (ts ++ tail) = q at hsame ⊢
    cases hsame with
    | ok _ => exact ⟨rfl, rfl⟩
  | fail e us =>
    rw [hread] at hagrees
    refine .inr ⟨e, fun tail hend => ?_⟩
    have hsame := hagrees tail hend
    generalize entry.read (ts ++ tail) = q at hsame ⊢
    cases hsame with
    | fail cause => exact ⟨_, rfl, cause⟩

/-- Behind an opening brace, `} x` is an empty block with `x` left, whatever is behind the end. -/
theorem read_up_to_end_of_block :
    let ts : List Token := [⟨.rightBrace, "\x7d", ⟨0, 1, 1⟩⟩, ⟨.name, "x", ⟨0, 3, 1⟩⟩]
    let tail : List Token := [⟨.endOfInput, "", ⟨0, 4, 0⟩⟩, ⟨.dot, ".", ⟨0, 4, 1⟩⟩]
    let entry := Entry.block ⟨0, 0, 1⟩
    peekKind tail = .endOfInput ∧ (entry.read (ts ++ tail)).result = .ok ⟨[], ⟨0, 0, 1⟩⟩ ∧
      (entry.read (ts ++ tail)).rest = ts.drop 1 ++ tail := by
  intro ts tail entry
  have hresult : (entry.read (ts ++ [])).result = .ok ⟨[], ⟨0, 0, 1⟩⟩ := by with_unfolding_all rfl
  have hrest : (entry.read (ts ++ [])).rest = ts.drop 1 := by with_unfolding_all rfl
  rcases entry.read_up_to_end ts with ⟨a, left, -, hread⟩ | ⟨e, hfail⟩
  · obtain ⟨ha, hleft⟩ := hread [] rfl
    obtain rfl := Except.ok.inj (ha.symm.trans hresult)
    obtain rfl := (List.append_nil left).symm.trans (hleft.symm.trans hrest)
    exact ⟨rfl, hread tail rfl⟩
  · obtain ⟨e', he', -⟩ := hfail [] rfl
    cases he'.symm.trans hresult

end Entry

end Grammar

end Scriptlet
