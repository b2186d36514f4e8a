import Scriptlet.Proofs.Rendering.Erasure
import Scriptlet.Proofs.Rendering.Expressions

/-!
# Statements read back

Nothing separates statements in a text but the statements themselves: line breaks and comments are
among them. So it matters for each statement what may follow it. Behind a block that is anything,
behind another statement whatever does not go on with a word, and behind a comment the end of its
line (`Behind`). Statements that were read in the first place stand like this, for they come from
tokens with separators in the same places.
-/

namespace Scriptlet

open Grammar

/-! ## Erasure keeps the form -/

theorem Expr.isPlace_erase (e : Expr) : e.erase.isPlace = e.isPlace := by
  cases e <;> rfl

theorem Statement.isTrivia_erase (s : Statement) : s.erase.isTrivia = s.isTrivia := by
  cases s with
  | conditional _ _ otherwise _ => cases otherwise <;> rfl
  | exit value _ => cases value <;> rfl
  | _ => rfl

theorem Statement.endsInBlock_erase (s : Statement) : s.erase.endsInBlock = s.endsInBlock := by
  cases s with
  | conditional _ _ otherwise _ => cases otherwise <;> rfl
  | exit value _ => cases value <;> rfl
  | _ => rfl

theorem Statement.conditional_of_erase {s : Statement} {c : Expr} {b : Block} {o : Option Block}
    {p : Position} (h : s.erase = (Statement.conditional c b o p).erase) :
    ∃ c' b' o' p', s = .conditional c' b' o' p' := by
  cases s with
  | conditional c' b' o' p' => exact ⟨c', b', o', p', rfl⟩
  | exit value _ => cases value <;> cases o <;> cases h
  | _ => cases o <;> cases h

/-! ## Statements -/

/-- A statement other than a line break or a comment reads back. -/
abbrev Statement.ReadsBack (s : Statement) : Prop :=
  Scriptlet.ReadsBack (fun rest => s.endsInBlock = true ∨ Breaks rest) s.render Statement.erase
    .statement s

/-- A conditional reads back. -/
abbrev Statement.ReadsBackAsConditional (s : Statement) : Prop :=
  Scriptlet.ReadsBack Anything s.render Statement.erase .conditional s

/-- What stands behind `else` reads back. -/
abbrev Block.ReadsBackAsBranch (b : Block) : Prop :=
  Scriptlet.ReadsBack Anything b.branchText Block.erase .branch b

namespace Statement

variable {condition e : Expr} {body : Block} {p : Position}

theorem ReadsBackAsConditional.ifThen (hcondition : condition.ReadsBack) (hbody : body.ReadsBack) :
    (Statement.conditional condition body none p).ReadsBackAsConditional := by
  have htext : (Statement.conditional condition body none p).render.toList =
      'i' :: 'f' :: ' ' :: (condition.render.toList ++ ' ' :: body.render.toList) := by
    simp [Statement.render]
  rw [ReadsBackAsConditional, Scriptlet.ReadsBack, htext]
  refine .keyword ['i', 'f'] .ifWord (fun _ => rfl) rfl fun t ht => ?_
  refine .andThen hcondition.alone (fun _ _ => .cons rfl) ?_
  intro ts hread
  obtain ⟨condition', hc, hts⟩ := hread
  refine .blank rfl (hbody.imp (fun _ _ => trivial) ?_)
  intro us hread
  obtain ⟨body', hb, hus⟩ := hread
  exact ⟨.conditional condition' body' none t.position, by simp [Statement.erase, hc, hb],
    .ifThen ht hts hus⟩

theorem ReadsBackAsConditional.ifThenElse {otherwise : Block} (hcondition : condition.ReadsBack)
    (hbody : body.ReadsBack) (hotherwise : otherwise.ReadsBackAsBranch) :
    (Statement.conditional condition body (some otherwise) p).ReadsBackAsConditional := by
  have htext : (Statement.conditional condition body (some otherwise) p).render.toList =
      'i' :: 'f' :: ' ' :: (condition.render.toList ++ ' ' :: (body.render.toList ++
        ' ' :: 'e' :: 'l' :: 's' :: 'e' :: ' ' :: otherwise.branchText.toList)) := by
    simp [Statement.render_ifThenElse]
  rw [ReadsBackAsConditional, Scriptlet.ReadsBack, htext]
  refine .keyword ['i', 'f'] .ifWord (fun _ => rfl) rfl fun t ht => ?_
  refine .andThen hcondition.alone (fun _ _ => .cons rfl) ?_
  intro ts hread
  obtain ⟨condition', hc, hts⟩ := hread
  refine .blank rfl (.andThen hbody (fun _ _ => trivial) ?_)
  intro us hread
  obtain ⟨body', hb, hus⟩ := hread
  refine .blank rfl ?_
  refine .keyword ['e', 'l', 's', 'e'] .elseWord (fun _ => rfl) rfl
    fun t' ht' => hotherwise.imp (fun _ _ => trivial) ?_
  intro vs hread
  obtain ⟨otherwise', ho, hvs⟩ := hread
  refine ⟨.conditional condition' body' (some otherwise') t.position,
    by simp [Statement.erase, hc, hb, ho], ?_⟩
  have h := Derives.ifThenElse ht hts hus ht' hvs
  simpa using h

namespace ReadsBack

theorem conditional {s : Statement} (h : s.ReadsBackAsConditional) : s.ReadsBack := by
  refine h.imp (fun _ _ => trivial) ?_
  intro ts hread
  obtain ⟨s', hs, hts⟩ := hread
  exact ⟨s', hs, .conditional hts⟩

theorem loop {item : Variable} (hitem : IsName item.name) (he : e.ReadsBack)
    (hbody : body.ReadsBack) : (Statement.loop none item e body p).ReadsBack := by
  have htext : (Statement.loop none item e body p).render.toList =
      'f' :: 'o' :: 'r' :: ' ' :: (item.name.toList ++
        ' ' :: 'i' :: 'n' :: ' ' :: (e.render.toList ++ ' ' :: body.render.toList)) := by
    simp [Statement.render]
  rw [Statement.ReadsBack, Scriptlet.ReadsBack, htext]
  refine .keyword ['f', 'o', 'r'] .forWord (fun _ => rfl) rfl
    fun t ht => ?_
  refine .name hitem (fun _ _ => .cons rfl) fun n hn hdata => .blank rfl ?_
  refine .keyword ['i', 'n'] .inWord (fun _ => rfl) rfl
    fun inWord hin => ?_
  refine .andThen he.alone (fun _ _ => .cons rfl) ?_
  intro ts hread
  obtain ⟨iterable, hiterable, hts⟩ := hread
  refine .blank rfl (hbody.imp (fun _ _ => trivial) ?_)
  intro us hread
  obtain ⟨body', hb, hus⟩ := hread
  refine ⟨.loop none ⟨n.data, n.position⟩ iterable body' t.position, ?_, .loop ht hn hin hts hus⟩
  simp [Statement.erase, Variable.erase, hiterable, hb, hdata]

theorem indexedLoop {index item : Variable} (hindex : IsName index.name)
    (hitem : IsName item.name) (he : e.ReadsBack) (hbody : body.ReadsBack) :
    (Statement.loop (some index) item e body p).ReadsBack := by
  have htext : (Statement.loop (some index) item e body p).render.toList =
      'f' :: 'o' :: 'r' :: ' ' :: (index.name.toList ++ ',' :: ' ' :: (item.name.toList ++
        ' ' :: 'i' :: 'n' :: ' ' :: (e.render.toList ++ ' ' :: body.render.toList))) := by
    simp [Statement.render]
  rw [Statement.ReadsBack, Scriptlet.ReadsBack, htext]
  refine .keyword ['f', 'o', 'r'] .forWord (fun _ => rfl) rfl
    fun t ht => ?_
  refine .name hindex (fun _ _ => .cons rfl) fun m hm hdata => ?_
  refine .sign .comma rfl fun comma hcomma => .blank rfl ?_
  refine .name hitem (fun _ _ => .cons rfl) fun n hn hdata' => .blank rfl ?_
  refine .keyword ['i', 'n'] .inWord (fun _ => rfl) rfl
    fun inWord hin => ?_
  refine .andThen he.alone (fun _ _ => .cons rfl) ?_
  intro ts hread
  obtain ⟨iterable, hiterable, hts⟩ := hread
  refine .blank rfl (hbody.imp (fun _ _ => trivial) ?_)
  intro us hread
  obtain ⟨body', hb, hus⟩ := hread
  refine ⟨.loop (some ⟨m.data, m.position⟩) ⟨n.data, n.position⟩ iterable body' t.position, ?_,
    .indexedLoop ht hm hcomma hn hin hts hus⟩
  simp [Statement.erase, Variable.erase, hiterable, hb, hdata, hdata']

/-- A statement of one word. -/
theorem ofWord {s : Statement} (word : String) (kind : Token.Kind) (hword : IsWord kind word)
    (hkind : kind.isLone = true) (htext : s.render = word)
    (hs : s.endsInBlock = false) (h : ∀ t : Token, t.kind = kind →
      ∃ s', s'.erase = s.erase ∧ Derives (.statement s') [t]) : s.ReadsBack := by
  have htext : s.render.toList = word.toList ++ [] := by rw [htext, List.append_nil]
  rw [Statement.ReadsBack, Scriptlet.ReadsBack, htext]
  refine .wordOf hword hkind (fun rest hrest => ?_) fun t ht _ => .nil (h t ht)
  exact hrest.resolve_left (ne_true_of_eq_false hs)

theorem exit : (Statement.exit none p).ReadsBack :=
  ofWord "return" .returnWord
    ⟨'r', ['e', 't', 'u', 'r', 'n'], rfl, rfl, rfl, rfl⟩ rfl rfl rfl
    fun t ht => ⟨.exit none t.position, rfl, .exit ht⟩

theorem stop : (Statement.stop p).ReadsBack :=
  ofWord "break" .breakWord
    ⟨'b', ['r', 'e', 'a', 'k'], rfl, rfl, rfl, rfl⟩ rfl rfl rfl
    fun t ht => ⟨.stop t.position, rfl, .stop ht⟩

theorem skip : (Statement.skip p).ReadsBack :=
  ofWord "continue" .continueWord
    ⟨'c', ['o', 'n', 't', 'i', 'n', 'u', 'e'], rfl, rfl, rfl, rfl⟩ rfl rfl rfl
    fun t ht => ⟨.skip t.position, rfl, .skip ht⟩

theorem exitWith (he : e.ReadsBack) : (Statement.exit (some e) p).ReadsBack := by
  have htext : (Statement.exit (some e) p).render.toList =
      'r' :: 'e' :: 't' :: 'u' :: 'r' :: 'n' :: ' ' :: e.render.toList := by
    simp [Statement.render]
  rw [Statement.ReadsBack, Scriptlet.ReadsBack, htext]
  refine .keyword ['r', 'e', 't', 'u', 'r', 'n'] .returnWord (fun _ => rfl) rfl
    fun t ht => ?_
  refine he.alone.imp (fun rest hrest => hrest.resolve_left Bool.false_ne_true) ?_
  intro ts hread
  obtain ⟨e', hvalue, hts⟩ := hread
  exact ⟨.exit (some e') t.position, by simp [Statement.erase, hvalue], .exitWith ht hts⟩

theorem definition {name : String} {parameters : List Variable} (hname : IsName name)
    (hparameters : ∀ v ∈ parameters, IsName v.name) (hbody : body.ReadsBack) :
    (Statement.function ⟨name, parameters, body, p⟩).ReadsBack := by
  have htext : (Statement.function ⟨name, parameters, body, p⟩).render.toList =
      name.toList ++ '(' :: ((separated ", " (parameters.map (·.name))).toList ++
        ')' :: ' ' :: body.render.toList) := by
    simp [Statement.render, Function.render]
  have hlisted : Spells Breaks (separated ", " (parameters.map (·.name))).toList fun ts =>
      ∃ ps, ps.map Variable.erase = parameters.map Variable.erase ∧ Listed Named ps ts := by
    refine .listed fun v hv => ?_
    rw [← List.append_nil v.name.toList]
    refine .name (hparameters v hv) (fun _ hrest => hrest) fun n hn hdata => .nil ?_
    exact ⟨⟨n.data, n.position⟩, by rw [hdata]; rfl, n, hn, rfl, rfl⟩
  rw [Statement.ReadsBack, Scriptlet.ReadsBack, htext]
  refine .name hname (fun _ _ => .cons rfl) fun n hn hdata => ?_
  refine .sign .leftParen rfl fun opening hopening => ?_
  refine .andThen hlisted (fun _ _ => .cons rfl) ?_
  intro ts hread
  obtain ⟨ps, hps, hts⟩ := hread
  refine .sign .rightParen rfl fun closing hclosing => .blank rfl ?_
  refine hbody.imp (fun _ _ => trivial) ?_
  intro us hread
  obtain ⟨body', hb, hus⟩ := hread
  refine ⟨.function ⟨n.data, ps, body', n.position⟩, ?_, .definition hn hopening hts hclosing hus⟩
  simp [Statement.erase, Function.erase, hps, hb, hdata]

theorem assign {target value : Expr} (hplace : target.isPlace = true) (htarget : target.ReadsBack)
    (hvalue : value.ReadsBack) : (Statement.assign target value p).ReadsBack := by
  have htext : (Statement.assign target value p).render.toList =
      target.render.toList ++ ' ' :: '=' :: ' ' :: value.render.toList := by
    simp [Statement.render]
  rw [Statement.ReadsBack, Scriptlet.ReadsBack, htext]
  refine .andThen htarget.alone (fun _ _ => .cons rfl) ?_
  intro ts hread
  obtain ⟨target', ht, hts⟩ := hread
  refine .blank rfl ?_
  refine .keyword ['='] .assign (fun _ => rfl) rfl fun t hassign => ?_
  refine hvalue.alone.imp (fun rest hrest => hrest.resolve_left Bool.false_ne_true) ?_
  intro us hread
  obtain ⟨value', hv, hus⟩ := hread
  have hplace' : target'.isPlace = true := by
    rw [← target'.isPlace_erase, ht, target.isPlace_erase, hplace]
  exact ⟨.assign target' value' target'.position, by simp [Statement.erase, ht, hv],
    .assign hts hplace' hassign hus⟩

theorem expression (he : e.ReadsBack) : (Statement.expression e).ReadsBack := by
  refine he.alone.imp (fun rest hrest => hrest.resolve_left Bool.false_ne_true) ?_
  intro ts hread
  obtain ⟨e', herase, hts⟩ := hread
  exact ⟨.expression e', by simp [Statement.erase, herase], .expression hts⟩

end ReadsBack

end Statement

/-! ## One statement behind the other -/

theorem Grammar.Derives.statement_isTrivia {s : Statement} {ts : List Token}
    (h : Derives (.statement s) ts) : s.isTrivia = false := by
  cases h with
  | conditional h => cases h <;> rfl
  | _ => rfl

/-- Where statements start with a separator, so do their tokens, and the other way round. -/
theorem Grammar.Derives.separated_iff {ss : List Statement} {ts : List Token}
    (h : Derives (.statements ss) ts) : Separated ts ↔ ∀ s ∈ ss.head?, s.isTrivia = true := by
  cases h with
  | noStatements =>
    refine ⟨fun _ s hs => ?_, fun _ => .inl rfl⟩
    cases hs
  | newLine isNewLine _ =>
    refine ⟨fun _ s hs => ?_, fun _ => .inr (.inl isNewLine)⟩
    cases hs
    rfl
  | comment isComment _ =>
    refine ⟨fun _ s hs => ?_, fun _ => .inr (.inr isComment)⟩
    cases hs
    rfl
  | next h _ _ =>
    obtain ⟨t, us, rfl, ht⟩ := h.starts rfl
    constructor
    · rintro (hnil | hline | hcomment)
      · cases hnil
      · rw [List.cons_append, peekKind] at hline
        rw [hline] at ht
        cases ht
      · rw [List.cons_append, peekKind] at hcomment
        rw [hcomment] at ht
        cases ht
    · intro htrivia
      have hs := htrivia _ rfl
      rw [h.statement_isTrivia] at hs
      cases hs

/-- What may follow statements with these tokens: nothing that goes on with a word, and behind a
comment the end of its line. -/
def Behind (ts : List Token) (rest : List Char) : Prop :=
  Breaks rest ∧ ∀ t ∈ ts.getLast?, t.kind = .comment → Stops (· != '\n') rest

theorem Behind.tail {ts ts' : List Token} {rest : List Char} (h : Behind (ts ++ ts') rest) :
    Behind ts' rest := by
  refine ⟨h.1, fun t ht hcomment => h.2 t ?_ hcomment⟩
  rw [List.getLast?_append, Option.mem_def.mp ht]
  rfl

theorem Behind.of_cons {t : Token} {ts : List Token} {rest : List Char}
    (h : Behind (t :: ts) rest) : Behind ts rest := by
  rw [← List.singleton_append] at h
  exact h.tail

/-- Statements read back, and so does each of them. -/
structure StatementsReadBack (ss : List Statement) (ts : List Token) : Prop where
  each : ∀ s ∈ ss, s.isTrivia = false → s.ReadsBack
  all : Scriptlet.ReadsBack (Behind ts) (renderStatements ss) eraseStatements .statements ss

/-- Statements with the same erasure start with a separator or do not alike. -/
theorem startsWithTrivia_of_erase {ss ss' : List Statement}
    (h : eraseStatements ss' = eraseStatements ss) (htrivia : ∀ s ∈ ss.head?, s.isTrivia = true) :
    ∀ s ∈ ss'.head?, s.isTrivia = true := by
  intro s hs
  cases ss' with
  | nil => cases hs
  | cons s' ss' =>
    cases hs
    cases ss with
    | nil => cases h
    | cons u us =>
      have herase : s.erase = u.erase := (List.cons.inj h).1
      rw [← s.isTrivia_erase, herase, u.isTrivia_erase]
      exact htrivia u rfl

theorem breaks_renderStatements {ss : List Statement} {rest : List Char}
    (h : ∀ s ∈ ss.head?, s.isTrivia = true) (hrest : Breaks rest) :
    Breaks ((renderStatements ss).toList ++ rest) := by
  cases ss with
  | nil => exact hrest
  | cons s ss =>
    have hs := h s rfl
    cases s with
    | newLine p =>
      rw [renderStatements, Statement.render, String.toList_append]
      exact .cons rfl
    | comment c =>
      rw [renderStatements, Statement.render, String.toList_append, String.toList_append]
      exact .cons rfl
    | _ => cases hs

namespace StatementsReadBack

variable {ss : List Statement} {t : Token} {ts ts' : List Token}

theorem nil : StatementsReadBack [] [] :=
  ⟨List.forall_mem_nil _, .nil ⟨[], rfl, .noStatements⟩⟩

theorem newLine (h : StatementsReadBack ss ts) :
    StatementsReadBack (.newLine t.position :: ss) (t :: ts) := by
  constructor
  · intro s hs htrivia
    rcases List.mem_cons.mp hs with rfl | hs
    · cases htrivia
    · exact h.each s hs htrivia
  · have htext : (renderStatements (.newLine t.position :: ss)).toList =
        '\n' :: (renderStatements ss).toList := by
      simp [renderStatements, Statement.render]
    rw [Scriptlet.ReadsBack, htext]
    refine .sign .newLine rfl fun u hu => ?_
    refine h.all.imp (fun rest hrest => hrest.of_cons) ?_
    intro us hread
    obtain ⟨ss', hss, hus⟩ := hread
    refine ⟨.newLine u.position :: ss', ?_, .newLine hu hus⟩
    simp [eraseStatements, Statement.erase, hss]

/-- The line of a comment ends where the next statement starts. -/
theorem comment (ht : t.kind = .comment) (hproper : ProperTokens (t :: ts))
    (hderives : Derives (.statements ss) ts) (h : StatementsReadBack ss ts) :
    StatementsReadBack (.comment ⟨t.data, t.position⟩ :: ss) (t :: ts) := by
  have hdata : '\n' ∉ t.data.toList := by
    have := hproper.of_cons.1
    rwa [Token.Proper, ht] at this
  -- What comes next is the end of these statements or a line break; anything else would have been
  -- part of the comment.
  have hline : ∀ rest, Behind (t :: ts) rest →
      Stops (· != '\n') ((renderStatements ss).toList ++ rest) := by
    intro rest hrest
    have hhead := (List.isChain_cons.mp hproper.comments).1
    generalize hts : ts = us at hderives
    cases hderives with
    | noStatements =>
      subst hts
      exact hrest.2 t rfl ht
    | newLine _ _ =>
      rw [renderStatements, Statement.render, String.toList_append]
      exact .cons rfl
    | comment isComment _ =>
      subst hts
      have := hhead _ rfl ht
      rw [isComment] at this
      simp at this
    | next hs _ _ =>
      obtain ⟨u, us, rfl, hu⟩ := hs.starts rfl
      subst hts
      rcases hhead u rfl ht with hnewLine | hend
      · rw [hnewLine] at hu
        cases hu
      · rw [hend] at hu
        cases hu
  constructor
  · intro s hs htrivia
    rcases List.mem_cons.mp hs with rfl | hs
    · cases htrivia
    · exact h.each s hs htrivia
  · have htext : (renderStatements (.comment ⟨t.data, t.position⟩ :: ss)).toList =
        '/' :: '/' :: (t.data.toList ++ (renderStatements ss).toList) := by
      simp [renderStatements, Statement.render]
    rw [Scriptlet.ReadsBack, htext]
    refine .comment hdata hline fun u hu hsame => ?_
    refine h.all.imp (fun rest hrest => hrest.of_cons) ?_
    intro us hread
    obtain ⟨ss', hss, hus⟩ := hread
    refine ⟨.comment ⟨u.data, u.position⟩ :: ss', ?_, .comment hu hus⟩
    simp [eraseStatements, Statement.erase, Comment.erase, hss, hsame]

theorem next {s : Statement} (hs : s.ReadsBack) (hends : s.endsInBlock = true ∨ Separated ts')
    (hderives : Derives (.statements ss) ts') (h : StatementsReadBack ss ts') :
    StatementsReadBack (s :: ss) (ts ++ ts') := by
  rw [hderives.separated_iff] at hends
  constructor
  · intro s' hs' htrivia
    rcases List.mem_cons.mp hs' with rfl | hs'
    · exact hs
    · exact h.each s' hs' htrivia
  · have htext : (renderStatements (s :: ss)).toList =
        s.render.toList ++ (renderStatements ss).toList := by
      simp [renderStatements]
    rw [Scriptlet.ReadsBack, htext]
    -- Without a separator between them, the statement ends in a block.
    refine .andThen hs (fun rest hrest => ?_) ?_
    · exact hends.imp_right fun htrivia => breaks_renderStatements htrivia hrest.1
    · intro us hread
      obtain ⟨s', hs', hus⟩ := hread
      refine h.all.imp (fun rest hrest => hrest.tail) ?_
      intro vs hread
      obtain ⟨ss', hss, hvs⟩ := hread
      refine ⟨s' :: ss', by simp [eraseStatements, hs', hss], .next hus ?_ hvs⟩
      rw [hvs.separated_iff]
      refine hends.imp (fun hblock => ?_) (startsWithTrivia_of_erase hss)
      rw [← s'.endsInBlock_erase, hs', s.endsInBlock_erase, hblock]

/-- Statements between braces. A comment is not the last of them, for it would hide the brace. -/
theorem block {closing : Token} {p : Position} (hclosing : closing.kind = .rightBrace)
    (hproper : ProperTokens (ts ++ [closing])) (h : StatementsReadBack ss ts) :
    (Block.mk ss p).ReadsBack := by
  have htext : (Block.mk ss p).render.toList =
      '\x7b' :: ((renderStatements ss).toList ++ ['\x7d']) := by
    simp [Block.render]
  have hbehind : ∀ rest, Anything rest → Behind ts (['\x7d'] ++ rest) := by
    refine fun rest _ => ⟨.cons rfl, fun t ht hcomment => ?_⟩
    have hline := (List.isChain_append.mp hproper.comments).2.2 t ht closing rfl hcomment
    rw [hclosing] at hline
    simp at hline
  rw [Block.ReadsBack, Scriptlet.ReadsBack, htext]
  refine .sign .leftBrace rfl fun opening hopening => ?_
  refine .andThen h.all hbehind ?_
  intro us hread
  obtain ⟨ss', hss, hus⟩ := hread
  refine .sign .rightBrace rfl fun closing' hclosing' => .nil ?_
  exact ⟨⟨ss', opening.position⟩, by simp [Block.erase, hss], .block hopening hus hclosing'⟩

end StatementsReadBack

namespace Block.ReadsBackAsBranch

theorem of_conditional {s : Statement} {p : Position}
    (hs : ∃ c b o q, s = .conditional c b o q) (h : s.ReadsBackAsConditional) :
    (Block.mk [s] p).ReadsBackAsBranch := by
  obtain ⟨c, b, o, q, rfl⟩ := hs
  refine h.imp (fun _ hrest => hrest) ?_
  intro ts hread
  obtain ⟨s', herase, hts⟩ := hread
  obtain ⟨t, us, rfl, -⟩ := hts.starts rfl
  exact ⟨⟨[s'], t.position⟩, by simp [Block.erase, eraseStatements, herase], .branchIf hts⟩

/-- A conditional that is alone in a block loses the braces, and reads back for itself. -/
theorem of_block {b : Block} (heach : ∀ s ∈ b.statements, s.isTrivia = false → s.ReadsBack)
    (h : b.ReadsBack) : b.ReadsBackAsBranch := by
  -- These are the cases of `branchText`.
  by_cases hs : ∃ c body o p q, b = ⟨[.conditional c body o p], q⟩
  · obtain ⟨c, body, o, p, q, rfl⟩ := hs
    refine of_conditional ⟨c, body, o, p, rfl⟩ ?_
    refine (heach _ List.mem_cons_self rfl).imp (fun _ _ => .inl rfl) ?_
    intro ts hread
    obtain ⟨s', herase, hts⟩ := hread
    obtain ⟨c', body', o', p', rfl⟩ := Statement.conditional_of_erase herase
    cases hts with
    | conditional hts => exact ⟨_, herase, hts⟩
  · have htext : b.branchText = b.render := by
      unfold Block.branchText
      split
      · exact absurd ⟨_, _, _, _, _, rfl⟩ hs
      · rfl
    rw [Block.ReadsBackAsBranch, htext]
    refine h.imp (fun _ hrest => hrest) ?_
    intro ts hread
    obtain ⟨b', herase, hts⟩ := hread
    exact ⟨b', herase, .branchBlock hts⟩

end Block.ReadsBackAsBranch

end Scriptlet
