import Scriptlet.Grammar.Program
import Scriptlet.Proofs.Grammar.Completeness
import Scriptlet.Proofs.Rendering.Statements

/-!
# Programs read back

The text of a program that was read is read again as the same program, up to positions
(`parse_render`). Whatever the grammar derives from the tokens of a source reads back
(`Grammar.Derives.readsBack`), by induction on the derivation. What is read is derived, and what is
derived is read, so the detour over the grammar closes.
-/

namespace Scriptlet

open Grammar

/-- What a phrase spells reads back. -/
def Grammar.Phrase.ReadsBack : Phrase → List Token → Prop
  | .tier _ e, _ | .members e, _ | .primary e, _ => e.ReadsBack
  | .arguments es, _ => ∀ e ∈ es, e.ReadsBack
  | .call c, _ => c.ReadsBack
  | .block b, _ => (∀ s ∈ b.statements, s.isTrivia = false → s.ReadsBack) ∧ b.ReadsBack
  | .statements ss, ts => StatementsReadBack ss ts
  | .statement s, _ => s.ReadsBack
  | .conditional s, _ => s.ReadsBackAsConditional
  | .branch b, _ => b.ReadsBackAsBranch

theorem ProperTokens.isName {t : Token} {ts : List Token} (h : ProperTokens ts) (ht : t ∈ ts)
    (hkind : t.kind = .name) : IsName t.data := by
  have hproper := h.each t ht
  rwa [Token.Proper, hkind] at hproper

theorem Grammar.Listed.isName {parameters : List Variable} {ts : List Token}
    (h : Listed Named parameters ts) (hproper : ProperTokens ts) :
    ∀ v ∈ parameters, IsName v.name := by
  induction h with
  | none _ =>
    intro v hv
    cases hv
  | last _ element _ =>
    obtain ⟨n, hn, rfl, rfl⟩ := element
    intro v hv
    rw [List.mem_singleton.mp hv]
    exact hproper.isName (by simp) hn
  | more _ element _ _ _ _ ih =>
    obtain ⟨n, hn, rfl, rfl⟩ := element
    intro v hv
    rcases List.mem_cons.mp hv with rfl | hv
    · exact hproper.isName (by simp) hn
    · exact ih hproper.of_append.2.of_cons.2 v hv

/-- What the grammar derives from the tokens of a source reads back. -/
theorem Grammar.Derives.readsBack {phrase : Phrase} {ts : List Token} (h : Derives phrase ts)
    (hproper : ProperTokens ts) : phrase.ReadsBack ts := by
  induction h with
  | operand _ ih | members _ ih | primary _ ih => exact ih hproper
  | @binary o e e' t ts ts' _ _ _ ih ih' =>
    exact .binary o (ih hproper.of_append.1) (ih' hproper.of_append.2.of_cons.2)
  -- The two prefix operators are written as the operations that they stand for.
  | minus _ _ ih => exact .binary .sub .zero (ih hproper.of_cons.2)
  | not _ _ ih => exact .binary .equal (ih hproper.of_cons.2) (.bool false)
  | memberName _ _ isName ih =>
    exact .memberName (ih hproper.of_append.1) (hproper.isName (by simp) isName)
  | memberCall _ _ _ ih ih' =>
    exact .memberCall (ih hproper.of_append.1) (ih' hproper.of_append.2.of_cons.2)
  | memberIndex _ _ _ _ _ _ ih ih' =>
    have hkey := hproper.of_append.2.of_cons.2.of_append.1.of_append.1.of_append.2
    exact .memberIndex (ih hproper.of_append.1) (ih' hkey)
  | @integer t n isInteger value =>
    have ht := hproper.each t List.mem_cons_self
    rw [Token.Proper, isInteger] at ht
    exact .integer ht.2 ht.1 value
  | @string t isString =>
    have ht := hproper.each t List.mem_cons_self
    rw [Token.Proper, isString] at ht
    exact .string ht
  | trueWord _ => exact .bool true
  | falseWord _ => exact .bool false
  | var isName => exact .var (hproper.isName List.mem_cons_self isName)
  | called _ ih => exact .call (ih hproper)
  | parenthesized _ _ _ _ _ ih =>
    exact ih hproper.of_cons.2.of_append.1.of_append.1.of_append.2
  | list _ _ _ ih => exact .list (ih hproper.of_cons.2.of_append.1)
  | mapping _ ih => exact .block (ih hproper).2
  | noArguments _ =>
    intro e he
    cases he
  | lastArgument _ _ _ ih =>
    intro e he
    rw [List.mem_singleton.mp he]
    exact ih hproper.of_append.1.of_append.2
  | moreArguments _ _ _ _ _ _ ih ih' =>
    intro e he
    rcases List.mem_cons.mp he with rfl | he
    · exact ih hproper.of_append.1.of_append.1.of_append.2
    · exact ih' hproper.of_append.2.of_cons.2 e he
  | call isName _ _ _ ih =>
    exact .mk (hproper.isName List.mem_cons_self isName)
      (ih hproper.of_cons.2.of_cons.2.of_append.1)
  | block _ _ closes ih =>
    have hstatements := ih hproper.of_cons.2.of_append.1
    exact ⟨hstatements.each, hstatements.block closes hproper.of_cons.2⟩
  | noStatements => exact .nil
  | newLine _ _ ih => exact (ih hproper.of_cons.2).newLine
  | comment isComment tail ih => exact .comment isComment hproper tail (ih hproper.of_cons.2)
  | next _ ends tail ih ih' =>
    exact .next (ih hproper.of_append.1) ends tail (ih' hproper.of_append.2)
  | conditional _ ih => exact .conditional (ih hproper)
  | ifThen _ _ _ ih ih' =>
    have htokens := hproper.of_cons.2
    exact .ifThen (ih htokens.of_append.1) (ih' htokens.of_append.2).2
  | ifThenElse _ _ _ _ _ ih ih' ih'' =>
    have htokens := hproper.of_cons.2
    exact .ifThenElse (ih htokens.of_append.1.of_append.1) (ih' htokens.of_append.1.of_append.2).2
      (ih'' htokens.of_append.2.of_cons.2)
  | branchBlock _ ih => exact .of_block (ih hproper).1 (ih hproper).2
  | branchIf h ih =>
    have hs := ih hproper
    cases h with
    | ifThen _ _ _ => exact .of_conditional ⟨_, _, _, _, rfl⟩ hs
    | ifThenElse _ _ _ _ _ => exact .of_conditional ⟨_, _, _, _, rfl⟩ hs
  | loop _ isItem _ _ _ ih ih' =>
    have htokens := hproper.of_cons.2.of_cons.2.of_cons.2
    exact .loop (hproper.isName (by simp) isItem) (ih htokens.of_append.1)
      (ih' htokens.of_append.2).2
  | indexedLoop _ isIndex _ isItem _ _ _ ih ih' =>
    have htokens := hproper.of_cons.2.of_cons.2.of_cons.2.of_cons.2.of_cons.2
    exact .indexedLoop (hproper.isName (by simp) isIndex) (hproper.isName (by simp) isItem)
      (ih htokens.of_append.1) (ih' htokens.of_append.2).2
  | exit _ => exact .exit
  | exitWith _ _ ih => exact .exitWith (ih hproper.of_cons.2)
  | stop _ => exact .stop
  | skip _ => exact .skip
  | definition isName _ names _ _ ih =>
    have htokens := hproper.of_cons.2.of_cons.2
    exact .definition (hproper.isName List.mem_cons_self isName) (names.isName htokens.of_append.1)
      (ih htokens.of_append.2.of_cons.2).2
  | assign _ isPlace _ _ ih ih' =>
    exact .assign isPlace (ih hproper.of_append.1) (ih' hproper.of_append.2.of_cons.2)
  | expression _ ih => exact .expression (ih hproper)

/-! ## Programs -/

/-- A program that was read is what the grammar derives from the first tokens of the source. -/
theorem scan_of_parse {source : String} {program : Program} (h : parse source = .ok program) :
    ∃ ts rest, (Cursor.start source.toList).scan = (ts ++ rest, none) ∧
      Derives (.statements program) ts := by
  unfold parse tokenize at h
  rcases hscan : (Cursor.start source.toList).scan with ⟨tokens, _ | e⟩
  · rw [hscan] at h
    have hread : (Grammar.program tokens).result = .ok program := h
    cases hprogram : Grammar.program tokens with
    | ok ss rest hlt =>
      rw [hprogram] at hread
      cases hread
      obtain ⟨ts, rfl, hts⟩ := statements_sound .endOfInput (.inr rfl) tokens _ rest hlt hprogram
      exact ⟨ts, rest, rfl, hts⟩
    | fail e rest =>
      rw [hprogram] at hread
      cases hread
  · rw [hscan] at h
    cases h

/-- The tokens that spell a program that was read are such as a source can have. -/
theorem derives_of_parse {source : String} {program : Program} (h : parse source = .ok program) :
    ∃ ts, ProperTokens ts ∧ Derives (.statements program) ts := by
  obtain ⟨ts, rest, hscan, hts⟩ := scan_of_parse h
  exact ⟨ts, (Cursor.scan_proper hscan).of_append.1, hts⟩

/-- What the grammar derives from the tokens of a source is read. -/
theorem parse_of_derives {source : String} {program : Program} {ts : List Token} {t : Token}
    (hscan : (Cursor.start source.toList).scan = (ts ++ [t], none)) (ht : t.kind = .endOfInput)
    (h : Derives (.statements program) ts) : parse source = .ok program := by
  obtain ⟨hlt, hread⟩ := h.readOff .endOfInput [t] (.inr rfl) (.inl ht)
  unfold parse tokenize
  rw [hscan]
  have hresult : (Grammar.program (ts ++ [t])).result = .ok program := by
    rw [Grammar.program, hread]
    rfl
  exact hresult

/-- The text of what the grammar derives from the tokens of a source is read, as the same up to
positions. -/
theorem Grammar.Derives.readAgain {program : Program} {ts : List Token}
    (h : Derives (.statements program) ts) (hproper : ProperTokens ts) :
    ∃ again, parse program.render = .ok again ∧ again.erase = program.erase := by
  -- Nothing stands behind the program, so it may end in a comment.
  obtain ⟨us, after, hafter, ⟨again, herase, hus⟩, hscan⟩ := (h.readsBack hproper).all
    (Cursor.start program.render.toList) [] (List.append_nil _).symm ⟨.nil, fun _ _ _ => .nil⟩
  obtain ⟨t, ht, hend⟩ := Cursor.scan_nil hafter
  rw [hend] at hscan
  exact ⟨again, parse_of_derives hscan ht hus, herase⟩

/-- The text of a program that was read is read again as the same program, up to positions. -/
theorem parse_render {source : String} {program : Program} (h : parse source = .ok program) :
    ∃ again, parse program.render = .ok again ∧ again.erase = program.erase := by
  obtain ⟨ts, hproper, hts⟩ := derives_of_parse h
  exact hts.readAgain hproper

/-- The sign becomes a difference, and the comment moves up to the operand. -/
theorem parse_render_of_negation :
    let program : Program :=
      [.assign (.var ⟨"x", ⟨0, 0, 1⟩⟩)
        (.binary (.literal (.int 0) ⟨0, 4, 1⟩) .sub (.var ⟨"a", ⟨0, 5, 1⟩⟩) ⟨0, 4, 1⟩) ⟨0, 0, 1⟩,
      .comment ⟨" c", ⟨0, 7, 4⟩⟩]
    parse "x = -a // c" = .ok program ∧ program.render = "x = 0 - a// c" ∧
      ∃ again, parse "x = 0 - a// c" = .ok again ∧ again.erase = program.erase := by
  intro program
  have hparse : parse "x = -a // c" = .ok program := by with_unfolding_all rfl
  have htext : program.render = "x = 0 - a// c" := by decide
  have h := parse_render hparse
  rw [htext] at h
  exact ⟨hparse, htext, h⟩

end Scriptlet
