import Scriptlet.Proofs.Token.Spelling

/-!
# The longest lexeme

Which texts are tokens by themselves, said without regard to how a source is scanned (`IsLexeme`).
Several of them may start at one place: a name with a reserved word, a comment with a slash, a
comparison with an equals sign. Scanning takes the longest, and complains exactly where none starts
(`Lexeme.first_eq_token_iff`, `Lexeme.not_isLexeme_of_first`).
-/

namespace Scriptlet

/-- The word of a kind that is reserved for it. -/
def Token.Kind.reserved? : Token.Kind → Option String
  | .trueWord => some "true"
  | .falseWord => some "false"
  | .ifWord => some "if"
  | .elseWord => some "else"
  | .forWord => some "for"
  | .inWord => some "in"
  | .notWord => some "not"
  | .returnWord => some "return"
  | .breakWord => some "break"
  | .continueWord => some "continue"
  | _ => none

/-- The sign, or the line break, that tokens of a kind are. -/
def Token.Kind.sign? : Token.Kind → Option String
  | .newLine => some "\n"
  | .plus => some "+"
  | .minus => some "-"
  | .star => some "*"
  | .slash => some "/"
  | .greater => some ">"
  | .greaterEqual => some ">="
  | .less => some "<"
  | .lessEqual => some "<="
  | .equalEqual => some "=="
  | .assign => some "="
  | .dot => some "."
  | .comma => some ","
  | .leftParen => some "("
  | .rightParen => some ")"
  | .leftBrace => some "\x7b"
  | .rightBrace => some "\x7d"
  | .leftBracket => some "["
  | .rightBracket => some "]"
  | _ => none

open Lexeme

/-- The texts that are tokens of a kind. -/
inductive IsLexeme : Token.Kind → List Char → Prop
  | reserved {kind : Token.Kind} {word : String} (isReserved : kind.reserved? = some word) :
    IsLexeme kind word.toList
  | name {c : Char} {cs : List Char} (starts : isNameStart c = true)
    (continues : cs.all isNamePart = true)
    (free : ∀ kind : Token.Kind, kind.reserved? ≠ some (String.ofList (c :: cs))) :
    IsLexeme .name (c :: cs)
  | integer {c : Char} {cs : List Char} (starts : isDigit c = true)
    (continues : cs.all isDigit = true) : IsLexeme .integer (c :: cs)
  | string {cs : List Char} (unquoted : '\'' ∉ cs) : IsLexeme .string ('\'' :: cs ++ ['\''])
  | comment {cs : List Char} (unbroken : '\n' ∉ cs) : IsLexeme .comment ('/' :: '/' :: cs)
  | sign {kind : Token.Kind} {s : String} (isSign : kind.sign? = some s) : IsLexeme kind s.toList

/-- Of the lexemes that start in front of `text ++ rest`, none is longer than `text`. -/
structure Longest (kind : Token.Kind) (text rest : List Char) : Prop where
  isLexeme : IsLexeme kind text
  longest : ∀ {kind' : Token.Kind} {text' : List Char}, IsLexeme kind' text' →
    text' <+: text ++ rest → text'.length ≤ text.length

theorem Token.Kind.reserved?_isWord {kind : Token.Kind} {word : String}
    (h : kind.reserved? = some word) : IsWord kind word := by
  cases kind <;> cases h <;> exact ⟨_, _, rfl, rfl, rfl, rfl⟩

/-- A sign is one character, or one with an equals sign behind it. -/
theorem Token.Kind.sign?_cases {kind : Token.Kind} {s : String} (h : kind.sign? = some s) :
    ∃ c, firstFrom c = symbol c ∧ ((s.toList = [c] ∧ symbolKind c = some kind) ∨
      (s.toList = [c, '='] ∧ withEqualKind c = some kind)) := by
  cases kind <;> cases h <;>
    first
    | exact ⟨_, rfl, .inl ⟨rfl, rfl⟩⟩
    | exact ⟨_, rfl, .inr ⟨rfl, rfl⟩⟩

namespace Lexeme

variable {kind : Token.Kind} {c : Char} {cs text rest : List Char}

/-! ## What is scanned is a lexeme -/

theorem reserved?_wordKind {word : String} (h : wordKind word ≠ .name) :
    (wordKind word).reserved? = some word := by
  unfold wordKind at h ⊢
  split <;> first | rfl | simp_all

theorem wordKind_of_reserved? {word : String} (h : kind.reserved? = some word) :
    wordKind word = kind := by
  obtain ⟨_, _, _, _, _, hkind⟩ := Token.Kind.reserved?_isWord h
  exact hkind

theorem isLexeme_word (starts : isNameStart c = true) (continues : cs.all isNamePart = true) :
    IsLexeme (wordKind (String.ofList (c :: cs))) (c :: cs) := by
  by_cases hname : wordKind (String.ofList (c :: cs)) = .name
  · rw [hname]
    refine .name starts continues fun kind hkind => ?_
    rw [wordKind_of_reserved? hkind] at hname
    subst hname
    cases hkind
  · have h := IsLexeme.reserved (reserved?_wordKind hname)
    rwa [String.toList_ofList] at h

theorem isLexeme_symbolKind (h : symbolKind c = some kind) : IsLexeme kind [c] := by
  have hsign : kind.sign? = some (String.ofList [c]) := by
    unfold symbolKind at h
    split at h <;> cases h <;> rfl
  simpa using IsLexeme.sign hsign

theorem isLexeme_withEqualKind (h : withEqualKind c = some kind) : IsLexeme kind [c, '='] := by
  have hsign : kind.sign? = some (String.ofList [c, '=']) := by
    unfold withEqualKind at h
    split at h <;> cases h <;> rfl
  simpa using IsLexeme.sign hsign

/-- Without another quote, the string is open. -/
theorem quoted_cases (cs : List Char) :
    (∃ body after, '\'' ∉ body ∧ cs = body ++ '\'' :: after) ∨
      '\'' ∉ cs ∧ quoted cs = ⟨.openString, '\'' :: cs, []⟩ := by
  by_cases h : '\'' ∈ cs
  · obtain ⟨body, after, rfl, hbody⟩ := List.eq_append_cons_of_mem h
    exact .inl ⟨body, after, hbody, rfl⟩
  · have hplain : ∀ d ∈ cs, (d != '\'') = true := by
      intro d hd
      rw [bne_iff_ne]
      rintro rfl
      exact h hd
    refine .inr ⟨h, ?_⟩
    rw [quoted, List.takeWhile_eq_self_iff.mpr hplain, List.dropWhile_eq_nil_iff.mpr hplain]

theorem isLexeme_quoted (h : (quoted cs).shape = .token kind) : IsLexeme kind (quoted cs).text := by
  obtain ⟨body, after, hbody, rfl⟩ | ⟨-, hopen⟩ := quoted_cases cs
  · rw [quoted_append hbody] at h ⊢
    cases h
    exact .string hbody
  · rw [hopen] at h
    cases h

theorem symbol_withEqual (h : withEqualKind c = some kind) (cs : List Char) :
    symbol c ('=' :: cs) = ⟨.token kind, [c, '='], cs⟩ := by
  simp [symbol, h]

/-- A sign is a comment, has an equals sign behind it, or stands alone. -/
theorem symbol_cases (c : Char) (cs : List Char) :
    (∃ ds, c = '/' ∧ cs = '/' :: ds) ∨
      (∃ ds kind, cs = '=' :: ds ∧ withEqualKind c = some kind) ∨
      symbol c cs = ⟨(symbolKind c).elim .unknown .token, [c], cs⟩ := by
  cases cs with
  | nil => exact .inr (.inr rfl)
  | cons d ds =>
    by_cases hslashes : c = '/' ∧ d = '/'
    · exact .inl ⟨ds, hslashes.1, by rw [hslashes.2]⟩
    · by_cases hd : d = '='
      · subst hd
        cases hc : withEqualKind c with
        | some kind => exact .inr (.inl ⟨ds, kind, rfl, rfl⟩)
        | none => exact .inr (.inr (by simp [symbol, hc]))
      · refine .inr (.inr ?_)
        rw [not_and] at hslashes
        have hcomment : (decide (c = '/') && decide (d = '/')) = false := by
          rw [Bool.and_eq_false_iff, decide_eq_false_iff_not, decide_eq_false_iff_not]
          exact Classical.not_and_iff_not_or_not.mp (not_and.mpr hslashes)
        simp [symbol, hcomment, hd]

theorem isLexeme_symbol (h : (symbol c cs).shape = .token kind) :
    IsLexeme kind (symbol c cs).text := by
  obtain ⟨ds, rfl, rfl⟩ | ⟨ds, k, rfl, hk⟩ | hsingle := symbol_cases c cs
  · cases h
    refine .comment fun hmem => ?_
    simpa using List.mem_takeWhile_imp hmem
  · rw [symbol_withEqual hk] at h ⊢
    cases h
    exact isLexeme_withEqualKind hk
  · rw [hsingle] at h ⊢
    cases hc : symbolKind c with
    | none =>
      rw [hc] at h
      cases h
    | some k =>
      rw [hc] at h
      cases h
      exact isLexeme_symbolKind hc

/-- How scanning begins is decided by the first character. -/
theorem firstFrom_cases (c : Char) :
    (isNameStart c = true ∧
        firstFrom c = run (fun text => .token (wordKind (String.ofList text))) isNamePart c) ∨
      (isDigit c = true ∧ firstFrom c = run (fun _ => .token .integer) isDigit c) ∨
      (c = '\'' ∧ firstFrom c = quoted) ∨ (c ≠ '\'' ∧ firstFrom c = symbol c) := by
  by_cases hstart : isNameStart c = true
  · exact .inl ⟨hstart, funext fun cs => by rw [firstFrom, if_pos hstart]⟩
  · by_cases hdigit : isDigit c = true
    · exact .inr (.inl ⟨hdigit, funext fun cs => by rw [firstFrom, if_neg hstart, if_pos hdigit]⟩)
    · have hfrom : ∀ cs, firstFrom c cs = if c = '\'' then quoted cs else symbol c cs := by
        intro cs
        rw [firstFrom, if_neg hstart, if_neg hdigit]
      by_cases hquote : c = '\''
      · exact .inr (.inr (.inl ⟨hquote, funext fun cs => by rw [hfrom, if_pos hquote]⟩))
      · exact .inr (.inr (.inr ⟨hquote, funext fun cs => by rw [hfrom, if_neg hquote]⟩))

theorem isLexeme_firstFrom (h : (firstFrom c cs).shape = .token kind) :
    IsLexeme kind (firstFrom c cs).text := by
  have hall : ∀ p : Char → Bool, (cs.takeWhile p).all p = true := fun p =>
    List.all_eq_true.mpr fun d hd => List.mem_takeWhile_imp hd
  obtain ⟨hc, hfrom⟩ | ⟨hc, hfrom⟩ | ⟨-, hfrom⟩ | ⟨-, hfrom⟩ := firstFrom_cases c
  · rw [hfrom] at h ⊢
    cases h
    exact isLexeme_word hc (hall _)
  · rw [hfrom] at h ⊢
    cases h
    exact .integer hc (hall _)
  · rw [hfrom] at h ⊢
    exact isLexeme_quoted h
  · rw [hfrom] at h ⊢
    exact isLexeme_symbol h

theorem isLexeme_of_first (h : first cs = some ⟨.token kind, text, rest⟩) : IsLexeme kind text := by
  cases cs with
  | nil => cases h
  | cons c cs =>
    have hfrom : firstFrom c cs = ⟨.token kind, text, rest⟩ := by simpa [first] using h
    have hlexeme : IsLexeme kind (firstFrom c cs).text := isLexeme_firstFrom (by rw [hfrom])
    rwa [hfrom] at hlexeme

/-- An open string starts with a quote and has no other. -/
theorem openString_of_first (h : first cs = some ⟨.openString, text, rest⟩) :
    ∃ body, cs = '\'' :: body ∧ '\'' ∉ body := by
  cases cs with
  | nil => cases h
  | cons c cs =>
    have hshape : (firstFrom c cs).shape = .openString := by
      rw [first] at h
      rw [Option.some.inj h]
    obtain ⟨-, hfrom⟩ | ⟨-, hfrom⟩ | ⟨rfl, hfrom⟩ | ⟨-, hfrom⟩ := firstFrom_cases c
    · rw [hfrom] at hshape
      cases hshape
    · rw [hfrom] at hshape
      cases hshape
    · obtain ⟨body, after, hbody, rfl⟩ | ⟨hopen, -⟩ := quoted_cases cs
      · rw [hfrom, quoted_append hbody] at hshape
        cases hshape
      · exact ⟨cs, rfl, hopen⟩
    · rw [hfrom] at hshape
      obtain ⟨ds, rfl, rfl⟩ | ⟨ds, k, rfl, hk⟩ | hsingle := symbol_cases c cs
      · cases hshape
      · rw [symbol_withEqual hk] at hshape
        cases hshape
      · rw [hsingle] at hshape
        cases hc : symbolKind c <;> rw [hc] at hshape <;> cases hshape

/-- What is not known is one character, and no quote. -/
theorem unknown_of_first (h : first cs = some ⟨.unknown, text, rest⟩) :
    ∃ c, text = [c] ∧ cs = c :: rest ∧ c ≠ '\'' := by
  have hcs : text ++ rest = cs := first_text_append h
  cases cs with
  | nil => cases h
  | cons c cs =>
    rw [first, Option.some.injEq] at h
    have hshape : (firstFrom c cs).shape = .unknown := by rw [h]
    have htext : (firstFrom c cs).text = text := by rw [h]
    obtain ⟨-, hfrom⟩ | ⟨-, hfrom⟩ | ⟨rfl, hfrom⟩ | ⟨hquote, hfrom⟩ := firstFrom_cases c
    · rw [hfrom] at hshape
      cases hshape
    · rw [hfrom] at hshape
      cases hshape
    · obtain ⟨body, after, hbody, rfl⟩ | ⟨-, hopen⟩ := quoted_cases cs
      · rw [hfrom, quoted_append hbody] at hshape
        cases hshape
      · rw [hfrom, hopen] at hshape
        cases hshape
    · rw [hfrom] at hshape htext
      obtain ⟨ds, rfl, rfl⟩ | ⟨ds, k, rfl, hk⟩ | hsingle := symbol_cases c cs
      · cases hshape
      · rw [symbol_withEqual hk] at hshape
        cases hshape
      · rw [hsingle] at htext
        subst htext
        exact ⟨c, rfl, by simpa using hcs.symm, hquote⟩

/-! ## Lexemes are scanned as what they are -/

theorem firstFrom_of_isNameStart (h : isNameStart c = true) (cs : List Char) :
    firstFrom c cs = run (fun text => .token (wordKind (String.ofList text))) isNamePart c cs := by
  rw [firstFrom, if_pos h]

theorem run_of_all {shape : List Char → Shape} {p : Char → Bool} (h : cs.all p = true) :
    run shape p c cs = ⟨shape (c :: cs), c :: cs, []⟩ := by
  have hrun := run_append shape c (List.all_eq_true.mp h) .nil
  rwa [List.append_nil] at hrun

/-- A lexeme by itself is scanned as a token of its kind. -/
theorem first_of_isLexeme (h : IsLexeme kind text) :
    first text = some ⟨.token kind, text, []⟩ := by
  cases h with
  | @reserved _ word isReserved =>
    obtain ⟨c, cs, hword, hstart, hall, hkind⟩ := Token.Kind.reserved?_isWord isReserved
    have hback : String.ofList (c :: cs) = word := by rw [← hword, String.ofList_toList]
    rw [hword, first, firstFrom_of_isNameStart hstart, run_of_all hall, hback, hkind]
  | @name c cs starts continues free =>
    have hkind : wordKind (String.ofList (c :: cs)) = .name := by
      by_contra hne
      exact free _ (reserved?_wordKind hne)
    rw [first, firstFrom_of_isNameStart starts, run_of_all continues, hkind]
  | integer starts continues =>
    rw [first, firstFrom, if_neg (by rw [isNameStart_of_isDigit starts]; decide), if_pos starts,
      run_of_all continues]
  | string unquoted =>
    exact congrArg some (quoted_append unquoted [])
  | @comment cs unbroken =>
    have hplain : cs.all (· != '\n') = true := by
      refine List.all_eq_true.mpr fun d hd => bne_iff_ne.mpr ?_
      rintro rfl
      exact unbroken hd
    have hslash : ('/' :: cs).all (· != '\n') = true := by simpa using hplain
    show some (run (fun _ => .token .comment) (· != '\n') '/' ('/' :: cs)) = _
    rw [run_of_all hslash]
  | sign isSign =>
    obtain ⟨c, hfrom, ⟨hs, hkind⟩ | ⟨hs, hkind⟩⟩ := Token.Kind.sign?_cases isSign
    · rw [hs, first, hfrom, symbol, hkind, Option.elim_some]
    · rw [hs, first, hfrom, symbol, hkind]
      simp

/-! ## More text makes no shorter lexeme -/

theorem takeWhile_length_le (p : Char → Bool) (cs more : List Char) :
    (cs.takeWhile p).length ≤ ((cs ++ more).takeWhile p).length := by
  rw [List.takeWhile_append]
  split
  · rename_i hall
    rw [hall, List.length_append]
    exact Nat.le_add_right _ _
  · exact Nat.le_refl _

theorem run_longer (shape : List Char → Shape) (p : Char → Bool) (c : Char)
    (cs more : List Char) :
    (run shape p c cs).text.length ≤ (run shape p c (cs ++ more)).text.length :=
  Nat.succ_le_succ (takeWhile_length_le p cs more)

theorem quoted_longer {cs : List Char} (h : (quoted cs).shape = .token kind) (more : List Char) :
    (quoted (cs ++ more)).shape = .token kind ∧ (quoted (cs ++ more)).text = (quoted cs).text := by
  obtain ⟨body, after, hbody, rfl⟩ | ⟨-, hopen⟩ := quoted_cases cs
  · rw [quoted_append hbody] at h ⊢
    rw [List.append_assoc, List.cons_append, quoted_append hbody]
    exact ⟨h, rfl⟩
  · rw [hopen] at h
    cases h

theorem symbol_longer {cs : List Char} (h : (symbol c cs).shape = .token kind) (more : List Char) :
    (∃ kind', (symbol c (cs ++ more)).shape = .token kind') ∧
      (symbol c cs).text.length ≤ (symbol c (cs ++ more)).text.length := by
  obtain ⟨ds, rfl, rfl⟩ | ⟨ds, k, rfl, hk⟩ | hsingle := symbol_cases c cs
  · exact ⟨⟨.comment, rfl⟩, run_longer (fun _ => .token .comment) (· != '\n') '/' ('/' :: ds) more⟩
  · rw [List.cons_append, symbol_withEqual hk, symbol_withEqual hk]
    exact ⟨⟨k, rfl⟩, Nat.le_refl _⟩
  · rw [hsingle] at h ⊢
    cases hc : symbolKind c with
    | none =>
      rw [hc] at h
      cases h
    | some k =>
      -- One character is a token already, so whatever is scanned is a token.
      obtain ⟨ds, rfl, hds⟩ | ⟨ds, k', hds, hk'⟩ | hsingle' := symbol_cases c (cs ++ more)
      · rw [hds]
        exact ⟨⟨_, rfl⟩, Nat.succ_le_succ (Nat.zero_le _)⟩
      · rw [hds, symbol_withEqual hk']
        exact ⟨⟨k', rfl⟩, by simp⟩
      · rw [hsingle', hc]
        exact ⟨⟨k, rfl⟩, Nat.le_refl _⟩

theorem firstFrom_longer {cs : List Char} (h : (firstFrom c cs).shape = .token kind)
    (more : List Char) : (∃ kind', (firstFrom c (cs ++ more)).shape = .token kind') ∧
      (firstFrom c cs).text.length ≤ (firstFrom c (cs ++ more)).text.length := by
  obtain ⟨-, hfrom⟩ | ⟨-, hfrom⟩ | ⟨-, hfrom⟩ | ⟨-, hfrom⟩ := firstFrom_cases c
  · rw [hfrom]
    exact ⟨⟨_, rfl⟩, run_longer ..⟩
  · rw [hfrom]
    exact ⟨⟨_, rfl⟩, run_longer ..⟩
  · rw [hfrom] at h ⊢
    obtain ⟨hshape, htext⟩ := quoted_longer h more
    exact ⟨⟨kind, hshape⟩, by rw [htext]⟩
  · rw [hfrom] at h ⊢
    exact symbol_longer h more

/-- Where a lexeme starts, a token is scanned that is at least as long. -/
theorem first_of_prefix (h : IsLexeme kind text) (hp : text <+: cs) :
    ∃ kind' text' rest', first cs = some ⟨.token kind', text', rest'⟩ ∧
      text.length ≤ text'.length := by
  obtain ⟨more, rfl⟩ := hp
  have hself := first_of_isLexeme h
  cases text with
  | nil => cases hself
  | cons c text =>
    have hfrom : firstFrom c text = ⟨.token kind, c :: text, []⟩ := by simpa [first] using hself
    obtain ⟨⟨kind', hshape⟩, hlength⟩ := firstFrom_longer (by rw [hfrom]) more
    rw [hfrom] at hlength
    exact ⟨kind', (firstFrom c (text ++ more)).text, (firstFrom c (text ++ more)).rest,
      by rw [List.cons_append, first, ← hshape], hlength⟩

/-! ## Scanning takes the longest -/

/-- What is scanned as a token is the longest lexeme, and the other way round. -/
theorem first_eq_token_iff :
    first cs = some ⟨.token kind, text, rest⟩ ↔ cs = text ++ rest ∧ Longest kind text rest := by
  constructor
  · intro h
    have hcs : text ++ rest = cs := first_text_append h
    refine ⟨hcs.symm, isLexeme_of_first h, fun {kind' text'} h' hp => ?_⟩
    obtain ⟨kind'', text'', rest'', hfirst, hlength⟩ := first_of_prefix h' hp
    rw [hcs, h] at hfirst
    cases hfirst
    exact hlength
  · rintro ⟨rfl, hlexeme, hlongest⟩
    obtain ⟨kind', text', rest', hfirst, hle⟩ :=
      first_of_prefix hlexeme (List.prefix_append text rest)
    have happend : text' ++ rest' = text ++ rest := first_text_append hfirst
    have hlexeme' : IsLexeme kind' text' := isLexeme_of_first hfirst
    have hge : text'.length ≤ text.length :=
      hlongest hlexeme' (happend ▸ List.prefix_append text' rest')
    obtain ⟨rfl, rfl⟩ := List.append_inj happend (Nat.le_antisymm hge hle)
    have hkind := (first_of_isLexeme hlexeme').symm.trans (first_of_isLexeme hlexeme)
    cases hkind
    exact hfirst

/-- Where no token is scanned, no lexeme starts. -/
theorem not_isLexeme_of_first {shape : Shape} (h : first cs = some ⟨shape, text, rest⟩)
    (hshape : ∀ kind, shape ≠ .token kind) {kind' : Token.Kind} {text' : List Char}
    (h' : IsLexeme kind' text') : ¬ text' <+: cs := by
  intro hp
  obtain ⟨kind'', text'', rest'', hfirst, -⟩ := first_of_prefix h' hp
  rw [h] at hfirst
  cases hfirst
  exact hshape _ rfl

end Lexeme

end Scriptlet
