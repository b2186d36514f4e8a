import Scriptlet.Proofs.Token.Proper

/-!
# Texts that spell tokens

`Spells before text D` says that, wherever `text` stands in front of something that satisfies
`before`, it is read as tokens that satisfy `D`. What stands in front matters: a name must not be
followed by another part of a name, and a comment only by the end of its line.

A text is taken apart from the left, with a lemma for each kind of word at its front. In these
lemmas the rest of the text speaks about the tokens that are still to come, and `Spells.andThen`
does the same for a text of several words.
-/

namespace Scriptlet

/-! ## Scanning, one step at a time -/

/-- No token starts with a blank. -/
theorem Lexeme.firstFrom_blank {c : Char} (h : isBlank c = true) (cs : List Char) :
    (firstFrom c cs).shape = .unknown := by
  have hc : c = ' ' ∨ c = '\t' ∨ c = '\r' ∨ c = '\x0c' := by
    simpa [isBlank, or_assoc] using h
  have hfrom : firstFrom c cs = symbol c cs := by
    rcases hc with rfl | rfl | rfl | rfl <;> rfl
  have hsymbol : symbolKind c = none ∧ withEqualKind c = none ∧ c ≠ '/' := by
    rcases hc with rfl | rfl | rfl | rfl <;> decide
  obtain ⟨hnone, hequal, hslash⟩ := hsymbol
  rw [hfrom]
  cases cs with
  | nil => simp [symbol, hnone]
  | cons d ds => simp [symbol, hnone, hequal, hslash]

namespace Cursor

theorem scan_token {cursor after : Cursor} {t : Token} (h : cursor.next = (.ok t, after))
    (hkind : t.kind ≠ .endOfInput) : cursor.scan = (t :: after.scan.1, after.scan.2) := by
  rw [scan]
  split
  · rename_i heq
    rw [h] at heq
    cases heq
  · rename_i heq
    rw [h] at heq
    cases heq
    rw [dif_neg hkind]

theorem scan_end {cursor after : Cursor} {t : Token} (h : cursor.next = (.ok t, after))
    (hkind : t.kind = .endOfInput) : cursor.scan = ([t], none) := by
  rw [scan]
  split
  · rename_i heq
    rw [h] at heq
    cases heq
  · rename_i heq
    rw [h] at heq
    cases heq
    rw [dif_pos hkind]

theorem scan_error {cursor after : Cursor} {e : LexError} (h : cursor.next = (.error e, after)) :
    cursor.scan = ([], some e) := by
  rw [scan]
  split
  · rename_i heq
    rw [h] at heq
    cases heq
    rfl
  · rename_i heq
    rw [h] at heq
    cases heq

/-- Cursors with the same next step scan alike. -/
theorem scan_congr {cursor cursor' : Cursor} (h : cursor.next = cursor'.next) :
    cursor.scan = cursor'.scan := by
  rcases hnext : cursor'.next with ⟨_ | t, after⟩
  · rw [scan_error hnext, scan_error (h.trans hnext)]
  · by_cases hkind : t.kind = .endOfInput
    · rw [scan_end hnext hkind, scan_end (h.trans hnext) hkind]
    · rw [scan_token hnext hkind, scan_token (h.trans hnext) hkind]

theorem scan_nil {cursor : Cursor} (h : cursor.rest = []) :
    ∃ t, t.kind = .endOfInput ∧ cursor.scan = ([t], none) := by
  have hnext : ∃ t after, t.kind = .endOfInput ∧ cursor.next = (.ok t, after) := by
    rw [next, read, skipBlanks, h]
    exact ⟨_, _, rfl, rfl⟩
  obtain ⟨t, after, ht, hnext⟩ := hnext
  exact ⟨t, ht, scan_end hnext ht⟩

/-- Passing a blank first makes no difference. -/
theorem scan_blank {cursor : Cursor} {c : Char} {cs : List Char} (h : cursor.rest = c :: cs)
    (hc : Lexeme.isBlank c = true) : cursor.scan = (cursor.passUnlined [c] cs).scan := by
  have htake : (c :: cs).takeWhile Lexeme.isBlank = c :: cs.takeWhile Lexeme.isBlank :=
    List.takeWhile_cons_of_pos hc
  have hdrop : (c :: cs).dropWhile Lexeme.isBlank = cs.dropWhile Lexeme.isBlank :=
    List.dropWhile_cons_of_pos hc
  have hskip : cursor.skipBlanks = (cursor.passUnlined [c] cs).skipBlanks := by
    simp [skipBlanks, passUnlined, h, htake, hdrop, octets, Nat.add_assoc]
  refine scan_congr ?_
  rw [next, next, hskip]

/-- A token at the very front of the text is the next one. -/
theorem next_of_first {cursor : Cursor} {kind : Token.Kind} {text rest : List Char}
    (h : Lexeme.first cursor.rest = some ⟨.token kind, text, rest⟩) :
    cursor.next = (.ok (cursor.take kind text rest).1, (cursor.take kind text rest).2) := by
  -- Nothing is skipped, for no token starts with a blank.
  have hskip : cursor.skipBlanks = cursor := by
    obtain ⟨_ | ⟨c, cs⟩, line, column⟩ := cursor
    · cases h
    · have hc : Lexeme.isBlank c = false := by
        by_contra hblank
        have hshape := Lexeme.firstFrom_blank (eq_true_of_ne_false hblank) cs
        rw [Option.some.inj h] at hshape
        cases hshape
      simp [skipBlanks, passUnlined, hc, octets]
  rw [next, hskip, read, h]

end Cursor

/-! ## Texts -/

/-- Kinds of tokens that are made of one word whatever follows. The word `not` takes a following
`in` with it, and the end of the source is no word. -/
def Token.Kind.isLone : Token.Kind → Bool
  | .notWord | .endOfInput => false
  | _ => true

/-- In front of whatever satisfies `before`, the text is read as tokens that satisfy `D`. -/
def Spells (before : List Char → Prop) (text : List Char) (D : List Token → Prop) : Prop :=
  ∀ (cursor : Cursor) (rest : List Char), cursor.rest = text ++ rest → before rest →
    ∃ (ts : List Token) (after : Cursor), after.rest = rest ∧ D ts ∧
      cursor.scan = (ts ++ after.scan.1, after.scan.2)

namespace Spells

variable {before before' : List Char → Prop} {text text' : List Char} {D E : List Token → Prop}

theorem nil (h : D []) : Spells before [] D :=
  fun cursor _ hrest _ => ⟨[], cursor, hrest, h, rfl⟩

theorem imp (h : Spells before text D) (hbefore : ∀ rest, before' rest → before rest)
    (hD : ∀ ts, D ts → E ts) : Spells before' text E := by
  intro cursor rest hrest hrest'
  obtain ⟨ts, after, hafter, hts, hscan⟩ := h cursor rest hrest (hbefore rest hrest')
  exact ⟨ts, after, hafter, hD ts hts, hscan⟩

/-- One text behind the other. -/
theorem andThen (h : Spells before text D)
    (hbefore : ∀ rest, before' rest → before (text' ++ rest))
    (htail : ∀ ts, D ts → Spells before' text' fun us => E (ts ++ us)) :
    Spells before' (text ++ text') E := by
  intro cursor rest hrest hrest'
  rw [List.append_assoc] at hrest
  -- The second text starts at the cursor where the first one ends.
  obtain ⟨ts, after, hafter, hts, hscan⟩ := h cursor _ hrest (hbefore rest hrest')
  obtain ⟨us, last, hlast, hus, hscan'⟩ := htail ts hts after rest hafter hrest'
  refine ⟨ts ++ us, last, hlast, hus, ?_⟩
  rw [hscan, hscan', List.append_assoc]

/-- A blank in front. -/
theorem blank {c : Char} (hc : Lexeme.isBlank c = true) (h : Spells before text D) :
    Spells before (c :: text) D := by
  intro cursor rest hrest hrest'
  rw [Cursor.scan_blank hrest hc]
  exact h _ rest rfl hrest'

/-- The next token and what the text behind it spells. -/
theorem behind {cursor after : Cursor} {rest : List Char} {t : Token}
    (h : Spells before text fun ts => D (t :: ts)) (hnext : cursor.next = (.ok t, after))
    (hend : t.kind ≠ .endOfInput) (hrest : after.rest = text ++ rest) (hrest' : before rest) :
    ∃ (ts : List Token) (last : Cursor), last.rest = rest ∧ D ts ∧
      cursor.scan = (ts ++ last.scan.1, last.scan.2) := by
  obtain ⟨us, last, hlast, hus, hscan⟩ := h after rest hrest hrest'
  refine ⟨t :: us, last, hlast, hus, ?_⟩
  rw [Cursor.scan_token hnext hend, hscan, List.cons_append]

/-- A word in front, which must be one whatever follows. -/
theorem word (word : List Char) (kind : Token.Kind)
    (hfirst : ∀ rest, before rest →
      Lexeme.first (word ++ (text ++ rest)) = some ⟨.token kind, word, text ++ rest⟩)
    (hkind : kind.isLone = true)
    (tail : ∀ t : Token, t.kind = kind → t.data = Lexeme.data kind word →
      Spells before text fun ts => D (t :: ts)) : Spells before (word ++ text) D := by
  intro cursor rest hrest hrest'
  rw [List.append_assoc] at hrest
  have hnext := Cursor.next_of_first (hrest ▸ hfirst rest hrest')
  have hnot : kind ≠ .notWord := by
    rintro rfl
    cases hkind
  have hend : kind ≠ .endOfInput := by
    rintro rfl
    cases hkind
  rw [Cursor.take, if_neg hnot] at hnext
  exact (tail _ rfl rfl).behind hnext hend rfl hrest'

/-- A word with a blank behind it. -/
theorem keyword (word : List Char) (kind : Token.Kind)
    (hfirst : ∀ rest, Lexeme.first (word ++ ' ' :: rest) = some ⟨.token kind, word, ' ' :: rest⟩)
    (hkind : kind.isLone = true)
    (tail : ∀ t : Token, t.kind = kind → Spells before text fun ts => D (t :: ts)) :
    Spells before (word ++ ' ' :: text) D :=
  Spells.word word kind (fun _ _ => hfirst _) hkind fun t ht _ => (tail t ht).blank rfl

/-- The operator of two words, with the blank behind it. -/
theorem notIn (tail : ∀ t : Token, t.kind = .notIn → Spells before text fun ts => D (t :: ts)) :
    Spells before ('n' :: 'o' :: 't' :: ' ' :: 'i' :: 'n' :: ' ' :: text) D := by
  intro cursor rest hrest hrest'
  have hfirst : Lexeme.first cursor.rest =
      some ⟨.token .notWord, ['n', 'o', 't'], ' ' :: 'i' :: 'n' :: ' ' :: (text ++ rest)⟩ := by
    rw [hrest]
    rfl
  -- The first word looks ahead for the second and takes it along.
  have hfollowing : Cursor.followingIn (' ' :: 'i' :: 'n' :: ' ' :: (text ++ rest)) =
      some ([' ', 'i', 'n'], ' ' :: (text ++ rest)) := rfl
  have hnext := Cursor.next_of_first hfirst
  rw [Cursor.take, if_pos rfl, hfollowing] at hnext
  have hend : Token.Kind.notIn ≠ .endOfInput := by decide
  exact ((tail _ rfl).blank (c := ' ') rfl).behind hnext hend rfl hrest'

/-- A sign in front with which no longer one starts. -/
theorem sign {c : Char} (kind : Token.Kind) (h : Lexeme.signKind c = some kind)
    (tail : ∀ t : Token, t.kind = kind → Spells before text fun ts => D (t :: ts)) :
    Spells before (c :: text) D := by
  have hkind : kind.isLone = true := by
    have hsymbol := (Lexeme.symbolKind_of_signKind h).1
    unfold Lexeme.symbolKind at hsymbol
    split at hsymbol <;> cases hsymbol <;> rfl
  exact word [c] kind (fun rest _ => Lexeme.first_sign h _) hkind fun t ht _ => tail t ht

end Spells

/-! ## Words with a text of their own -/

/-- What follows does not go on with a word. -/
abbrev Breaks (cs : List Char) : Prop :=
  Stops Lexeme.isNamePart cs

theorem Lexeme.isNameStart_of_isDigit {c : Char} (h : isDigit c = true) :
    isNameStart c = false := by
  simp only [isDigit, Bool.and_eq_true, decide_eq_true_eq, Char.le_def, UInt32.le_iff_toNat_le] at h
  obtain ⟨-, hle⟩ := h
  have hle : c.val.toNat ≤ 57 := hle
  have hsmall : ¬ 'a' ≤ c := by
    intro ha
    have : 97 ≤ c.val.toNat := UInt32.le_iff_toNat_le.mp (Char.le_def.mp ha)
    omega
  have hlarge : ¬ 'A' ≤ c := by
    intro ha
    have : 65 ≤ c.val.toNat := UInt32.le_iff_toNat_le.mp (Char.le_def.mp ha)
    omega
  have hunderscore : c ≠ '_' := by
    rintro rfl
    exact absurd hle (by decide)
  simp [isNameStart, hsmall, hlarge, hunderscore]

theorem Stops.takeWhile_append {p : Char → Bool} {cs rest : List Char} (h : Stops p rest)
    (hcs : ∀ d ∈ cs, p d = true) : (cs ++ rest).takeWhile p = cs := by
  rw [List.takeWhile_append_of_pos hcs]
  cases rest with
  | nil => simp
  | cons d ds => simp [h d rfl]

theorem Stops.dropWhile_append {p : Char → Bool} {cs rest : List Char} (h : Stops p rest)
    (hcs : ∀ d ∈ cs, p d = true) : (cs ++ rest).dropWhile p = rest := by
  rw [List.dropWhile_append_of_pos hcs]
  cases rest with
  | nil => rfl
  | cons d ds => simp [h d rfl]

theorem Lexeme.run_append (shape : List Char → Shape) {p : Char → Bool} {cs rest : List Char}
    (c : Char) (hcs : ∀ d ∈ cs, p d = true) (hrest : Stops p rest) :
    run shape p c (cs ++ rest) = ⟨shape (c :: cs), c :: cs, rest⟩ := by
  simp only [run, hrest.takeWhile_append hcs, hrest.dropWhile_append hcs]

theorem Lexeme.quoted_append {cs : List Char} (h : '\'' ∉ cs) (rest : List Char) :
    quoted (cs ++ '\'' :: rest) = ⟨.token .string, '\'' :: cs ++ ['\''], rest⟩ := by
  have hcs : ∀ d ∈ cs, (d != '\'') = true := by
    intro d hd
    rw [bne_iff_ne]
    rintro rfl
    exact h hd
  have hrest : Stops (· != '\'') ('\'' :: rest) := .cons rfl
  simp only [quoted, hrest.takeWhile_append hcs, hrest.dropWhile_append hcs]

namespace Spells

variable {before : List Char → Prop} {text : List Char} {D : List Token → Prop}

/-- A name or a reserved word, where no blank needs to follow. -/
theorem wordOf {kind : Token.Kind} {s : String} (hs : IsWord kind s) (hkind : kind.isLone = true)
    (hbefore : ∀ rest, before rest → Breaks (text ++ rest))
    (tail : ∀ t : Token, t.kind = kind → t.data = Lexeme.data kind s.toList →
      Spells before text fun ts => D (t :: ts)) : Spells before (s.toList ++ text) D := by
  obtain ⟨c, cs, hlist, hc, hcs, hreserved⟩ := hs
  have hword : String.ofList (c :: cs) = s := by rw [← hlist, String.ofList_toList]
  rw [hlist] at tail ⊢
  refine word (c :: cs) kind (fun rest hrest => ?_) hkind tail
  have hrun := Lexeme.run_append (fun text => .token (Lexeme.wordKind (String.ofList text))) c
    (List.all_eq_true.mp hcs) (hbefore rest hrest)
  rw [hword, hreserved] at hrun
  rw [List.cons_append, Lexeme.first, Lexeme.firstFrom, if_pos hc, hrun]

theorem name {s : String} (hs : IsName s) (hbefore : ∀ rest, before rest → Breaks (text ++ rest))
    (tail : ∀ t : Token, t.kind = .name → t.data = s → Spells before text fun ts => D (t :: ts)) :
    Spells before (s.toList ++ text) D := by
  refine wordOf hs rfl hbefore fun t ht hdata => tail t ht ?_
  rw [hdata]
  exact String.ofList_toList

theorem integer {s : String} (hs : ∀ c ∈ s.toList, c.isDigit = true) (hne : s.toList ≠ [])
    (hbefore : ∀ rest, before rest → Breaks (text ++ rest))
    (tail : ∀ t : Token, t.kind = .integer → t.data = s →
      Spells before text fun ts => D (t :: ts)) : Spells before (s.toList ++ text) D := by
  obtain ⟨c, cs, hlist⟩ := List.exists_cons_of_ne_nil hne
  have hword : String.ofList (c :: cs) = s := by rw [← hlist, String.ofList_toList]
  rw [hlist] at hs ⊢
  have hdigits : ∀ d ∈ c :: cs, Lexeme.isDigit d = true := by
    intro d hd
    rw [Lexeme.isDigit_eq]
    exact hs d hd
  obtain ⟨hc, hcs⟩ := List.forall_mem_cons.mp hdigits
  refine word (c :: cs) .integer (fun rest hrest => ?_) rfl fun t ht hdata => ?_
  · have hstops : Stops Lexeme.isDigit (text ++ rest) :=
      (hbefore rest hrest).imp fun d hd => by simp [Lexeme.isNamePart, hd]
    have hrun := Lexeme.run_append (fun _ => .token .integer) c hcs hstops
    rw [List.cons_append, Lexeme.first, Lexeme.firstFrom,
      if_neg (ne_true_of_eq_false (Lexeme.isNameStart_of_isDigit hc)), if_pos hc, hrun]
  · exact tail t ht (hdata.trans hword)

theorem string {s : String} (hs : '\'' ∉ s.toList)
    (tail : ∀ t : Token, t.kind = .string → t.data = s →
      Spells before text fun ts => D (t :: ts)) :
    Spells before ('\'' :: (s.toList ++ '\'' :: text)) D := by
  have htext : '\'' :: (s.toList ++ '\'' :: text) = '\'' :: s.toList ++ ['\''] ++ text := by simp
  rw [htext]
  refine word _ .string (fun rest _ => ?_) rfl fun t ht hdata => tail t ht ?_
  · have hquoted := Lexeme.quoted_append hs (text ++ rest)
    rw [List.append_assoc, List.cons_append, List.singleton_append]
    exact congrArg some hquoted
  · simp [hdata, Lexeme.data]

theorem comment {s : String} (hs : '\n' ∉ s.toList)
    (hbefore : ∀ rest, before rest → Stops (· != '\n') (text ++ rest))
    (tail : ∀ t : Token, t.kind = .comment → t.data = s →
      Spells before text fun ts => D (t :: ts)) :
    Spells before ('/' :: '/' :: (s.toList ++ text)) D := by
  refine word ('/' :: '/' :: s.toList) .comment (fun rest hrest => ?_) rfl
    fun t ht hdata => tail t ht ?_
  · have hbody : ∀ d ∈ '/' :: s.toList, (d != '\n') = true := by
      intro d hd
      rcases List.mem_cons.mp hd with rfl | hd
      · rfl
      · rw [bne_iff_ne]
        rintro rfl
        exact hs hd
    have hrun := Lexeme.run_append (fun _ => .token .comment) '/' hbody (hbefore rest hrest)
    exact congrArg some hrun
  · simp [hdata, Lexeme.data]

end Spells

end Scriptlet
