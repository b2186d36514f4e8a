import Mathlib.Data.List.Chain
import Mathlib.Data.List.TakeWhile
import Scriptlet.Token.Cursor

/-!
# What the tokens of a source look like

The data of a token fits its kind: a name is a word that is not reserved, a numeral has digits only,
a string holds no quote, and a comment no line break. A comment takes the rest of its line, so what
comes next is a line break or the end (`Cursor.scan_proper`).
-/

namespace Scriptlet

/-- The text does not start with a character that satisfies `p`. -/
def Stops (p : Char → Bool) (cs : List Char) : Prop :=
  ∀ c ∈ cs.head?, p c = false

namespace Stops

variable {p q : Char → Bool} {c : Char} {cs : List Char}

theorem nil : Stops p [] :=
  fun _ h => by cases h

theorem cons (h : p c = false) : Stops p (c :: cs) := by
  intro d hkind
  cases hkind
  exact h

theorem imp (hpq : ∀ d, q d = true → p d = true) (h : Stops p cs) : Stops q cs := by
  intro d hd
  by_contra hq
  have hp := hpq d (eq_true_of_ne_false hq)
  rw [h d hd] at hp
  cases hp

theorem dropWhile : Stops p (cs.dropWhile p) := by
  intro d hd
  have h := List.head?_dropWhile_not p cs
  rw [Option.mem_def.mp hd] at h
  simpa using h

end Stops

/-- A word of this kind. -/
def IsWord (kind : Token.Kind) (s : String) : Prop :=
  ∃ c cs, s.toList = c :: cs ∧ Lexeme.isNameStart c = true ∧
    cs.all Lexeme.isNamePart = true ∧ Lexeme.wordKind s = kind

/-- A word that is not reserved. -/
abbrev IsName (s : String) : Prop :=
  IsWord .name s

/-- The data that tokens of a kind may carry, as far as it is not fixed. -/
def Token.Kind.Allows (kind : Token.Kind) (data : String) : Prop :=
  match kind with
  | .name => IsName data
  | .integer => data.toList ≠ [] ∧ ∀ c ∈ data.toList, c.isDigit = true
  | .string => '\'' ∉ data.toList
  | .comment => '\n' ∉ data.toList
  | _ => True

/-- The data of a token fits its kind. -/
def Token.Proper (t : Token) : Prop :=
  t.kind.Allows t.data

/-- Tokens as a source may hold them. -/
structure ProperTokens (ts : List Token) : Prop where
  each : ∀ t ∈ ts, t.Proper
  /-- Nothing but a line break or the end stands behind a comment. -/
  comments : ts.IsChain fun t u =>
    t.kind = .comment → u.kind = .newLine ∨ u.kind = .endOfInput

namespace ProperTokens

variable {t : Token} {ts ts' : List Token}

theorem of_cons (h : ProperTokens (t :: ts)) : t.Proper ∧ ProperTokens ts :=
  ⟨h.each t List.mem_cons_self,
    fun u hu => h.each u (List.mem_cons_of_mem t hu), h.comments.tail⟩

theorem of_append (h : ProperTokens (ts ++ ts')) : ProperTokens ts ∧ ProperTokens ts' := by
  constructor
  · exact ⟨fun u hu => h.each u (List.mem_append_left ts' hu), h.comments.left_of_append⟩
  · exact ⟨fun u hu => h.each u (List.mem_append_right ts hu), h.comments.right_of_append⟩

end ProperTokens

namespace Lexeme

theorem isDigit_eq (c : Char) : isDigit c = c.isDigit := by
  simp [isDigit, Char.isDigit, Char.le_def]

theorem wordKind_allows {s : String} {c : Char} {cs : List Char} (hs : s.toList = c :: cs)
    (hc : isNameStart c = true) (hcs : cs.all isNamePart = true) :
    (wordKind s).Allows s := by
  have hname : wordKind s = .name → IsName s := fun h => ⟨c, cs, hs, hc, hcs, h⟩
  revert hname
  unfold wordKind
  split <;> intro hname
  all_goals first | exact hname rfl | trivial

theorem data_wordKind (text : List Char) :
    data (wordKind (String.ofList text)) text = String.ofList text := by
  unfold wordKind
  split <;> rfl

theorem symbolKind_allows {c : Char} {kind : Token.Kind} (h : symbolKind c = some kind)
    (s : String) : kind.Allows s := by
  unfold symbolKind at h
  split at h <;> cases h <;> trivial

theorem withEqualKind_allows {c : Char} {kind : Token.Kind} (h : withEqualKind c = some kind)
    (s : String) : kind.Allows s := by
  unfold withEqualKind at h
  split at h <;> cases h <;> trivial

/-- The kind of a character that is a token by itself and with which no longer one starts. -/
def signKind (c : Char) : Option Token.Kind :=
  if c = '/' ∨ withEqualKind c ≠ none then none else symbolKind c

theorem symbolKind_of_signKind {c : Char} {kind : Token.Kind} (h : signKind c = some kind) :
    symbolKind c = some kind ∧ withEqualKind c = none ∧ c ≠ '/' := by
  unfold signKind at h
  split at h
  · cases h
  · rename_i hlonger
    rw [not_or, not_not] at hlonger
    exact ⟨h, hlonger.2, hlonger.1⟩

theorem first_sign {c : Char} {kind : Token.Kind} (h : signKind c = some kind) (cs : List Char) :
    first (c :: cs) = some ⟨.token kind, [c], cs⟩ := by
  obtain ⟨h, hequal, hslash⟩ := symbolKind_of_signKind h
  have hfrom : firstFrom c cs = symbol c cs := by
    unfold symbolKind at h
    split at h <;> first | rfl | cases h
  rw [first, hfrom]
  cases cs with
  | nil => simp [symbol, h]
  | cons d ds =>
    simp only [symbol, h, hequal, hslash, decide_false, Bool.false_and, Bool.false_eq_true,
      if_false, Option.elim_some, Option.elim_none, ite_self]

/-- What the text of a lexeme is like, and for a comment how it ends. -/
def Fits (l : Lexeme) : Prop :=
  ∀ kind, l.shape = .token kind →
    kind.Allows (data kind l.text) ∧ (kind = .comment → Stops (· != '\n') l.rest)

theorem symbol_fits (c : Char) (cs : List Char) : (symbol c cs).Fits := by
  have hsingle : ∀ rest,
      Fits { shape := (symbolKind c).elim .unknown .token, text := [c], rest } := by
    intro rest kind hkind
    cases hc : symbolKind c with
    | none =>
      rw [hc] at hkind
      cases hkind
    | some k =>
      rw [hc] at hkind
      cases hkind
      refine ⟨symbolKind_allows hc _, fun hcomment => ?_⟩
      subst hcomment
      unfold symbolKind at hc
      split at hc <;> cases hc
  unfold symbol
  split
  · exact hsingle []
  · rename_i d ds
    split
    · rename_i hslashes
      intro kind hkind
      cases hkind
      have hd : d = '/' := by
        simp only [Bool.and_eq_true, decide_eq_true_eq] at hslashes
        exact hslashes.2
      subst hd
      refine ⟨?_, fun _ => .dropWhile⟩
      have hbody : '\n' ∉ ds.takeWhile (· != '\n') := by
        intro hmem
        have := List.mem_takeWhile_imp hmem
        simp at this
      simpa [Token.Kind.Allows, data, run] using hbody
    · split
      · cases hc : withEqualKind c with
        | none => exact hsingle _
        | some k =>
          intro kind hkind
          cases hkind
          refine ⟨withEqualKind_allows hc _, fun hcomment => ?_⟩
          subst hcomment
          unfold withEqualKind at hc
          split at hc <;> cases hc
      · exact hsingle _

theorem quoted_fits (cs : List Char) : (quoted cs).Fits := by
  unfold quoted
  split
  · intro kind hkind
    cases hkind
  · intro kind hkind
    cases hkind
    refine ⟨?_, fun hcomment => by cases hcomment⟩
    have hbody : '\'' ∉ cs.takeWhile (· != '\'') := by
      intro hmem
      have := List.mem_takeWhile_imp hmem
      simp at this
    simpa [Token.Kind.Allows, data] using hbody

theorem firstFrom_fits (c : Char) (cs : List Char) : (firstFrom c cs).Fits := by
  unfold firstFrom
  split
  · rename_i hc
    intro kind hkind
    cases hkind
    constructor
    · rw [run, data_wordKind]
      refine wordKind_allows (String.toList_ofList) hc ?_
      exact List.all_eq_true.mpr fun d hd => List.mem_takeWhile_imp hd
    · intro hcomment
      unfold wordKind at hcomment
      split at hcomment <;> cases hcomment
  · split
    · rename_i hc
      intro kind hkind
      cases hkind
      have hdata : data .integer (run (fun _ => .token .integer) isDigit c cs).text =
          String.ofList (c :: cs.takeWhile isDigit) := rfl
      rw [hdata]
      refine ⟨⟨by simp, fun d hd => ?_⟩, fun hcomment => by cases hcomment⟩
      rw [String.toList_ofList, List.mem_cons] at hd
      rw [← isDigit_eq]
      rcases hd with rfl | hd
      · exact hc
      · exact List.mem_takeWhile_imp hd
    · split
      · exact quoted_fits cs
      · exact symbol_fits c cs

end Lexeme

namespace Cursor

theorem read_proper {cursor after : Cursor} {t : Token} (h : cursor.read = (.ok t, after)) :
    t.Proper ∧ (t.kind = .comment → Stops (· != '\n') after.rest) := by
  unfold read at h
  split at h
  · cases h
    exact ⟨trivial, fun hcomment => by cases hcomment⟩
  · rename_i kind text rest heq
    have hfits : Lexeme.Fits ⟨.token kind, text, rest⟩ := by
      cases hrest : cursor.rest with
      | nil =>
        rw [hrest] at heq
        cases heq
      | cons c cs =>
        rw [hrest] at heq
        rw [← Option.some.inj heq]
        exact Lexeme.firstFrom_fits c cs
    obtain ⟨hallows, hcomment⟩ := hfits kind rfl
    cases h
    unfold take
    split
    · split
      · exact ⟨trivial, fun hcomment => by cases hcomment⟩
      · exact ⟨hallows, hcomment⟩
    · exact ⟨hallows, hcomment⟩
  · cases h
  · cases h

theorem next_proper {cursor after : Cursor} {t : Token} (h : cursor.next = (.ok t, after)) :
    t.Proper ∧ (t.kind = .comment → Stops (· != '\n') after.rest) :=
  read_proper h

/-- Where a line ends there is a line break or the end of the source. -/
theorem next_of_stops {cursor after : Cursor} {t : Token} (h : cursor.next = (.ok t, after))
    (hstops : Stops (· != '\n') cursor.rest) : t.kind = .newLine ∨ t.kind = .endOfInput := by
  cases hrest : cursor.rest with
  | nil =>
    rw [next, read, skipBlanks, hrest] at h
    cases h
    exact .inr rfl
  | cons c cs =>
    rw [hrest] at hstops
    have hc : c = '\n' := by simpa using hstops c rfl
    subst hc
    have hfirst : Lexeme.first ('\n' :: cs) = some ⟨.token .newLine, ['\n'], cs⟩ :=
      Lexeme.first_sign rfl cs
    have hskip : ('\n' :: cs).dropWhile Lexeme.isBlank = '\n' :: cs := rfl
    rw [next, read, skipBlanks, passUnlined, hrest, hskip, hfirst] at h
    cases h
    exact .inl rfl

/-- The first of the tokens to come is the next one. -/
theorem next_of_head_scan {cursor : Cursor} {t : Token} (h : t ∈ cursor.scan.1.head?) :
    ∃ after, cursor.next = (.ok t, after) := by
  rw [scan] at h
  split at h
  · cases h
  · rename_i u after hnext
    split at h <;> cases h <;> exact ⟨after, hnext⟩

/-- The tokens of a source are proper. -/
theorem scan_proper {cursor : Cursor} {ts : List Token} (h : cursor.scan = (ts, none)) :
    ProperTokens ts := by
  fun_induction scan cursor generalizing ts with
  | case1 cursor e after hnext => cases h
  | case2 cursor t after hnext hend =>
    cases h
    obtain ⟨ht, -⟩ := next_proper hnext
    refine ⟨fun u hu => ?_, .singleton t⟩
    rwa [List.mem_singleton.mp hu]
  | case3 cursor t after hnext hkind hlt tokens error hscan ih =>
    cases h
    obtain ⟨ht, hcomment⟩ := next_proper hnext
    obtain ⟨heach, hcomments⟩ := ih hscan
    constructor
    · intro u hu
      rcases List.mem_cons.mp hu with rfl | hu
      · exact ht
      · exact heach u hu
    -- Behind a comment the cursor stands at the end of its line.
    · refine List.isChain_cons.mpr ⟨fun u hu hline => ?_, hcomments⟩
      have hhead : u ∈ after.scan.1.head? := by rwa [hscan]
      obtain ⟨_, hu⟩ := next_of_head_scan hhead
      exact next_of_stops hu (hcomment hline)

/-- The end of the source is the last of its tokens, and no other token. -/
theorem scan_ends {cursor : Cursor} {tokens : List Token} (h : cursor.scan = (tokens, none)) :
    ∃ ts t, tokens = ts ++ [t] ∧ (∀ u ∈ ts, u.kind ≠ .endOfInput) ∧ t.kind = .endOfInput := by
  fun_induction scan cursor generalizing tokens with
  | case1 cursor e after hnext => cases h
  | case2 cursor t after hnext hend =>
    cases h
    exact ⟨[], t, rfl, List.forall_mem_nil _, hend⟩
  | case3 cursor t after hnext hkind hlt tokens error hscan ih =>
    cases h
    obtain ⟨ts, last, rfl, hts, hlast⟩ := ih hscan
    exact ⟨t :: ts, last, rfl, List.forall_mem_cons.mpr ⟨hkind, hts⟩, hlast⟩

theorem scan_of_tokenize {source : String} {tokens : List Token}
    (h : tokenize source = .ok tokens) : (start source.toList).scan = (tokens, none) := by
  unfold tokenize at h
  split at h
  · rename_i hscan
    cases h
    exact hscan
  · cases h

end Cursor

end Scriptlet
