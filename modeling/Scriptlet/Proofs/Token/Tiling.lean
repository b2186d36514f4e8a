import Scriptlet.Proofs.Token.Longest

/-!
# Tokens tile the source

The tokens of a source lie side by side in it, with nothing but blanks between them, and each is the
longest lexeme that starts at its place (`tokenize_tiles`). Where a token lies is told by its
position: so many octets behind the start of its line. If scanning fails, the tokens up to there
tile the source in the same way, and no lexeme starts at the place of the error.

The cursor counts lines and columns as it moves. What carries the proof is that its coordinates are
always those behind the text that it has passed (`Cursor.Stands`).
-/

namespace Scriptlet

/-! ## Places in the source -/

/-- The number of octets in front of a line; the first line has the number zero. -/
def lineStart? : List Char → Nat → Option Nat
  | _, 0 => some 0
  | [], _ + 1 => none
  | c :: cs, line + 1 =>
    (lineStart? cs (if c = '\n' then line else line + 1)).map (c.utf8Size + ·)

/-- The number of octets in front of a position. -/
def Position.offset? (source : List Char) (p : Position) : Option Nat :=
  (lineStart? source p.line).map (· + p.column)

/-- The octets of the first position end before those of the second start. -/
def Position.Precedes (source : List Char) (p q : Position) : Prop :=
  ∃ m n, p.offset? source = some m ∧ q.offset? source = some n ∧ m + p.length ≤ n

/-! ## Tilings -/

def Blanks (cs : List Char) : Prop :=
  ∀ c ∈ cs, Lexeme.isBlank c = true

/-- The word `in` comes next, behind blanks. -/
def InFollows (cs : List Char) : Prop :=
  ∃ gap word rest, Blanks gap ∧ cs = gap ++ (word ++ rest) ∧ Longest .inWord word rest

/-- In front of `rest`, the text is one token: the longest lexeme, where `not`, blanks and `in` are
taken together. -/
inductive Tile : Token.Kind → List Char → List Char → Prop
  | lexeme {kind : Token.Kind} {text rest : List Char} (longest : Longest kind text rest)
    (alone : kind = .notWord → ¬ InFollows rest) : Tile kind text rest
  | notIn {first gap second rest : List Char}
    (longest : Longest .notWord first (gap ++ (second ++ rest))) (blank : Blanks gap)
    (longest' : Longest .inWord second rest) : Tile .notIn (first ++ (gap ++ second)) rest

/-- A token of this kind with the text carries this data. -/
def Token.Kind.Carries (kind : Token.Kind) (text : List Char) (data : String) : Prop :=
  match kind with
  | .string => text = '\'' :: data.toList ++ ['\'']
  | .comment => text = '/' :: '/' :: data.toList
  | .notIn => data = "not in"
  | _ => text = data.toList

/-- The token is the text that lies between `before` and `rest`. -/
structure Token.Covers (t : Token) (before text rest : List Char) : Prop where
  tile : Tile t.kind text rest
  data : t.kind.Carries text t.data
  offset : t.position.offset? (before ++ (text ++ rest)) = some (octets before)
  length : t.position.length = octets text

/-- The tokens cover the text behind `before`, up to `left` and except for blanks. -/
inductive Tiles : List Char → List Char → List Token → List Char → Prop
  | blank {before gap left : List Char} (blank : Blanks gap) : Tiles before (gap ++ left) [] left
  | token {before gap text rest left : List Char} {t : Token} {ts : List Token}
    (blank : Blanks gap) (covers : t.Covers (before ++ gap) text rest)
    (tail : Tiles (before ++ gap ++ text) rest ts left) :
    Tiles before (gap ++ (text ++ rest)) (t :: ts) left

/-- The empty token at the end of the source. -/
structure Token.Ends (t : Token) (source : List Char) : Prop where
  kind : t.kind = .endOfInput
  data : t.data = ""
  offset : t.position.offset? source = some (octets source)
  length : t.position.length = 0

/-- What is wrong behind `before`, where `left` comes: a quote without a later one, or else a
character with which no lexeme starts. -/
inductive LexError.Blames (before : List Char) : List Char → LexError → Prop
  | unterminated {body : List Char} {p : Position} (unquoted : '\'' ∉ body)
    (offset : p.offset? (before ++ '\'' :: body) = some (octets before)) :
    Blames before ('\'' :: body) (.unterminatedString p)
  | unrecognized {c : Char} {rest : List Char} {p : Position} (noQuote : c ≠ '\'')
    (noLexeme : ∀ kind text, IsLexeme kind text → ¬ text <+: c :: rest)
    (offset : p.offset? (before ++ c :: rest) = some (octets before)) :
    Blames before (c :: rest) (.unrecognizedInput (String.ofList [c]) p)

/-- What scanning gives for the text behind `before`: all its tokens, or those up to an error. -/
def Scans (before text : List Char) : List Token × Option LexError → Prop
  | (ts, none) => ∃ tiles last, ts = tiles ++ [last] ∧ Tiles before text tiles [] ∧
      last.Ends (before ++ text)
  | (ts, some e) => ∃ between left, before ++ text = between ++ left ∧ Tiles before text ts left ∧
      e.Blames between left

/-! ## Counting octets -/

@[simp]
theorem octets_cons (c : Char) (cs : List Char) : octets (c :: cs) = c.utf8Size + octets cs :=
  rfl

@[simp]
theorem octets_append (cs ds : List Char) : octets (cs ++ ds) = octets cs + octets ds := by
  induction cs with
  | nil => exact (Nat.zero_add _).symm
  | cons c cs ih => rw [List.cons_append, octets_cons, octets_cons, ih, Nat.add_assoc]

theorem octets_pos {cs : List Char} (h : cs ≠ []) : 0 < octets cs := by
  cases cs with
  | nil => exact absurd rfl h
  | cons c cs => exact Nat.lt_of_lt_of_le c.utf8Size_pos (Nat.le_add_right _ _)

theorem IsLexeme.ne_nil {kind : Token.Kind} {text : List Char} (h : IsLexeme kind text) :
    text ≠ [] := by
  rintro rfl
  cases Lexeme.first_of_isLexeme h

theorem Tile.ne_nil {kind : Token.Kind} {text rest : List Char} (h : Tile kind text rest) :
    text ≠ [] := by
  cases h with
  | lexeme longest _ => exact longest.isLexeme.ne_nil
  | notIn longest _ _ => exact fun h => longest.isLexeme.ne_nil (List.append_eq_nil_iff.mp h).1

namespace Cursor

theorem behind_append (line column : Nat) (cs ds : List Char) :
    behind line column (cs ++ ds) =
      behind (behind line column cs).1 (behind line column cs).2 ds := by
  induction cs generalizing line column with
  | nil => rfl
  | cons c cs ih =>
    rw [List.cons_append, behind, behind]
    split <;> exact ih _ _

/-- Text on one line moves the column only. -/
theorem behind_of_unbroken {cs : List Char} (h : '\n' ∉ cs) (line column : Nat) :
    behind line column cs = (line, column + octets cs) := by
  induction cs generalizing column with
  | nil => rfl
  | cons c cs ih =>
    rw [List.mem_cons, not_or] at h
    rw [behind, if_neg (Ne.symm h.1), ih h.2, octets_cons, Nat.add_assoc]

/-- The line that comes behind a text starts within it, unless it is the one on which the text
starts. -/
theorem lineStart?_behind (cs rest : List Char) (line column : Nat) :
    ∃ further start, (behind line column cs).1 = line + further ∧
      lineStart? (cs ++ rest) further = some start ∧
      start + (behind line column cs).2 = octets cs + if further = 0 then column else 0 := by
  induction cs generalizing line column with
  | nil => exact ⟨0, 0, rfl, by rw [List.nil_append, lineStart?], rfl⟩
  | cons c cs ih =>
    rw [behind]
    split
    -- A line break begins a line, so the column no longer counts what comes before it.
    · rename_i hc
      obtain ⟨further, start, hline, hstart, hcolumn⟩ := ih (line + 1) 0
      refine ⟨further + 1, c.utf8Size + start, by omega, ?_, ?_⟩
      · rw [List.cons_append, lineStart?, if_pos hc, hstart, Option.map_some]
      · rw [octets_cons, if_neg (Nat.succ_ne_zero _)]
        simp only [ite_self] at hcolumn
        omega
    · rename_i hc
      obtain ⟨further, start, hline, hstart, hcolumn⟩ := ih line (column + c.utf8Size)
      cases further with
      | zero =>
        rw [lineStart?] at hstart
        cases hstart
        rw [if_pos rfl] at hcolumn
        exact ⟨0, 0, hline, by rw [lineStart?], by rw [octets_cons, if_pos rfl]; omega⟩
      | succ further =>
        rw [if_neg (Nat.succ_ne_zero _)] at hcolumn
        refine ⟨further + 1, c.utf8Size + start, hline, ?_, ?_⟩
        · rw [List.cons_append, lineStart?, if_neg hc, hstart, Option.map_some]
        · rw [octets_cons, if_neg (Nat.succ_ne_zero _)]
          omega

/-- The coordinates of the cursor are those behind this text. -/
def Stands (cursor : Cursor) (before : List Char) : Prop :=
  behind 0 0 before = (cursor.line, cursor.column)

namespace Stands

variable {cursor : Cursor} {before : List Char}

theorem offset (h : cursor.Stands before) (rest : List Char) (length : Nat) :
    Position.offset? (before ++ rest) ⟨cursor.line, cursor.column, length⟩ =
      some (octets before) := by
  obtain ⟨further, start, hline, hstart, hcolumn⟩ := lineStart?_behind before rest 0 0
  rw [h] at hline hcolumn
  obtain rfl : cursor.line = further := hline.trans (Nat.zero_add _)
  rw [ite_self] at hcolumn
  rw [Position.offset?, hstart, Option.map_some]
  exact congrArg some hcolumn

theorem pass (h : cursor.Stands before) (text rest : List Char) :
    (cursor.pass text rest).Stands (before ++ text) := by
  rw [Stands, behind_append, h]
  rfl

theorem passUnlined (h : cursor.Stands before) {text : List Char} (htext : '\n' ∉ text)
    (rest : List Char) : (cursor.passUnlined text rest).Stands (before ++ text) := by
  rw [Stands, behind_append, h, behind_of_unbroken htext]
  rfl

end Stands

/-! ## One token -/

theorem blanks_takeWhile (cs : List Char) : Blanks (cs.takeWhile Lexeme.isBlank) :=
  fun _ hc => List.mem_takeWhile_imp hc

theorem Blanks.unbroken {cs : List Char} (h : Blanks cs) : '\n' ∉ cs :=
  fun hmem => by cases h _ hmem

/-- A word starts with no blank, so the blanks in front of it are all there are. -/
theorem takeWhile_isBlank_append {gap word : List Char} (hgap : Blanks gap)
    (hword : IsLexeme .inWord word) (rest : List Char) :
    (gap ++ (word ++ rest)).takeWhile Lexeme.isBlank = gap ∧
      (gap ++ (word ++ rest)).dropWhile Lexeme.isBlank = word ++ rest := by
  have hstops : Stops Lexeme.isBlank (word ++ rest) := by
    cases hword with
    | reserved isReserved =>
      cases isReserved
      exact .cons rfl
    | sign isSign => cases isSign
  exact ⟨hstops.takeWhile_append hgap, hstops.dropWhile_append hgap⟩

theorem followingIn_eq_some {rest more after : List Char}
    (h : followingIn rest = some (more, after)) :
    ∃ gap word, more = gap ++ word ∧ rest = gap ++ (word ++ after) ∧ Blanks gap ∧
      Longest .inWord word after := by
  unfold followingIn at h
  split at h
  · rename_i word after' hfirst
    cases h
    obtain ⟨hdrop, hlongest⟩ := Lexeme.first_eq_token_iff.mp hfirst
    refine ⟨_, word, rfl, ?_, blanks_takeWhile rest, hlongest⟩
    rw [← hdrop, List.takeWhile_append_dropWhile]
  · cases h

theorem not_inFollows {rest : List Char} (h : followingIn rest = none) : ¬ InFollows rest := by
  rintro ⟨gap, word, after, hgap, rfl, hlongest⟩
  obtain ⟨htake, hdrop⟩ := takeWhile_isBlank_append hgap hlongest.isLexeme after
  rw [followingIn, hdrop, Lexeme.first_eq_token_iff.mpr ⟨rfl, hlongest⟩] at h
  cases h

theorem carries_data {kind : Token.Kind} {text : List Char} (h : IsLexeme kind text) :
    kind.Carries text (Lexeme.data kind text) := by
  cases h with
  | string => simp [Token.Kind.Carries, Lexeme.data]
  | comment => simp [Token.Kind.Carries, Lexeme.data]
  | name | integer => simp [Token.Kind.Carries, Lexeme.data]
  | reserved isReserved => cases kind <;> cases isReserved <;> exact String.toList_ofList.symm
  | sign isSign => cases kind <;> cases isSign <;> exact String.toList_ofList.symm

/-- What is read right at the cursor covers what has been passed. -/
theorem read_covers {cursor after : Cursor} {before : List Char} {t : Token}
    (hstands : cursor.Stands before) (h : cursor.read = (.ok t, after))
    (hkind : t.kind ≠ .endOfInput) :
    ∃ text, cursor.rest = text ++ after.rest ∧ t.Covers before text after.rest ∧
      after.Stands (before ++ text) := by
  unfold read at h
  split at h
  · cases h
    exact absurd rfl hkind
  · rename_i kind text rest hfirst
    obtain ⟨hrest, hlongest⟩ := Lexeme.first_eq_token_iff.mp hfirst
    cases h
    -- Every token is what was read right there, except for the word `not` in front of `in`.
    have halone : (kind = .notWord → ¬ InFollows rest) →
        ∃ text', cursor.rest = text' ++ (cursor.takeAlone kind text rest).2.rest ∧
          (cursor.takeAlone kind text rest).1.Covers before text' _ ∧
          (cursor.takeAlone kind text rest).2.Stands (before ++ text') := fun hnot =>
      ⟨text, hrest, ⟨.lexeme hlongest hnot, carries_data hlongest.isLexeme,
        hstands.offset (text ++ rest) _, rfl⟩, hstands.pass text rest⟩
    unfold take
    split
    · rename_i hnot
      subst hnot
      split
      · rename_i more behindIn hfollowing
        obtain ⟨gap, word, rfl, rfl, hgap, hin⟩ := followingIn_eq_some hfollowing
        refine ⟨text ++ (gap ++ word), ?_, ⟨.notIn hlongest hgap hin, rfl, hstands.offset _ _, rfl⟩,
          hstands.pass _ _⟩
        rw [hrest]
        simp [pass]
      · rename_i hfollowing
        exact halone fun _ => not_inFollows hfollowing
    · rename_i hnot
      exact halone fun hkind => absurd hkind hnot
  · cases h
  · cases h

/-- Only with nothing to come does the source end. -/
theorem read_ends {cursor after : Cursor} {before : List Char} {t : Token}
    (hstands : cursor.Stands before) (h : cursor.read = (.ok t, after))
    (hkind : t.kind = .endOfInput) : cursor.rest = [] ∧ t.Ends before := by
  cases hrest : cursor.rest with
  | nil =>
    rw [read, hrest] at h
    cases h
    have hoffset := hstands.offset [] 0
    rw [List.append_nil] at hoffset
    exact ⟨rfl, rfl, rfl, hoffset, rfl⟩
  | cons c cs =>
    exfalso
    unfold read at h
    split at h
    · rename_i hfirst
      rw [hrest] at hfirst
      cases hfirst
    · rename_i kind text rest hfirst
      have hlexeme := Lexeme.isLexeme_of_first hfirst
      cases h
      unfold take at hkind
      split at hkind
      · split at hkind
        · cases hkind
        · rename_i hnot _ _
          subst hnot
          cases hkind
      · change kind = .endOfInput at hkind
        subst hkind
        cases hlexeme with
        | reserved isReserved => cases isReserved
        | sign isSign => cases isSign
    · cases h
    · cases h

/-- Where reading fails, no lexeme starts. -/
theorem read_blames {cursor after : Cursor} {before : List Char} {e : LexError}
    (hstands : cursor.Stands before) (h : cursor.read = (.error e, after)) :
    e.Blames before cursor.rest := by
  unfold read at h
  split at h
  · cases h
  · cases h
  · rename_i text rest hfirst
    cases h
    obtain ⟨body, hrest, hbody⟩ := Lexeme.openString_of_first hfirst
    have hoffset := hstands.offset cursor.rest (octets text)
    rw [hrest] at hoffset ⊢
    exact .unterminated hbody hoffset
  · rename_i text rest hfirst
    cases h
    obtain ⟨c, rfl, hrest, hquote⟩ := Lexeme.unknown_of_first hfirst
    have hoffset := hstands.offset cursor.rest (octets [c])
    have hnone : ∀ kind text, IsLexeme kind text → ¬ text <+: cursor.rest := fun _ _ =>
      Lexeme.not_isLexeme_of_first hfirst fun _ => Lexeme.Shape.noConfusion
    rw [hrest] at hoffset hnone ⊢
    exact .unrecognized hquote hnone hoffset

/-! ## All tokens -/

/-- What is true of the text behind the blanks is reached through them. -/
theorem Stands.skipBlanks {cursor : Cursor} {before : List Char} (h : cursor.Stands before) :
    ∃ gap, Blanks gap ∧ cursor.rest = gap ++ cursor.skipBlanks.rest ∧
      cursor.skipBlanks.Stands (before ++ gap) :=
  ⟨_, blanks_takeWhile cursor.rest, List.takeWhile_append_dropWhile.symm,
    h.passUnlined (Blanks.unbroken (blanks_takeWhile cursor.rest)) _⟩

/-- The tokens from the cursor on tile the text to come, up to its end or to the error. -/
theorem scan_tiles {cursor : Cursor} {before : List Char} (hstands : cursor.Stands before) :
    Scans before cursor.rest cursor.scan := by
  fun_induction scan cursor generalizing before with
  | case1 cursor e after hnext =>
    obtain ⟨gap, hgap, hrest, hskipped⟩ := hstands.skipBlanks
    refine ⟨before ++ gap, _, ?_, hrest ▸ .blank hgap, read_blames hskipped hnext⟩
    rw [hrest, List.append_assoc]
  | case2 cursor t after hnext hkind =>
    obtain ⟨gap, hgap, hrest, hskipped⟩ := hstands.skipBlanks
    obtain ⟨hdone, hend⟩ := read_ends hskipped hnext hkind
    rw [hdone] at hrest
    refine ⟨[], t, rfl, hrest ▸ .blank hgap, ?_⟩
    rw [hrest, List.append_nil]
    exact hend
  | case3 cursor t after hnext hkind hlt tokens error hscan ih =>
    obtain ⟨gap, hgap, hrest, hskipped⟩ := hstands.skipBlanks
    obtain ⟨text, hrest', hcovers, hpassed⟩ := read_covers hskipped hnext hkind
    rw [hrest'] at hrest
    have hsource : before ++ cursor.rest = before ++ gap ++ text ++ after.rest := by
      rw [hrest]
      simp
    have htail := ih hpassed
    rw [hscan] at htail
    cases error with
    | none =>
      obtain ⟨tiles, last, rfl, htiles, hlast⟩ := htail
      exact ⟨t :: tiles, last, rfl, hrest ▸ .token hgap hcovers htiles, hsource ▸ hlast⟩
    | some e =>
      obtain ⟨between, left, hbetween, htiles, hblames⟩ := htail
      exact ⟨between, left, hsource.trans hbetween, hrest ▸ .token hgap hcovers htiles, hblames⟩

end Cursor

namespace Tiles

variable {before source text left : List Char} {ts : List Token}

/-- Every token lies behind what comes before the tiles, takes up some text, and ends within the
source. -/
theorem within (h : Tiles before text ts left) : ∀ t ∈ ts,
    ∃ n, t.position.offset? (before ++ text) = some n ∧ octets before ≤ n ∧
      0 < t.position.length ∧ n + t.position.length ≤ octets (before ++ text) := by
  induction h with
  | blank => simp
  | @token before gap text rest left t ts blank covers tail ih =>
    have hsource : before ++ (gap ++ (text ++ rest)) = before ++ gap ++ (text ++ rest) := by simp
    rw [hsource, List.forall_mem_cons]
    refine ⟨⟨_, covers.offset, ?_, ?_, ?_⟩, fun u hu => ?_⟩
    · simp only [octets_append, Nat.le_add_right]
    · exact covers.length ▸ octets_pos covers.tile.ne_nil
    · simp only [covers.length, octets_append]
      omega
    · obtain ⟨n, hn, hle, hpos, hend⟩ := ih u hu
      rw [List.append_assoc _ text rest] at hn hend
      refine ⟨n, hn, ?_, hpos, hend⟩
      simp only [octets_append] at hle
      omega

/-- The tokens lie in the source one behind the other. -/
theorem precedes (h : Tiles before text ts left) :
    ts.Pairwise fun t u => t.position.Precedes (before ++ text) u.position := by
  induction h with
  | blank => exact .nil
  | @token before gap text rest left t ts blank covers tail ih =>
    have hsource : before ++ (gap ++ (text ++ rest)) = before ++ gap ++ text ++ rest := by simp
    rw [hsource, List.pairwise_cons]
    refine ⟨fun u hu => ?_, ih⟩
    obtain ⟨n, hn, hle, -⟩ := tail.within u hu
    refine ⟨_, n, by simpa using covers.offset, hn, ?_⟩
    rw [covers.length]
    simpa only [octets_append] using hle

end Tiles

theorem Position.Precedes.ne {source : List Char} {p q : Position} (h : p.Precedes source q)
    (hp : 0 < p.length) : p ≠ q := by
  rintro rfl
  obtain ⟨m, n, hm, hn, hle⟩ := h
  rw [hm] at hn
  cases hn
  omega

/-- The tokens up to the end of a source lie in it one behind the other, the empty one last. -/
theorem Scans.precedes {text : List Char} {ts : List Token} (h : Scans [] text (ts, none)) :
    ts.Pairwise fun t u =>
      t.position.Precedes text u.position ∧ 0 < t.position.length := by
  obtain ⟨tiles, last, rfl, htiles, hlast⟩ := h
  rw [List.pairwise_append]
  refine ⟨htiles.precedes.imp_of_mem fun ht _ hprecedes => ⟨hprecedes, ?_⟩,
    List.pairwise_singleton _ _, fun t ht u hu => ?_⟩
  · obtain ⟨n, -, -, hpos, -⟩ := htiles.within _ ht
    exact hpos
  · obtain rfl := List.mem_singleton.mp hu
    obtain ⟨n, hn, -, hpos, hend⟩ := htiles.within t ht
    exact ⟨⟨n, _, hn, hlast.offset, hend⟩, hpos⟩

/-- No two tokens of a source stand at the same place. -/
theorem Cursor.nodup_positions_of_scan {source : List Char} {ts : List Token}
    (h : (Cursor.start source).scan = (ts, none)) : (ts.map (·.position)).Nodup := by
  have hscans : Scans [] source (Cursor.start source).scan := scan_tiles rfl
  rw [h] at hscans
  rw [List.nodup_iff_pairwise_ne, List.pairwise_map]
  exact hscans.precedes.imp fun hprecedes => hprecedes.1.ne hprecedes.2

/-- The tokens of a source lie in it one behind the other. Each is the longest lexeme at its place,
only blanks are between them, and the last is the empty one at the end of the source. If the source
has no tokens, those up to the place of the error tile it in the same way, and what is wrong there
is a quote without a later one, or a character with which no lexeme starts. -/
theorem tokenize_tiles (source : String) :
    match tokenize source with
    | .ok ts => ∃ tiles last, ts = tiles ++ [last] ∧ Tiles [] source.toList tiles [] ∧
        last.Ends source.toList ∧
        ts.Pairwise fun t u => t.position.Precedes source.toList u.position
    | .error e => ∃ tiles before left, source.toList = before ++ left ∧
        Tiles [] source.toList tiles left ∧ e.Blames before left := by
  have hscans : Scans [] source.toList (Cursor.start source.toList).scan := Cursor.scan_tiles rfl
  rw [tokenize]
  generalize (Cursor.start source.toList).scan = scanned at hscans ⊢
  obtain ⟨ts, failure⟩ := scanned
  cases failure with
  | none =>
    have hprecedes := hscans.precedes.imp And.left
    obtain ⟨tiles, last, rfl, htiles, hlast⟩ := hscans
    exact ⟨tiles, last, rfl, htiles, hlast, hprecedes⟩
  | some e =>
    obtain ⟨before, left, hsource, htiles, hblames⟩ := hscans
    exact ⟨ts, before, left, hsource, htiles, hblames⟩

end Scriptlet
