import Scriptlet.Token.Lexer
import Scriptlet.Proofs.Text.Utf8
import Scriptlet.Proofs.Token.Tiling

/-!
# What a lexer answers

A lexer can be asked for octets, for tokens and for elements of its stream in any order, and can be
put back to its start. What it answers depends on what has been passed so far, whichever requests
have led there (`Standing`): octets and tokens follow one another through the source, nothing is
lost between them, and every position is that of the octet at which the reported piece starts
(`Lexer.answers_hold`).

There is one exception. A string that is never closed is passed as if it lay on one line. If it does
not, the token for the end of the source that is reported behind it is at another position than the
end of the source, until the lexer is put back.
-/

namespace Scriptlet

/-! ## Lines and columns of octets -/

/-- The octet that ends a line. -/
def lineBreak : UInt8 := 10

/-- The position is the one behind these octets: its line counts the line breaks among them, and its
column the octets behind the last one. -/
structure Position.IsBehind (p : Position) (octets : List UInt8) : Prop where
  line : p.line = octets.count lineBreak
  column : p.column = (octets.reverse.takeWhile (· != lineBreak)).length

theorem lineBreak_not_mem_utf8EncodeChar {c : Char} (h : c ≠ '\n') :
    lineBreak ∉ String.utf8EncodeChar c := by
  intro hmem
  rcases Utf8.high_of_spells (Utf8.spells_utf8EncodeChar c) with ⟨b, hbs, hn⟩ | hhigh
  · rw [hbs, List.mem_singleton] at hmem
    rw [← hmem] at hn
    exact h (Char.ext (UInt32.toNat_inj.mp hn))
  · exact absurd (hhigh _ hmem) (by decide)

namespace Cursor

/-- The cursor counts lines and columns as the octets tell. -/
theorem behind_eq (cs : List Char) :
    behind 0 0 cs = ((Utf8.encode cs).count lineBreak,
      ((Utf8.encode cs).reverse.takeWhile (· != lineBreak)).length) := by
  induction cs using List.reverseRecOn with
  | nil => rfl
  | append_singleton cs c ih =>
    have hsingle : Utf8.encode [c] = String.utf8EncodeChar c := by
      rw [Utf8.encode_cons]
      exact List.append_nil _
    rw [behind_append, ih, Utf8.encode_append, hsingle, behind]
    split
    · rename_i hc
      subst hc
      have hencoded : String.utf8EncodeChar '\n' = [lineBreak] := rfl
      rw [hencoded]
      simp [behind]
    · rename_i hc
      have hnone := lineBreak_not_mem_utf8EncodeChar hc
      have hall : ∀ b ∈ (String.utf8EncodeChar c).reverse, (b != lineBreak) = true := by
        intro b hb
        rw [bne_iff_ne]
        rintro rfl
        exact hnone (List.mem_reverse.mp hb)
      rw [List.count_append, List.count_eq_zero.mpr hnone, List.reverse_append,
        List.takeWhile_append_of_pos hall, List.length_append, List.length_reverse,
        String.length_utf8EncodeChar, behind, Nat.add_comm]
      rfl

/-- The coordinates behind a text are those behind its octets. -/
theorem isBehind_behind (cs : List Char) (length : Nat) :
    Position.IsBehind ⟨(behind 0 0 cs).1, (behind 0 0 cs).2, length⟩ (Utf8.encode cs) :=
  ⟨congrArg Prod.fst (behind_eq cs), congrArg Prod.snd (behind_eq cs)⟩

theorem Stands.isBehind {cursor : Cursor} {before : List Char} (h : cursor.Stands before)
    {p : Position} (hline : p.line = cursor.line) (hcolumn : p.column = cursor.column) :
    p.IsBehind (Utf8.encode before) := by
  have hbehind := (behind_eq before).symm.trans h
  exact ⟨hline.trans (congrArg Prod.fst hbehind).symm,
    hcolumn.trans (congrArg Prod.snd hbehind).symm⟩

end Cursor

/-! ## What is asked and answered -/

/-- How far a lexer has come in its source. -/
structure Standing where
  /-- What has been passed, up to a string that is never closed. -/
  passed : List Char
  /-- Such a string, if it has been passed. -/
  opened : List Char := []
  rest : List Char
  /-- Whether the stream of tokens has ended. -/
  ended : Bool := false

namespace Standing

def source (s : Standing) : List Char :=
  s.passed ++ s.opened ++ s.rest

/-- What comes of the request for a token. -/
inductive Reads : Standing → Except LexError Token → Standing → Prop
  | token {passed gap text rest : List Char} {ended : Bool} {t : Token} (blank : Blanks gap)
    (tile : Tile t.kind text rest) (data : t.kind.Carries text t.data)
    (place : t.position.IsBehind (Utf8.encode (passed ++ gap)))
    (length : t.position.length = octets text) :
    Reads ⟨passed, [], gap ++ (text ++ rest), ended⟩ (.ok t)
      ⟨passed ++ gap ++ text, [], rest, ended⟩
  | last {passed gap : List Char} {ended : Bool} {p : Position} (blank : Blanks gap)
    (place : p.IsBehind (Utf8.encode (passed ++ gap))) (length : p.length = 0) :
    Reads ⟨passed, [], gap, ended⟩ (.ok ⟨.endOfInput, "", p⟩) ⟨passed ++ gap, [], [], true⟩
  | unrecognized {passed gap rest : List Char} {c : Char} {ended : Bool} {p : Position}
    (blank : Blanks gap) (noQuote : c ≠ '\'')
    (noLexeme : ∀ kind text, IsLexeme kind text → ¬ text <+: c :: rest)
    (place : p.IsBehind (Utf8.encode (passed ++ gap))) (length : p.length = c.utf8Size) :
    Reads ⟨passed, [], gap ++ c :: rest, ended⟩ (.error (.unrecognizedInput (String.ofList [c]) p))
      ⟨passed ++ gap ++ [c], [], rest, ended⟩
  | unterminated {passed gap body : List Char} {ended : Bool} {p : Position} (blank : Blanks gap)
    (unquoted : '\'' ∉ body) (place : p.IsBehind (Utf8.encode (passed ++ gap)))
    (length : p.length = octets ('\'' :: body)) :
    Reads ⟨passed, [], gap ++ '\'' :: body, ended⟩ (.error (.unterminatedString p))
      ⟨passed ++ gap, '\'' :: body, [], ended⟩
  /-- Behind a string that is never closed, the end of the source is reported as if the string lay
  on one line. -/
  | lastBehind {passed opened : List Char} {ended : Bool} {p q : Position} (isOpen : opened ≠ [])
    (start : q.IsBehind (Utf8.encode passed)) (line : p.line = q.line)
    (column : p.column = q.column + octets opened) (length : p.length = 0)
    (place : p.IsBehind (Utf8.encode (passed ++ opened)) ↔ '\n' ∉ opened) :
    Reads ⟨passed, opened, [], ended⟩ (.ok ⟨.endOfInput, "", p⟩) ⟨passed, opened, [], true⟩

end Standing

namespace Lexer

/-- What a lexer can be asked for. -/
inductive Request where
  | peek (k : Nat)
  | consume (k : Nat)
  | token
  | next
  | reset

/-- The answer to a request. -/
inductive Answer where
  | octet (b : Option UInt8)
  | text (s : String)
  | token (result : Except LexError Token)
  | element (result : Option (Except LexError Token))
  | done

def answer (lexer : Lexer) : Request → Answer × Lexer
  | .peek k => (.octet (lexer.peek k), lexer)
  | .consume k => (.text (lexer.consume k).1, (lexer.consume k).2)
  | .token => (.token lexer.nextToken.1, lexer.nextToken.2)
  | .next => (.element lexer.next?.1, lexer.next?.2)
  | .reset => (.done, lexer.reset)

/-- The answers to requests, one after another. -/
def answers (lexer : Lexer) : List Request → List Answer
  | [] => []
  | request :: requests =>
    (lexer.answer request).1 :: (lexer.answer request).2.answers requests

end Lexer

namespace Standing

open Lexer (Request Answer)

/-- What comes of a request. -/
inductive Answers : Standing → Request → Answer → Standing → Prop
  | peek {s : Standing} {k : Nat} :
    Answers s (.peek k) (.octet (if k = 0 then none else (Utf8.encode s.rest)[k - 1]?)) s
  | consume {passed opened taken rest : List Char} {ended : Bool} {k : Nat}
    (free : opened = [] ∨ taken = [])
    (enough : min k (octets (taken ++ rest)) ≤ octets taken)
    (shortest : ∀ shorter, shorter <+: taken → shorter ≠ taken →
      octets shorter < min k (octets (taken ++ rest))) :
    Answers ⟨passed, opened, taken ++ rest, ended⟩ (.consume k) (.text (String.ofList taken))
      ⟨passed ++ taken, opened, rest, ended⟩
  | token {s s' : Standing} {result : Except LexError Token} (reads : s.Reads result s') :
    Answers s .token (.token result) s'
  | element {s s' : Standing} {t : Token} (running : s.ended = false) (reads : s.Reads (.ok t) s') :
    Answers s .next (.element (some (.ok t))) s'
  | failure {s s' : Standing} {e : LexError} (running : s.ended = false)
    (reads : s.Reads (.error e) s') :
    Answers s .next (.element (some (.error e))) { s' with ended := true }
  | finished {s : Standing} (ended : s.ended = true) : Answers s .next (.element none) s
  | reset {s : Standing} : Answers s .reset .done ⟨[], [], s.source, false⟩

/-- What comes of requests, one after another. -/
inductive Holds : Standing → List Request → List Answer → Prop
  | nil {s : Standing} : Holds s [] []
  | cons {s s' : Standing} {request : Request} {answer : Answer} {requests : List Request}
    {answers : List Answer} (first : s.Answers request answer s')
    (rest : s'.Holds requests answers) : Holds s (request :: requests) (answer :: answers)

end Standing

/-! ## Octets -/

theorem Cursor.splitOctets_append (k : Nat) (cs : List Char) :
    (splitOctets k cs).1 ++ (splitOctets k cs).2 = cs := by
  fun_induction splitOctets k cs with
  | case1 => rfl
  | case2 => rfl
  | case3 k c cs taken rest heq ih =>
    rw [heq] at ih
    exact congrArg (c :: ·) ih

theorem Cursor.splitOctets_enough (k : Nat) (cs : List Char) :
    min k (octets cs) ≤ octets (splitOctets k cs).1 := by
  fun_induction splitOctets k cs with
  | case1 => exact Nat.min_le_right _ _
  | case2 => exact Nat.zero_le _ |>.trans' (Nat.min_le_left _ _)
  | case3 k c cs taken rest heq ih =>
    rw [heq] at ih
    simp only [octets_cons] at ih ⊢
    omega

theorem Cursor.splitOctets_shortest (k : Nat) (cs : List Char) (shorter : List Char)
    (hfront : shorter <+: (splitOctets k cs).1) (hne : shorter ≠ (splitOctets k cs).1) :
    octets shorter < min k (octets cs) := by
  fun_induction splitOctets k cs generalizing shorter with
  | case1 => exact absurd (List.prefix_nil.mp hfront) hne
  | case2 => exact absurd (List.prefix_nil.mp hfront) hne
  | case3 k c cs taken rest heq ih =>
    rw [heq] at ih
    have hpos := c.utf8Size_pos
    cases shorter with
    | nil =>
      show 0 < min (k + 1) (c.utf8Size + octets cs)
      omega
    | cons d shorter =>
      obtain ⟨rfl, hshorter⟩ := List.cons_prefix_cons.mp hfront
      have hlt := ih shorter hshorter fun h => hne (congrArg (d :: ·) h)
      simp only [octets_cons]
      omega

/-! ## Tokens -/

namespace Cursor

variable {cursor : Cursor}

theorem take_place (cursor : Cursor) (kind : Token.Kind) (text rest : List Char) :
    (cursor.take kind text rest).1.position.line = cursor.line ∧
      (cursor.take kind text rest).1.position.column = cursor.column := by
  unfold take
  split
  · split
    · exact ⟨rfl, rfl⟩
    · exact ⟨rfl, rfl⟩
  · exact ⟨rfl, rfl⟩

/-- A token stands at the place of the cursor from which it is read. -/
theorem read_place {after : Cursor} {t : Token} (h : cursor.read = (.ok t, after)) :
    t.position.line = cursor.line ∧ t.position.column = cursor.column := by
  unfold read at h
  split at h
  · cases h
    exact ⟨rfl, rfl⟩
  · cases h
    exact cursor.take_place ..
  · cases h
  · cases h

theorem read_of_rest_eq_nil (h : cursor.rest = []) :
    cursor.read = (.ok cursor.endToken, cursor) := by
  rw [read, h]
  rfl

end Cursor

/-- An open string goes on to the end. -/
theorem Lexeme.text_of_openString {cs text rest : List Char}
    (h : first cs = some ⟨.openString, text, rest⟩) :
    ∃ body, '\'' ∉ body ∧ cs = '\'' :: body ∧ text = '\'' :: body ∧ rest = [] := by
  obtain ⟨body, rfl, hbody⟩ := openString_of_first h
  have hquoted : first ('\'' :: body) = some (quoted body) := rfl
  rcases quoted_cases body with ⟨inner, after, -, rfl⟩ | ⟨-, hopen⟩
  · exact absurd (by simp) hbody
  · rw [hquoted, hopen] at h
    cases h
    exact ⟨body, hbody, rfl, rfl, rfl⟩

/-- A character that starts no lexeme does not end a line. -/
theorem ne_lineBreak_of_noLexeme {c : Char} {rest : List Char}
    (h : ∀ kind text, IsLexeme kind text → ¬ text <+: c :: rest) : c ≠ '\n' := by
  rintro rfl
  exact h .newLine "\n".toList (.sign rfl) ⟨rest, rfl⟩

namespace Standing

/-- The cursor that has come so far. -/
def cursor (s : Standing) : Cursor :=
  { rest := s.rest
    line := (Cursor.behind 0 0 s.passed).1
    column := (Cursor.behind 0 0 s.passed).2 + octets s.opened }

/-- The lexer that has come so far. -/
def lexer (s : Standing) : Lexer :=
  { source := s.source, cursor := s.cursor, finished := s.ended }

/-- Nothing comes behind a string that is never closed. -/
def Proper (s : Standing) : Prop :=
  s.opened = [] ∨ s.rest = []

theorem stands_cursor {passed rest : List Char} {ended : Bool} :
    (cursor ⟨passed, [], rest, ended⟩).Stands passed :=
  rfl

theorem eq_cursor_of_stands {c : Cursor} {passed : List Char} (h : c.Stands passed) (ended : Bool) :
    c = cursor ⟨passed, [], c.rest, ended⟩ := by
  rw [cursor, h]
  rfl

/-- What a cursor that stands behind `passed` reads, past blanks. -/
theorem reads_next (passed rest : List Char) (ended : Bool) :
    ∃ s' : Standing, Reads ⟨passed, [], rest, ended⟩ (cursor ⟨passed, [], rest, ended⟩).next.1 s' ∧
      (cursor ⟨passed, [], rest, ended⟩).next.2 = s'.cursor ∧ s'.Proper ∧
      s'.source = passed ++ rest ∧
      s'.ended = (ended || match (cursor ⟨passed, [], rest, ended⟩).next.1 with
        | .ok token => token.kind = .endOfInput
        | .error _ => false) := by
  generalize hc : cursor ⟨passed, [], rest, ended⟩ = c
  have hstands : c.Stands passed := hc ▸ stands_cursor
  obtain rfl : c.rest = rest := by rw [← hc]; rfl
  obtain ⟨gap, hgap, hrest, hskipped⟩ := hstands.skipBlanks
  rw [Cursor.next]
  generalize c.skipBlanks = b at hrest hskipped
  generalize hread : b.read = r
  obtain ⟨result, after⟩ := r
  cases result with
  | ok t =>
    obtain ⟨hline, hcolumn⟩ := Cursor.read_place hread
    have hplace := hskipped.isBehind hline hcolumn
    by_cases hkind : t.kind = .endOfInput
    · obtain ⟨hnone, -⟩ := Cursor.read_ends hskipped hread hkind
      rw [Cursor.read_of_rest_eq_nil hnone] at hread
      cases hread
      rw [hrest, hnone, List.append_nil]
      have hcursor := eq_cursor_of_stands hskipped true
      rw [hnone] at hcursor
      refine ⟨_, .last hgap hplace rfl, hcursor, .inl rfl, ?_, ?_⟩
      · simp [source]
      · simp [Cursor.endToken]
    · obtain ⟨text, htext, hcovers, hafter⟩ := Cursor.read_covers hskipped hread hkind
      rw [hrest, htext]
      refine ⟨_, .token hgap hcovers.tile hcovers.data hplace hcovers.length,
        eq_cursor_of_stands hafter ended, .inl rfl, ?_, ?_⟩
      · simp [source]
      · simp [hkind]
  | error e =>
    unfold Cursor.read at hread
    split at hread
    · cases hread
    · cases hread
    · rename_i text left hfirst
      cases hread
      obtain ⟨body, hbody, htext, rfl, rfl⟩ := Lexeme.text_of_openString hfirst
      rw [hrest, htext]
      refine ⟨_, .unterminated hgap hbody (hskipped.isBehind rfl rfl) rfl, ?_, .inr rfl, ?_, ?_⟩
      · rw [cursor, hskipped]
        rfl
      · simp [source]
      · simp
    · rename_i text left hfirst
      cases hread
      obtain ⟨d, rfl, htext, hquote⟩ := Lexeme.unknown_of_first hfirst
      have hnone : ∀ kind text, IsLexeme kind text → ¬ text <+: d :: left := fun _ _ =>
        htext ▸ Lexeme.not_isLexeme_of_first hfirst fun _ => Lexeme.Shape.noConfusion
      have hbreak : '\n' ∉ [d] := by
        simpa using (ne_lineBreak_of_noLexeme hnone).symm
      rw [hrest, htext]
      refine ⟨_, .unrecognized hgap hquote hnone (hskipped.isBehind rfl rfl) rfl,
        eq_cursor_of_stands (hskipped.passUnlined hbreak left) ended, .inl rfl, ?_, ?_⟩
      · simp [source]
      · simp

/-- The coordinates behind a string that is taken to lie on one line are those of its end if and
only if it does. -/
theorem isBehind_append_iff {passed opened : List Char} {p q : Position}
    (start : q.IsBehind (Utf8.encode passed)) (line : p.line = q.line)
    (column : p.column = q.column + octets opened) :
    p.IsBehind (Utf8.encode (passed ++ opened)) ↔ '\n' ∉ opened := by
  constructor
  · intro h hmem
    have hbreak : lineBreak ∈ Utf8.encode opened :=
      List.mem_flatMap.mpr ⟨'\n', hmem, List.mem_singleton_self lineBreak⟩
    have hcount := List.count_pos_iff.mpr hbreak
    have hline := h.line
    rw [Utf8.encode_append, List.count_append, line, start.line] at hline
    omega
  · intro hnone
    have hstands : Cursor.Stands ⟨[], p.line, p.column⟩ (passed ++ opened) := by
      rw [Cursor.Stands, Cursor.behind_append, Cursor.behind_of_unbroken hnone, Cursor.behind_eq,
        line, column, start.line, start.column]
    exact hstands.isBehind rfl rfl

theorem reads_nextToken (s : Standing) (hs : s.Proper) :
    ∃ s', s.Reads s.lexer.nextToken.1 s' ∧ s.lexer.nextToken.2 = s'.lexer ∧ s'.Proper := by
  obtain ⟨passed, opened, rest, ended⟩ := s
  by_cases hopened : opened = []
  · subst hopened
    obtain ⟨s', hreads, hcursor, hproper, hsource, hended⟩ :=
      reads_next passed rest ended
    refine ⟨s', hreads, ?_, hproper⟩
    show Lexer.mk (passed ++ [] ++ rest) _ _ = Lexer.mk s'.source s'.cursor s'.ended
    rw [hsource, hended, ← hcursor, List.append_nil]
    rfl
  · -- Only the end of the source is left, and the cursor is where the open string has put it.
    obtain rfl : rest = [] := hs.resolve_left hopened
    refine ⟨⟨passed, opened, [], true⟩, ?_, ?_, hs⟩
    · have hstart := Cursor.isBehind_behind passed 0
      exact .lastBehind hopened hstart rfl rfl rfl (isBehind_append_iff hstart rfl rfl)
    · show Lexer.mk _ _ (ended || true) = Lexer.mk _ _ true
      rw [Bool.or_true]
      rfl

theorem lexer_consume {s : Standing} {k : Nat} {taken left : List Char}
    (h : Cursor.splitOctets k s.rest = (taken, left)) :
    s.lexer.consume k =
      (String.ofList taken, { s.lexer with cursor := s.cursor.pass taken left }) := by
  have hrest : Cursor.splitOctets k s.lexer.cursor.rest = (taken, left) := h
  rw [Lexer.consume, Cursor.consume, hrest]
  rfl

theorem pass_cursor {passed opened taken left : List Char} {ended : Bool}
    (h : opened = [] ∨ taken = []) :
    (cursor ⟨passed, opened, taken ++ left, ended⟩).pass taken left =
      cursor ⟨passed ++ taken, opened, left, ended⟩ := by
  rcases h with rfl | rfl
  · have hpassed : Cursor.Stands (cursor ⟨passed, [], taken ++ left, ended⟩) passed := rfl
    exact eq_cursor_of_stands (hpassed.pass taken left) ended
  · rw [List.append_nil]
    rfl

theorem answers_answer (s : Standing) (hs : s.Proper) (request : Lexer.Request) :
    ∃ s', s.Answers request (s.lexer.answer request).1 s' ∧
      (s.lexer.answer request).2 = s'.lexer ∧ s'.Proper := by
  cases request with
  | peek k =>
    refine ⟨s, ?_, rfl, hs⟩
    have hpeek : s.lexer.peek k = if k = 0 then none else (Utf8.encode s.rest)[k - 1]? := by
      cases k <;> rfl
    rw [Lexer.answer, hpeek]
    exact .peek
  | consume k =>
    obtain ⟨passed, opened, rest, ended⟩ := s
    have henough := Cursor.splitOctets_enough k rest
    have hshortest := Cursor.splitOctets_shortest k rest
    obtain ⟨taken, left, hsplit⟩ : ∃ taken left, Cursor.splitOctets k rest = (taken, left) :=
      ⟨_, _, rfl⟩
    obtain rfl : taken ++ left = rest := by
      have happend := Cursor.splitOctets_append k rest
      rwa [hsplit] at happend
    rw [hsplit] at henough hshortest
    rw [Lexer.answer, lexer_consume hsplit]
    by_cases hopened : opened = []
    · subst hopened
      refine ⟨_, .consume (.inl rfl) henough hshortest, ?_, .inl rfl⟩
      rw [pass_cursor (.inl rfl)]
      simp [lexer, source]
    · obtain ⟨rfl, rfl⟩ := List.append_eq_nil_iff.mp (hs.resolve_left hopened)
      refine ⟨_, .consume (.inr rfl) henough hshortest, ?_, .inr rfl⟩
      rw [pass_cursor (.inr rfl)]
      simp [lexer, source]
  | token =>
    obtain ⟨s', hreads, hlexer, hproper⟩ := reads_nextToken s hs
    exact ⟨s', .token hreads, hlexer, hproper⟩
  | next =>
    obtain ⟨s', hreads, hlexer, hproper⟩ := reads_nextToken s hs
    have hfinished : s.lexer.finished = s.ended := rfl
    cases hended : s.ended with
    | true =>
      rw [Lexer.answer, Lexer.next?, hfinished, hended, if_pos rfl]
      exact ⟨s, .finished hended, rfl, hs⟩
    | false =>
      rw [Lexer.answer, Lexer.next?, hfinished, hended, if_neg Bool.false_ne_true]
      generalize s.lexer.nextToken = r at hreads hlexer
      obtain ⟨result, after⟩ := r
      cases result with
      | ok t => exact ⟨s', .element hended hreads, hlexer, hproper⟩
      | error e =>
        obtain rfl : after = s'.lexer := hlexer
        exact ⟨_, .failure hended hreads, rfl, hproper⟩
  | reset => exact ⟨⟨[], [], s.source, false⟩, .reset, rfl, .inl rfl⟩

theorem holds_answers (s : Standing) (hs : s.Proper) (requests : List Lexer.Request) :
    s.Holds requests (s.lexer.answers requests) := by
  induction requests generalizing s with
  | nil => exact .nil
  | cons request requests ih =>
    obtain ⟨s', hanswer, hlexer, hproper⟩ := answers_answer s hs request
    rw [Lexer.answers, hlexer]
    exact .cons hanswer (ih s' hproper)

/-- Reading a token loses nothing of the source. -/
theorem Reads.source_eq {s s' : Standing} {result : Except LexError Token}
    (h : s.Reads result s') : s'.source = s.source := by
  cases h <;> simp [source]

/-- No request loses anything of the source. -/
theorem Answers.source_eq {s s' : Standing} {request : Lexer.Request} {answer : Lexer.Answer}
    (h : s.Answers request answer s') : s'.source = s.source := by
  cases h with
  | peek | finished _ => rfl
  | consume free _ _ => rcases free with rfl | rfl <;> simp [source]
  | token reads | element _ reads => exact reads.source_eq
  | failure _ reads => exact reads.source_eq
  | reset => simp [source]

end Standing

/-! ## Sources of octets -/

theorem readSource_eq_ok_iff {octets : List UInt8} {text : String} :
    readSource octets = .ok text ↔ octets = Utf8.encode text.toList := by
  rw [← Utf8.decode_eq_ok_iff, readSource]
  cases Utf8.decode octets with
  | ok cs =>
    simp only [Except.ok.injEq]
    constructor
    · rintro rfl
      exact String.toList_ofList.symm
    · rintro rfl
      exact String.ofList_toList
  | error before => simp

theorem of_readSource_eq_error {octets : List UInt8} {e : LexError}
    (h : readSource octets = .error e) :
    ∃ before rest p, octets = Utf8.encode before ++ rest ∧ Utf8.Stuck rest ∧
      e = .invalidUtf8 p ∧ p.IsBehind (Utf8.encode before) ∧ p.length = 1 := by
  unfold readSource at h
  split at h
  · cases h
  · rename_i before hdecode
    cases h
    obtain ⟨rest, hoctets, hstuck⟩ := Utf8.of_decode_eq_error hdecode
    exact ⟨before, rest, _, hoctets, hstuck, rfl, Cursor.isBehind_behind before 1, rfl⟩

/-- Whatever a lexer is asked for, and in which order, it answers from where it stands: an octet
that is peeked at is the one so far behind, a piece that is consumed is the shortest one of whole
characters that has as many octets, and tokens and errors lie where the reading of the last request
ended, but for blanks, at the place of the octet with which they start. Only the end of the source
is reported elsewhere if a string over several lines that is never closed has been read.

Octets make up a source if and only if they spell a text, and else the error is at the place of the
first octet with which no character starts. -/
theorem Lexer.answers_hold (source : String) (requests : List Request) (octets : List UInt8) :
    Standing.Holds ⟨[], [], source.toList, false⟩ requests ((ofSource source).answers requests) ∧
    (∀ text, readSource octets = .ok text ↔ octets = Utf8.encode text.toList) ∧
    ∀ e, readSource octets = .error e →
      ∃ before rest p, octets = Utf8.encode before ++ rest ∧ Utf8.Stuck rest ∧
        e = .invalidUtf8 p ∧ p.IsBehind (Utf8.encode before) ∧ p.length = 1 :=
  ⟨Standing.holds_answers ⟨[], [], source.toList, false⟩ (.inl rfl) requests,
    fun _ => readSource_eq_ok_iff, fun _ => of_readSource_eq_error⟩

/-- The string takes up four octets, of which the third ends a line, but the end of the source is
reported on the first line. That is not the position behind all octets. -/
theorem Lexer.end_misplaced_behind_open_string :
    let source := "'a\nb"
    ∃ p, (Lexer.ofSource source).answers [.token, .next] =
        [.token (.error (.unterminatedString ⟨0, 0, 4⟩)),
          .element (some (.ok ⟨.endOfInput, "", p⟩))] ∧
      ¬ p.IsBehind (Utf8.encode source.toList) := by
  refine ⟨⟨0, 4, 0⟩, by with_unfolding_all rfl, fun hbehind => ?_⟩
  have hline : (0 : Nat) = 1 := hbehind.line
  cases hline

end Scriptlet
