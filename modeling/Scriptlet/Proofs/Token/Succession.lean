import Mathlib.Data.Prod.Lex
import Scriptlet.Proofs.Token.Tiling

/-!
# Tokens follow one another

The tokens of a source stand in it in the order of lines and columns
(`Cursor.increasing_of_scan`), also where a string goes over several lines. A token stands where the
cursor was, and the cursor only moves forward: a line break takes it to a later line, and any other
character further on its line.
-/

namespace Scriptlet

namespace Position

/-- Line and column, in the order of the text. -/
def coordinates (p : Position) : ℕ ×ₗ ℕ :=
  toLex (p.line, p.column)

/-- The first position is on an earlier line, or before the second one on the same line. -/
def Before (p q : Position) : Prop :=
  p.line < q.line ∨ p.line = q.line ∧ p.column < q.column

theorem before_iff {p q : Position} : p.Before q ↔ p.coordinates < q.coordinates := by
  rw [coordinates, coordinates, Prod.Lex.toLex_lt_toLex]
  rfl

namespace Before

variable {p q : Position}

theorem ne (h : p.Before q) : p ≠ q := by
  rintro rfl
  exact (before_iff.mp h).ne rfl

theorem line_le (h : p.Before q) : p.line ≤ q.line :=
  h.elim Nat.le_of_lt fun h => Nat.le_of_eq h.1

end Before

end Position

namespace Cursor

/-- The coordinates of the next octet. -/
def coordinates (cursor : Cursor) : ℕ ×ₗ ℕ :=
  toLex (cursor.line, cursor.column)

/-- One character takes the cursor forward. -/
theorem lt_behind_singleton (line column : Nat) (c : Char) :
    toLex (line, column) < toLex (behind line column [c]) := by
  rw [Prod.Lex.toLex_lt_toLex, behind]
  split
  · exact .inl (Nat.lt_succ_self line)
  · exact .inr ⟨rfl, Nat.lt_add_of_pos_right c.utf8Size_pos⟩

/-- No text takes the cursor back. -/
theorem le_behind (line column : Nat) (cs : List Char) :
    toLex (line, column) ≤ toLex (behind line column cs) := by
  induction cs generalizing line column with
  | nil => exact le_refl _
  | cons c cs ih =>
    rw [← List.singleton_append, behind_append]
    exact (lt_behind_singleton line column c).le.trans (ih _ _)

theorem lt_behind (line column : Nat) {cs : List Char} (h : cs ≠ []) :
    toLex (line, column) < toLex (behind line column cs) := by
  cases cs with
  | nil => exact absurd rfl h
  | cons c cs =>
    rw [← List.singleton_append, behind_append]
    exact (lt_behind_singleton line column c).trans_le (le_behind _ _ cs)

theorem le_skipBlanks (cursor : Cursor) : cursor.coordinates ≤ cursor.skipBlanks.coordinates :=
  Prod.Lex.toLex_le_toLex.mpr (.inr ⟨rfl, Nat.le_add_right _ _⟩)

/-- A token stands where the cursor was. -/
theorem read_coordinates {cursor after : Cursor} {t : Token} (h : cursor.read = (.ok t, after)) :
    t.position.coordinates = cursor.coordinates := by
  unfold read at h
  split at h
  · cases h
    rfl
  · cases h
    unfold take
    split
    · split <;> rfl
    · rfl
  · cases h
  · cases h

/-- Behind a token, unless it is the end of the source, the cursor has moved on. -/
theorem read_lt {cursor after : Cursor} {before : List Char} {t : Token}
    (hstands : cursor.Stands before) (h : cursor.read = (.ok t, after))
    (hkind : t.kind ≠ .endOfInput) : cursor.coordinates < after.coordinates := by
  obtain ⟨text, -, hcovers, hpassed⟩ := read_covers hstands h hkind
  have hafter : behind cursor.line cursor.column text = (after.line, after.column) := by
    rw [Stands, behind_append, hstands] at hpassed
    exact hpassed
  have hlt := lt_behind cursor.line cursor.column hcovers.tile.ne_nil
  rwa [hafter] at hlt

/-- The tokens from the cursor on stand in order, and none of them before the cursor. -/
theorem scan_increasing {cursor : Cursor} {before : List Char} (hstands : cursor.Stands before)
    {ts : List Token} {error : Option LexError} (h : cursor.scan = (ts, error)) :
    (∀ t ∈ ts, cursor.coordinates ≤ t.position.coordinates) ∧
      ts.Pairwise fun t u => t.position.Before u.position := by
  fun_induction scan cursor generalizing before ts with
  | case1 cursor e after hnext =>
    cases h
    exact ⟨List.forall_mem_nil _, .nil⟩
  | case2 cursor t after hnext hkind =>
    cases h
    refine ⟨List.forall_mem_singleton.mpr ?_, List.pairwise_singleton _ _⟩
    rw [read_coordinates hnext]
    exact le_skipBlanks cursor
  | case3 cursor t after hnext hkind hlt tokens error hscan ih =>
    cases h
    obtain ⟨gap, -, -, hskipped⟩ := hstands.skipBlanks
    obtain ⟨text, -, -, hpassed⟩ := read_covers hskipped hnext hkind
    obtain ⟨hbehind, hpairs⟩ := ih hpassed hscan
    have ht : cursor.coordinates ≤ t.position.coordinates := by
      rw [read_coordinates hnext]
      exact le_skipBlanks cursor
    have hafter : t.position.coordinates < after.coordinates := by
      rw [read_coordinates hnext]
      exact read_lt hskipped hnext hkind
    have hall : ∀ u ∈ tokens, t.position.coordinates < u.position.coordinates := fun u hu =>
      hafter.trans_le (hbehind u hu)
    refine ⟨List.forall_mem_cons.mpr ⟨ht, fun u hu => ht.trans (hall u hu).le⟩, ?_⟩
    exact .cons (fun u hu => Position.before_iff.mpr (hall u hu)) hpairs

/-- The tokens of a source stand in the order of lines and columns. -/
theorem increasing_of_scan {source : List Char} {ts : List Token}
    (h : (start source).scan = (ts, none)) :
    ts.Pairwise fun t u => t.position.Before u.position := by
  have hstart : (start source).Stands [] := rfl
  exact (scan_increasing hstart h).2

end Cursor

end Scriptlet
