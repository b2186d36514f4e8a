import Scriptlet.Text.Utf8

/-!
# Reading what was written

The octets that spell a text are those that its characters spell, one after another, and reading
them gives the text back (`decode_eq_ok_iff`). If octets spell no text, reading stops at the first
place where no character is spelled (`of_decode_eq_error`).

The reader has no look ahead. It knows how many octets a character still owes, and between which
bounds the next one lies; what completes the character is an inductive relation along this
(`Pending.Completes`).
-/

namespace Scriptlet.Utf8

/-- The octets complete a character whose first octets have been read, to the one with this
number. -/
inductive Pending.Completes : Pending → List UInt8 → Nat → Prop
  | last {p : Pending} {b : UInt8} {n : Nat} (bounds : p.low ≤ b.toNat ∧ b.toNat ≤ p.high)
    (owed : p.owed ≤ 1) (number : n = p.value * 0x40 + (b.toNat - 0x80)) : Completes p [b] n
  | more {p : Pending} {b : UInt8} {bs : List UInt8} {n : Nat}
    (bounds : p.low ≤ b.toNat ∧ b.toNat ≤ p.high) (owed : 1 < p.owed)
    (rest : Completes
      { taken := p.taken + 1, value := p.value * 0x40 + (b.toNat - 0x80), owed := p.owed - 1 }
      bs n) :
    Completes p (b :: bs) n

/-- The octets spell the character with this number. -/
inductive Spells : List UInt8 → Nat → Prop
  | ascii {b : UInt8} {n : Nat} (small : b.toNat < 0x80) (number : n = b.toNat) : Spells [b] n
  | longer {b : UInt8} {bs : List UInt8} {p : Pending} {n : Nat}
    (start : start b.toNat = ([], some p)) (completes : p.Completes bs n) : Spells (b :: bs) n

/-! ## Reading -/

theorem piecesFrom_of_completes {p : Pending} {bs : List UInt8} {n : Nat} (h : p.Completes bs n)
    (more : List UInt8) :
    piecesFrom (some p) (bs ++ more) = .char (Char.ofNat n) :: piecesFrom none more := by
  induction h with
  | last bounds owed number => simp [piecesFrom, step, bounds, owed, number]
  | more bounds owed _ ih =>
    rw [List.cons_append, piecesFrom, step]
    simp only [if_pos bounds, if_neg (Nat.not_le.mpr owed)]
    exact ih

theorem completes_of_piecesFrom {p : Pending} {bs : List UInt8} {c : Char} {ps : List Piece}
    (h : piecesFrom (some p) bs = .char c :: ps) :
    ∃ tail n more, bs = tail ++ more ∧ p.Completes tail n ∧ c = Char.ofNat n ∧
      ps = piecesFrom none more := by
  induction bs generalizing p with
  | nil => cases h
  | cons b bs ih =>
    rw [piecesFrom, step] at h
    by_cases bounds : p.low ≤ b.toNat ∧ b.toNat ≤ p.high
    · simp only [if_pos bounds] at h
      by_cases owed : p.owed ≤ 1
      · simp only [if_pos owed] at h
        obtain ⟨rfl, rfl⟩ : Char.ofNat _ = c ∧ _ = ps := by simpa using h
        exact ⟨[b], _, bs, rfl, .last bounds owed rfl, rfl, rfl⟩
      · simp only [if_neg owed] at h
        obtain ⟨tail, n, more, rfl, hcompletes, hc, hps⟩ := ih h
        exact ⟨b :: tail, n, more, rfl, .more bounds (Nat.not_le.mp owed) hcompletes, hc, hps⟩
    · simp only [if_neg bounds] at h
      cases h

theorem pieces_of_spells {bs : List UInt8} {n : Nat} (h : Spells bs n) (more : List UInt8) :
    pieces (bs ++ more) = .char (Char.ofNat n) :: pieces more := by
  cases h with
  | ascii small number => simp [pieces, piecesFrom, step, start, small, number]
  | longer hstart completes =>
    rw [pieces, List.cons_append, piecesFrom, step, hstart]
    exact piecesFrom_of_completes completes more

/-- Between characters, an octet is one, or begins a longer one, or neither. -/
theorem start_cases (b : Nat) :
    (b < 0x80 ∧ start b = ([.char (Char.ofNat b)], none)) ∨ (∃ p, start b = ([], some p)) ∨
      start b = ([.illFormed 1], none) := by
  unfold start
  repeat' split
  all_goals simp_all

theorem spells_of_pieces {bs : List UInt8} {c : Char} {ps : List Piece}
    (h : pieces bs = .char c :: ps) :
    ∃ text n more, bs = text ++ more ∧ Spells text n ∧ c = Char.ofNat n ∧ ps = pieces more := by
  cases bs with
  | nil => cases h
  | cons b bs =>
    rw [pieces, piecesFrom, step] at h
    rcases start_cases b.toNat with ⟨hsmall, hstart⟩ | ⟨p, hstart⟩ | hstart
    · rw [hstart] at h
      obtain ⟨rfl, rfl⟩ : Char.ofNat _ = c ∧ _ = ps := by simpa using h
      exact ⟨[b], _, bs, rfl, .ascii hsmall rfl, rfl, rfl⟩
    · rw [hstart] at h
      obtain ⟨tail, n, more, rfl, hcompletes, hc, hps⟩ := completes_of_piecesFrom h
      exact ⟨b :: tail, n, more, rfl, .longer hstart hcompletes, hc, hps⟩
    · rw [hstart] at h
      cases h

/-! ## The first octet

It tells how many octets follow. It also bounds the second one, so that no number is spelled in a
longer way than necessary, and none that is no character. -/

theorem start_two {b : Nat} (h : 0xC2 ≤ b) (h' : b < 0xE0) :
    start b = ([], some { taken := 1, value := b - 0xC0, owed := 1 }) := by
  rw [start, if_neg (by omega), if_neg (by omega), if_pos h']

theorem start_three {b : Nat} (h : 0xE0 ≤ b) (h' : b < 0xF0) :
    start b = ([], some { taken := 1, value := b - 0xE0, owed := 2
                          low := if b = 0xE0 then 0xA0 else 0x80
                          high := if b = 0xED then 0x9F else 0xBF }) := by
  by_cases hlow : b = 0xE0
  · subst hlow
    rfl
  · by_cases hhigh : b = 0xED
    · subst hhigh
      rfl
    · rw [start, if_neg (by omega), if_neg (by omega), if_neg (by omega), if_neg hlow,
        if_neg hhigh, if_pos h', if_neg hlow, if_neg hhigh]

theorem start_four {b : Nat} (h : 0xF0 ≤ b) (h' : b < 0xF5) :
    start b = ([], some { taken := 1, value := b - 0xF0, owed := 3
                          low := if b = 0xF0 then 0x90 else 0x80
                          high := if b = 0xF4 then 0x8F else 0xBF }) := by
  by_cases hlow : b = 0xF0
  · subst hlow
    rfl
  · by_cases hhigh : b = 0xF4
    · subst hhigh
      rfl
    · rw [start, if_neg (by omega), if_neg (by omega), if_neg (by omega), if_neg (by omega),
        if_neg (by omega), if_neg (by omega), if_neg hlow, if_pos (by omega), if_neg hlow,
        if_neg hhigh]

theorem start_of_pending {b : Nat} {p : Pending} (h : start b = ([], some p)) :
    (0xC2 ≤ b ∧ b < 0xF5) ∧ 0x80 ≤ p.low := by
  unfold start at h
  repeat' split at h
  all_goals
    first
      | obtain rfl : _ = p := by simpa using h
        exact ⟨by omega, by simp⟩
      | cases h

theorem completes_iff_of_owed_le {p : Pending} {bs : List UInt8} {n : Nat} (h : p.owed ≤ 1) :
    p.Completes bs n ↔ ∃ b, bs = [b] ∧ (p.low ≤ b.toNat ∧ b.toNat ≤ p.high) ∧
      n = p.value * 0x40 + (b.toNat - 0x80) := by
  constructor
  · intro hc
    cases hc with
    | last bounds _ number => exact ⟨_, rfl, bounds, number⟩
    | more _ owed _ => exact absurd h (Nat.not_le.mpr owed)
  · rintro ⟨b, rfl, bounds, number⟩
    exact .last bounds h number

theorem completes_iff_of_lt_owed {p : Pending} {bs : List UInt8} {n : Nat} (h : 1 < p.owed) :
    p.Completes bs n ↔ ∃ b bs', bs = b :: bs' ∧ (p.low ≤ b.toNat ∧ b.toNat ≤ p.high) ∧
      Pending.Completes
        { taken := p.taken + 1, value := p.value * 0x40 + (b.toNat - 0x80), owed := p.owed - 1 }
        bs' n := by
  constructor
  · intro hc
    cases hc with
    | last _ owed _ => exact absurd owed (Nat.not_le.mpr h)
    | more bounds _ rest => exact ⟨_, _, rfl, bounds, rest⟩
  · rintro ⟨b, bs', rfl, bounds, rest⟩
    exact .more bounds h rest

/-- An octet that continues a character. -/
def IsTail (b : UInt8) : Prop :=
  0x80 ≤ b.toNat ∧ b.toNat ≤ 0xBF

/-- What spells the character with this number: one octet to four. -/
theorem spells_iff {bs : List UInt8} {n : Nat} :
    Spells bs n ↔
      (∃ b, bs = [b] ∧ b.toNat < 0x80 ∧ n = b.toNat) ∨
      (∃ a b, bs = [a, b] ∧ (0xC2 ≤ a.toNat ∧ a.toNat < 0xE0) ∧ IsTail b ∧
        n = (a.toNat - 0xC0) * 0x40 + (b.toNat - 0x80)) ∨
      (∃ a b c, bs = [a, b, c] ∧ (0xE0 ≤ a.toNat ∧ a.toNat < 0xF0) ∧
        ((if a.toNat = 0xE0 then 0xA0 else 0x80) ≤ b.toNat ∧
          b.toNat ≤ if a.toNat = 0xED then 0x9F else 0xBF) ∧ IsTail c ∧
        n = ((a.toNat - 0xE0) * 0x40 + (b.toNat - 0x80)) * 0x40 + (c.toNat - 0x80)) ∨
      (∃ a b c d, bs = [a, b, c, d] ∧ (0xF0 ≤ a.toNat ∧ a.toNat < 0xF5) ∧
        ((if a.toNat = 0xF0 then 0x90 else 0x80) ≤ b.toNat ∧
          b.toNat ≤ if a.toNat = 0xF4 then 0x8F else 0xBF) ∧ IsTail c ∧ IsTail d ∧
        n = (((a.toNat - 0xF0) * 0x40 + (b.toNat - 0x80)) * 0x40 + (c.toNat - 0x80)) * 0x40 +
          (d.toNat - 0x80)) := by
  have one : 1 ≤ 1 := Nat.le_refl 1
  have two : 1 < 2 := Nat.one_lt_two
  have three : 1 < 3 := Nat.lt_succ_of_lt two
  constructor
  · intro h
    cases h with
    | ascii small number => exact .inl ⟨_, rfl, small, number⟩
    | @longer a bs p n hstart hcompletes =>
      obtain ⟨⟨hleast, hgreatest⟩, -⟩ := start_of_pending hstart
      by_cases h2 : a.toNat < 0xE0
      · rw [start_two hleast h2] at hstart
        obtain rfl : _ = p := by simpa using hstart
        obtain ⟨b, rfl, hb, hn⟩ := (completes_iff_of_owed_le one).mp hcompletes
        exact .inr (.inl ⟨a, b, rfl, ⟨hleast, h2⟩, hb, hn⟩)
      · by_cases h3 : a.toNat < 0xF0
        · rw [start_three (by omega) h3] at hstart
          obtain rfl : _ = p := by simpa using hstart
          obtain ⟨b, bs', rfl, hb, hrest⟩ := (completes_iff_of_lt_owed two).mp hcompletes
          obtain ⟨c, rfl, hc, hn⟩ := (completes_iff_of_owed_le one).mp hrest
          exact .inr (.inr (.inl ⟨a, b, c, rfl, ⟨by omega, h3⟩, hb, hc, hn⟩))
        · rw [start_four (by omega) hgreatest] at hstart
          obtain rfl : _ = p := by simpa using hstart
          obtain ⟨b, bs', rfl, hb, hrest⟩ := (completes_iff_of_lt_owed three).mp hcompletes
          obtain ⟨c, bs', rfl, hc, hrest⟩ := (completes_iff_of_lt_owed two).mp hrest
          obtain ⟨d, rfl, hd, hn⟩ := (completes_iff_of_owed_le one).mp hrest
          exact .inr (.inr (.inr ⟨a, b, c, d, rfl, ⟨by omega, hgreatest⟩, hb, hc, hd, hn⟩))
  · rintro (⟨b, rfl, hb, hn⟩ | ⟨a, b, rfl, ⟨ha, ha'⟩, hb, hn⟩ |
      ⟨a, b, c, rfl, ⟨ha, ha'⟩, hb, hc, hn⟩ | ⟨a, b, c, d, rfl, ⟨ha, ha'⟩, hb, hc, hd, hn⟩)
    · exact .ascii hb hn
    · exact .longer (start_two ha ha') (.last hb one hn)
    · exact .longer (start_three ha ha') (.more hb two (.last hc one hn))
    · exact .longer (start_four ha ha')
        (.more hb three (.more hc two (.last hd one hn)))

/-! ## Writing -/

theorem toNat_ofNat {n : Nat} (h : n < 256) : (UInt8.ofNat n).toNat = n :=
  Nat.mod_eq_of_lt h

theorem ofNat_eq {n : Nat} {b : UInt8} (h : n = b.toNat) : UInt8.ofNat n = b := by
  rw [h, UInt8.ofNat_toNat]

/-- What is written for a character spells it. -/
theorem spells_utf8EncodeChar (c : Char) : Spells (String.utf8EncodeChar c) c.toNat := by
  have hvalid : c.val.toNat < 0xD800 ∨ 0xDFFF < c.val.toNat ∧ c.val.toNat < 0x110000 := c.valid
  show Spells _ c.val.toNat
  unfold String.utf8EncodeChar
  generalize c.val.toNat = v at hvalid
  have htail : ∀ n, (UInt8.ofNat (n % 64 + 128)).toNat = n % 64 + 128 := fun n =>
    toNat_ofNat (by omega)
  rw [spells_iff]
  simp only [IsTail]
  split
  · exact .inl ⟨_, rfl, by rw [toNat_ofNat (by omega)]; omega, (toNat_ofNat (by omega)).symm⟩
  · split
    · refine .inr (.inl ⟨_, _, rfl, ?_⟩)
      rw [htail, toNat_ofNat (by omega)]
      omega
    · split
      · refine .inr (.inr (.inl ⟨_, _, _, rfl, ?_⟩))
        rw [htail, htail, toNat_ofNat (by omega)]
        refine ⟨by omega, ⟨?_, ?_⟩, by omega, by omega⟩
        · split <;> omega
        · split <;> omega
      · refine .inr (.inr (.inr ⟨_, _, _, _, rfl, ?_⟩))
        rw [htail, htail, htail, toNat_ofNat (by omega)]
        refine ⟨by omega, ⟨?_, ?_⟩, by omega, by omega, by omega⟩
        · split <;> omega
        · split <;> omega

theorem spells_valid {bs : List UInt8} {n : Nat} (h : Spells bs n) :
    n < 0xD800 ∨ 0xDFFF < n ∧ n < 0x110000 := by
  rw [spells_iff] at h
  simp only [IsTail] at h
  rcases h with ⟨b, -, h⟩ | ⟨a, b, -, h⟩ | ⟨a, b, c, -, ha, ⟨hlow, hhigh⟩, hc, hn⟩ |
    ⟨a, b, c, d, -, ha, ⟨hlow, hhigh⟩, hc, hd, hn⟩
  · omega
  · omega
  · split at hlow <;> split at hhigh <;> omega
  · split at hlow <;> split at hhigh <;> omega

/-- What spells a character is written for it. -/
theorem utf8EncodeChar_of_spells {bs : List UInt8} {n : Nat} (h : Spells bs n) :
    String.utf8EncodeChar (Char.ofNat n) = bs := by
  have hnumber : (Char.ofNat n).val.toNat = n := by
    have hvalid : n.isValidChar := spells_valid h
    rw [Char.ofNat, dif_pos hvalid]
    rfl
  unfold String.utf8EncodeChar
  rw [hnumber]
  rw [spells_iff] at h
  simp only [IsTail] at h
  rcases h with ⟨b, rfl, h⟩ | ⟨a, b, rfl, h⟩ | ⟨a, b, c, rfl, ha, ⟨hlow, hhigh⟩, hc, hn⟩ |
    ⟨a, b, c, d, rfl, ha, ⟨hlow, hhigh⟩, hc, hd, hn⟩
  · rw [if_pos (by omega), ofNat_eq (b := b) (by omega)]
  · rw [if_neg (by omega), if_pos (by omega), ofNat_eq (b := a) (by omega),
      ofNat_eq (b := b) (by omega)]
  · have hleast : 0x7FF < n := by split at hlow <;> omega
    have hb : 0x80 ≤ b.toNat ∧ b.toNat ≤ 0xBF := by
      split at hlow <;> split at hhigh <;> omega
    rw [if_neg (by omega), if_neg (by omega), if_pos (by omega), ofNat_eq (b := a) (by omega),
      ofNat_eq (b := b) (by omega), ofNat_eq (b := c) (by omega)]
  · have hleast : 0xFFFF < n := by split at hlow <;> omega
    have hb : 0x80 ≤ b.toNat ∧ b.toNat ≤ 0xBF := by
      split at hlow <;> split at hhigh <;> omega
    rw [if_neg (by omega), if_neg (by omega), if_neg (by omega), ofNat_eq (b := a) (by omega),
      ofNat_eq (b := b) (by omega), ofNat_eq (b := c) (by omega), ofNat_eq (b := d) (by omega)]

/-- The octets that complete a character are none of ASCII. -/
theorem Pending.Completes.high {p : Pending} {bs : List UInt8} {n : Nat} (h : p.Completes bs n)
    (hlow : 0x80 ≤ p.low) : ∀ b ∈ bs, 0x80 ≤ b.toNat := by
  induction h with
  | last bounds _ _ => exact List.forall_mem_singleton.mpr (Nat.le_trans hlow bounds.1)
  | more bounds _ _ ih =>
    exact List.forall_mem_cons.mpr ⟨Nat.le_trans hlow bounds.1, ih (Nat.le_refl _)⟩

/-- A character that is spelled by more than one octet is spelled by none of ASCII. -/
theorem high_of_spells {bs : List UInt8} {n : Nat} (h : Spells bs n) :
    (∃ b, bs = [b] ∧ n = b.toNat) ∨ ∀ b ∈ bs, 0x80 ≤ b.toNat := by
  cases h with
  | ascii _ number => exact .inl ⟨_, rfl, number⟩
  | longer start completes =>
    obtain ⟨⟨hleast, -⟩, hlow⟩ := start_of_pending start
    exact .inr (List.forall_mem_cons.mpr ⟨Nat.le_trans (by decide) hleast, completes.high hlow⟩)

/-! ## Texts -/

theorem encode_cons (c : Char) (cs : List Char) :
    encode (c :: cs) = String.utf8EncodeChar c ++ encode cs :=
  List.flatMap_cons

theorem encode_append (cs ds : List Char) : encode (cs ++ ds) = encode cs ++ encode ds :=
  List.flatMap_append

theorem pieces_utf8EncodeChar_append (c : Char) (more : List UInt8) :
    pieces (String.utf8EncodeChar c ++ more) = .char c :: pieces more := by
  rw [pieces_of_spells (spells_utf8EncodeChar c), Char.ofNat_toNat]

theorem eq_utf8EncodeChar_append_of_pieces {bs : List UInt8} {c : Char} {ps : List Piece}
    (h : pieces bs = .char c :: ps) :
    ∃ more, bs = String.utf8EncodeChar c ++ more ∧ ps = pieces more := by
  obtain ⟨text, n, more, rfl, hspells, rfl, hps⟩ := spells_of_pieces h
  exact ⟨more, by rw [utf8EncodeChar_of_spells hspells], hps⟩

theorem piecesFrom_some_ne_nil (p : Pending) (bs : List UInt8) : piecesFrom (some p) bs ≠ [] := by
  induction bs generalizing p with
  | nil => nofun
  | cons b bs ih =>
    rw [piecesFrom, step]
    by_cases bounds : p.low ≤ b.toNat ∧ b.toNat ≤ p.high
    · by_cases owed : p.owed ≤ 1
      · simp [bounds, owed]
      · simpa [bounds, owed] using ih _
    · simp [bounds]

theorem pieces_cons_ne_nil (b : UInt8) (bs : List UInt8) : pieces (b :: bs) ≠ [] := by
  rw [pieces, piecesFrom, step]
  rcases start_cases b.toNat with ⟨-, hstart⟩ | ⟨p, hstart⟩ | hstart
  · simp [hstart]
  · simpa [hstart] using piecesFrom_some_ne_nil p bs
  · simp [hstart]

/-- No character is spelled by the next octets, if there are any. -/
def Stuck (bs : List UInt8) : Prop :=
  bs ≠ [] ∧ ∀ c, ¬ String.utf8EncodeChar c <+: bs

/-- The characters up to the first ill-formed run are spelled by the octets up to there. -/
theorem wellFormedPart_pieces {bs : List UInt8} {cs : List Char} {whole : Bool}
    (h : wellFormedPart (pieces bs) = (cs, whole)) :
    ∃ rest, bs = encode cs ++ rest ∧ if whole then rest = [] else Stuck rest := by
  induction cs generalizing bs with
  | nil =>
    refine ⟨bs, rfl, ?_⟩
    cases hpieces : pieces bs with
    | nil =>
      rw [hpieces] at h
      cases h
      cases bs with
      | nil => rfl
      | cons b bs => exact absurd hpieces (pieces_cons_ne_nil b bs)
    | cons piece ps =>
      rw [hpieces] at h
      cases piece with
      | char c => cases h
      | illFormed octets =>
        cases h
        refine ⟨?_, ?_⟩
        · rintro rfl
          cases hpieces
        · rintro c ⟨more, rfl⟩
          rw [pieces_utf8EncodeChar_append] at hpieces
          cases hpieces
  | cons c cs ih =>
    cases hpieces : pieces bs with
    | nil =>
      rw [hpieces] at h
      cases h
    | cons piece ps =>
      rw [hpieces] at h
      cases piece with
      | char d =>
        obtain ⟨more, rfl, rfl⟩ := eq_utf8EncodeChar_append_of_pieces hpieces
        generalize hpart : wellFormedPart (pieces more) = part at h
        obtain ⟨cs', whole'⟩ := part
        rw [wellFormedPart, hpart] at h
        cases h
        obtain ⟨rest, rfl, hrest⟩ := ih hpart
        exact ⟨rest, by rw [encode_cons, List.append_assoc], hrest⟩
      | illFormed octets => cases h

theorem wellFormedPart_pieces_encode (cs : List Char) :
    wellFormedPart (pieces (encode cs)) = (cs, true) := by
  induction cs with
  | nil => rfl
  | cons c cs ih => rw [encode_cons, pieces_utf8EncodeChar_append, wellFormedPart, ih]

/-- The octets that spell a text are read as that text, and no others are. -/
theorem decode_eq_ok_iff {bs : List UInt8} {cs : List Char} :
    decode bs = .ok cs ↔ bs = encode cs := by
  constructor
  · intro h
    unfold decode at h
    split at h
    · rename_i hpart
      cases h
      obtain ⟨rest, hbs, hrest⟩ := wellFormedPart_pieces hpart
      rw [if_pos rfl] at hrest
      rw [hbs, hrest, List.append_nil]
    · cases h
  · rintro rfl
    rw [decode, wellFormedPart_pieces_encode]

/-- Octets that spell no text are read up to the first place where no character is spelled. -/
theorem of_decode_eq_error {bs : List UInt8} {before : List Char} (h : decode bs = .error before) :
    ∃ rest, bs = encode before ++ rest ∧ Stuck rest := by
  unfold decode at h
  split at h
  · cases h
  · rename_i hpart
    cases h
    exact wellFormedPart_pieces hpart

end Scriptlet.Utf8
