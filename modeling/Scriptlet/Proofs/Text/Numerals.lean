import Scriptlet.Text.Decimal

/-!
# Numerals read back

A text of digits stands for a number that is not negative, and writing this number out gives digits
that stand for it again (`Decimal.readInt64?_toString`). The two texts need not agree: zeros at the
front are lost.
-/

namespace Scriptlet.Decimal

theorem digit?_of_isDigit {c : Char} (h : c.isDigit = true) :
    digit? c = some (c.toNat - '0'.toNat) := by
  have hc : '0' ≤ c ∧ c ≤ '9' := by simpa [Char.isDigit, Char.le_def] using h
  rw [digit?, if_pos hc]

theorem digitsFrom?_eq {cs : List Char} (h : ∀ c ∈ cs, c.isDigit = true) (value : Nat) :
    digitsFrom? value cs = some (Nat.ofDigitChars 10 cs value) := by
  induction cs generalizing value with
  | nil => rfl
  | cons c cs ih =>
    have hc := digit?_of_isDigit (h c List.mem_cons_self)
    have htail := ih (fun d hd => h d (List.mem_cons_of_mem c hd))
    rw [digitsFrom?, hc, Option.bind_some, htail, Nat.ofDigitChars_cons, Nat.mul_comm value 10]

/-- A text of digits has no sign, so all of it is read. -/
theorem numeral?_eq {cs : List Char} (h : ∀ c ∈ cs, c.isDigit = true) (hne : cs ≠ []) :
    numeral? cs = some ((Nat.ofDigitChars 10 cs 0 : Nat) : Int) := by
  obtain ⟨c, cs, rfl⟩ := List.exists_cons_of_ne_nil hne
  have hc := h c List.mem_cons_self
  have hminus : c ≠ '-' := by
    rintro rfl
    cases hc
  have hplus : c ≠ '+' := by
    rintro rfl
    cases hc
  have hdigits : digits? (c :: cs) = some (Nat.ofDigitChars 10 (c :: cs) 0) := digitsFrom?_eq h 0
  unfold numeral?
  split
  · rename_i heq
    exact absurd (List.cons.inj heq).1 hminus
  · rename_i heq
    exact absurd (List.cons.inj heq).1 hplus
  · rw [hdigits]
    rfl

/-- The integer of a value that is in range has this value. -/
theorem toInt_of_int64? {i : Int} {n : Int64} (h : int64? i = some n) : n.toInt = i := by
  unfold int64? at h
  split at h
  · rename_i hrange
    cases h
    have hmin : Int64.minValue.toInt = -2 ^ 63 := rfl
    have hmax : Int64.maxValue.toInt = 2 ^ 63 - 1 := rfl
    exact Int64.toInt_ofInt_of_le (by omega) (by omega)
  · cases h

/-- An integer of 64 bits is in range. -/
theorem int64?_toInt (n : Int64) : int64? n.toInt = some n := by
  rw [int64?, if_pos ⟨n.minValue_le_toInt, n.toInt_le⟩, Int64.ofInt_toInt]

/-- A numeral is read as the integer for which it stands, and there is one if it has 64 bits. -/
theorem readInt64?_eq_some_iff {s : String} {n : Int64} :
    readInt64? s = some n ↔ numeral? s.toList = some n.toInt := by
  constructor
  · intro h
    obtain ⟨i, hi, hn⟩ := Option.bind_eq_some_iff.mp h
    rw [hi, toInt_of_int64? hn]
  · intro h
    rw [readInt64?, h, Option.bind_some, int64?_toInt]

/-- The digits with which a number is written out. -/
theorem toList_toString (n : Nat) : (toString (n : Int)).toList = Nat.toDigits 10 n :=
  Nat.toList_repr

theorem isDigit_of_mem_toString {n : Nat} {c : Char} (h : c ∈ (toString (n : Int)).toList) :
    c.isDigit = true := by
  rw [toList_toString] at h
  exact Nat.isDigit_of_mem_toDigits (by decide) (by decide) h

theorem toString_ne_nil (n : Nat) : (toString (n : Int)).toList ≠ [] := by
  rw [toList_toString]
  exact Nat.toDigits_ne_nil

/-- A number that is written out is read again, if it is in range. -/
theorem readInt64?_toString_natCast (n : Nat) : readInt64? (toString (n : Int)) = int64? n := by
  have hdigits : ∀ c ∈ (toString (n : Int)).toList, c.isDigit = true :=
    fun c hc => isDigit_of_mem_toString hc
  rw [readInt64?, numeral?_eq hdigits (toString_ne_nil n), toList_toString,
    Nat.ofDigitChars_ten_toDigits]
  rfl

/-- What digits stand for is written with digits, and these stand for the same. -/
theorem readInt64?_toString {s : String} {n : Int64} (hs : ∀ c ∈ s.toList, c.isDigit = true)
    (hne : s.toList ≠ []) (h : readInt64? s = some n) :
    readInt64? (toString n.toInt) = some n ∧ (toString n.toInt).toList ≠ [] ∧
      ∀ c ∈ (toString n.toInt).toList, c.isDigit = true := by
  rw [readInt64?, numeral?_eq hs hne, Option.bind_some] at h
  -- From here on only the number counts, not the text that spelled it.
  generalize Nat.ofDigitChars 10 s.toList 0 = m at h
  rw [toInt_of_int64? h]
  exact ⟨(readInt64?_toString_natCast m).trans h, toString_ne_nil m,
    fun c hc => isDigit_of_mem_toString hc⟩

end Scriptlet.Decimal
