import Scriptlet.Proofs.Text.Utf8

/-!
# The order of texts

Texts are compared by the code points of their characters. That is how their octets compare, too
(`Utf8.encode_lt_encode`): the first octet of a character grows with the number of octets that spell
it, and among spellings of one length an octet counts more than all behind it together.
-/

namespace Scriptlet.Utf8

/-- A spelling of one octet to four as the digits of a number, with the numbers that have spellings
of this length. -/
theorem digits_of_spells {bs : List UInt8} {n : Nat} (h : Spells bs n) :
    (∃ b, bs = [b] ∧ n = b.toNat ∧ n < 0x80) ∨
      (∃ a b, bs = [a, b] ∧ (0xC2 ≤ a.toNat ∧ a.toNat < 0xE0) ∧ IsTail b ∧
        n = (a.toNat - 0xC0) * 0x40 + (b.toNat - 0x80)) ∨
      (∃ a b c, bs = [a, b, c] ∧ (0xE0 ≤ a.toNat ∧ a.toNat < 0xF0) ∧ IsTail b ∧ IsTail c ∧
        0x800 ≤ n ∧ n = ((a.toNat - 0xE0) * 0x40 + (b.toNat - 0x80)) * 0x40 + (c.toNat - 0x80)) ∨
      ∃ a b c d, bs = [a, b, c, d] ∧ 0xF0 ≤ a.toNat ∧ IsTail b ∧ IsTail c ∧ IsTail d ∧
        0x10000 ≤ n ∧ n = (((a.toNat - 0xF0) * 0x40 + (b.toNat - 0x80)) * 0x40 +
          (c.toNat - 0x80)) * 0x40 + (d.toNat - 0x80) := by
  rw [spells_iff] at h
  simp only [IsTail] at h ⊢
  rcases h with ⟨b, hbs, hb, hn⟩ | h | ⟨a, b, c, hbs, ha, ⟨hlow, hhigh⟩, hc, hn⟩ |
    ⟨a, b, c, d, hbs, ha, ⟨hlow, hhigh⟩, hc, hd, hn⟩
  · exact .inl ⟨b, hbs, hn, hn ▸ hb⟩
  · exact .inr (.inl h)
  · refine .inr (.inr (.inl ⟨a, b, c, hbs, ha, ⟨?_, ?_⟩, hc, ?_, hn⟩))
    · split at hlow <;> omega
    · split at hhigh <;> omega
    · split at hlow <;> omega
  · refine .inr (.inr (.inr ⟨a, b, c, d, hbs, ha.1, ⟨?_, ?_⟩, hc, hd, ?_, hn⟩))
    · split at hlow <;> omega
    · split at hhigh <;> omega
    · split at hlow <;> omega

/-- The spellings of two characters differ before the end of either, so it does not matter what
follows. -/
theorem spells_append_lt {bs bs' : List UInt8} {n n' : Nat} (h : Spells bs n) (h' : Spells bs' n')
    (hlt : n < n') (more more' : List UInt8) : bs ++ more < bs' ++ more' := by
  have hdigits := digits_of_spells h
  have hdigits' := digits_of_spells h'
  simp only [IsTail] at hdigits hdigits'
  rcases hdigits with ⟨b, rfl, h⟩ | ⟨a, b, rfl, h⟩ | ⟨a, b, c, rfl, h⟩ | ⟨a, b, c, d, rfl, h⟩ <;>
  rcases hdigits' with ⟨b', rfl, h'⟩ | ⟨a', b', rfl, h'⟩ | ⟨a', b', c', rfl, h'⟩ |
    ⟨a', b', c', d', rfl, h'⟩ <;>
  simp only [List.cons_append, List.nil_append, List.cons_lt_cons_iff, UInt8.lt_iff_toNat_lt,
    ← UInt8.toNat_inj] <;>
  omega

/-- The order of texts by code points is that of their octets. -/
theorem encode_lt_encode {cs ds : List Char} (h : cs < ds) : encode cs < encode ds := by
  induction h with
  | @nil d ds =>
    obtain ⟨b, bs, hspelled⟩ := List.exists_cons_of_ne_nil (String.utf8EncodeChar_ne_nil (c := d))
    rw [encode_cons, hspelled]
    exact List.nil_lt_cons b _
  | @rel c cs d ds hlt =>
    rw [encode_cons, encode_cons]
    exact spells_append_lt (spells_utf8EncodeChar c) (spells_utf8EncodeChar d) hlt _ _
  | cons _ ih =>
    rw [encode_cons, encode_cons]
    exact List.append_left_lt ih

end Scriptlet.Utf8
