import Scriptlet.Mapping

/-!
# The entries of mappings

Where the entries of a mapping come from: whatever is found was entered (`mem_of_find?`), and an
entry of an insertion or of a list of entries is one of those that went in.
-/

namespace Scriptlet.Mapping

variable {α : Type}

theorem mem_of_findIn? {key : String} {v : α} {entries : List (String × α)}
    (h : findIn? key entries = some v) : (key, v) ∈ entries := by
  induction entries with
  | nil => simp [findIn?] at h
  | cons e rest ih =>
    obtain ⟨k, u⟩ := e
    rw [findIn?] at h
    split at h
    · rename_i hk
      obtain rfl : u = v := by simpa using h
      simp [hk]
    · exact List.mem_cons_of_mem _ (ih h)

theorem mem_of_find? {m : Mapping α} {key : String} {v : α} (h : m.find? key = some v) :
    (key, v) ∈ m.entries :=
  mem_of_findIn? h

theorem mem_insertIn {key : String} {value : α} {entries : List (String × α)} {e : String × α}
    (h : e ∈ insertIn key value entries) : e = (key, value) ∨ e ∈ entries := by
  induction entries with
  | nil => simpa [insertIn] using h
  | cons e' rest ih =>
    obtain ⟨k, v⟩ := e'
    rw [insertIn] at h
    split at h
    · simpa using h
    · split at h
      · rcases List.mem_cons.mp h with rfl | h
        · exact .inl rfl
        · exact .inr (List.mem_cons_of_mem _ h)
      · rcases List.mem_cons.mp h with rfl | h
        · exact .inr List.mem_cons_self
        · rcases ih h with rfl | h
          · exact .inl rfl
          · exact .inr (List.mem_cons_of_mem _ h)

theorem mem_insert {m : Mapping α} {key : String} {value : α} {e : String × α}
    (h : e ∈ (m.insert key value).entries) : e = (key, value) ∨ e ∈ m.entries :=
  mem_insertIn h

theorem mem_foldl_insert {added : List (String × α)} {m : Mapping α} {e : String × α}
    (h : e ∈ (added.foldl (fun m e => m.insert e.1 e.2) m).entries) :
    e ∈ added ∨ e ∈ m.entries := by
  induction added generalizing m with
  | nil => exact .inr h
  | cons a rest ih =>
    rcases ih h with h | h
    · exact .inl (List.mem_cons_of_mem _ h)
    · rcases mem_insert h with rfl | h
      · exact .inl List.mem_cons_self
      · exact .inr h

theorem mem_ofList {entries : List (String × α)} {e : String × α}
    (h : e ∈ (ofList entries).entries) : e ∈ entries := by
  rcases mem_foldl_insert h with h | h
  · exact h
  · exact absurd h (by simp)

end Scriptlet.Mapping
