import Mathlib.Data.List.Forall2
import Mathlib.Data.List.Perm.Basic
import Scriptlet.Proofs.Mapping.Entries

/-!
# The order of entries

A mapping is ordered if the keys of its entries increase, so that no two entries share a key. The
empty mapping is ordered, and whatever is made of ordered mappings by inserting, uniting and
filtering is ordered again.

An ordered mapping is determined by what is found in it (`Ordered.ext`), and what is found in a
union or in a part of one is what was found before (`Ordered.find?_union`, `Ordered.find?_filter`).
The laws of the union follow key by key. If no more than a relation holds between what is found in
two mappings, it holds between their entries side by side (`Ordered.forall₂_entries`).
-/

namespace Scriptlet.Mapping

variable {α : Type}

/-- The keys increase from entry to entry. -/
def Ordered (m : Mapping α) : Prop :=
  m.entries.Pairwise fun e f => e.1 < f.1

instance (m : Mapping α) : Decidable m.Ordered :=
  inferInstanceAs (Decidable (m.entries.Pairwise fun e f => e.1 < f.1))

/-! ## What is ordered -/

theorem Ordered.empty : ({} : Mapping α).Ordered :=
  .nil

/-- An entry goes where it keeps the order. -/
theorem Ordered.insert {m : Mapping α} (h : m.Ordered) (key : String) (value : α) :
    (m.insert key value).Ordered := by
  obtain ⟨entries⟩ := m
  show (insertIn key value entries).Pairwise fun e f => e.1 < f.1
  induction entries with
  | nil => simp [insertIn]
  | cons e rest ih =>
    obtain ⟨k, v⟩ := e
    obtain ⟨hfirst, hrest⟩ := List.pairwise_cons.mp h
    rw [insertIn]
    split
    · rename_i hlt
      refine List.pairwise_cons.mpr ⟨?_, h⟩
      intro f hf
      rcases List.mem_cons.mp hf with rfl | hf
      · exact hlt
      · exact String.lt_trans hlt (hfirst f hf)
    · rename_i hnot
      split
      · rename_i heq
        subst heq
        exact List.pairwise_cons.mpr ⟨hfirst, hrest⟩
      · rename_i hne
        have hlt : k < key := Std.lt_of_le_of_ne (String.not_lt.mp hnot) (Ne.symm hne)
        refine List.pairwise_cons.mpr ⟨?_, ih hrest⟩
        intro f hf
        rcases mem_insertIn hf with rfl | hf
        · exact hlt
        · exact hfirst f hf

theorem Ordered.foldl_insert {m : Mapping α} (h : m.Ordered) (added : List (String × α)) :
    (added.foldl (fun m e => m.insert e.1 e.2) m).Ordered := by
  induction added generalizing m with
  | nil => exact h
  | cons e rest ih => exact ih (h.insert e.1 e.2)

theorem Ordered.union {m : Mapping α} (h : m.Ordered) (n : Mapping α) : (m.union n).Ordered :=
  h.foldl_insert n.entries

theorem Ordered.ofList (entries : List (String × α)) : (ofList entries).Ordered :=
  Ordered.empty.foldl_insert entries

theorem Ordered.filter {m : Mapping α} (h : m.Ordered) (p : String → α → Bool) :
    (m.filter p).Ordered :=
  List.Pairwise.filter _ h

/-! ## What is found -/

theorem findIn?_eq_none {key : String} {entries : List (String × α)}
    (h : ∀ e ∈ entries, e.1 ≠ key) : findIn? key entries = none := by
  induction entries with
  | nil => rfl
  | cons e rest ih =>
    obtain ⟨k, v⟩ := e
    rw [findIn?, if_neg (h _ List.mem_cons_self)]
    exact ih fun f hf => h f (List.mem_cons_of_mem _ hf)

/-- The keys of later entries are others than the first key. -/
theorem Ordered.ne_of_mem {e f : String × α} {rest : List (String × α)}
    (h : (⟨e :: rest⟩ : Mapping α).Ordered) (hf : f ∈ rest) : f.1 ≠ e.1 := by
  intro heq
  have hlt : e.1 < f.1 := (List.pairwise_cons.mp h).1 f hf
  rw [heq] at hlt
  exact String.lt_irrefl _ hlt

theorem Ordered.tail {e : String × α} {rest : List (String × α)}
    (h : (⟨e :: rest⟩ : Mapping α).Ordered) : (⟨rest⟩ : Mapping α).Ordered :=
  (List.pairwise_cons.mp h).2

/-- Each entry of an ordered mapping is found. -/
theorem Ordered.find?_of_mem {m : Mapping α} (h : m.Ordered) {key : String} {v : α}
    (hmem : (key, v) ∈ m.entries) : m.find? key = some v := by
  obtain ⟨entries⟩ := m
  show findIn? key entries = some v
  induction entries with
  | nil => cases hmem
  | cons e rest ih =>
    obtain ⟨k, u⟩ := e
    rw [findIn?]
    rcases List.mem_cons.mp hmem with heq | hmem
    · cases heq
      rw [if_pos rfl]
    · rw [if_neg (h.ne_of_mem hmem).symm]
      exact ih h.tail hmem

theorem Ordered.find?_eq_some_iff {m : Mapping α} (h : m.Ordered) {key : String} {v : α} :
    m.find? key = some v ↔ (key, v) ∈ m.entries :=
  ⟨mem_of_find?, h.find?_of_mem⟩

theorem Ordered.nodup {m : Mapping α} (h : m.Ordered) : m.entries.Nodup := by
  refine List.Pairwise.imp ?_ h
  intro e f hlt heq
  rw [heq] at hlt
  exact String.lt_irrefl _ hlt

/-- Ordered mappings in which the same is found under each key are the same. -/
theorem Ordered.ext {m n : Mapping α} (hm : m.Ordered) (hn : n.Ordered)
    (h : ∀ key, m.find? key = n.find? key) : m = n := by
  have hmem : ∀ e, e ∈ m.entries ↔ e ∈ n.entries := by
    rintro ⟨key, v⟩
    rw [← hm.find?_eq_some_iff, ← hn.find?_eq_some_iff, h key]
  have hperm : m.entries.Perm n.entries := (List.perm_ext_iff_of_nodup hm.nodup hn.nodup).mpr hmem
  have hentries : m.entries = n.entries :=
    hperm.eq_of_pairwise (fun e f _ _ hef hfe => absurd hfe (String.lt_asymm hef)) hm hn
  cases m
  cases n
  exact congrArg Mapping.mk hentries

/-- What the second mapping has under a key counts, and otherwise what the first one has. -/
theorem Ordered.find?_union {n : Mapping α} (h : n.Ordered) (m : Mapping α) (key : String) :
    (m.union n).find? key = (n.find? key).or (m.find? key) := by
  obtain ⟨entries⟩ := n
  show (entries.foldl (fun m e => m.insert e.1 e.2) m).find? key =
    (findIn? key entries).or (m.find? key)
  induction entries generalizing m with
  | nil => rfl
  | cons e rest ih =>
    obtain ⟨k, v⟩ := e
    rw [List.foldl_cons, ih (m.insert k v) h.tail, findIn?]
    by_cases hk : k = key
    · subst hk
      have hnone : findIn? k rest = none := findIn?_eq_none fun f hf => h.ne_of_mem hf
      rw [if_pos rfl, hnone, find?_insert_self]
      rfl
    · rw [if_neg hk, find?_insert_of_ne m hk]

/-- An entry is found in a part of a mapping if it was found before and belongs to the part. -/
theorem Ordered.find?_filter {m : Mapping α} (h : m.Ordered) (p : String → α → Bool)
    (key : String) : (m.filter p).find? key = (m.find? key).filter (p key) := by
  obtain ⟨entries⟩ := m
  show findIn? key (entries.filter fun e => p e.1 e.2) = (findIn? key entries).filter (p key)
  induction entries with
  | nil => rfl
  | cons e rest ih =>
    obtain ⟨k, v⟩ := e
    rw [List.filter_cons, findIn?]
    by_cases hk : k = key
    · subst hk
      rw [if_pos rfl, Option.filter_some]
      split
      · rw [findIn?, if_pos rfl]
      · refine findIn?_eq_none fun f hf => ?_
        exact h.ne_of_mem (List.mem_of_mem_filter hf)
    · rw [if_neg hk, ← ih h.tail]
      split
      · rw [findIn?, if_neg hk]
      · rfl

/-! ## Entries side by side -/

/-- The first key of an ordered mapping is the least. -/
theorem Ordered.find?_eq_none_of_lt {e : String × α} {rest : List (String × α)} {key : String}
    (h : (⟨e :: rest⟩ : Mapping α).Ordered) (hlt : key < e.1) :
    (⟨e :: rest⟩ : Mapping α).find? key = none := by
  refine findIn?_eq_none (List.forall_mem_cons.mpr ⟨fun heq => ?_, fun f hf heq => ?_⟩)
  · exact String.lt_irrefl _ (heq ▸ hlt)
  · have hbehind : e.1 < f.1 := (List.pairwise_cons.mp h).1 f hf
    exact String.lt_irrefl _ (String.lt_trans hlt (heq ▸ hbehind))

/-- What is found behind the first entry is found in the whole mapping, and nothing else but the
first value. -/
theorem Ordered.find?_tail {e : String × α} {rest : List (String × α)}
    (h : (⟨e :: rest⟩ : Mapping α).Ordered) (key : String) :
    (⟨rest⟩ : Mapping α).find? key =
      if e.1 = key then none else (⟨e :: rest⟩ : Mapping α).find? key := by
  split
  · rename_i heq
    subst heq
    exact findIn?_eq_none fun f hf => h.ne_of_mem hf
  · rename_i hne
    show _ = findIn? key ((e.1, e.2) :: rest)
    rw [findIn?, if_neg hne]
    rfl

/-- Ordered mappings in which related values are found under each key have related entries, side by
side. -/
theorem Ordered.forall₂_entries {β : Type} {R : α → β → Prop} {m : Mapping α} {n : Mapping β}
    (hm : m.Ordered) (hn : n.Ordered) (h : ∀ key, Option.Rel R (m.find? key) (n.find? key)) :
    List.Forall₂ (fun e f => e.1 = f.1 ∧ R e.2 f.2) m.entries n.entries := by
  obtain ⟨es⟩ := m
  obtain ⟨fs⟩ := n
  show List.Forall₂ _ es fs
  induction es generalizing fs with
  | nil =>
    cases fs with
    | nil => exact .nil
    | cons f fs =>
      have hfirst := h f.1
      rw [hn.find?_of_mem (v := f.2) List.mem_cons_self] at hfirst
      cases hfirst
  | cons e es ih =>
    have hleft := h e.1
    rw [hm.find?_of_mem (v := e.2) List.mem_cons_self] at hleft
    cases fs with
    | nil => cases hleft
    | cons f fs =>
      have hright := h f.1
      rw [hn.find?_of_mem (v := f.2) List.mem_cons_self] at hright
      -- If one of the first keys were less, it would be found on its own side only.
      have hkeys : e.1 = f.1 := by
        rcases Std.lt_trichotomy e.1 f.1 with hlt | heq | hgt
        · rw [hn.find?_eq_none_of_lt hlt] at hleft
          cases hleft
        · exact heq
        · rw [hm.find?_eq_none_of_lt hgt] at hright
          cases hright
      rw [hkeys, hn.find?_of_mem (v := f.2) List.mem_cons_self] at hleft
      cases hleft with
      | some hvalues =>
        refine .cons ⟨hkeys, hvalues⟩ (ih hm.tail fs hn.tail fun key => ?_)
        rw [hm.find?_tail, hn.find?_tail, hkeys]
        split
        · exact .none
        · exact h key
/-! ## The laws of the union -/

theorem Ordered.union_assoc {l m n : Mapping α} (hl : l.Ordered) (hm : m.Ordered)
    (hn : n.Ordered) : (l.union m).union n = l.union (m.union n) := by
  refine Ordered.ext ((hl.union m).union n) (hl.union _) fun key => ?_
  rw [hn.find?_union, hm.find?_union, (hm.union n).find?_union, hn.find?_union, Option.or_assoc]

theorem Ordered.union_self {m : Mapping α} (hm : m.Ordered) : m.union m = m := by
  refine Ordered.ext (hm.union m) hm fun key => ?_
  rw [hm.find?_union, Option.or_self]

theorem Ordered.empty_union {m : Mapping α} (hm : m.Ordered) : ({} : Mapping α).union m = m := by
  refine Ordered.ext (Ordered.empty.union m) hm fun key => ?_
  rw [hm.find?_union, find?_empty, Option.or_none]

/-- The ordered mappings are those that are made by inserting entries. -/
theorem ordered_iff {m : Mapping α} : m.Ordered ↔ ∃ entries, m = Mapping.ofList entries := by
  constructor
  · intro h
    exact ⟨m.entries, h.empty_union.symm⟩
  · rintro ⟨entries, rfl⟩
    exact Ordered.ofList entries

/-- What the second mapping replaces need not be there before. -/
theorem Ordered.union_filter {m n : Mapping α} (hm : m.Ordered) (hn : n.Ordered)
    {p : String → α → Bool} (hp : ∀ key v, n.find? key = none → p key v = true) :
    (m.filter p).union n = m.union n := by
  refine Ordered.ext ((hm.filter p).union n) (hm.union n) fun key => ?_
  rw [hn.find?_union, hn.find?_union, hm.find?_filter]
  cases hfound : n.find? key with
  | some v => rfl
  | none =>
    rw [Option.none_or, Option.none_or]
    cases m.find? key with
    | none => rfl
    | some v => rw [Option.filter_some, if_pos (hp key v hfound)]

end Scriptlet.Mapping
