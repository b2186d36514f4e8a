import Scriptlet.Proofs.Mapping.Order
import Scriptlet.Proofs.Values.Equality
import Scriptlet.Value.Operation

/-!
# The algebra of lists and mappings

The operators `+`, `-` and `in` on lists and mappings never fail, and obey the laws that their names
suggest (`ListLaws`, `MappingLaws`): `-` takes out of a list what is in the other, and out of a
mapping what the other has under the same key. What counts as the same is decided by equality of
values, so the laws rest on equality being an equivalence relation (`Value.EqualityLaws`). Where a
law says that two ways of computing agree, they give the same value and not merely equal ones.

The laws of mappings are about ordered ones. These are the mappings that are made by inserting
entries (`Mapping.ordered_iff`), which is how all mappings of a program come about.
-/

namespace Scriptlet

/-- The operator gives this value on these operands, wherever it stands. -/
def Operator.Gives (operator : Operator) (left right v : Value) : Prop :=
  ∀ position, operator.apply left right position = .ok v

namespace Value

/-! ## Equality -/

/-- Equality goes through lists and mappings, tells functions apart by their definitions and native
functions by their names, and all other values as they are. Values of different types are different.
It is an equivalence relation. -/
structure EqualityLaws : Prop where
  equivalence : Equivalence fun v w : Value => (v == w) = true
  kinds : ∀ v w : Value, (v == w) = true → v.kind = w.kind
  nils : (nil == nil) = true
  bools : ∀ a b, (bool a == bool b) = true ↔ a = b
  ints : ∀ a b, (int a == int b) = true ↔ a = b
  strings : ∀ s t, (string s == string t) = true ↔ s = t
  lists : ∀ vs ws, (list vs == list ws) = true ↔ List.Forall₂ (fun v w => (v == w) = true) vs ws
  mappings : ∀ m n : Mapping Value,
    (map m == map n) = true ↔
      List.Forall₂ (fun e f => e.1 = f.1 ∧ (e.2 == f.2) = true) m.entries n.entries
  functions : ∀ f g, (function f == function g) = true ↔ f = g
  natives : ∀ m n, (native m == native n) = true ↔ m.name = n.name

theorem equalityLaws : EqualityLaws where
  equivalence := ⟨fun _ => BEq.rfl, BEq.symm, BEq.trans⟩
  kinds _ _ := kind_eq_of_beq
  nils := BEq.rfl
  bools _ _ := by simp [beq_def]
  ints _ _ := by simp [beq_def]
  strings _ _ := by simp [beq_def]
  lists _ _ := list_beq_list_iff
  mappings _ _ := map_beq_map_iff
  functions _ _ := function_beq_function_iff
  natives _ _ := native_beq_native_iff

/-! ## Lists -/

theorem withoutItems_append (a b c : List Value) :
    withoutItems (a ++ b) c = withoutItems a c ++ withoutItems b c :=
  List.filter_append a b

theorem withoutItems_of_append (a b c : List Value) :
    withoutItems a (b ++ c) = withoutItems (withoutItems a b) c := by
  unfold withoutItems
  rw [List.filter_filter]
  apply List.filter_congr
  intro v _
  rw [List.contains_append, Bool.not_or, Bool.and_comm]

theorem withoutItems_sublist (a b : List Value) : (withoutItems a b).Sublist a :=
  List.filter_sublist

/-- Values that are equal are taken out together, or not at all. -/
theorem contains_withoutItems (a b : List Value) (x : Value) :
    (withoutItems a b).contains x = (a.contains x && !b.contains x) := by
  have hiff :
      (withoutItems a b).contains x = true ↔ a.contains x = true ∧ b.contains x = false := by
    constructor
    · intro h
      obtain ⟨v, hv, hx⟩ := List.contains_iff_exists_mem_beq.mp h
      obtain ⟨hva, hvb⟩ := List.mem_filter.mp hv
      refine ⟨List.contains_iff_exists_mem_beq.mpr ⟨v, hva, hx⟩, ?_⟩
      rw [List.contains_congr hx]
      simpa using hvb
    · rintro ⟨ha, hb⟩
      obtain ⟨v, hv, hx⟩ := List.contains_iff_exists_mem_beq.mp ha
      refine List.contains_iff_exists_mem_beq.mpr ⟨v, List.mem_filter.mpr ⟨hv, ?_⟩, hx⟩
      rw [← List.contains_congr hx, hb]
      rfl
  rw [Bool.eq_iff_iff, hiff]
  simp

/-- The elements that are equal to a value which is not taken out all stay. -/
theorem filter_withoutItems {a b : List Value} {x : Value} (h : b.contains x = false) :
    (withoutItems a b).filter (· == x) = a.filter (· == x) := by
  unfold withoutItems
  rw [List.filter_filter]
  apply List.filter_congr
  intro v _
  by_cases hx : (v == x) = true
  · rw [List.contains_congr hx, h, hx]
    rfl
  · simp [hx]

/-- The laws of the operators on lists. -/
structure ListLaws (a b c : List Value) : Prop where
  /-- A value is in a list if an element is equal to it. -/
  isIn_iff : ∀ x, ∃ found,
    Operator.isIn.Gives x (list a) (bool found) ∧ (found = true ↔ ∃ v ∈ a, (x == v) = true)
  /-- `x in a + b` holds if `x in a` or `x in b` does. -/
  isIn_add : ∀ x, ∃ sum inA inB,
    Operator.add.Gives (list a) (list b) sum ∧ Operator.isIn.Gives x (list a) (bool inA) ∧
      Operator.isIn.Gives x (list b) (bool inB) ∧ Operator.isIn.Gives x sum (bool (inA || inB))
  /-- `x in a - b` holds if `x in a` holds and `x in b` does not. -/
  isIn_sub : ∀ x, ∃ difference inA inB,
    Operator.sub.Gives (list a) (list b) difference ∧
      Operator.isIn.Gives x (list a) (bool inA) ∧ Operator.isIn.Gives x (list b) (bool inB) ∧
      Operator.isIn.Gives x difference (bool (inA && !inB))
  /-- `(a + b) - c` is `(a - c) + (b - c)`. -/
  add_sub : ∃ sum left right v,
    Operator.add.Gives (list a) (list b) sum ∧ Operator.sub.Gives sum (list c) v ∧
      Operator.sub.Gives (list a) (list c) left ∧ Operator.sub.Gives (list b) (list c) right ∧
      Operator.add.Gives left right v
  /-- `a - (b + c)` is `(a - b) - c`. -/
  sub_add : ∃ sum difference v,
    Operator.add.Gives (list b) (list c) sum ∧ Operator.sub.Gives (list a) sum v ∧
      Operator.sub.Gives (list a) (list b) difference ∧ Operator.sub.Gives difference (list c) v
  /-- What is left of `a` in `a - b` is in the order of `a`, and as often as there. -/
  kept : ∃ left : List Value,
    Operator.sub.Gives (list a) (list b) (list left) ∧ left.Sublist a ∧
      ∀ x, Operator.isIn.Gives x (list b) (bool false) →
        left.filter (· == x) = a.filter (· == x)
  /-- From a list, a mapping takes away its values. -/
  sub_mapping : ∀ m : Mapping Value, ∃ v,
    Operator.sub.Gives (list a) (map m) v ∧ Operator.sub.Gives (list a) (list m.values) v

theorem isIn_gives (x : Value) (items : List Value) :
    Operator.isIn.Gives x (list items) (bool (items.contains x)) := by
  intro position
  simp [Operator.apply, isIn, Except.map]

theorem contains_eq_of_gives {x : Value} {items : List Value} {found : Bool}
    (h : Operator.isIn.Gives x (list items) (bool found)) : items.contains x = found := by
  have hsame := (isIn_gives x items default).symm.trans (h default)
  simpa using hsame

theorem add_gives (a b : List Value) : Operator.add.Gives (list a) (list b) (list (a ++ b)) := by
  intro position
  rfl

theorem sub_gives (a b : List Value) :
    Operator.sub.Gives (list a) (list b) (list (withoutItems a b)) := by
  intro position
  rfl

theorem listLaws (a b c : List Value) : ListLaws a b c where
  isIn_iff x := ⟨_, isIn_gives x a, List.contains_iff_exists_mem_beq⟩
  isIn_add x := by
    refine ⟨_, _, _, add_gives a b, isIn_gives x a, isIn_gives x b, ?_⟩
    rw [← List.contains_append]
    exact isIn_gives x (a ++ b)
  isIn_sub x := by
    refine ⟨_, _, _, sub_gives a b, isIn_gives x a, isIn_gives x b, ?_⟩
    rw [← contains_withoutItems]
    exact isIn_gives x (withoutItems a b)
  add_sub := by
    refine ⟨_, _, _, _, add_gives a b, sub_gives (a ++ b) c, sub_gives a c, sub_gives b c, ?_⟩
    rw [withoutItems_append]
    exact add_gives (withoutItems a c) (withoutItems b c)
  sub_add := by
    refine ⟨_, _, _, add_gives b c, sub_gives a (b ++ c), sub_gives a b, ?_⟩
    rw [withoutItems_of_append]
    exact sub_gives (withoutItems a b) c
  kept := by
    refine ⟨_, sub_gives a b, withoutItems_sublist a b, ?_⟩
    intro x hx
    exact filter_withoutItems (contains_eq_of_gives hx)
  sub_mapping m := ⟨_, fun _ => rfl, sub_gives a m.values⟩

/-! ## Mappings -/

/-- An entry is left if the other mapping has no equal value under its key. -/
theorem find?_withoutEntries {m : Mapping Value} (hm : m.Ordered) (n : Mapping Value)
    (key : String) :
    (withoutEntries m n).find? key =
      (m.find? key).filter fun v => !(n.find? key).any fun w => w == v :=
  hm.find?_filter _ key

theorem contains_withoutEntries_iff {m : Mapping Value} (hm : m.Ordered) (n : Mapping Value)
    (key : String) :
    (withoutEntries m n).contains key = true ↔
      ∃ v, m.find? key = some v ∧ ∀ w, n.find? key = some w → (v == w) = false := by
  unfold Mapping.contains
  rw [find?_withoutEntries hm]
  cases m.find? key with
  | none => simp
  | some v =>
    cases n.find? key with
    | none => simp
    | some w => simp [BEq.comm (a := w)]

theorem withoutEntries_self {m : Mapping Value} (hm : m.Ordered) : withoutEntries m m = {} := by
  refine Mapping.Ordered.ext (hm.filter _) Mapping.Ordered.empty fun key => ?_
  rw [find?_withoutEntries hm, Mapping.find?_empty]
  cases m.find? key with
  | none => rfl
  | some v => simp

/-- What a difference takes out is put back by the sum, with the values of the second mapping. -/
theorem union_withoutEntries {m n : Mapping Value} (hm : m.Ordered) (hn : n.Ordered) :
    (withoutEntries m n).union n = m.union n := by
  refine hm.union_filter hn ?_
  intro key v hnone
  rw [hnone]
  rfl

/-- The laws of the operators on mappings. -/
structure MappingLaws (a b c : Mapping Value) : Prop where
  /-- `(a + b) + c` is `a + (b + c)`. -/
  add_assoc : ∃ left right v,
    Operator.add.Gives (map a) (map b) left ∧ Operator.add.Gives left (map c) v ∧
      Operator.add.Gives (map b) (map c) right ∧ Operator.add.Gives (map a) right v
  /-- `a + a` is `a`. -/
  add_self : Operator.add.Gives (map a) (map a) (map a)
  add_empty : Operator.add.Gives (map a) (map {}) (map a)
  empty_add : Operator.add.Gives (map {}) (map a) (map a)
  /-- Under each key, `a + b` has what `b` has, and otherwise what `a` has. -/
  found_add : ∃ sum : Mapping Value,
    Operator.add.Gives (map a) (map b) (map sum) ∧ sum.Ordered ∧
      ∀ key, sum.find? key = (b.find? key).or (a.find? key)
  /-- `a - a` is empty. -/
  sub_self : Operator.sub.Gives (map a) (map a) (map {})
  /-- `(a - b) + b` is `a + b`. -/
  sub_add : ∃ difference v,
    Operator.sub.Gives (map a) (map b) difference ∧ Operator.add.Gives difference (map b) v ∧
      Operator.add.Gives (map a) (map b) v
  /-- A key is in `a - b` if `a` has it and `b` does not have an equal value under it. -/
  isIn_sub : ∃ difference : Mapping Value,
    Operator.sub.Gives (map a) (map b) (map difference) ∧ difference.Ordered ∧
      ∀ key, ∃ found,
        Operator.isIn.Gives (string key) (map difference) (bool found) ∧
          (found = true ↔
            ∃ v, a.find? key = some v ∧ ∀ w, b.find? key = some w → (v == w) = false)

theorem isIn_map_gives (key : String) (m : Mapping Value) :
    Operator.isIn.Gives (string key) (map m) (bool (m.contains key)) := by
  intro position
  simp [Operator.apply, isIn, Except.map]

theorem add_map_gives (a b : Mapping Value) :
    Operator.add.Gives (map a) (map b) (map (a.union b)) := by
  intro position
  rfl

theorem sub_map_gives (a b : Mapping Value) :
    Operator.sub.Gives (map a) (map b) (map (withoutEntries a b)) := by
  intro position
  rfl

theorem mappingLaws {a b c : Mapping Value} (ha : a.Ordered) (hb : b.Ordered) (hc : c.Ordered) :
    MappingLaws a b c where
  add_assoc := by
    refine ⟨_, _, _, add_map_gives a b, add_map_gives (a.union b) c, add_map_gives b c, ?_⟩
    rw [ha.union_assoc hb hc]
    exact add_map_gives a (b.union c)
  add_self := by
    have h := add_map_gives a a
    rwa [ha.union_self] at h
  add_empty := add_map_gives a {}
  empty_add := by
    have h := add_map_gives {} a
    rwa [ha.empty_union] at h
  found_add := ⟨_, add_map_gives a b, ha.union b, hb.find?_union a⟩
  sub_self := by
    have h := sub_map_gives a a
    rwa [withoutEntries_self ha] at h
  sub_add := by
    refine ⟨_, _, sub_map_gives a b, add_map_gives (withoutEntries a b) b, ?_⟩
    rw [union_withoutEntries ha hb]
    exact add_map_gives a b
  isIn_sub :=
    ⟨_, sub_map_gives a b, ha.filter _, fun key =>
      ⟨_, isIn_map_gives key _, contains_withoutEntries_iff ha b key⟩⟩

/-- The operators on lists and mappings obey their laws, with the equality of values, an equivalence
relation, to tell what is in a collection. -/
theorem collections_obey_laws :
    EqualityLaws ∧ (∀ a b c : List Value, ListLaws a b c) ∧
      ∀ a b c : Mapping Value, a.Ordered → b.Ordered → c.Ordered → MappingLaws a b c :=
  ⟨equalityLaws, listLaws, fun _ _ _ => mappingLaws⟩

theorem collections_obey_laws_of_nested :
    let a : Mapping Value := ⟨[("k", .list [.nil, .int 1]), ("l", .native (.builtin .len))]⟩
    let b : Mapping Value := ⟨[("l", .native (.host "len" .any "other" []))]⟩
    a.Ordered ∧ b.Ordered ∧ MappingLaws a b {} := by
  intro a b
  have ha : a.Ordered := by decide
  have hb : b.Ordered := by decide
  exact ⟨ha, hb, collections_obey_laws.2.2 a b {} ha hb .empty⟩

end Value

end Scriptlet
