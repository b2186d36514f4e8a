import Mathlib.Data.List.Forall2
import Scriptlet.Value

/-!
# Equality of values

Equality of values goes through lists and mappings element by element, and ends at values that have
no elements. Two functions are equal if their definitions are, positions included, and two native
functions if their names are, whatever else a host attached to them. It is an equivalence relation
(`EquivBEq Value`), although equal values need not be the same. They have the same text, though
(`equal_display`).

What a value is equal to is said once for each type (`equal_list_iff` and its companions); that
equality is symmetric and transitive then follows by induction on the first value.
-/

namespace Scriptlet.Value

/-! ## What a value is equal to -/

theorem beq_def (v w : Value) : (v == w) = v.equal w :=
  rfl

section

attribute [local simp] equal equalItems equalEntries

@[simp]
theorem equal_nil_iff {w : Value} : nil.equal w = true ↔ nil = w := by
  cases w <;> simp

@[simp]
theorem equal_bool_iff {b : Bool} {w : Value} : (bool b).equal w = true ↔ bool b = w := by
  cases w <;> simp

@[simp]
theorem equal_int_iff {n : Int64} {w : Value} : (int n).equal w = true ↔ int n = w := by
  cases w <;> simp

@[simp]
theorem equal_string_iff {s : String} {w : Value} :
    (string s).equal w = true ↔ string s = w := by
  cases w <;> simp

theorem equal_list_iff {items : List Value} {w : Value} :
    (list items).equal w = true ↔ ∃ others, list others = w ∧ equalItems items others = true := by
  cases w <;> simp

theorem equal_map_iff {entries : List (String × Value)} {w : Value} :
    (map ⟨entries⟩).equal w = true ↔
      ∃ others, map ⟨others⟩ = w ∧ equalEntries entries others = true := by
  cases w with
  | map m =>
    obtain ⟨others⟩ := m
    simp
  | _ => simp

/-- A function is equal to itself only: the positions in its definition count. -/
@[simp]
theorem equal_function_iff {f : Function} {w : Value} :
    (function f).equal w = true ↔ function f = w := by
  cases w <;> simp

/-- A native function is equal to those of its name. -/
theorem equal_native_iff {n : Native} {w : Value} :
    (native n).equal w = true ↔ ∃ m, native m = w ∧ n.name = m.name := by
  cases w <;> simp

theorem equalItems_nil_iff {ws : List Value} : equalItems [] ws = true ↔ ws = [] := by
  cases ws <;> simp

theorem equalItems_cons_iff {v : Value} {vs ws : List Value} :
    equalItems (v :: vs) ws = true ↔
      ∃ w rest, w :: rest = ws ∧ v.equal w = true ∧ equalItems vs rest = true := by
  cases ws <;> simp [and_assoc]

theorem equalEntries_nil_iff {fs : List (String × Value)} :
    equalEntries [] fs = true ↔ fs = [] := by
  cases fs <;> simp

theorem equalEntries_cons_iff {key : String} {v : Value} {es fs : List (String × Value)} :
    equalEntries ((key, v) :: es) fs = true ↔
      ∃ w rest, (key, w) :: rest = fs ∧ v.equal w = true ∧ equalEntries es rest = true := by
  cases fs with
  | nil => simp
  | cons f fs =>
    obtain ⟨other, w⟩ := f
    constructor
    · intro h
      obtain ⟨⟨hkey, hvalue⟩, hrest⟩ :
          (key = other ∧ v.equal w = true) ∧ equalEntries es fs = true := by
        simpa using h
      subst hkey
      exact ⟨w, fs, rfl, hvalue, hrest⟩
    · rintro ⟨w', rest, heq, hvalue, hrest⟩
      cases heq
      simp [hvalue, hrest]

end

/-! ## An equivalence relation -/

mutual

theorem equal_refl : ∀ v : Value, v.equal v = true
  | nil => by simp
  | bool _ => by simp
  | int _ => by simp
  | string _ => by simp
  | list items => equal_list_iff.mpr ⟨items, rfl, equalItems_refl items⟩
  | map ⟨entries⟩ => equal_map_iff.mpr ⟨entries, rfl, equalEntries_refl entries⟩
  | function _ => by simp
  | native n => equal_native_iff.mpr ⟨n, rfl, rfl⟩

theorem equalItems_refl : ∀ vs : List Value, equalItems vs vs = true
  | [] => equalItems_nil_iff.mpr rfl
  | v :: vs => equalItems_cons_iff.mpr ⟨v, vs, rfl, equal_refl v, equalItems_refl vs⟩

theorem equalEntries_refl : ∀ es : List (String × Value), equalEntries es es = true
  | [] => equalEntries_nil_iff.mpr rfl
  | (_, v) :: es => equalEntries_cons_iff.mpr ⟨v, es, rfl, equal_refl v, equalEntries_refl es⟩

end

mutual

theorem equal_symm : ∀ (v : Value) {w : Value}, v.equal w = true → w.equal v = true
  | nil, _, h | bool _, _, h | int _, _, h | string _, _, h | function _, _, h => by
    simp at h
    subst h
    exact equal_refl _
  | list items, _, h => by
    obtain ⟨others, rfl, h⟩ := equal_list_iff.mp h
    exact equal_list_iff.mpr ⟨items, rfl, equalItems_symm items h⟩
  | map ⟨entries⟩, _, h => by
    obtain ⟨others, rfl, h⟩ := equal_map_iff.mp h
    exact equal_map_iff.mpr ⟨entries, rfl, equalEntries_symm entries h⟩
  | native n, _, h => by
    obtain ⟨m, rfl, hname⟩ := equal_native_iff.mp h
    exact equal_native_iff.mpr ⟨n, rfl, hname.symm⟩

theorem equalItems_symm :
    ∀ (vs : List Value) {ws : List Value}, equalItems vs ws = true → equalItems ws vs = true
  | [], _, h => by
    obtain rfl := equalItems_nil_iff.mp h
    exact h
  | v :: vs, _, h => by
    obtain ⟨w, ws, rfl, hv, hvs⟩ := equalItems_cons_iff.mp h
    exact equalItems_cons_iff.mpr ⟨v, vs, rfl, equal_symm v hv, equalItems_symm vs hvs⟩

theorem equalEntries_symm :
    ∀ (es : List (String × Value)) {fs : List (String × Value)},
      equalEntries es fs = true → equalEntries fs es = true
  | [], _, h => by
    obtain rfl := equalEntries_nil_iff.mp h
    exact h
  | (_, v) :: es, _, h => by
    obtain ⟨w, fs, rfl, hv, hes⟩ := equalEntries_cons_iff.mp h
    exact equalEntries_cons_iff.mpr ⟨v, es, rfl, equal_symm v hv, equalEntries_symm es hes⟩

end

mutual

theorem equal_trans :
    ∀ (u : Value) {v w : Value}, u.equal v = true → v.equal w = true → u.equal w = true
  | nil, _, _, h, h' | bool _, _, _, h, h' | int _, _, _, h, h' | string _, _, _, h, h'
  | function _, _, _, h, h' => by
    simp at h
    subst h
    exact h'
  | list items, _, _, h, h' => by
    obtain ⟨others, rfl, h⟩ := equal_list_iff.mp h
    obtain ⟨last, rfl, h'⟩ := equal_list_iff.mp h'
    exact equal_list_iff.mpr ⟨last, rfl, equalItems_trans items h h'⟩
  | map ⟨entries⟩, _, _, h, h' => by
    obtain ⟨others, rfl, h⟩ := equal_map_iff.mp h
    obtain ⟨last, rfl, h'⟩ := equal_map_iff.mp h'
    exact equal_map_iff.mpr ⟨last, rfl, equalEntries_trans entries h h'⟩
  | native n, _, _, h, h' => by
    obtain ⟨m, rfl, hname⟩ := equal_native_iff.mp h
    obtain ⟨l, rfl, hname'⟩ := equal_native_iff.mp h'
    exact equal_native_iff.mpr ⟨l, rfl, hname.trans hname'⟩

theorem equalItems_trans :
    ∀ (us : List Value) {vs ws : List Value},
      equalItems us vs = true → equalItems vs ws = true → equalItems us ws = true
  | [], _, _, h, h' => by
    obtain rfl := equalItems_nil_iff.mp h
    exact h'
  | u :: us, _, _, h, h' => by
    obtain ⟨v, vs, rfl, hu, hus⟩ := equalItems_cons_iff.mp h
    obtain ⟨w, ws, rfl, hv, hvs⟩ := equalItems_cons_iff.mp h'
    exact equalItems_cons_iff.mpr
      ⟨w, ws, rfl, equal_trans u hu hv, equalItems_trans us hus hvs⟩

theorem equalEntries_trans :
    ∀ (ds : List (String × Value)) {es fs : List (String × Value)},
      equalEntries ds es = true → equalEntries es fs = true → equalEntries ds fs = true
  | [], _, _, h, h' => by
    obtain rfl := equalEntries_nil_iff.mp h
    exact h'
  | (_, u) :: ds, _, _, h, h' => by
    obtain ⟨v, es, rfl, hu, hds⟩ := equalEntries_cons_iff.mp h
    obtain ⟨w, fs, rfl, hv, hes⟩ := equalEntries_cons_iff.mp h'
    exact equalEntries_cons_iff.mpr
      ⟨w, fs, rfl, equal_trans u hu hv, equalEntries_trans ds hds hes⟩

end

instance : EquivBEq Value where
  rfl := equal_refl _
  symm h := equal_symm _ h
  trans h h' := equal_trans _ h h'

/-! ## Through lists and mappings -/

theorem list_beq_list_iff {vs ws : List Value} :
    (list vs == list ws) = true ↔ List.Forall₂ (fun v w => (v == w) = true) vs ws := by
  rw [beq_def, equal]
  induction vs generalizing ws with
  | nil => rw [equalItems_nil_iff, List.forall₂_nil_left_iff]
  | cons v vs ih =>
    rw [equalItems_cons_iff, List.forall₂_cons_left_iff]
    constructor
    · rintro ⟨w, rest, rfl, hv, hvs⟩
      exact ⟨w, rest, hv, ih.mp hvs, rfl⟩
    · rintro ⟨w, rest, hv, hvs, rfl⟩
      exact ⟨w, rest, rfl, hv, ih.mpr hvs⟩

theorem map_beq_map_iff {m n : Mapping Value} :
    (map m == map n) = true ↔
      List.Forall₂ (fun e f => e.1 = f.1 ∧ (e.2 == f.2) = true) m.entries n.entries := by
  obtain ⟨es⟩ := m
  obtain ⟨fs⟩ := n
  rw [beq_def, equal]
  show equalEntries es fs = true ↔ List.Forall₂ _ es fs
  induction es generalizing fs with
  | nil => rw [equalEntries_nil_iff, List.forall₂_nil_left_iff]
  | cons e es ih =>
    obtain ⟨key, v⟩ := e
    rw [equalEntries_cons_iff, List.forall₂_cons_left_iff]
    constructor
    · rintro ⟨w, rest, rfl, hv, hes⟩
      exact ⟨(key, w), rest, ⟨rfl, hv⟩, (ih rest).mp hes, rfl⟩
    · rintro ⟨⟨other, w⟩, rest, ⟨hkey, hv⟩, hes, rfl⟩
      cases hkey
      exact ⟨w, rest, rfl, hv, (ih rest).mpr hes⟩

theorem native_beq_native_iff {m n : Native} :
    (native m == native n) = true ↔ m.name = n.name := by
  rw [beq_def, equal_native_iff]
  simp

theorem function_beq_function_iff {f g : Function} :
    (function f == function g) = true ↔ f = g := by
  rw [beq_def, equal_function_iff]
  simp

/-- Values of different types are different. -/
theorem kind_eq_of_beq {v w : Value} (h : (v == w) = true) : v.kind = w.kind := by
  rw [beq_def] at h
  cases v with
  | nil | bool _ | int _ | string _ | function _ =>
    simp at h
    rw [h]
  | list items =>
    obtain ⟨others, rfl, -⟩ := equal_list_iff.mp h
    rfl
  | map m =>
    obtain ⟨others, rfl, -⟩ := equal_map_iff.mp h
    rfl
  | native n =>
    obtain ⟨m, rfl, -⟩ := equal_native_iff.mp h
    rfl

theorem rel_of_beq {o o' : Option Value} (h : (o == o') = true) :
    Option.Rel (fun v w => (v == w) = true) o o' := by
  cases o <;> cases o'
  · exact .none
  · cases h
  · cases h
  · exact .some h

/-! ## Text -/

/-- Equal values are quoted alike. -/
theorem equal_quotedIn {v w : Value} (h : v.equal w = true) (text : String) :
    v.quotedIn text = w.quotedIn text := by
  cases v with
  | string _ =>
    obtain rfl := equal_string_iff.mp h
    rfl
  | _ => cases w <;> first | rfl | cases h

mutual

theorem equal_display : ∀ (v : Value) {w : Value}, v.equal w = true → v.display = w.display
  | nil, _, h | bool _, _, h | int _, _, h | string _, _, h | function _, _, h => by
    simp at h
    rw [h]
  | list items, _, h => by
    obtain ⟨others, rfl, h⟩ := equal_list_iff.mp h
    rw [display, display, equalItems_display items h]
  | map ⟨entries⟩, _, h => by
    obtain ⟨others, rfl, h⟩ := equal_map_iff.mp h
    rw [display, display, equalEntries_display entries h]
  | native n, _, h => by
    obtain ⟨m, rfl, hname⟩ := equal_native_iff.mp h
    rw [display, display, hname]

theorem equalItems_display : ∀ (vs : List Value) {ws : List Value},
    equalItems vs ws = true → displayItems vs = displayItems ws
  | [], _, h => by
    obtain rfl := equalItems_nil_iff.mp h
    rfl
  | v :: vs, _, h => by
    obtain ⟨w, ws, rfl, hv, hvs⟩ := equalItems_cons_iff.mp h
    rw [displayItems, displayItems, equal_quotedIn hv, equal_display v hv,
      equalItems_display vs hvs]

theorem equalEntries_display : ∀ (es : List (String × Value)) {fs : List (String × Value)},
    equalEntries es fs = true → displayEntries es = displayEntries fs
  | [], _, h => by
    obtain rfl := equalEntries_nil_iff.mp h
    rfl
  | (key, v) :: es, _, h => by
    obtain ⟨w, fs, rfl, hv, hes⟩ := equalEntries_cons_iff.mp h
    rw [displayEntries, displayEntries, equal_quotedIn hv, equal_display v hv,
      equalEntries_display es hes]

end

end Scriptlet.Value
