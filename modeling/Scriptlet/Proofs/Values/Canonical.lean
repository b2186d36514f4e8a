import Scriptlet.Proofs.Mapping.Order
import Scriptlet.Proofs.Text.Order
import Scriptlet.Proofs.Values.Heredity

/-!
# Values whose mappings are ordered

A value is *canonical* if each mapping in it is ordered: its entries stand in the order of their
keys, which is that of the octets that spell them (`Mapping.Ordered.octets`), and no two have the
same key. Mappings may be anywhere in a value: in lists, in other mappings, among the values that a
host attached to a function.

Operations on values make canonical values of canonical ones (`Value.hereditary_canonical`).
-/

namespace Scriptlet

/-- Entries stand in the order of the octets of their keys. -/
theorem Mapping.Ordered.octets {α : Type} {m : Mapping α} (h : m.Ordered) :
    m.keys.Pairwise fun k l => Utf8.encode k.toList < Utf8.encode l.toList :=
  List.pairwise_map.mpr (h.imp Utf8.encode_lt_encode)

/-- `u.Part v`: the value `u` is `v`, or somewhere in it. -/
inductive Value.Part (u : Value) : Value → Prop
  | self : Part u u
  | item {items : List Value} {v : Value} (hmem : v ∈ items) (hpart : Part u v) :
    Part u (.list items)
  | entry {m : Mapping Value} {e : String × Value} (hmem : e ∈ m.entries) (hpart : Part u e.2) :
    Part u (.map m)
  | attached {name label : String} {arity : Arity} {values : List Value} {v : Value}
    (hmem : v ∈ values) (hpart : Part u v) : Part u (.native (.host name arity label values))

/-- All mappings in the value are ordered. -/
def Value.Canonical (v : Value) : Prop :=
  ∀ m : Mapping Value, (Value.map m).Part v → m.Ordered

namespace Value

@[simp]
theorem canonical_nil : nil.Canonical := by
  rintro m ⟨⟩

@[simp]
theorem canonical_bool {b : Bool} : (bool b).Canonical := by
  rintro m ⟨⟩

@[simp]
theorem canonical_int {n : Int64} : (int n).Canonical := by
  rintro m ⟨⟩

@[simp]
theorem canonical_string {s : String} : (string s).Canonical := by
  rintro m ⟨⟩

@[simp]
theorem canonical_function {f : Function} : (function f).Canonical := by
  rintro m ⟨⟩

@[simp]
theorem canonical_builtin {b : Builtin} : (native (.builtin b)).Canonical := by
  rintro m ⟨⟩

@[simp]
theorem canonical_list {items : List Value} :
    (list items).Canonical ↔ ∀ v ∈ items, v.Canonical := by
  constructor
  · exact fun h v hmem m hpart => h m (.item hmem hpart)
  · rintro h m (⟨⟩ | ⟨hmem, hpart⟩)
    exact h _ hmem m hpart

@[simp]
theorem canonical_map {m : Mapping Value} :
    (map m).Canonical ↔ m.Ordered ∧ ∀ e ∈ m.entries, e.2.Canonical := by
  constructor
  · exact fun h => ⟨h m .self, fun e hmem m' hpart => h m' (.entry hmem hpart)⟩
  · rintro ⟨hordered, hvalues⟩ m' hpart
    cases hpart with
    | self => exact hordered
    | entry hmem hpart => exact hvalues _ hmem m' hpart

/-- Operations keep mappings ordered. -/
theorem hereditary_canonical : Hereditary Canonical where
  nil := canonical_nil
  bool _ := canonical_bool
  int _ := canonical_int
  string _ := canonical_string
  list := canonical_list
  value hm he := (canonical_map.mp hm).2 _ he
  empty := canonical_map.mpr ⟨.empty, by simp⟩
  insert key hm hv := by
    rw [canonical_map] at *
    refine ⟨hm.1.insert key _, fun e he => ?_⟩
    rcases Mapping.mem_insert he with rfl | he
    · exact hv
    · exact hm.2 e he
  filter p hm := by
    rw [canonical_map] at *
    exact ⟨hm.1.filter p, fun e he => hm.2 e (List.mem_filter.mp he).1⟩

end Value

end Scriptlet
