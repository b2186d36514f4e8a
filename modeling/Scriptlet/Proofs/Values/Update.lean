import Mathlib.Data.Option.Basic
import Scriptlet.Value.Operation

/-!
# Updating within values

What it means to replace a part of a value, in terms of the keys that lead to the part
(`Value.updateAt`): nothing counts as an empty mapping, entries are inserted or replaced, and an
element of a list is replaced if the list has it. The definition goes from the outside inwards, and
is compared with reading and writing one member at a time, which goes from the inside outwards
(`updateAt_append`).

Behind an update the keys lead to the new part (`readAt_updateAt`), lists on the way have kept their
length (`length_of_updateAt`), and another key of the same kind leads to what it led to before
(`at?_eq_of_updateAt`).
-/

namespace Scriptlet.Value

/-! ## Members -/

/-- What stands under a key: nothing, if there is nothing, unless the key makes no sense there. -/
def at? (object key : Value) : Option Value :=
  match object, key with
  | nil, _ => some nil
  | map entries, string key => some ((entries.find? key).getD nil)
  | list items, int index => some (((slot? index items.length).bind fun i => items[i]?).getD nil)
  | _, _ => none

/-- The object with `value` under a key, unless it can have nothing there. -/
def put? (object key value : Value) : Option Value :=
  match object, key with
  | nil, string key => some (map (({} : Mapping Value).insert key value))
  | map entries, string key => some (map (entries.insert key value))
  | list items, int index =>
    (slot? index items.length).map fun i => list (items.set i value)
  | _, _ => none

theorem readIndex_eq_ok_iff {object key u : Value} {position : Position} :
    object.readIndex key position = .ok u ↔ object.at? key = some u := by
  cases object <;> cases key <;> simp [readIndex, at?]

theorem readName_eq_ok_iff {object u : Value} {name : String} {position : Position} :
    object.readName name position = .ok u ↔ object.at? (string name) = some u := by
  cases object <;> simp [readName, at?]

theorem write_eq_ok_iff {object key value new : Value} {position : Position} :
    object.write key value position = .ok new ↔ object.put? key value = some new := by
  cases object with
  | list items =>
    cases key with
    | int index =>
      simp only [write, put?]
      cases slot? index items.length <;> simp
    | _ => simp [write, put?]
  | _ => cases key <;> simp [write, put?]

theorem slot?_lt {index : Int64} {length i : Nat} (h : slot? index length = some i) :
    i < length := by
  unfold slot? at h
  split at h
  · rename_i hin
    obtain rfl := Option.some.inj h
    omega
  · cases h

/-- Two indexes with the same slot are the same. -/
theorem slot?_inj {index other : Int64} {length i : Nat} (h : slot? index length = some i)
    (h' : slot? other length = some i) : index = other := by
  unfold slot? at h h'
  split at h
  · split at h'
    · have hi := Option.some.inj h
      have hi' := Option.some.inj h'
      exact Int64.toInt_inj.mp (by omega)
    · cases h'
  · cases h

/-- What has been put under a key stands there. -/
theorem at?_put? {object key value new : Value} (h : object.put? key value = some new) :
    new.at? key = some value := by
  cases object with
  | nil =>
    cases key with
    | string key =>
      obtain rfl := Option.some.inj h
      simp [at?]
    | _ => cases h
  | map entries =>
    cases key with
    | string key =>
      obtain rfl := Option.some.inj h
      simp [at?]
    | _ => cases h
  | list items =>
    cases key with
    | int index =>
      obtain ⟨i, hi, rfl⟩ := Option.map_eq_some_iff.mp h
      simp [at?, hi, slot?_lt hi]
    | _ => cases h
  | _ => cases key <;> cases h

/-- Putting something under a key leaves what stands under others, which can still be asked for. -/
theorem at?_put?_of_ne {object key other value new : Value}
    (h : object.put? key value = some new) (hne : key ≠ other) (hkind : key.kind = other.kind) :
    ∃ u, object.at? other = some u ∧ new.at? other = some u := by
  cases object with
  | nil =>
    cases key with
    | string key =>
      obtain rfl := Option.some.inj h
      cases other with
      | string other =>
        have hkey : key ≠ other := fun heq => hne (congrArg string heq)
        exact ⟨nil, rfl, by simp [at?, Mapping.find?_insert_of_ne _ hkey]⟩
      | _ => cases hkind
    | _ => cases h
  | map entries =>
    cases key with
    | string key =>
      obtain rfl := Option.some.inj h
      cases other with
      | string other =>
        have hkey : key ≠ other := fun heq => hne (congrArg string heq)
        exact ⟨_, rfl, by simp [at?, Mapping.find?_insert_of_ne _ hkey]⟩
      | _ => cases hkind
    | _ => cases h
  | list items =>
    cases key with
    | int index =>
      obtain ⟨i, hi, rfl⟩ := Option.map_eq_some_iff.mp h
      cases other with
      | int other =>
        refine ⟨_, rfl, ?_⟩
        simp only [at?, List.length_set]
        cases hj : slot? other items.length with
        | none => rfl
        | some j =>
          have hij : i ≠ j := by
            rintro rfl
            exact hne (congrArg int (slot?_inj hi hj))
          simp [List.getElem?_set_ne hij]
      | _ => cases hkind
    | _ => cases h
  | _ => cases key <;> cases h

/-! ## Parts -/

/-- The part of a value to which the keys lead. -/
def readAt (object : Value) (keys : List Value) : Option Value :=
  keys.foldlM at? object

/-- The value with `value` for the part to which the keys lead. Nothing counts as an empty mapping,
and a list must have the element. -/
def updateAt (object : Value) (keys : List Value) (value : Value) : Option Value :=
  match object, keys with
  | _, [] => some value
  | nil, string key :: keys => do
    let part ← updateAt nil keys value
    some (map (({} : Mapping Value).insert key part))
  | map entries, string key :: keys => do
    let part ← updateAt ((entries.find? key).getD nil) keys value
    some (map (entries.insert key part))
  | list items, int index :: keys => do
    let i ← slot? index items.length
    let old ← items[i]?
    let part ← updateAt old keys value
    some (list (items.set i part))
  | _, _ :: _ => none

@[simp]
theorem readAt_nil (object : Value) : object.readAt [] = some object :=
  rfl

theorem readAt_append (object : Value) (keys later : List Value) :
    object.readAt (keys ++ later) = (object.readAt keys).bind fun part => part.readAt later :=
  List.foldlM_append

@[simp]
theorem readAt_singleton (object key : Value) : object.readAt [key] = object.at? key :=
  Option.bind_fun_some _

theorem readAt_cons (object key : Value) (keys : List Value) :
    object.readAt (key :: keys) = (object.at? key).bind fun part => part.readAt keys :=
  List.foldlM_cons

@[simp]
theorem updateAt_nil (object value : Value) : object.updateAt [] value = some value := by
  cases object <;> rfl

/-- An update changes the part under the first key and puts it back. -/
theorem updateAt_cons (object key : Value) (keys : List Value) (value : Value) :
    object.updateAt (key :: keys) value =
      (object.at? key).bind fun part =>
        (part.updateAt keys value).bind fun new => object.put? key new := by
  cases object with
  | nil =>
    cases key with
    | string key => rfl
    | _ => simp [updateAt, at?, put?]
  | map entries =>
    cases key with
    | string key => rfl
    | _ => rfl
  | list items =>
    cases key with
    | int index =>
      simp only [updateAt, at?, put?]
      cases hi : slot? index items.length with
      | none => simp
      | some i =>
        have hlt := slot?_lt hi
        simp [List.getElem?_eq_getElem hlt]
    | _ => rfl
  | _ => cases key <;> rfl

/-- Where nothing can stand under a key, nothing can be put. -/
theorem updateAt_singleton (object key value : Value) :
    object.updateAt [key] value = object.put? key value := by
  rw [updateAt_cons]
  cases hpart : object.at? key with
  | some part => simp
  | none =>
    cases object with
    | nil => cases hpart
    | map entries =>
      cases key with
      | string key => cases hpart
      | _ => rfl
    | list items =>
      cases key with
      | int index => cases hpart
      | _ => rfl
    | _ => cases key <;> rfl

/-- To update a part of a part, the part is read, changed, and put back. -/
theorem updateAt_append (object : Value) (keys later : List Value) (value : Value) :
    object.updateAt (keys ++ later) value =
      (object.readAt keys).bind fun part =>
        (part.updateAt later value).bind fun new => object.updateAt keys new := by
  induction keys generalizing object with
  | nil => simp
  | cons key keys ih =>
    rw [List.cons_append, updateAt_cons, readAt_cons]
    cases hpart : object.at? key with
    | none => rfl
    | some part =>
      simp only [Option.bind_some, ih, updateAt_cons, hpart, Option.bind_assoc]

/-- The keys lead to the new part. -/
theorem readAt_updateAt {value object new : Value} {keys : List Value}
    (h : object.updateAt keys value = some new) : new.readAt keys = some value := by
  induction keys generalizing object new with
  | nil =>
    rw [updateAt_nil] at h
    exact h.symm
  | cons key keys ih =>
    rw [updateAt_cons] at h
    obtain ⟨old, hold, h⟩ := Option.bind_eq_some_iff.mp h
    obtain ⟨part, hpart, h⟩ := Option.bind_eq_some_iff.mp h
    rw [readAt_cons, at?_put? h]
    exact ih hpart

/-- An update changes one member of each object on the way. -/
theorem put?_of_updateAt {value object new key : Value} {front rest : List Value}
    (h : object.updateAt (front ++ key :: rest) value = some new) :
    ∃ before part after, object.readAt front = some before ∧
      before.put? key part = some after ∧ new.readAt front = some after := by
  rw [updateAt_append] at h
  obtain ⟨before, hbefore, h⟩ := Option.bind_eq_some_iff.mp h
  obtain ⟨after, hafter, h⟩ := Option.bind_eq_some_iff.mp h
  rw [updateAt_cons] at hafter
  obtain ⟨old, -, hafter⟩ := Option.bind_eq_some_iff.mp hafter
  obtain ⟨part, -, hput⟩ := Option.bind_eq_some_iff.mp hafter
  exact ⟨before, part, after, hbefore, hput, readAt_updateAt h⟩

/-- A list on the way keeps its length. -/
theorem length_of_updateAt {value object new key : Value} {front rest items : List Value}
    (h : object.updateAt (front ++ key :: rest) value = some new)
    (hlist : object.readAt front = some (list items)) :
    ∃ others : List Value, new.readAt front = some (list others) ∧
      others.length = items.length := by
  obtain ⟨before, part, after, hbefore, hput, hafter⟩ := put?_of_updateAt h
  obtain rfl : before = list items := Option.some.inj (hbefore.symm.trans hlist)
  cases key with
  | int index =>
    obtain ⟨i, -, rfl⟩ := Option.map_eq_some_iff.mp hput
    exact ⟨_, hafter, List.length_set⟩
  | _ => cases hput

/-- Another key of the same kind leads on to what it led to before. -/
theorem at?_eq_of_updateAt {value object new key other : Value} {front rest : List Value}
    (h : object.updateAt (front ++ key :: rest) value = some new) (hne : key ≠ other)
    (hkind : key.kind = other.kind) :
    ∃ before after u, object.readAt front = some before ∧ new.readAt front = some after ∧
      before.at? other = some u ∧ after.at? other = some u := by
  obtain ⟨before, part, after, hbefore, hput, hafter⟩ := put?_of_updateAt h
  obtain ⟨u, hu, hu'⟩ := at?_put?_of_ne hput hne hkind
  exact ⟨before, after, u, hbefore, hafter, hu, hu'⟩

end Scriptlet.Value
