import Scriptlet.Proofs.Values.Heredity

/-!
# Vocabularies

What a run can refer to: the names that its trees look up, and the native functions that its values
contain. A value is *within* a vocabulary if all functions in it keep to these names and natives.
Collections are within a vocabulary if their elements are, so operators, members and built-in
functions do not lead out of it (`Value.hereditary_within`).
-/

namespace Scriptlet

/-! ## The names that a tree looks up -/

mutual

/-- The names that an expression looks up, as variables or as functions. -/
def Expr.names : Expr → List String
  | .var v => [v.name]
  | .literal _ _ => []
  | .binary left _ right _ => left.names ++ right.names
  | .list values _ => namesOfAll values
  | .block b => b.names
  | .call c => c.names
  | .field object member _ => object.names ++ member.names

/-- The names that some of the expressions look up. -/
def namesOfAll : List Expr → List String
  | [] => []
  | e :: es => e.names ++ namesOfAll es

/-- The names that a member looks up. The name of an entry is none of them. -/
def Member.names : Member → List String
  | .name _ => []
  | .call c => c.names
  | .index key => key.names

/-- The names that a call looks up. -/
def Call.names : Call → List String
  | ⟨name, arguments, _⟩ => name :: namesOfAll arguments

/-- The names that a statement looks up, which include those of the functions that it defines. A
name that is only bound is none of them. -/
def Statement.names : Statement → List String
  | .assign (.var _) value _ => value.names
  | .assign target value _ => target.names ++ value.names
  | .function f => f.names
  | .conditional condition body none _ => condition.names ++ body.names
  | .conditional condition body (some otherwise) _ =>
    condition.names ++ (body.names ++ otherwise.names)
  | .loop _ _ iterable body _ => iterable.names ++ body.names
  | .exit none _ => []
  | .exit (some value) _ => value.names
  | .stop _ => []
  | .skip _ => []
  | .expression e => e.names
  | .newLine _ => []
  | .comment _ => []

/-- The names that some of the statements look up. -/
def namesOfStatements : List Statement → List String
  | [] => []
  | s :: ss => s.names ++ namesOfStatements ss

/-- The names that a block looks up. -/
def Block.names : Block → List String
  | ⟨statements, _⟩ => namesOfStatements statements

/-- The names that the body of a function looks up. -/
def Function.names : Function → List String
  | ⟨_, _, body, _⟩ => body.names

end

theorem Function.names_eq (f : Function) : f.names = namesOfStatements f.body.statements := by
  obtain ⟨name, parameters, ⟨statements, _⟩, _⟩ := f
  rw [Function.names, Block.names]

/-! ## Values within a vocabulary -/

/-- What a run can refer to. -/
structure Vocabulary where
  /-- The names that are looked up. -/
  names : String → Prop
  /-- The native functions that are values. -/
  natives : Native → Prop

/-- The vocabulary of all names and all native functions. -/
def Vocabulary.full : Vocabulary :=
  ⟨fun _ => True, fun _ => True⟩

/-- Whether a native function is a built-in one. -/
def Native.IsBuiltin (n : Native) : Prop :=
  ∃ b, n = .builtin b

/-- The vocabulary of these names and the built-in functions. -/
def Vocabulary.plain (names : String → Prop) : Vocabulary :=
  ⟨names, Native.IsBuiltin⟩

variable {w : Vocabulary}

mutual

/-- The functions in a value look up names of the vocabulary only, and the native functions in it
belong to the vocabulary. -/
def Value.Within (w : Vocabulary) : Value → Prop
  | .function f => ∀ n ∈ f.names, w.names n
  | .native n => w.natives n
  | .list items => ItemsWithin w items
  | .map ⟨entries⟩ => EntriesWithin w entries
  | _ => True

/-- All elements of a list are within the vocabulary. -/
def ItemsWithin (w : Vocabulary) : List Value → Prop
  | [] => True
  | v :: vs => v.Within w ∧ ItemsWithin w vs

/-- All values of a list of entries are within the vocabulary. -/
def EntriesWithin (w : Vocabulary) : List (String × Value) → Prop
  | [] => True
  | (_, v) :: rest => v.Within w ∧ EntriesWithin w rest

end

mutual

/-- Nothing leads out of the full vocabulary. -/
theorem Value.within_full : ∀ v : Value, v.Within .full
  | .nil | .bool _ | .int _ | .string _ => by simp [Value.Within]
  | .function _ | .native _ => by simp [Value.Within, Vocabulary.full]
  | .list vs => by rw [Value.Within]; exact itemsWithin_full vs
  | .map ⟨es⟩ => by rw [Value.Within]; exact entriesWithin_full es

theorem itemsWithin_full : ∀ vs : List Value, ItemsWithin .full vs
  | [] => trivial
  | v :: vs => ⟨v.within_full, itemsWithin_full vs⟩

theorem entriesWithin_full : ∀ es : List (String × Value), EntriesWithin .full es
  | [] => trivial
  | (_, v) :: es => ⟨v.within_full, entriesWithin_full es⟩

end

theorem itemsWithin_iff {vs : List Value} : ItemsWithin w vs ↔ ∀ v ∈ vs, v.Within w := by
  induction vs with
  | nil => simp [ItemsWithin]
  | cons v vs ih => simp [ItemsWithin, ih]

theorem entriesWithin_iff {es : List (String × Value)} :
    EntriesWithin w es ↔ ∀ e ∈ es, e.2.Within w := by
  induction es with
  | nil => simp [EntriesWithin]
  | cons e rest ih =>
    obtain ⟨key, v⟩ := e
    simp [EntriesWithin, ih]

@[simp]
theorem Value.within_list {vs : List Value} :
    (Value.list vs).Within w ↔ ∀ v ∈ vs, v.Within w := by
  rw [Value.Within, itemsWithin_iff]

@[simp]
theorem Value.within_map {m : Mapping Value} :
    (Value.map m).Within w ↔ ∀ e ∈ m.entries, e.2.Within w := by
  obtain ⟨entries⟩ := m
  rw [Value.Within, entriesWithin_iff]

@[simp]
theorem Value.within_function {f : Function} :
    (Value.function f).Within w ↔ ∀ n ∈ f.names, w.names n := by
  rw [Value.Within]

@[simp]
theorem Value.within_native {n : Native} : (Value.native n).Within w ↔ w.natives n := by
  rw [Value.Within]

@[simp]
theorem Value.within_nil : Value.nil.Within w := by simp [Value.Within]

@[simp]
theorem Value.within_bool {b : Bool} : (Value.bool b).Within w := by simp [Value.Within]

@[simp]
theorem Value.within_int {n : Int64} : (Value.int n).Within w := by simp [Value.Within]

@[simp]
theorem Value.within_string {s : String} : (Value.string s).Within w := by simp [Value.Within]

@[simp]
theorem Literal.value_within (l : Literal) : l.value.Within w := by
  cases l <;> simp [Literal.value]

/-- Operations do not lead out of the vocabulary. -/
theorem Value.hereditary_within : Value.Hereditary (·.Within w) where
  nil := within_nil
  bool _ := within_bool
  int _ := within_int
  string _ := within_string
  list := within_list
  value hm he := within_map.mp hm _ he
  empty := by simp
  insert key hm hv := by
    rw [within_map] at *
    intro e he
    rcases Mapping.mem_insert he with rfl | he
    · exact hv
    · exact hm e he
  filter p hm := within_map.mpr fun e he => within_map.mp hm e (List.mem_filter.mp he).1

end Scriptlet
