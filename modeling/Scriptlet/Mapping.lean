/-!
# Mappings

Finite mappings from names. The entries are kept in the order of their keys, which is the order of
their code points and so of their octets, with one entry for each key. Equal associations are
therefore equal mappings, however they came about.
-/

namespace Scriptlet

/-- A finite mapping from names, as the list of its entries. -/
structure Mapping (α : Type) where
  entries : List (String × α) := []
deriving DecidableEq, Repr

namespace Mapping

variable {α : Type}

instance : Inhabited (Mapping α) := ⟨{}⟩

/-- The value of the first entry with this key. -/
def findIn? (key : String) : List (String × α) → Option α
  | [] => none
  | (k, v) :: rest => if k = key then some v else findIn? key rest

def find? (m : Mapping α) (key : String) : Option α :=
  findIn? key m.entries

def contains (m : Mapping α) (key : String) : Bool :=
  (m.find? key).isSome

/-- Puts an entry in its place, where it takes the place of another with the same key. -/
def insertIn (key : String) (value : α) : List (String × α) → List (String × α)
  | [] => [(key, value)]
  | (k, v) :: rest =>
    if key < k then (key, value) :: (k, v) :: rest
    else if key = k then (key, value) :: rest
    else (k, v) :: insertIn key value rest

/-- The mapping with `value` under `key` and otherwise as before. -/
def insert (m : Mapping α) (key : String) (value : α) : Mapping α :=
  ⟨insertIn key value m.entries⟩

/-- The mapping of a list of entries. Of entries with the same key the last counts. -/
def ofList (entries : List (String × α)) : Mapping α :=
  entries.foldl (fun m e => m.insert e.1 e.2) {}

/-- The entries of both mappings. Where they disagree the second counts. -/
def union (m n : Mapping α) : Mapping α :=
  n.entries.foldl (fun m e => m.insert e.1 e.2) m

def filter (m : Mapping α) (p : String → α → Bool) : Mapping α :=
  ⟨m.entries.filter fun e => p e.1 e.2⟩

def keys (m : Mapping α) : List String :=
  m.entries.map (·.1)

def values (m : Mapping α) : List α :=
  m.entries.map (·.2)

def size (m : Mapping α) : Nat :=
  m.entries.length

/-! ## What is under a key -/

@[simp]
theorem find?_empty (key : String) : ({} : Mapping α).find? key = none :=
  rfl

theorem findIn?_insertIn_self (key : String) (value : α) (entries : List (String × α)) :
    findIn? key (insertIn key value entries) = some value := by
  induction entries with
  | nil => simp [insertIn, findIn?]
  | cons e rest ih =>
    obtain ⟨k, v⟩ := e
    rw [insertIn]
    split
    · simp [findIn?]
    · split
      · simp [findIn?]
      · rename_i h
        rw [findIn?, if_neg (Ne.symm h)]
        exact ih

theorem findIn?_insertIn_of_ne {key other : String} (h : key ≠ other) (value : α)
    (entries : List (String × α)) :
    findIn? other (insertIn key value entries) = findIn? other entries := by
  induction entries with
  | nil => simp [insertIn, findIn?, h]
  | cons e rest ih =>
    obtain ⟨k, v⟩ := e
    rw [insertIn]
    split
    · rw [findIn?, if_neg h]
    · split
      · rename_i hk
        subst hk
        rw [findIn?, findIn?, if_neg h, if_neg h]
      · rw [findIn?, findIn?, ih]

@[simp]
theorem find?_insert_self (m : Mapping α) (key : String) (value : α) :
    (m.insert key value).find? key = some value :=
  findIn?_insertIn_self key value m.entries

theorem find?_insert_of_ne (m : Mapping α) {key other : String} (h : key ≠ other) (value : α) :
    (m.insert key value).find? other = m.find? other :=
  findIn?_insertIn_of_ne h value m.entries

end Mapping

end Scriptlet
