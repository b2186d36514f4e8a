import Scriptlet.Evaluation.Builtin
import Scriptlet.Proofs.Mapping.Entries
import Scriptlet.Value.Operation

/-!
# Properties that values hand on

A property of values is *hereditary* if a list or a mapping has it by its elements, and if it does
not matter to a mapping that it is changed by inserting or leaving out entries. Operations on values
make new values of the elements of those that they are given, so what comes of them has every such
property that the operands have (`Value.Hereditary.apply` and its companions).
-/

namespace Scriptlet

/-- A property that collections share with their elements. -/
structure Value.Hereditary (P : Value → Prop) : Prop where
  nil : P .nil
  bool : ∀ b, P (.bool b)
  int : ∀ n, P (.int n)
  string : ∀ s, P (.string s)
  list : ∀ {items : List Value}, P (.list items) ↔ ∀ v ∈ items, P v
  value : ∀ {m : Mapping Value} {e}, P (.map m) → e ∈ m.entries → P e.2
  empty : P (.map {})
  insert : ∀ {m : Mapping Value} {v} (key : String), P (.map m) → P v → P (.map (m.insert key v))
  filter : ∀ {m : Mapping Value} (p : String → Value → Bool), P (.map m) → P (.map (m.filter p))

/-- Two properties together. -/
theorem Value.Hereditary.and {P Q : Value → Prop} (h : Hereditary P) (h' : Hereditary Q) :
    Hereditary fun v => P v ∧ Q v where
  nil := ⟨h.nil, h'.nil⟩
  bool b := ⟨h.bool b, h'.bool b⟩
  int n := ⟨h.int n, h'.int n⟩
  string s := ⟨h.string s, h'.string s⟩
  list := (and_congr h.list h'.list).trans
    ⟨fun hvs v hv => ⟨hvs.1 v hv, hvs.2 v hv⟩, fun hvs => ⟨fun v hv => (hvs v hv).1,
      fun v hv => (hvs v hv).2⟩⟩
  value hm he := ⟨h.value hm.1 he, h'.value hm.2 he⟩
  empty := ⟨h.empty, h'.empty⟩
  insert key hm hv := ⟨h.insert key hm.1 hv.1, h'.insert key hm.2 hv.2⟩
  filter p hm := ⟨h.filter p hm.1, h'.filter p hm.2⟩

namespace Value.Hereditary

variable {P : Value → Prop} (h : Hereditary P) {position : Position}
variable {a b v object key value : Value}
include h

theorem literal (l : Literal) : P l.value := by
  cases l with
  | bool b => exact h.bool b
  | int n => exact h.int n
  | string s => exact h.string s

/-! ## Operators -/

theorem inRange {o : Operator} {n : Int} (hv : o.inRange n position = .ok v) : P v := by
  unfold Operator.inRange at hv
  split at hv <;> cases hv
  exact h.int _

theorem union {m n : Mapping Value} (hm : P (.map m)) (hn : ∀ e ∈ n.entries, P e.2) :
    P (.map (m.union n)) := by
  obtain ⟨entries⟩ := n
  show P (.map (entries.foldl (fun m e => m.insert e.1 e.2) m))
  induction entries generalizing m with
  | nil => exact hm
  | cons e rest ih =>
    exact ih (h.insert e.1 hm (hn e List.mem_cons_self)) fun f hf =>
      hn f (List.mem_cons_of_mem e hf)

theorem filterItems {items : List Value} (p : Value → Bool) (hitems : P (.list items)) :
    P (.list (items.filter p)) :=
  h.list.mpr fun u hu => h.list.mp hitems u (List.mem_filter.mp hu).1

theorem add (ha : P a) (hb : P b) (hv : a.add b position = .ok v) : P v := by
  unfold Value.add at hv
  split at hv
  · exact h.inRange hv
  · cases hv
    exact h.string _
  · cases hv
    exact h.list.mpr fun u hu => (List.mem_append.mp hu).elim (h.list.mp ha u) (h.list.mp hb u)
  · cases hv
    exact h.union ha fun e => h.value hb
  · cases hv

theorem sub (ha : P a) (hv : a.sub b position = .ok v) : P v := by
  unfold Value.sub at hv
  split at hv
  · exact h.inRange hv
  · cases hv
    exact h.filterItems _ ha
  · cases hv
    exact h.filterItems _ ha
  · cases hv
    exact h.filter _ ha
  · cases hv

omit h in
theorem onInts {o : Operator} {f : Int → Int → Except RuntimeError Value}
    (hf : ∀ m n, f m n = .ok v → P v) (hv : Value.onInts o f a b position = .ok v) : P v := by
  unfold Value.onInts at hv
  split at hv
  · exact hf _ _ hv
  · cases hv

/-- The value of an operator has the property if its operands have it. -/
theorem apply {o : Operator} (ha : P a) (hb : P b) (hv : o.apply a b position = .ok v) : P v := by
  cases o with
  | add => exact h.add ha hb hv
  | sub => exact h.sub ha hv
  | mul => exact onInts (fun _ _ => h.inRange) hv
  | div =>
    have hdivide : ∀ m n : Int, (if n = 0 then .error (.divisionByZero position)
        else Operator.div.inRange (m.tdiv n) position) = Except.ok v → P v := by
      intro m n hf
      split at hf
      · cases hf
      · exact h.inRange hf
    exact onInts hdivide hv
  | equal =>
    cases hv
    exact h.bool _
  | isIn | notIn =>
    simp only [Operator.apply, Except.map] at hv
    split at hv <;> cases hv
    exact h.bool _
  | greater | greaterEqual | less | lessEqual =>
    simp only [Operator.apply] at hv
    refine onInts (fun m n hf => ?_) hv
    cases hf
    exact h.bool _

/-! ## Members -/

theorem pairs? {pairs : List (Value × Value)} (hv : P v) (hpairs : v.pairs? = some pairs) :
    ∀ p ∈ pairs, P p.1 ∧ P p.2 := by
  cases v with
  | list items =>
    cases hpairs
    intro p hp
    obtain ⟨q, hq, rfl⟩ := List.mem_map.mp hp
    exact ⟨h.int _, h.list.mp hv _ (List.fst_mem_of_mem_zipIdx hq)⟩
  | map entries =>
    cases hpairs
    intro p hp
    obtain ⟨e, he, rfl⟩ := List.mem_map.mp hp
    exact ⟨h.string _, h.value hv he⟩
  | _ => cases hpairs

theorem find? {m : Mapping Value} {name : String} (hm : P (.map m)) (hv : m.find? name = some v) :
    P v :=
  h.value hm (Mapping.mem_of_find? hv)

theorem getD_find? {m : Mapping Value} {name : String} (hm : P (.map m)) :
    P ((m.find? name).getD .nil) := by
  cases hfound : m.find? name with
  | none => exact h.nil
  | some v => exact h.find? hm hfound

theorem readName {name : String} (ho : P object) (hv : object.readName name position = .ok v) :
    P v := by
  unfold Value.readName at hv
  split at hv
  · cases hv
    exact h.getD_find? ho
  · cases hv
    exact h.nil
  · cases hv

theorem readIndex (ho : P object) (hv : object.readIndex key position = .ok v) : P v := by
  unfold Value.readIndex at hv
  split at hv
  · cases hv
    exact h.getD_find? ho
  · rename_i items index
    cases hv
    cases hfound : (slot? index items.length).bind fun i => items[i]? with
    | none => exact h.nil
    | some u =>
      obtain ⟨i, -, hi⟩ := Option.bind_eq_some_iff.mp hfound
      exact h.list.mp ho u (List.mem_of_getElem? hi)
  · cases hv
    exact h.nil
  · cases hv

theorem write (ho : P object) (hvalue : P value)
    (hv : object.write key value position = .ok v) : P v := by
  unfold Value.write at hv
  split at hv
  · cases hv
    exact h.insert _ h.empty hvalue
  · cases hv
    exact h.insert _ ho hvalue
  · split at hv <;> cases hv
    refine h.list.mpr fun u hu => ?_
    rcases List.mem_or_eq_of_mem_set hu with hu | rfl
    · exact h.list.mp ho u hu
    · exact hvalue
  · cases hv

theorem method? {callee : Value} {name : String} (ho : P object)
    (hc : object.method? name = some callee) : P callee := by
  unfold Value.method? at hc
  split at hc
  · obtain ⟨hfound, -⟩ := Option.filter_eq_some_iff.mp hc
    exact h.find? ho hfound
  · cases hc

/-! ## Built-in functions -/

theorem length (hv : Builtin.length a position = .ok v) : P v := by
  unfold Builtin.length at hv
  cases a <;> cases hv <;> exact h.int _

omit h in
theorem firstMatch {env : Environment} {o : Builtin} {text : String} :
    ∀ {entries : List (String × Value)}, (∀ e ∈ entries, P e.2) →
      Builtin.firstMatch env o text position entries = .ok (some v) → P v
  | [], _, hv => by cases hv
  | (pattern, u) :: rest, hentries, hv => by
    rw [Builtin.firstMatch] at hv
    cases hread : Builtin.readPattern env o pattern position with
    | error e => simp [hread, bind, Except.bind] at hv
    | ok isMatch =>
      simp only [hread, bind, Except.bind] at hv
      split at hv
      · cases hv
        exact hentries (pattern, v) List.mem_cons_self
      · exact firstMatch (fun e he => hentries e (List.mem_cons_of_mem _ he)) hv

theorem searchMap {env : Environment} {o : Builtin} {patterns text : Value} (hp : P patterns)
    (hv : Builtin.searchMap env o patterns text position = .ok (some v)) : P v := by
  unfold Builtin.searchMap at hv
  split at hv
  · cases htext : text.asString (.native o.name) position with
    | error e => simp [htext, bind, Except.bind] at hv
    | ok s =>
      simp only [htext, bind, Except.bind] at hv
      exact firstMatch (fun e => h.value hp) hv
  · cases hv

end Value.Hereditary

end Scriptlet
