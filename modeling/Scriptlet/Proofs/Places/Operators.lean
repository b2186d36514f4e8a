import Scriptlet.Proofs.Places.Values
import Scriptlet.Value.Operation

/-!
# Operations on the same values at other places

Where each function has one counterpart, the operators and the access to members give alike results
on alike values, or fail for the same cause (`Operator.apply_agree` and its companions).
-/

namespace Scriptlet

/-! ## Optional values -/

section Optional

variable {α β γ δ : Type} {R : α → β → Prop} {S : γ → δ → Prop} {o : Option α} {o' : Option β}

theorem optionRel_map (h : Option.Rel R o o') {f : α → γ} {g : β → δ}
    (hfg : ∀ a b, R a b → S (f a) (g b)) : Option.Rel S (o.map f) (o'.map g) := by
  cases h with
  | none => exact .none
  | some hab => exact .some (hfg _ _ hab)

theorem optionRel_or (h : Option.Rel R o o') {u : Option α} {u' : Option β}
    (hu : Option.Rel R u u') : Option.Rel R (o.or u) (o'.or u') := by
  cases h with
  | none => exact hu
  | some hab => exact .some hab

theorem optionRel_findSome? {l : List α} {l' : List β} (h : List.Forall₂ R l l')
    {f : α → Option γ} {g : β → Option δ} (hfg : ∀ a b, R a b → Option.Rel S (f a) (g b)) :
    Option.Rel S (l.findSome? f) (l'.findSome? g) := by
  induction h with
  | nil => exact .none
  | @cons a b _ _ hab _ ih =>
    have hfound := hfg a b hab
    rw [List.findSome?_cons, List.findSome?_cons]
    generalize f a = u at hfound ⊢
    generalize g b = u' at hfound ⊢
    cases hfound with
    | none => exact ih
    | some hfound => exact .some hfound

theorem optionRel_filter (h : Option.Rel R o o') {p : α → Bool} {q : β → Bool}
    (hpq : ∀ a b, R a b → p a = q b) : Option.Rel R (o.filter p) (o'.filter q) := by
  cases h with
  | none => exact .none
  | some hab =>
    rw [Option.filter_some, Option.filter_some, hpq _ _ hab]
    split
    · exact .some hab
    · exact .none

theorem optionRel_getD (h : Option.Rel R o o') {a : α} {b : β} (hab : R a b) :
    R (o.getD a) (o'.getD b) := by
  cases h with
  | none => exact hab
  | some hfound => exact hfound

theorem optionRel_any (h : Option.Rel R o o') {p : α → Bool} {q : β → Bool}
    (hpq : ∀ a b, R a b → p a = q b) : o.any p = o'.any q := by
  cases h with
  | none => rfl
  | some hab => exact hpq _ _ hab

theorem optionRel_isSome (h : Option.Rel R o o') : o.isSome = o'.isSome := by
  cases h <;> rfl

end Optional

variable {P : Correspondence}

/-! ## Mappings -/

namespace Mapping.Like

variable {m m' n n' : Mapping Value}

theorem empty : Mapping.Like P {} {} :=
  .nil

theorem find? (h : m.Like P m') (key : String) :
    Option.Rel (Value.Like P) (m.find? key) (m'.find? key) := by
  unfold Mapping.find?
  unfold Mapping.Like at h
  generalize m.entries = es at h
  generalize m'.entries = es' at h
  induction h with
  | nil => exact .none
  | cons he _ ih =>
    cases he with
    | @mk k v v' hv =>
      rw [findIn?, findIn?]
      split
      · exact .some hv
      · exact ih

theorem getD_find? (h : m.Like P m') (key : String) :
    ((m.find? key).getD .nil).Like P ((m'.find? key).getD .nil) :=
  optionRel_getD (h.find? key) .nil

theorem contains_eq (h : m.Like P m') (key : String) : m.contains key = m'.contains key :=
  optionRel_isSome (h.find? key)

theorem insert (h : m.Like P m') (key : String) {v v' : Value} (hv : v.Like P v') :
    (m.insert key v).Like P (m'.insert key v') := by
  unfold Mapping.Like Mapping.insert
  unfold Mapping.Like at h
  show List.Forall₂ (EntryLike P) (insertIn key v m.entries) (insertIn key v' m'.entries)
  generalize m.entries = es at h
  generalize m'.entries = es' at h
  induction h with
  | nil => exact .cons (.mk hv) .nil
  | cons he hes ih =>
    cases he with
    | @mk k u u' hu =>
      rw [insertIn, insertIn]
      split
      · exact .cons (.mk hv) (.cons (.mk hu) hes)
      · split
        · exact .cons (.mk hv) hes
        · exact .cons (.mk hu) ih

/-- What is entered one after the other. -/
theorem foldl_insert (h : m.Like P m') {es es' : List (String × Value)}
    (hes : List.Forall₂ (EntryLike P) es es') :
    (es.foldl (fun m e => m.insert e.1 e.2) m).Like P
      (es'.foldl (fun m e => m.insert e.1 e.2) m') := by
  induction hes generalizing m m' with
  | nil => exact h
  | cons he _ ih =>
    cases he with
    | mk hv => exact ih (h.insert _ hv)

theorem union (h : m.Like P m') (hn : n.Like P n') : (m.union n).Like P (m'.union n') :=
  h.foldl_insert hn

theorem ofList {es es' : List (String × Value)} (hes : List.Forall₂ (EntryLike P) es es') :
    (Mapping.ofList es).Like P (Mapping.ofList es') :=
  empty.foldl_insert hes

theorem filter (h : m.Like P m') {p p' : String → Value → Bool}
    (hp : ∀ key v v', v.Like P v' → p key v = p' key v') :
    (m.filter p).Like P (m'.filter p') := by
  refine List.rel_filter (fun e e' he => ?_) h
  cases he with
  | @mk key v v' hv =>
    show p key v = true ↔ p' key v' = true
    rw [hp key v v' hv]

theorem values (h : m.Like P m') : List.Forall₂ (Value.Like P) m.values m'.values := by
  refine List.rel_map (fun e e' he => ?_) h
  cases he with
  | mk hv => exact hv

theorem size_eq (h : m.Like P m') : m.size = m'.size :=
  h.length_eq

end Mapping.Like

/-! ## Values by themselves -/

namespace Value.Like

variable {v v' : Value}

theorem kind_eq (h : v.Like P v') : v.kind = v'.kind := by
  cases h <;> rfl

theorem isNil_eq (h : v.Like P v') : v.isNil = v'.isNil := by
  cases h <;> rfl

theorem isCallable_eq (h : v.Like P v') : v.isCallable = v'.isCallable := by
  cases h <;> rfl

theorem typeError (h : v.Like P v') (operation : Operation) (p p' : Position) :
    (v.typeError operation p).erase = (v'.typeError operation p').erase := by
  rw [Value.typeError, Value.typeError, h.kind_eq]
  rfl

theorem asBool (h : v.Like P v') (operation : Operation) (p p' : Position) :
    Agree (· = ·) (v.asBool operation p) (v'.asBool operation p') := by
  cases h with
  | bool b => exact .ok rfl
  | _ => exact .error rfl

theorem asString (h : v.Like P v') (operation : Operation) (p p' : Position) :
    Agree (· = ·) (v.asString operation p) (v'.asString operation p') := by
  cases h with
  | string s => exact .ok rfl
  | _ => exact .error rfl

end Value.Like

theorem forall₂_zipIdx {α β : Type} {R : α → β → Prop} {l : List α} {l' : List β}
    (h : List.Forall₂ R l l') (n : Nat) :
    List.Forall₂ (fun q q' => R q.1 q'.1 ∧ q.2 = q'.2) (l.zipIdx n) (l'.zipIdx n) := by
  induction h generalizing n with
  | nil => exact .nil
  | cons hab _ ih =>
    rw [List.zipIdx_cons, List.zipIdx_cons]
    exact .cons ⟨hab, rfl⟩ (ih (n + 1))

/-- Two indices are alike, and so are the elements there. -/
def PairLike (P : Correspondence) (p p' : Value × Value) : Prop :=
  p.1.Like P p'.1 ∧ p.2.Like P p'.2

theorem Value.Like.pairs? {v v' : Value} (h : v.Like P v') :
    Option.Rel (List.Forall₂ (PairLike P)) v.pairs? v'.pairs? := by
  cases h with
  | list items =>
    refine .some (List.rel_map (fun q q' hq => ?_) (forall₂_zipIdx items 0))
    rw [hq.2]
    exact ⟨.int _, hq.1⟩
  | map entries =>
    refine .some (List.rel_map (fun e e' he => ?_) entries)
    cases he with
    | mk hv => exact ⟨.string _, hv⟩
  | _ => exact .none

/-! ## Operators -/

theorem Operator.mismatch_erase {o : Operator} {a a' b b' : Value} (ha : a.Like P a')
    (hb : b.Like P b') (p p' : Position) :
    (o.mismatch a b p).erase = (o.mismatch a' b' p').erase := by
  rw [Operator.mismatch, Operator.mismatch, ha.kind_eq, hb.kind_eq]
  rfl

theorem Operator.inRange_agree (o : Operator) (n : Int) (p p' : Position) :
    Agree (Value.Like P) (o.inRange n p) (o.inRange n p') := by
  unfold Operator.inRange
  split
  · exact .ok (.int _)
  · exact .error rfl

namespace Value.Like

variable {a a' b b' : Value}

theorem onInts (ha : a.Like P a') (hb : b.Like P b') {o : Operator}
    {f f' : Int → Int → Except RuntimeError Value}
    (hf : ∀ m n, Agree (Value.Like P) (f m n) (f' m n)) (p p' : Position) :
    Agree (Value.Like P) (Value.onInts o f a b p) (Value.onInts o f' a' b' p') := by
  cases ha with
  | int m =>
    cases hb with
    | int n => exact hf _ _
    | _ => exact .error rfl
  | _ => exact .error (Operator.mismatch_erase (by constructor <;> assumption) hb p p')

theorem add (ha : a.Like P a') (hb : b.Like P b') (p p' : Position) :
    Agree (Value.Like P) (a.add b p) (a'.add b' p') := by
  cases ha with
  | int m =>
    cases hb with
    | int n => exact Operator.inRange_agree _ _ p p'
    | _ => exact .error rfl
  | string s =>
    cases hb with
    | string t => exact .ok (.string _)
    | _ => exact .error rfl
  | list hvs =>
    cases hb with
    | list hws => exact .ok (.list (List.rel_append hvs hws))
    | _ => exact .error rfl
  | map hm =>
    cases hb with
    | map hn => exact .ok (.map (Mapping.Like.union hm hn))
    | _ => exact .error rfl
  | _ => cases hb <;> exact .error rfl

variable (hP : Relator.BiUnique P)
include hP

theorem contains_eq {ws ws' : List Value} (hws : List.Forall₂ (Value.Like P) ws ws')
    (ha : a.Like P a') : ws.contains a = ws'.contains a' := by
  induction hws with
  | nil => rfl
  | cons hw _ ih =>
    rw [List.contains_cons, List.contains_cons, ih]
    exact congrArg (· || _) (a.equal_congr hP ha hw)

theorem withoutItems {vs vs' ws ws' : List Value} (hvs : List.Forall₂ (Value.Like P) vs vs')
    (hws : List.Forall₂ (Value.Like P) ws ws') :
    List.Forall₂ (Value.Like P) (Value.withoutItems vs ws) (Value.withoutItems vs' ws') := by
  refine List.rel_filter (fun v v' hv => ?_) hvs
  show (!ws.contains v) = true ↔ (!ws'.contains v') = true
  rw [contains_eq hP hws hv]

theorem withoutEntries {m m' n n' : Mapping Value} (hm : m.Like P m') (hn : n.Like P n') :
    (Value.withoutEntries m n).Like P (Value.withoutEntries m' n') := by
  refine hm.filter fun key v v' hv => ?_
  exact congrArg (! ·) (optionRel_any (hn.find? key) fun w w' hw => w.equal_congr hP hw hv)

theorem sub (ha : a.Like P a') (hb : b.Like P b') (p p' : Position) :
    Agree (Value.Like P) (a.sub b p) (a'.sub b' p') := by
  cases ha with
  | int m =>
    cases hb with
    | int n => exact Operator.inRange_agree _ _ p p'
    | _ => exact .error rfl
  | list hvs =>
    cases hb with
    | list hws => exact .ok (.list (withoutItems hP hvs hws))
    | map hn => exact .ok (.list (withoutItems hP hvs (Mapping.Like.values hn)))
    | _ => exact .error rfl
  | map hm =>
    cases hb with
    | map hn => exact .ok (.map (withoutEntries hP hm hn))
    | _ => exact .error rfl
  | _ => cases hb <;> exact .error rfl

theorem isIn (ha : a.Like P a') (hb : b.Like P b') (o : Operator) (p p' : Position) :
    Agree (· = ·) (a.isIn o b p) (a'.isIn o b' p') := by
  cases hb with
  | list hws =>
    unfold Value.isIn
    exact .ok (contains_eq hP hws ha)
  | map hn =>
    cases ha with
    | string key => exact .ok (Mapping.Like.contains_eq hn key)
    | _ => exact .error rfl
  | _ => cases ha <;> exact .error rfl

end Value.Like

/-- Operators agree on alike operands. -/
theorem Operator.apply_agree (hP : Relator.BiUnique P) (o : Operator) {a a' b b' : Value}
    (ha : a.Like P a') (hb : b.Like P b') (p p' : Position) :
    Agree (Value.Like P) (o.apply a b p) (o.apply a' b' p') := by
  cases o <;> simp only [Operator.apply]
  case add => exact ha.add hb p p'
  case sub => exact ha.sub hP hb p p'
  case mul => exact ha.onInts hb (fun m n => Operator.inRange_agree _ _ p p') p p'
  case div =>
    refine ha.onInts hb (fun m n => ?_) p p'
    split
    · exact .error rfl
    · exact Operator.inRange_agree _ _ p p'
  case greater | greaterEqual | less | lessEqual =>
    exact ha.onInts hb (fun m n => .ok (.bool _)) p p'
  case equal =>
    have hequal : (a == b) = (a' == b') := a.equal_congr hP ha hb
    rw [hequal]
    exact .ok (.bool _)
  case isIn | notIn =>
    refine (ha.isIn hP hb _ p p').map ?_
    rintro found _ rfl
    exact .bool _

/-! ## Members -/

namespace Value.Like

variable {object object' key key' value value' : Value}

theorem readName (ho : object.Like P object') (name : String) (p p' : Position) :
    Agree (Value.Like P) (object.readName name p) (object'.readName name p') := by
  cases ho with
  | map hm => exact .ok (Mapping.Like.getD_find? hm name)
  | nil => exact .ok .nil
  | _ => exact .error rfl

theorem getD_getElem? {vs vs' : List Value} (h : List.Forall₂ (Value.Like P) vs vs')
    (i : Option Nat) :
    ((i.bind fun i => vs[i]?).getD .nil).Like P ((i.bind fun i => vs'[i]?).getD .nil) := by
  cases i with
  | none => exact .nil
  | some i =>
    simp only [Option.bind_some]
    induction h generalizing i with
    | nil => exact .nil
    | cons hv _ ih =>
      cases i with
      | zero => exact hv
      | succ i => exact ih i

theorem readIndex (ho : object.Like P object') (hk : key.Like P key') (p p' : Position) :
    Agree (Value.Like P) (object.readIndex key p) (object'.readIndex key' p') := by
  cases ho with
  | map hm =>
    cases hk with
    | string key => exact .ok (Mapping.Like.getD_find? hm key)
    | _ => exact .error rfl
  | list hvs =>
    cases hk with
    | int index =>
      simp only [Value.readIndex, hvs.length_eq]
      exact .ok (getD_getElem? hvs _)
    | _ => exact .error rfl
  | nil => exact .ok .nil
  | _ => cases hk <;> exact .error rfl

theorem forall₂_set {vs vs' : List Value} (h : List.Forall₂ (Value.Like P) vs vs')
    (hv : value.Like P value') (i : Nat) :
    List.Forall₂ (Value.Like P) (vs.set i value) (vs'.set i value') := by
  induction h generalizing i with
  | nil => exact .nil
  | cons hw hws ih =>
    cases i with
    | zero => exact .cons hv hws
    | succ i => exact .cons hw (ih i)

theorem write (ho : object.Like P object') (hk : key.Like P key') (hv : value.Like P value')
    (p p' : Position) :
    Agree (Value.Like P) (object.write key value p) (object'.write key' value' p') := by
  cases ho with
  | nil =>
    cases hk with
    | string key => exact .ok (.map (Mapping.Like.empty.insert key hv))
    | _ => exact .error rfl
  | map hm =>
    cases hk with
    | string key => exact .ok (.map (Mapping.Like.insert hm key hv))
    | _ => exact .error rfl
  | list hvs =>
    cases hk with
    | int index =>
      simp only [Value.write, hvs.length_eq]
      split
      · exact .ok (.list (forall₂_set hvs hv _))
      · exact .error rfl
    | _ => exact .error rfl
  | _ => cases hk <;> exact .error rfl

theorem method? (ho : object.Like P object') (name : String) :
    Option.Rel (Value.Like P) (object.method? name) (object'.method? name) := by
  cases ho with
  | map hm => exact optionRel_filter (Mapping.Like.find? hm name) fun _ _ hv => hv.isCallable_eq
  | _ => exact .none

end Value.Like

end Scriptlet
