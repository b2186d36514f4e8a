import Scriptlet.Machine
import Scriptlet.Proofs.Mapping.Entries

/-!
# What all bound values have in common

A property that all values have to which a stack binds names, in sight or hidden, is kept when a
name is bound to another value that has it, and whenever scopes and frames come and go. Whatever a
name stands for then has the property, too (`Stack.All.resolve`).
-/

namespace Scriptlet

variable {P Q : Value → Prop}

/-- All values that the scopes bind have the property. -/
structure Scopes.All (P : Value → Prop) (s : Scopes) : Prop where
  bottom : ∀ e ∈ s.bottom.entries, P e.2
  above : ∀ scope ∈ s.above, ∀ e ∈ scope.entries, P e.2

namespace Scopes.All

variable {s : Scopes}

theorem mono (h : s.All P) (hPQ : ∀ v, P v → Q v) : s.All Q :=
  ⟨fun e he => hPQ _ (h.bottom e he), fun scope hs e he => hPQ _ (h.above scope hs e he)⟩

theorem and (h : s.All P) (h' : s.All Q) : s.All fun v => P v ∧ Q v :=
  ⟨fun e he => ⟨h.bottom e he, h'.bottom e he⟩,
    fun scope hs e he => ⟨h.above scope hs e he, h'.above scope hs e he⟩⟩

theorem find? (h : s.All P) {name : String} {v : Value} (hv : s.find? name = some v) : P v := by
  rcases Option.or_eq_some_iff.mp hv with hv | ⟨-, hv⟩
  · obtain ⟨scope, hmem, hv⟩ := List.exists_of_findSome?_eq_some hv
    exact h.above scope hmem _ (Mapping.mem_of_find? hv)
  · exact h.bottom _ (Mapping.mem_of_find? hv)

theorem assign (h : s.All P) (name : String) {v : Value} (hv : P v) : (s.assign name v).All P := by
  have hinsert : ∀ {scope : Scope}, (∀ e ∈ scope.entries, P e.2) →
      ∀ e ∈ (scope.insert name v).entries, P e.2 := by
    intro scope hscope e he
    rcases Mapping.mem_insert he with rfl | he
    · exact hv
    · exact hscope e he
  obtain ⟨hbottom, habove⟩ := h
  obtain ⟨bottom, above⟩ := s
  cases above with
  | nil => exact ⟨hinsert hbottom, habove⟩
  | cons scope rest =>
    obtain ⟨hscope, hrest⟩ := List.forall_mem_cons.mp habove
    exact ⟨hbottom, List.forall_mem_cons.mpr ⟨hinsert hscope, hrest⟩⟩

theorem push (h : s.All P) : s.push.All P :=
  ⟨h.bottom, List.forall_mem_cons.mpr ⟨by simp, h.above⟩⟩

theorem pop {below : Scopes} (h : s.All P) (hp : s.pop? = some below) : below.All P := by
  obtain ⟨hbottom, habove⟩ := h
  obtain ⟨bottom, above⟩ := s
  cases above with
  | nil => cases hp
  | cons scope rest =>
    cases hp
    exact ⟨hbottom, (List.forall_mem_cons.mp habove).2⟩

end Scopes.All

/-- All values that the stack binds have the property. -/
structure Stack.All (P : Value → Prop) (s : Stack) : Prop where
  base : s.base.All P
  frames : ∀ f ∈ s.frames, f.scopes.All P

namespace Stack

/-- What a search through the frames finds is bound in one of them. -/
theorem findLinked_all {name : String} {frames : List Frame}
    (h : ∀ f ∈ frames, ∀ v, f.scopes.find? name = some v → P v) {skip distance : Nat} {v : Value}
    (hfound : findLinked name skip frames = some (distance, v)) : P v := by
  induction frames generalizing skip distance v with
  | nil => cases skip <;> cases hfound
  | cons f below ih =>
    -- Whatever is found behind the top frame is found in a search of the frames below.
    have hfurther : ∀ {skip : Nat},
        (findLinked name skip below).map (fun r => (r.1 + 1, r.2)) = some (distance, v) → P v := by
      intro skip hm
      obtain ⟨⟨d, u⟩, hd, he⟩ := Option.map_eq_some_iff.mp hm
      cases he
      exact ih (fun g hg => h g (List.mem_cons_of_mem f hg)) hd
    cases skip with
    | succ skip => exact hfurther hfound
    | zero =>
      rw [findLinked] at hfound
      split at hfound
      · rename_i hv
        cases hfound
        exact h f List.mem_cons_self v hv
      · exact hfurther hfound
      · cases hfound

namespace All

variable {s : Stack}

theorem mono (h : s.All P) (hPQ : ∀ v, P v → Q v) : s.All Q :=
  ⟨h.base.mono hPQ, fun f hf => (h.frames f hf).mono hPQ⟩

theorem and (h : s.All P) (h' : s.All Q) : s.All fun v => P v ∧ Q v :=
  ⟨h.base.and h'.base, fun f hf => (h.frames f hf).and (h'.frames f hf)⟩

theorem top (h : s.All P) : s.top.All P := by
  obtain ⟨hbase, hframes⟩ := h
  obtain ⟨base, frames⟩ := s
  cases frames with
  | nil => exact hbase
  | cons f below => exact hframes f List.mem_cons_self

/-- Other scopes on top do no harm if their values have the property. -/
theorem withTop (h : s.All P) {scopes : Scopes} (hs : scopes.All P) : (s.withTop scopes).All P := by
  obtain ⟨hbase, hframes⟩ := h
  obtain ⟨base, frames⟩ := s
  cases frames with
  | nil => exact ⟨hs, hframes⟩
  | cons f below =>
    have hbelow := (List.forall_mem_cons.mp hframes).2
    exact ⟨hbase, List.forall_mem_cons.mpr ⟨hs, hbelow⟩⟩

theorem assign (h : s.All P) (name : String) {v : Value} (hv : P v) : (s.assign name v).All P :=
  h.withTop (h.top.assign name hv)

theorem push (h : s.All P) : s.push.All P :=
  h.withTop h.top.push

theorem pop {below : Stack} (h : s.All P) (hp : s.pop? = some below) : below.All P := by
  obtain ⟨scopes, hscopes, rfl⟩ := Option.map_eq_some_iff.mp hp
  exact h.withTop (h.top.pop hscopes)

theorem enter (h : s.All P) {bindings : Scope} (link : Option Nat)
    (hb : ∀ e ∈ bindings.entries, P e.2) : (s.enter bindings link).All P where
  base := h.base
  frames := List.forall_mem_cons.mpr ⟨⟨hb, fun _ hs => absurd hs List.not_mem_nil⟩, h.frames⟩

theorem leave (h : s.All P) : s.leave.All P where
  base := h.base
  frames f hf := h.frames f (List.mem_of_mem_tail hf)

theorem resolve (h : s.All P) {name : String} {link : Option Nat} {v : Value}
    (hr : s.resolve name = some (link, v)) : P v := by
  obtain ⟨hbase, hframes⟩ := h
  obtain ⟨base, frames⟩ := s
  unfold Stack.resolve at hr
  split at hr
  · obtain ⟨u, hu, he⟩ := Option.map_eq_some_iff.mp hr
    cases he
    exact hbase.find? hu
  · split at hr
    · rename_i hfound
      cases hr
      exact findLinked_all (fun f hf _ hu => (hframes f hf).find? hu) hfound
    · obtain ⟨u, hu, he⟩ := Option.map_eq_some_iff.mp hr
      cases he
      exact hbase.bottom _ (Mapping.mem_of_find? hu)

end All

end Stack

end Scriptlet
