import Scriptlet.Proofs.Calls.Sight

/-!
# The stack as two lists with indices

The stack can be laid out flat: all scopes in one list, the global one first, and the open calls in
another, the outermost first. A call is then known by the index of its lowest scope, its *base*, and
by the index of the call that its link leads to, its *parent*. A search for a name goes by these
indices, and could run out of range or in circles.

It does neither (`Stack.resolves_layout`), provided that every link leads to a frame below its own
(`Frame.LinksInRange`). A layout is *well-formed* if bases increase and lie above the global scope,
and parents come before their children.
-/

namespace Scriptlet

/-- Every link leads to one of the frames below. -/
def Frame.LinksInRange : List Frame → Prop
  | [] => True
  | f :: below => (∀ distance, f.link = some distance → distance < below.length) ∧
      LinksInRange below

/-- A call in the layout. -/
structure Mark where
  /-- The index of its lowest scope. -/
  base : Nat
  /-- The index of the call that its link leads to. It is negative if there is none so far below. -/
  parent : Option Int

/-- The stack as two lists. -/
structure Layout where
  /-- All scopes, the global one first. -/
  scopes : List Scope
  /-- The open calls, the outermost first. -/
  marks : List Mark

/-- The scopes from the lowest to the innermost. -/
def Scopes.listed (s : Scopes) : List Scope :=
  s.bottom :: s.above.reverse

namespace Layout

/-- The layout with one more frame on top. -/
def add (l : Layout) (f : Frame) : Layout where
  scopes := l.scopes ++ f.scopes.listed
  marks := l.marks ++ [⟨l.scopes.length, f.link.map fun distance : Nat =>
    (l.marks.length : Int) - 1 - distance⟩]

/-- The index behind the scopes of a call: the base of the next call, or the end of all scopes. -/
def endOf (l : Layout) (index : Nat) : Nat :=
  (l.marks[index + 1]?).elim l.scopes.length Mark.base

/-- The scopes between two indices, if these are in range. -/
def slice? (l : Layout) (first last : Nat) : Option (List Scope) :=
  if first ≤ last ∧ last ≤ l.scopes.length then some ((l.scopes.take last).drop first) else none

/-- What a name stands for in the last of the scopes that bind it. -/
def search (name : String) (scopes : List Scope) : Option Value :=
  scopes.reverse.findSome? fun scope => scope.find? name

/-- The search for a name, from the call with an index on through the parents, comes to a result.
All indices on the way are in range, and it ends. -/
inductive Walks (l : Layout) (name : String) : Option Int → Option (Nat × Value) → Prop
  | ended : Walks l name none none
  | found {index : Nat} {mark : Mark} {scopes : List Scope} {v : Value}
    (hmark : l.marks[index]? = some mark)
    (hslice : l.slice? mark.base (l.endOf index) = some scopes)
    (hfound : search name scopes = some v) : Walks l name (some index) (some (index, v))
  | onward {index : Nat} {mark : Mark} {scopes : List Scope} {result : Option (Nat × Value)}
    (hmark : l.marks[index]? = some mark)
    (hslice : l.slice? mark.base (l.endOf index) = some scopes)
    (hmissing : search name scopes = none) (hparent : Walks l name mark.parent result) :
    Walks l name (some index) result

/-- The search for a name from the innermost call, or from outside of all calls, comes to a result:
the value, and the index of the call in which it was found, if it was found in one. -/
inductive Resolves (l : Layout) (name : String) : Option (Option Nat × Value) → Prop
  | outside (houtside : l.marks = []) :
    Resolves l name ((search name l.scopes).map fun v => (none, v))
  | inCall {last index : Nat} {v : Value} (hlast : l.marks.length = last + 1)
    (hwalk : l.Walks name (some last) (some (index, v))) : Resolves l name (some (some index, v))
  | inGlobals {last : Nat} {globals : Scope} (hlast : l.marks.length = last + 1)
    (hwalk : l.Walks name (some last) none) (hglobals : l.scopes[0]? = some globals) :
    Resolves l name ((globals.find? name).map fun v => (none, v))

/-- The indices fit together. -/
structure WellFormed (l : Layout) : Prop where
  scopes : l.scopes ≠ []
  bases : ∀ mark ∈ l.marks, 1 ≤ mark.base ∧ mark.base < l.scopes.length
  increasing : l.marks.Pairwise fun lower upper => lower.base < upper.base
  parents : ∀ {index : Nat} {mark : Mark} {parent : Int}, l.marks[index]? = some mark →
    mark.parent = some parent → 0 ≤ parent ∧ parent < index

variable {l : Layout} {f : Frame} {name : String}

/-! ## One more frame -/

theorem length_listed (s : Scopes) : s.listed.length = s.above.length + 1 := by
  simp [Scopes.listed]

theorem search_listed (s : Scopes) (name : String) : search name s.listed = s.find? name := by
  simp [search, Scopes.listed, Scopes.find?, List.findSome?_append]

/-- What is in range of the lower frames lies there as before. -/
theorem slice?_add {first last : Nat} {scopes : List Scope}
    (h : l.slice? first last = some scopes) : (l.add f).slice? first last = some scopes := by
  unfold slice? at h ⊢
  split at h
  · rename_i hrange
    have hgrow : l.scopes.length ≤ (l.add f).scopes.length := by simp [Layout.add]
    rw [if_pos ⟨hrange.1, Nat.le_trans hrange.2 hgrow⟩, ← h]
    simp [Layout.add, List.take_append_of_le_length hrange.2]
  · cases h

theorem marks_add {index : Nat} {mark : Mark} (h : l.marks[index]? = some mark) :
    (l.add f).marks[index]? = some mark :=
  List.getElem?_append_left (List.getElem?_eq_some_iff.mp h).1 |>.trans h

/-- The scopes of a lower frame end where they did: the base of the new frame is the former end of
all scopes. -/
theorem endOf_add {index : Nat} {mark : Mark} (h : l.marks[index]? = some mark) :
    (l.add f).endOf index = l.endOf index := by
  have hindex := (List.getElem?_eq_some_iff.mp h).1
  unfold endOf
  rcases Nat.lt_or_eq_of_le (Nat.succ_le_of_lt hindex) with hlt | heq
  · obtain ⟨next, hnext⟩ : ∃ next, l.marks[index + 1]? = some next :=
      ⟨_, List.getElem?_eq_getElem hlt⟩
    rw [hnext, marks_add hnext]
    rfl
  · rw [List.getElem?_eq_none (Nat.le_of_eq heq.symm)]
    simp [Layout.add, ← heq]

theorem Walks.add {start : Option Int} {result : Option (Nat × Value)}
    (h : l.Walks name start result) : (l.add f).Walks name start result := by
  induction h with
  | ended => exact .ended
  | found hmark hslice hfound =>
    rw [← endOf_add hmark] at hslice
    exact .found (marks_add hmark) (slice?_add hslice) hfound
  | onward hmark hslice hmissing _ ih =>
    rw [← endOf_add hmark] at hslice
    exact .onward (marks_add hmark) (slice?_add hslice) hmissing ih

/-- The scopes of the new frame are those from its base to the end. -/
theorem slice?_last (l : Layout) (f : Frame) :
    (l.add f).slice? l.scopes.length ((l.add f).endOf l.marks.length) = some f.scopes.listed := by
  have hend : (l.add f).endOf l.marks.length = (l.add f).scopes.length := by
    simp [endOf, Layout.add]
  have hall : (l.add f).scopes.take (l.add f).scopes.length = (l.add f).scopes := List.take_length
  rw [hend, slice?, if_pos (by simp [Layout.add]), hall]
  simp [Layout.add]

end Layout

namespace Stack

/-- The flat layout of the stack. -/
def layout (s : Stack) : Layout :=
  s.frames.foldr (fun f l => l.add f) ⟨s.base.listed, []⟩

theorem length_marks_layout (s : Stack) : s.layout.marks.length = s.frames.length := by
  obtain ⟨base, frames⟩ := s
  induction frames with
  | nil => rfl
  | cons f below ih =>
    show (_ ++ [_]).length = _
    rw [List.length_append, List.length_singleton]
    exact congrArg (· + 1) ih

theorem head_scopes_layout (s : Stack) : s.layout.scopes[0]? = some s.globals := by
  obtain ⟨base, frames⟩ := s
  induction frames with
  | nil => rfl
  | cons f below ih =>
    obtain ⟨hlt, -⟩ := List.getElem?_eq_some_iff.mp ih
    exact (List.getElem?_append_left hlt).trans ih

/-- A search through the frames finds something in one of them. -/
theorem findLinked_lt {name : String} {skip distance : Nat} {frames : List Frame} {v : Value}
    (h : findLinked name skip frames = some (distance, v)) : distance < frames.length := by
  induction frames generalizing skip distance v with
  | nil => cases skip <;> cases h
  | cons f below ih =>
    -- What is found further below was found in a search of the frames below.
    have hfurther : ∀ {skip : Nat},
        ((findLinked name skip below).map fun r => (r.1 + 1, r.2)) = some (distance, v) →
        distance < below.length + 1 := by
      intro skip hm
      obtain ⟨⟨d, u⟩, hd, he⟩ := Option.map_eq_some_iff.mp hm
      cases he
      exact Nat.succ_lt_succ (ih hd)
    cases skip with
    | succ skip => exact hfurther h
    | zero =>
      rw [findLinked_zero] at h
      cases hv : f.scopes.find? name with
      | some u =>
        rw [hv] at h
        cases h
        exact Nat.zero_lt_succ _
      | none =>
        rw [hv] at h
        cases hlink : f.link with
        | none => simp [hlink, follow] at h
        | some d =>
          rw [hlink] at h
          exact hfurther h

/-- The index of the frame above which so many others lie. -/
def indexed (frames : List Frame) (found : Nat × Value) : Nat × Value :=
  (frames.length - 1 - found.1, found.2)

/-- Searching by distances is searching by indices. -/
theorem walks_layout (base : Scopes) (name : String) {frames : List Frame}
    (h : Frame.LinksInRange frames) {skip : Nat} (hskip : skip < frames.length) :
    (Stack.layout ⟨base, frames⟩).Walks name (some ((frames.length - 1 - skip : Nat) : Int))
      ((findLinked name skip frames).map (indexed frames)) := by
  induction frames generalizing skip with
  | nil => exact absurd hskip (Nat.not_lt_zero _)
  | cons f below ih =>
    have hsize : (Stack.layout ⟨base, below⟩).marks.length = below.length :=
      length_marks_layout ⟨base, below⟩
    -- A search of the frames below finds the same in the larger layout, one frame further away.
    have hbelow : ∀ {skip : Nat}, skip < below.length →
        (Stack.layout ⟨base, f :: below⟩).Walks name (some ((below.length - 1 - skip : Nat) : Int))
          (((findLinked name skip below).map fun r => (r.1 + 1, r.2)).map
            (indexed (f :: below))) := by
      intro skip hskip
      have hwalk := (ih h.2 hskip).add (f := f)
      have hindexed : (indexed (f :: below) ∘ fun r => (r.1 + 1, r.2)) = indexed below := by
        funext r
        have hlength : (f :: below).length - 1 - (r.1 + 1) = below.length - 1 - r.1 := by
          simp only [List.length_cons]
          omega
        exact Prod.ext hlength rfl
      rw [Option.map_map, hindexed]
      exact hwalk
    cases skip with
    | succ skip =>
      have hlt : skip < below.length := Nat.lt_of_succ_lt_succ hskip
      have heq : (f :: below).length - 1 - (skip + 1) = below.length - 1 - skip := by
        simp only [List.length_cons]
        omega
      rw [heq]
      exact hbelow hlt
    | zero =>
      have hmark : (Stack.layout ⟨base, f :: below⟩).marks[below.length]? =
          some ⟨(Stack.layout ⟨base, below⟩).scopes.length,
            f.link.map fun distance : Nat => (below.length : Int) - 1 - distance⟩ := by
        rw [← hsize]
        exact List.getElem?_concat_length
      have hslice := Layout.slice?_last (Stack.layout ⟨base, below⟩) f
      rw [hsize] at hslice
      have heq : (f :: below).length - 1 - 0 = below.length := rfl
      rw [heq, findLinked_zero]
      cases hv : f.scopes.find? name with
      | some v => exact .found hmark hslice ((Layout.search_listed f.scopes name).trans hv)
      | none =>
        refine .onward hmark hslice ((Layout.search_listed f.scopes name).trans hv) ?_
        cases hlink : f.link with
        | none => exact .ended
        | some distance =>
          have hlt := h.1 distance hlink
          have hparent : ((below.length : Int) - 1 - distance) =
              ((below.length - 1 - distance : Nat) : Int) := by omega
          rw [Option.map_some, hparent]
          exact hbelow hlt

/-- By way of the indices, a name is found where it is found on the stack. -/
theorem resolves_layout {s : Stack} (h : Frame.LinksInRange s.frames) (name : String) :
    s.layout.Resolves name ((s.resolve name).map fun r =>
      (r.1.map fun distance => s.frames.length - 1 - distance, r.2)) := by
  obtain ⟨base, frames⟩ := s
  cases frames with
  | nil =>
    have houtside : (Stack.layout ⟨base, []⟩).Resolves name _ := .outside rfl
    have hsearch : Layout.search name (Stack.layout ⟨base, []⟩).scopes = base.find? name :=
      Layout.search_listed base name
    rw [hsearch] at houtside
    show Layout.Resolves _ name (((base.find? name).map _).map _)
    rw [Option.map_map]
    exact houtside
  | cons f below =>
    have hwalk := walks_layout base name h (Nat.zero_lt_succ below.length)
    have hlast : (Stack.layout ⟨base, f :: below⟩).marks.length = below.length + 1 :=
      length_marks_layout _
    rw [resolve_of_frames rfl]
    cases hs : findLinked name 0 (f :: below) with
    | some r =>
      rw [hs] at hwalk
      exact .inCall hlast hwalk
    | none =>
      rw [hs] at hwalk
      have hglobals := Layout.Resolves.inGlobals hlast hwalk (head_scopes_layout _)
      rw [Option.map_map]
      exact hglobals

end Stack

end Scriptlet
