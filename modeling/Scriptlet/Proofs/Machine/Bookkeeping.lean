import Mathlib.Data.List.Basic
import Mathlib.Data.List.ModifyLast
import Mathlib.Logic.Relation
import Scriptlet.Proofs.Machine.Layout

/-!
# Keeping the two lists

The stack can be worked on in its flat form, too. A binding goes into the last scope; a push adds
one and a pop takes it away, unless it is the lowest of a call or the global one; a call that is
opened adds a scope and a mark, and notes how many scopes there were before; and when it is closed,
the scopes are cut back to as many as were noted. Each operation on the stack does this to the
layout (`Stack.layout_assign`, `Stack.layout_push`, `Stack.layout_pop?`, `Stack.layout_enter`,
`Stack.layout_leave`).

Nothing about the two lists as such keeps their indices in range. That they stay so is an invariant
of the steps (`Ledger.Fits.step`, `Ledger.Fits.steps`): what is noted are the bases of the open
calls, so cutting back neither takes away the global scope nor leaves a base out of range, and a
parent is an index that a search for a name has found.
-/

namespace Scriptlet

/-- The scope with some bindings made in it. -/
def Scope.Later (globals later : Scope) : Prop :=
  ∃ bindings : List (String × Value), later = bindings.foldl (fun s b => s.insert b.1 b.2) globals

theorem Scope.Later.refl (globals : Scope) : globals.Later globals :=
  ⟨[], rfl⟩

theorem Scope.Later.insert {globals later : Scope} (h : globals.Later later) (name : String)
    (value : Value) : globals.Later (later.insert name value) := by
  obtain ⟨bindings, rfl⟩ := h
  exact ⟨bindings ++ [(name, value)], by rw [List.foldl_append]; rfl⟩

namespace Layout

/-! ## The operations -/

/-- The index of the lowest scope of the innermost call, or of the global scope. -/
def base (l : Layout) : Nat :=
  l.marks.getLast?.elim 0 Mark.base

def assign (l : Layout) (name : String) (value : Value) : Layout :=
  { l with scopes := l.scopes.modifyLast fun scope => scope.insert name value }

def push (l : Layout) : Layout :=
  { l with scopes := l.scopes ++ [{}] }

/-- Takes away the last scope, unless it is the lowest of a call or the global one. -/
def pop? (l : Layout) : Option Layout :=
  if l.scopes.length ≤ l.base + 1 then none else some { l with scopes := l.scopes.dropLast }

/-- Opens a call, with the index of the call that its link leads to, if there is one. -/
def enter (l : Layout) (bindings : Scope) (parent : Option Nat) : Layout where
  scopes := l.scopes ++ [bindings]
  marks := l.marks ++ [⟨l.scopes.length, parent.map Int.ofNat⟩]

/-- The bases of the open calls, the innermost first. -/
def bases (l : Layout) : List Nat :=
  (l.marks.map Mark.base).reverse

/-- Closes the innermost call, and cuts the scopes back to so many. -/
def leave (l : Layout) (length : Nat) : Layout where
  scopes := l.scopes.take length
  marks := l.marks.dropLast

/-- The index of a call in which a search has found a name while these calls were open. -/
def Found (marks : List Mark) (index : Nat) : Prop :=
  ∃ (l : Layout) (name : String) (v : Value),
    l.marks = marks ∧ l.Resolves name (some (some index, v))

variable {l l' : Layout} {name : String}

theorem base_concat (scopes : List Scope) (lower : List Mark) (last : Mark) :
    base ⟨scopes, lower ++ [last]⟩ = last.base := by
  rw [base, List.getLast?_concat]
  rfl

theorem length_assign (l : Layout) (name : String) (value : Value) :
    (l.assign name value).scopes.length = l.scopes.length := by
  unfold assign
  rcases List.eq_nil_or_concat' l.scopes with hs | ⟨lower, last, hs⟩
  · rw [hs]
    rfl
  · simp only [hs, List.modifyLast_concat, List.length_append, List.length_singleton]

/-- A pop that is not refused takes away a scope above the base. -/
theorem pop?_eq_some (h : l.pop? = some l') :
    l.base + 1 < l.scopes.length ∧ l' = { l with scopes := l.scopes.dropLast } := by
  unfold pop? at h
  split at h
  · cases h
  · rename_i hsize
    cases h
    exact ⟨Nat.lt_of_not_le hsize, rfl⟩

theorem bases_enter (l : Layout) (bindings : Scope) (parent : Option Nat) :
    (l.enter bindings parent).bases = l.scopes.length :: l.bases := by
  rw [bases, Layout.enter, List.map_append, List.reverse_append]
  rfl

/-- The first of the bases is that of the innermost call. -/
theorem marks_of_bases {length : Nat} {rest : List Nat} (h : l.bases = length :: rest) :
    ∃ lower last, l.marks = lower ++ [last] ∧ last.base = length ∧
      (lower.map Mark.base).reverse = rest := by
  unfold bases at h
  rcases List.eq_nil_or_concat' l.marks with hmarks | ⟨lower, last, hmarks⟩
  · rw [hmarks] at h
    cases h
  · rw [hmarks, List.map_append, List.reverse_append] at h
    cases h
    exact ⟨lower, last, hmarks, rfl, rfl⟩

/-- The first scope stays, unless it is the only one and something is bound in it. -/
theorem first_assign {scope globals : Scope} (h : l.scopes[0]? = some scope)
    (hlater : globals.Later scope) (name : String) (value : Value) :
    ∃ scope', (l.assign name value).scopes[0]? = some scope' ∧ globals.Later scope' := by
  unfold assign
  rcases List.eq_nil_or_concat' l.scopes with hs | ⟨lower, last, hs⟩
  · rw [hs] at h
    cases h
  · simp only [hs, List.modifyLast_concat]
    cases lower with
    | nil =>
      rw [hs] at h
      cases h
      exact ⟨_, rfl, hlater.insert name value⟩
    | cons first lower =>
      rw [hs] at h
      exact ⟨scope, h, hlater⟩

/-! ## The indices stay in range -/

namespace WellFormed

variable {lower : List Mark} {last : Mark}

theorem base_lt (h : l.WellFormed) : l.base < l.scopes.length := by
  unfold Layout.base
  cases hlast : l.marks.getLast? with
  | none => exact List.length_pos_iff.mpr h.scopes
  | some mark => exact (h.bases mark (List.mem_of_getLast? hlast)).2

/-- The innermost call has the highest base. -/
theorem base_lt_last (h : l.WellFormed) (hmarks : l.marks = lower ++ [last]) {mark : Mark}
    (hmem : mark ∈ lower) : mark.base < last.base := by
  have hincreasing := h.increasing
  rw [hmarks] at hincreasing
  exact (List.pairwise_append.mp hincreasing).2.2 mark hmem last (List.mem_singleton_self last)

theorem le_base (h : l.WellFormed) {mark : Mark} (hmem : mark ∈ l.marks) : mark.base ≤ l.base := by
  rcases List.eq_nil_or_concat' l.marks with hmarks | ⟨lower, last, hmarks⟩
  · rw [hmarks] at hmem
    cases hmem
  · rw [hmarks] at hmem
    have hbase : l.base = last.base := by
      rw [← base_concat l.scopes lower last, ← hmarks]
    rw [hbase]
    rcases List.mem_append.mp hmem with hmem | hmem
    · exact Nat.le_of_lt (h.base_lt_last hmarks hmem)
    · exact Nat.le_of_eq (congrArg Mark.base (List.mem_singleton.mp hmem))

/-- As long as no call is opened or closed, it is enough that the innermost base is in range. -/
theorem resize (h : l.WellFormed) {scopes : List Scope} (hsize : l.base < scopes.length) :
    WellFormed { l with scopes } where
  scopes := List.ne_nil_of_length_pos (Nat.zero_lt_of_lt hsize)
  bases mark hmem := ⟨(h.bases mark hmem).1, Nat.lt_of_le_of_lt (h.le_base hmem) hsize⟩
  increasing := h.increasing
  parents := h.parents

theorem assign (h : l.WellFormed) (name : String) (value : Value) :
    (l.assign name value).WellFormed := by
  have hlength := l.length_assign name value
  refine h.resize ?_
  exact Nat.lt_of_lt_of_eq h.base_lt hlength.symm

theorem push (h : l.WellFormed) : l.push.WellFormed := by
  refine h.resize ?_
  rw [List.length_append]
  exact Nat.lt_add_right _ h.base_lt

theorem pop? (h : l.WellFormed) (hpop : l.pop? = some l') : l'.WellFormed := by
  obtain ⟨hsize, rfl⟩ := pop?_eq_some hpop
  refine h.resize ?_
  rw [List.length_dropLast]
  exact Nat.lt_sub_of_add_lt hsize

/-- The base of a new call lies above those of the others, and its parent below itself. -/
theorem enter (h : l.WellFormed) (bindings : Scope) {parent : Option Nat}
    (hparent : ∀ index, parent = some index → index < l.marks.length) :
    (l.enter bindings parent).WellFormed := by
  have hsize := List.length_pos_iff.mpr h.scopes
  have hgrow : (l.enter bindings parent).scopes.length = l.scopes.length + 1 := List.length_append
  refine ⟨List.ne_nil_of_length_pos (hgrow ▸ Nat.succ_pos _), fun mark hmem => ?_, ?_,
    fun {index mark parent'} hmark hparent' => ?_⟩
  · rw [hgrow]
    rcases List.mem_append.mp hmem with hmem | hmem
    · exact ⟨(h.bases mark hmem).1, Nat.lt_succ_of_lt (h.bases mark hmem).2⟩
    · obtain rfl := List.mem_singleton.mp hmem
      exact ⟨hsize, Nat.lt_succ_self _⟩
  · refine List.pairwise_append.mpr ⟨h.increasing, List.pairwise_singleton _ _, ?_⟩
    intro lower hmem upper hlast
    obtain rfl := List.mem_singleton.mp hlast
    exact (h.bases lower hmem).2
  · by_cases hindex : index < l.marks.length
    · exact h.parents ((List.getElem?_append_left hindex).symm.trans hmark) hparent'
    · have hle := Nat.le_of_not_lt hindex
      have hlast : [_][index - l.marks.length]? = some mark :=
        (List.getElem?_append_right hle).symm.trans hmark
      obtain rfl := List.mem_singleton.mp (List.mem_of_getElem? hlast)
      obtain ⟨found, hfound, rfl⟩ := Option.map_eq_some_iff.mp hparent'
      have hlt := Nat.lt_of_lt_of_le (hparent found hfound) hle
      exact ⟨Int.natCast_nonneg found, Int.ofNat_lt.mpr hlt⟩

/-- A call can be closed if the scopes are cut back to its base. -/
theorem leave (h : l.WellFormed) (hmarks : l.marks = lower ++ [last]) :
    (l.leave last.base).WellFormed := by
  have hlast : last ∈ l.marks := hmarks ▸ List.mem_concat_self
  obtain ⟨hpos, hlt⟩ := h.bases last hlast
  have hsize : (l.leave last.base).scopes.length = last.base :=
    List.length_take_of_le (Nat.le_of_lt hlt)
  have hlower : (l.leave last.base).marks = lower := by
    rw [Layout.leave, hmarks, List.dropLast_concat]
  have hincreasing := h.increasing
  rw [hmarks] at hincreasing
  have hne : 0 < (l.leave last.base).scopes.length := by
    rw [hsize]
    exact hpos
  refine ⟨List.ne_nil_of_length_pos hne, fun mark hmem => ?_, ?_,
    fun {index mark parent} hmark => ?_⟩
  · rw [hlower] at hmem
    rw [hsize]
    exact ⟨(h.bases mark (hmarks ▸ List.mem_append_left _ hmem)).1, h.base_lt_last hmarks hmem⟩
  · rw [hlower]
    exact (List.pairwise_append.mp hincreasing).1
  · rw [hlower] at hmark
    refine h.parents ?_
    rw [hmarks]
    exact (List.getElem?_append_left (List.getElem?_eq_some_iff.mp hmark).1).trans hmark

end WellFormed

/-! ## Frames and calls -/

/-- A frame is a call that has been opened, with the scopes that have been pushed in it. -/
theorem add_eq_enter {f : Frame}
    (hlink : ∀ distance, f.link = some distance → distance < l.marks.length) :
    l.add f = { l.enter f.scopes.bottom (f.link.map (l.marks.length - 1 - ·)) with
      scopes := l.scopes ++ f.scopes.listed } := by
  have hparent : (f.link.map fun distance : Nat => (l.marks.length : Int) - 1 - distance) =
      (f.link.map (l.marks.length - 1 - ·)).map Int.ofNat := by
    cases hf : f.link with
    | none => rfl
    | some distance =>
      have hlt := hlink distance hf
      simp only [Option.map_some, Int.ofNat_eq_natCast]
      congr 1
      omega
  rw [add, enter, hparent]

theorem WellFormed.add {f : Frame} (h : l.WellFormed)
    (hlink : ∀ distance, f.link = some distance → distance < l.marks.length) :
    (l.add f).WellFormed := by
  have hparent : ∀ index, f.link.map (l.marks.length - 1 - ·) = some index →
      index < l.marks.length := by
    intro index hindex
    obtain ⟨distance, hd, rfl⟩ := Option.map_eq_some_iff.mp hindex
    have hlt := hlink distance hd
    omega
  rw [add_eq_enter hlink]
  refine (h.enter f.scopes.bottom hparent).resize ?_
  have hbase : (l.enter f.scopes.bottom (f.link.map (l.marks.length - 1 - ·))).base =
      l.scopes.length := base_concat _ _ _
  rw [hbase, List.length_append, length_listed]
  omega

/-! ## What searches find -/

theorem Walks.lt {start : Option Int} {index : Nat} {v : Value}
    (h : l.Walks name start (some (index, v))) : index < l.marks.length := by
  generalize hresult : some (index, v) = result at h
  induction h with
  | ended => cases hresult
  | found hmark _ _ =>
    cases hresult
    exact (List.getElem?_eq_some_iff.mp hmark).1
  | onward _ _ _ _ ih => exact ih hresult

/-- A search finds a name in one of the calls that are open. -/
theorem Found.lt {marks : List Mark} {index : Nat} (h : Found marks index) :
    index < marks.length := by
  obtain ⟨l, name, v, rfl, hresolves⟩ := h
  generalize hresult : some (some index, v) = result at hresolves
  cases hresolves with
  | outside houtside =>
    obtain ⟨u, -, he⟩ := Option.map_eq_some_iff.mp hresult.symm
    cases he
  | inCall _ hwalk =>
    cases hresult
    exact hwalk.lt
  | inGlobals _ _ _ =>
    obtain ⟨u, -, he⟩ := Option.map_eq_some_iff.mp hresult.symm
    cases he

end Layout

/-! ## Steps -/

/-- The two lists in the course of a run. -/
structure Ledger where
  layout : Layout
  /-- For each open call, the innermost first, how many scopes there were before it. -/
  noted : List Nat
  /-- What has been told about the number of scopes, the latest first. -/
  told : List Event

namespace Ledger

open Layout (Found)

def initial (globals : Scope) : Ledger :=
  ⟨⟨[globals], []⟩, [], []⟩

/-- A step on the two lists. -/
inductive Step : Ledger → Ledger → Prop
  | assign {l noted told} (name : String) (value : Value) :
    Step ⟨l, noted, told⟩ ⟨l.assign name value, noted, told⟩
  | push {l noted told} :
    Step ⟨l, noted, told⟩ ⟨l.push, noted, .pushed l.push.scopes.length :: told⟩
  | pop {l l' noted told} (hpop : l.pop? = some l') :
    Step ⟨l, noted, told⟩ ⟨l', noted, .popped l'.scopes.length :: told⟩
  | popRefused {l noted told} (hpop : l.pop? = none) :
    Step ⟨l, noted, told⟩ ⟨l, noted, .popRefused l.scopes.length :: told⟩
  | enter {l noted told} (bindings : Scope) {parent : Option Nat}
    (hparent : ∀ index, parent = some index → Found l.marks index) :
    Step ⟨l, noted, told⟩ ⟨l.enter bindings parent, l.scopes.length :: noted,
      .entered (l.enter bindings parent).scopes.length :: told⟩
  | leave {l length noted told} :
    Step ⟨l, length :: noted, told⟩ ⟨l.leave length, noted,
      .left (l.leave length).scopes.length :: told⟩

/-- Any number of steps. -/
abbrev Leads : Ledger → Ledger → Prop :=
  Relation.ReflTransGen Step

/-- The indices fit together, each call is going to be cut back to its base, and the first scope is
the global one, as it has become. -/
structure Fits (globals : Scope) (a : Ledger) : Prop where
  layout : a.layout.WellFormed
  noted : a.noted = a.layout.bases
  first : ∃ scope, a.layout.scopes[0]? = some scope ∧ globals.Later scope

variable {globals : Scope} {a b : Ledger}

theorem Fits.initial (globals : Scope) : (Ledger.initial globals).Fits globals where
  layout := ⟨List.cons_ne_nil _ _, fun _ hm => absurd hm List.not_mem_nil, .nil,
    fun hm => absurd hm (by simp [Ledger.initial])⟩
  noted := rfl
  first := ⟨globals, rfl, .refl globals⟩

/-- What a step keeps. -/
theorem Fits.step (h : a.Fits globals) (hstep : a.Step b) : b.Fits globals := by
  obtain ⟨hlayout, hnoted, scope, hfirst, hlater⟩ := h
  have hpos := (List.getElem?_eq_some_iff.mp hfirst).1
  cases hstep with
  | assign name value =>
    exact ⟨hlayout.assign name value, hnoted, Layout.first_assign hfirst hlater name value⟩
  | push =>
    exact ⟨hlayout.push, hnoted, scope, (List.getElem?_append_left hpos).trans hfirst, hlater⟩
  | @pop l l' noted told hpop =>
    have hwellFormed := hlayout.pop? hpop
    obtain ⟨hsize, rfl⟩ := Layout.pop?_eq_some hpop
    have hstays : 0 < l.scopes.length - 1 := by omega
    refine ⟨hwellFormed, hnoted, scope, ?_, hlater⟩
    rw [List.getElem?_dropLast, if_pos hstays]
    exact hfirst
  | popRefused _ => exact ⟨hlayout, hnoted, scope, hfirst, hlater⟩
  | @enter l noted told bindings parent hparent =>
    refine ⟨hlayout.enter bindings fun index hindex => (hparent index hindex).lt, ?_, scope,
      (List.getElem?_append_left hpos).trans hfirst, hlater⟩
    rw [Layout.bases_enter]
    exact congrArg _ hnoted
  | @leave l length noted told =>
    -- What was noted last is the base of the innermost call.
    obtain ⟨lower, last, hmarks, rfl, rfl⟩ := Layout.marks_of_bases hnoted.symm
    have hbase := (hlayout.bases last (hmarks ▸ List.mem_concat_self)).1
    refine ⟨hlayout.leave hmarks, ?_, scope, (List.getElem?_take_of_lt hbase).trans hfirst, hlater⟩
    rw [Layout.bases, Layout.leave, hmarks, List.dropLast_concat]

/-- What any number of steps keep. -/
theorem Fits.steps (h : a.Fits globals) (hsteps : a.Leads b) : b.Fits globals := by
  induction hsteps with
  | refl => exact h
  | tail _ hstep ih => exact ih.step hstep

end Ledger

/-! ## What the operations on the stack do to the two lists -/

namespace Scopes

theorem listed_push (s : Scopes) : s.push.listed = s.listed ++ [({} : Scope)] := by
  simp only [listed, push, List.reverse_cons, List.cons_append]

theorem listed_assign (s : Scopes) (name : String) (value : Value) :
    (s.assign name value).listed = s.listed.modifyLast fun scope => scope.insert name value := by
  obtain ⟨bottom, above⟩ := s
  cases above with
  | nil => rfl
  | cons scope rest =>
    have hlisted : ∀ scope : Scope, listed ⟨bottom, scope :: rest⟩ =
        (bottom :: rest.reverse) ++ [scope] := by
      intro scope
      simp [listed]
    rw [hlisted, List.modifyLast_concat]
    exact hlisted _

theorem pop?_eq (s : Scopes) :
    s.pop? = none ∧ s.listed.length = 1 ∨
      ∃ s' scope, s.pop? = some s' ∧ s.listed = s'.listed ++ [scope] := by
  obtain ⟨bottom, above⟩ := s
  cases above with
  | nil => exact .inl ⟨rfl, rfl⟩
  | cons scope rest => exact .inr ⟨⟨bottom, rest⟩, scope, rfl, by simp [listed]⟩

end Scopes

namespace Stack

/-- The scopes on top are the last of all, and start at the base. -/
theorem layout_withTop (s : Stack) :
    ∃ lower, s.layout.base = lower.length ∧ s.layout.scopes = lower ++ s.top.listed ∧
      ∀ scopes, (s.withTop scopes).layout = ⟨lower ++ scopes.listed, s.layout.marks⟩ := by
  obtain ⟨base, frames⟩ := s
  cases frames with
  | nil => exact ⟨[], rfl, rfl, fun _ => rfl⟩
  | cons f below =>
    exact ⟨(Stack.layout ⟨base, below⟩).scopes, Layout.base_concat _ _ _, rfl, fun _ => rfl⟩

theorem layout_assign (s : Stack) (name : String) (value : Value) :
    (s.assign name value).layout = s.layout.assign name value := by
  obtain ⟨lower, -, htop, hlayout⟩ := s.layout_withTop
  have hne : s.top.listed ≠ [] := List.cons_ne_nil _ _
  rw [Stack.assign, hlayout, Scopes.listed_assign, Layout.assign, htop]
  rw [List.modifyLast_append_of_right_ne_nil _ _ _ hne]

theorem layout_push (s : Stack) : s.push.layout = s.layout.push := by
  obtain ⟨lower, -, htop, hlayout⟩ := s.layout_withTop
  rw [Stack.push, hlayout, Scopes.listed_push, Layout.push, htop, List.append_assoc]

/-- The scopes on top are at their lowest when there is one from the base on. -/
theorem layout_pop? (s : Stack) : s.pop?.map Stack.layout = s.layout.pop? := by
  obtain ⟨lower, hbase, htop, hlayout⟩ := s.layout_withTop
  have hlength : s.layout.scopes.length = lower.length + s.top.listed.length := by
    rw [htop, List.length_append]
  rw [Stack.pop?, Layout.pop?, hbase, hlength]
  rcases s.top.pop?_eq with ⟨hpop, hone⟩ | ⟨scopes, scope, hpop, hlisted⟩
  · rw [hpop, hone, if_pos (Nat.le_refl _)]
    rfl
  · have hmore : ¬ lower.length + s.top.listed.length ≤ lower.length + 1 := by
      rw [hlisted, List.length_append, Layout.length_listed]
      simp
    rw [hpop, if_neg hmore, htop, hlisted, ← List.append_assoc, List.dropLast_concat]
    exact congrArg some (hlayout scopes)

theorem layout_enter {s : Stack} (bindings : Scope) {link : Option Nat}
    (hlink : ∀ distance, link = some distance → distance < s.frames.length) :
    (s.enter bindings link).layout =
      s.layout.enter bindings (link.map (s.frames.length - 1 - ·)) := by
  rw [← length_marks_layout] at hlink ⊢
  exact Layout.add_eq_enter (f := ⟨{ bottom := bindings }, link⟩) hlink

/-- The scopes of a call go when they are cut back to its base. -/
theorem layout_leave {s : Stack} {f : Frame} {below : List Frame} (h : s.frames = f :: below) :
    s.leave.layout = s.layout.leave s.layout.base ∧
      s.layout.bases = s.layout.base :: s.leave.layout.bases := by
  obtain ⟨base, frames⟩ := s
  obtain rfl := h
  have hbase : (Stack.layout ⟨base, f :: below⟩).base =
      (Stack.layout ⟨base, below⟩).scopes.length := Layout.base_concat _ _ _
  rw [hbase]
  refine ⟨?_, ?_⟩
  · show _ = ((Stack.layout ⟨base, below⟩).add f).leave _
    rw [Layout.leave, Layout.add, List.take_left, List.dropLast_concat]
    rfl
  · show ((Stack.layout ⟨base, below⟩).add f).bases = _
    rw [Layout.bases, Layout.add, List.map_append, List.reverse_append]
    rfl

theorem wellFormed_layout {s : Stack} (h : Frame.LinksInRange s.frames) :
    s.layout.WellFormed := by
  obtain ⟨base, frames⟩ := s
  induction frames with
  | nil =>
    exact ⟨List.cons_ne_nil _ _, fun _ hm => absurd hm List.not_mem_nil, .nil,
      fun hm => absurd hm (by simp [layout])⟩
  | cons f below ih =>
    refine (ih h.2).add fun distance hd => ?_
    rw [length_marks_layout ⟨base, below⟩]
    exact h.1 distance hd

/-- A name has been found in the frame above which so many others lie. -/
def Offers (s : Stack) (distance : Nat) : Prop :=
  distance < s.frames.length ∧ Layout.Found s.layout.marks (s.frames.length - 1 - distance)

theorem depth_eq_length (s : Stack) : s.depth = s.layout.scopes.length := by
  obtain ⟨base, frames⟩ := s
  induction frames with
  | nil =>
    simp [depth, layout, Scopes.size, Scopes.listed]
  | cons f below ih =>
    have hadd : (Stack.layout ⟨base, f :: below⟩).scopes.length =
        (Stack.layout ⟨base, below⟩).scopes.length + f.scopes.size := by
      show (_ ++ f.scopes.listed).length = _
      rw [List.length_append, Layout.length_listed]
      rfl
    rw [hadd, ← ih]
    simp only [depth, List.foldr_cons]
    omega

end Stack

/-! ## Steps of a machine -/

namespace Machine

open Ledger (Step)

variable {m : Machine}

/-- The two lists of a machine. What is noted are the bases of the open calls. -/
def ledger (m : Machine) : Ledger where
  layout := m.stack.layout
  noted := m.stack.layout.bases
  told := m.trace.filter Event.tellsDepth

theorem ledger_record {e : Event} (he : e.tellsDepth = false) : (m.record e).ledger = m.ledger := by
  have htold : (e :: m.trace).filter Event.tellsDepth = m.trace.filter Event.tellsDepth := by
    rw [List.filter_cons, if_neg (by rw [he]; exact Bool.false_ne_true)]
  rw [ledger, ledger, ← htold]
  rfl

theorem ledger_register {m' : Machine} {n : Native} (h : m.register n = .ok m') :
    m'.ledger = m.ledger := by
  unfold Machine.register at h
  split at h
  · cases h
  · cases h
    exact ledger_record rfl

/-- Whatever is done on top, the same calls stay open. -/
theorem ledger_withTop (m : Machine) (scopes : Scopes) (trace : List Event) :
    Machine.ledger { m with stack := m.stack.withTop scopes, trace } =
      ⟨(m.stack.withTop scopes).layout, m.ledger.noted, trace.filter Event.tellsDepth⟩ := by
  obtain ⟨lower, -, -, hlayout⟩ := m.stack.layout_withTop
  rw [ledger, ledger, hlayout]
  rfl

theorem step_assign (m : Machine) (name : String) (value : Value) :
    Step m.ledger (m.assign name value).ledger := by
  have hledger : (m.assign name value).ledger =
      ⟨m.stack.layout.assign name value, m.ledger.noted, m.ledger.told⟩ := by
    rw [← Stack.layout_assign]
    exact m.ledger_withTop _ m.trace
  rw [hledger]
  exact .assign name value

theorem step_push (m : Machine) : Step m.ledger m.push.ledger := by
  have hledger : m.push.ledger = ⟨m.stack.layout.push, m.ledger.noted,
      .pushed m.stack.layout.push.scopes.length :: m.ledger.told⟩ := by
    rw [← Stack.layout_push, ← Stack.depth_eq_length]
    exact m.ledger_withTop _ (.pushed m.stack.push.depth :: m.trace)
  rw [hledger]
  exact .push

theorem step_pop (m : Machine) : Step m.ledger m.pop.ledger := by
  have hlayout := m.stack.layout_pop?
  unfold Machine.pop
  split
  · rename_i stack hpop
    rw [hpop] at hlayout
    obtain ⟨scopes, -, rfl⟩ := Option.map_eq_some_iff.mp hpop
    let stack := m.stack.withTop scopes
    have hledger : (Machine.record { m with stack } (.popped stack.depth)).ledger =
        ⟨stack.layout, m.ledger.noted, .popped stack.layout.scopes.length :: m.ledger.told⟩ := by
      rw [← Stack.depth_eq_length]
      exact m.ledger_withTop scopes (.popped stack.depth :: m.trace)
    rw [hledger]
    exact .pop hlayout.symm
  · rename_i hpop
    rw [hpop] at hlayout
    have hledger : (m.record (.popRefused m.depth)).ledger = ⟨m.stack.layout, m.ledger.noted,
        .popRefused m.stack.layout.scopes.length :: m.ledger.told⟩ := by
      rw [← Stack.depth_eq_length]
      rfl
    rw [hledger]
    exact .popRefused hlayout.symm

theorem step_enter (m : Machine) (bindings : Scope) {link : Option Nat}
    (hlink : ∀ distance, link = some distance → m.stack.Offers distance) :
    Step m.ledger (m.enter bindings link).ledger := by
  have hlayout := Stack.layout_enter bindings fun distance hd => (hlink distance hd).1
  have hbases : (m.stack.enter bindings link).layout.bases =
      m.stack.layout.scopes.length :: m.stack.layout.bases := by
    rw [hlayout, Layout.bases_enter]
  have hledger : (m.enter bindings link).ledger = ⟨(m.stack.enter bindings link).layout,
      m.stack.layout.scopes.length :: m.ledger.noted,
      .entered (m.stack.enter bindings link).layout.scopes.length :: m.ledger.told⟩ := by
    rw [ledger, ledger, ← hbases, ← Stack.depth_eq_length]
    rfl
  rw [hledger, hlayout]
  refine .enter bindings fun index hindex => ?_
  obtain ⟨distance, hd, rfl⟩ := Option.map_eq_some_iff.mp hindex
  exact (hlink distance hd).2

theorem step_leave (h : m.stack.frames ≠ []) : Step m.ledger m.leave.ledger := by
  obtain ⟨f, below, hframes⟩ := List.exists_cons_of_ne_nil h
  obtain ⟨hlayout, hbases⟩ := Stack.layout_leave hframes
  have hledger : m.leave.ledger = ⟨m.stack.layout.leave m.stack.layout.base,
      m.stack.leave.layout.bases, .left (m.stack.layout.leave m.stack.layout.base).scopes.length ::
        m.ledger.told⟩ := by
    rw [← hlayout, ← Stack.depth_eq_length]
    rfl
  rw [hledger, ledger, hbases]
  exact .leave

end Machine

end Scriptlet
