import Mathlib.Logic.Relation
import Scriptlet.Proofs.Machine.Bookkeeping

/-!
# What lies above a frame plays no part

The stack can be cut back to a frame: the frames above it go, and with them all scopes from the base
of the next frame on (`Stack.layout_upTo`). A search that has come to the frame does not notice. In
the layout, it goes by the same indices, and between these lie the same scopes
(`Layout.walks_cut`), since parents come before their children.

So a name that a frame does not bind itself stands, in that frame, for what it stands for on the
stack cut back to the parent; without a parent, for what the global scope binds. What is done above
the parent, be it calls, scopes or bindings, changes nothing about that
(`Stack.resolveFrom_through_parent`).
-/

namespace Scriptlet

namespace Layout

/-- The layout up to a call: that call and those below it, and the scopes below the base of the
next. -/
def cut (l : Layout) (index : Nat) : Layout where
  scopes := l.scopes.take (l.endOf index)
  marks := l.marks.take (index + 1)

/-- The call with an index does not bind a name, and its link leads to this parent. -/
def HandsOn (l : Layout) (name : String) (index : Nat) (parent : Option Int) : Prop :=
  ∃ base own, l.marks[index]? = some ⟨base, parent⟩ ∧
    l.slice? base (l.endOf index) = some own ∧ search name own = none

/-- Up to a call, the layouts have the same calls, with the same scopes. -/
structure AgreesUpTo (k : Nat) (l l' : Layout) : Prop where
  marks : ∀ index ≤ k, l.marks[index]? = l'.marks[index]?
  slices : ∀ index ≤ k, ∀ base, l.slice? base (l.endOf index) = l'.slice? base (l'.endOf index)

variable {l l' : Layout} {f : Frame} {name : String} {index k : Nat}

/-! ## Cutting the layout -/

theorem marks_cut (h : index ≤ k) : (l.cut k).marks[index]? = l.marks[index]? :=
  List.getElem?_take_of_lt (Nat.lt_succ_of_le h)

theorem WellFormed.endOf_le (h : l.WellFormed) (index : Nat) : l.endOf index ≤ l.scopes.length := by
  unfold endOf
  cases hmark : l.marks[index + 1]? with
  | none => exact Nat.le_refl _
  | some mark => exact Nat.le_of_lt (h.bases mark (List.mem_of_getElem? hmark)).2

/-- The scopes of a call lie below those of the next. -/
theorem WellFormed.endOf_mono (h : l.WellFormed) (hle : index ≤ k) : l.endOf index ≤ l.endOf k := by
  rcases Nat.lt_or_eq_of_le hle with hlt | rfl
  · cases hk : l.marks[k + 1]? with
    | none =>
      have hend : l.endOf k = l.scopes.length := by rw [endOf, hk]; rfl
      exact hend ▸ h.endOf_le index
    | some upper =>
      obtain ⟨hlength, hupper⟩ := List.getElem?_eq_some_iff.mp hk
      have hlower : l.marks[index + 1]? = some l.marks[index + 1] :=
        List.getElem?_eq_getElem (by omega)
      have hbases := List.pairwise_iff_getElem.mp h.increasing (index + 1) (k + 1) (by omega)
        hlength (by omega)
      rw [hupper] at hbases
      rw [endOf, endOf, hk, hlower]
      exact Nat.le_of_lt hbases
  · exact Nat.le_refl _

theorem WellFormed.length_scopes_cut (h : l.WellFormed) (k : Nat) :
    (l.cut k).scopes.length = l.endOf k := by
  simp [cut, h.endOf_le k]

theorem WellFormed.endOf_cut (h : l.WellFormed) (hle : index ≤ k) :
    (l.cut k).endOf index = l.endOf index := by
  rcases Nat.lt_or_eq_of_le hle with hlt | rfl
  · cases hmark : l.marks[index + 1]? with
    | none =>
      have hend : l.endOf index = l.scopes.length := by rw [endOf, hmark]; rfl
      have hmono := h.endOf_mono hle
      rw [endOf, marks_cut (Nat.succ_le_of_lt hlt), hmark, hend]
      show (l.cut k).scopes.length = l.scopes.length
      rw [h.length_scopes_cut]
      exact Nat.le_antisymm (h.endOf_le k) (hend ▸ hmono)
    | some mark => rw [endOf, endOf, marks_cut (Nat.succ_le_of_lt hlt), hmark]; rfl
  · have hnone : (l.cut index).marks[index + 1]? = none :=
      List.getElem?_eq_none (by simp only [cut, List.length_take]; omega)
    rw [endOf, hnone]
    exact h.length_scopes_cut index

/-- Between the indices of a call that stays lie the same scopes as before. -/
theorem WellFormed.slice?_cut (h : l.WellFormed) (hle : index ≤ k) (base : Nat) :
    (l.cut k).slice? base (l.endOf index) = l.slice? base (l.endOf index) := by
  have hmono := h.endOf_mono hle
  have hend := h.endOf_le index
  have htake : (l.cut k).scopes.take (l.endOf index) = l.scopes.take (l.endOf index) := by
    rw [cut, List.take_take, Nat.min_eq_left hmono]
  rw [slice?, slice?, h.length_scopes_cut, htake]
  simp only [hmono, hend, and_true]

theorem WellFormed.agreesUpTo_cut (h : l.WellFormed) (k : Nat) : l.AgreesUpTo k (l.cut k) where
  marks _ hle := (marks_cut hle).symm
  slices _ hle base := by rw [h.endOf_cut hle, h.slice?_cut hle]

theorem AgreesUpTo.symm (h : l.AgreesUpTo k l') : l'.AgreesUpTo k l where
  marks index hle := (h.marks index hle).symm
  slices index hle base := (h.slices index hle base).symm

/-- Parents come before their children, so a search that starts no higher never gets above `k`. -/
theorem AgreesUpTo.walks (h : l.AgreesUpTo k l')
    (hparents : ∀ {index : Nat} {mark : Mark}, index ≤ k → l.marks[index]? = some mark →
      ∀ i ∈ mark.parent, i ≤ (k : Int))
    {result : Option (Nat × Value)} {start : Option Int} (hwalk : l.Walks name start result)
    (hstart : ∀ i ∈ start, i ≤ (k : Int)) : l'.Walks name start result := by
  induction hwalk with
  | ended => exact .ended
  | @found index mark own v hmark hslice hfound =>
    have hle : index ≤ k := Int.ofNat_le.mp (hstart _ rfl)
    rw [h.slices index hle] at hslice
    rw [h.marks index hle] at hmark
    exact .found hmark hslice hfound
  | @onward index mark own result hmark hslice hmissing _ ih =>
    have hle : index ≤ k := Int.ofNat_le.mp (hstart _ rfl)
    have hrest := ih (hparents hle hmark)
    rw [h.slices index hle] at hslice
    rw [h.marks index hle] at hmark
    exact .onward hmark hslice hmissing hrest

/-- What a call that stays does not bind, it hands on as before. -/
theorem WellFormed.handsOn_cut (h : l.WellFormed) (hle : index ≤ k) (parent : Option Int) :
    (l.cut k).HandsOn name index parent ↔ l.HandsOn name index parent := by
  have hagrees := h.agreesUpTo_cut k
  simp only [HandsOn, hagrees.marks index hle, hagrees.slices index hle]

/-- A search from a call that stays comes to the same result. -/
theorem walks_cut (h : l.WellFormed) {result : Option (Nat × Value)} {start : Option Int}
    (hstart : ∀ i ∈ start, i ≤ (k : Int)) :
    l.Walks name start result ↔ (l.cut k).Walks name start result := by
  have hagrees := h.agreesUpTo_cut k
  have hparents : ∀ {index : Nat} {mark : Mark}, index ≤ k → l.marks[index]? = some mark →
      ∀ i ∈ mark.parent, i ≤ (k : Int) := by
    intro index mark hle hmark i hi
    have hbelow := (h.parents hmark hi).2
    omega
  refine ⟨fun hwalk => hagrees.walks hparents hwalk hstart, fun hwalk => ?_⟩
  refine hagrees.symm.walks (fun hle hmark => ?_) hwalk hstart
  exact hparents hle ((hagrees.marks _ hle).trans hmark)

/-- In a call that does not bind the name, the search goes on with the parent. -/
theorem HandsOn.walks_iff {parent : Option Int} (h : l.HandsOn name index parent)
    (result : Option (Nat × Value)) :
    l.Walks name (some index) result ↔ l.Walks name parent result := by
  obtain ⟨base, own, hmark, hslice, hmissing⟩ := h
  refine ⟨fun hwalk => ?_, fun hwalk => .onward hmark hslice hmissing hwalk⟩
  generalize hstart : some (index : Int) = start at hwalk
  cases hwalk with
  | ended => cases hstart
  | @found index' mark own' v hmark' hslice' hfound =>
    obtain rfl := Int.ofNat_inj.mp (Option.some.inj hstart)
    cases hmark.symm.trans hmark'
    cases hslice.symm.trans hslice'
    cases hmissing.symm.trans hfound
  | @onward index' mark own' _ hmark' _ _ hparent =>
    obtain rfl := Int.ofNat_inj.mp (Option.some.inj hstart)
    cases hmark.symm.trans hmark'
    exact hparent

/-- The innermost call hands on what its frame does not bind, to where its link leads. -/
theorem HandsOn.of_add {parent : Option Int} (h : (l.add f).HandsOn name l.marks.length parent) :
    f.scopes.find? name = none ∧
      parent = f.link.map fun distance : Nat => (l.marks.length : Int) - 1 - distance := by
  obtain ⟨base, own, hmark, hslice, hmissing⟩ := h
  have hlast : (l.add f).marks[l.marks.length]? = some ⟨l.scopes.length,
      f.link.map fun distance : Nat => (l.marks.length : Int) - 1 - distance⟩ :=
    List.getElem?_concat_length
  cases hlast.symm.trans hmark
  cases (slice?_last l f).symm.trans hslice
  exact ⟨(search_listed f.scopes name).symm.trans hmissing, rfl⟩

/-- A frame that is cut off leaves no trace. -/
theorem WellFormed.cut_add (h : l.WellFormed) (hk : k < l.marks.length) :
    (l.add f).cut k = l.cut k := by
  have hend : (l.add f).endOf k = l.endOf k := endOf_add (List.getElem?_eq_getElem hk)
  have hscopes : (l.add f).scopes.take (l.endOf k) = l.scopes.take (l.endOf k) :=
    List.take_append_of_le_length (h.endOf_le k)
  have hmarks : (l.add f).marks.take (k + 1) = l.marks.take (k + 1) :=
    List.take_append_of_le_length hk
  rw [cut, cut, hend, hscopes, hmarks]

/-- There is nothing to cut off above the innermost call. -/
theorem cut_last (h : l.marks.length = k + 1) : l.cut k = l := by
  have hend : l.endOf k = l.scopes.length := by
    rw [endOf, List.getElem?_eq_none (Nat.le_of_eq h)]
    rfl
  rw [cut, hend, List.take_length, ← h, List.take_length]

end Layout

namespace Stack

variable {s t : Stack} {f : Frame} {below : List Frame} {name : String} {index k : Nat}

/-! ## Cutting the stack -/

/-- The stack up to a frame, which is known by the number of frames below it. -/
def upTo (s : Stack) (index : Nat) : Stack :=
  { s with frames := s.frames.drop (s.frames.length - 1 - index) }

/-- What a name stands for, searched for from a frame on, and the index of the frame that binds it,
if a frame does. -/
def resolveFrom (s : Stack) (index : Nat) (name : String) : Option (Option Nat × Value) :=
  ((findLinked name (s.frames.length - 1 - index) s.frames).map fun r =>
    (some (s.frames.length - 1 - r.1), r.2)).or ((s.globals.find? name).map fun v => (none, v))

/-- What a name stands for, with the index of the frame that binds it. -/
def resolveIndex (s : Stack) (name : String) : Option (Option Nat × Value) :=
  (s.resolve name).map fun r => (r.1.map (s.frames.length - 1 - ·), r.2)

theorem length_frames_upTo (hk : k < s.frames.length) : (s.upTo k).frames.length = k + 1 := by
  simp only [upTo, List.length_drop]
  omega

theorem upTo_cons {base : Scopes} (hk : k < below.length) :
    Stack.upTo ⟨base, f :: below⟩ k = Stack.upTo ⟨base, below⟩ k := by
  have hskip : (f :: below).length - 1 - k = (below.length - 1 - k) + 1 := by
    simp only [List.length_cons]
    omega
  rw [upTo, hskip]
  rfl

theorem linksInRange_drop {frames : List Frame} (h : Frame.LinksInRange frames) (n : Nat) :
    Frame.LinksInRange (frames.drop n) := by
  induction n generalizing frames with
  | zero => exact h
  | succ n ih =>
    cases frames with
    | nil => exact h
    | cons f below => exact ih h.2

/-- In the layout, the frames that stay are the lower marks, and their scopes those below the base
of the next mark. -/
theorem layout_upTo (h : Frame.LinksInRange s.frames) (hk : k < s.frames.length) :
    (s.upTo k).layout = s.layout.cut k := by
  obtain ⟨base, frames⟩ := s
  induction frames with
  | nil => exact absurd hk (Nat.not_lt_zero k)
  | cons f below ih =>
    have hsize := length_marks_layout ⟨base, below⟩
    rcases Nat.lt_or_eq_of_le (Nat.le_of_lt_succ hk) with hlt | rfl
    · have hcut := (wellFormed_layout (s := ⟨base, below⟩) h.2).cut_add (f := f) (hsize ▸ hlt)
      rw [upTo_cons hlt, ih h.2 hlt]
      exact hcut.symm
    · have hall : Stack.upTo ⟨base, f :: below⟩ below.length = ⟨base, f :: below⟩ := by
        simp [upTo]
      rw [hall, Layout.cut_last (length_marks_layout _)]

/-- Skipping frames is searching without them. -/
theorem findLinked_add (name : String) (skip n : Nat) (frames : List Frame) :
    findLinked name (skip + n) frames =
      (findLinked name n (frames.drop skip)).map fun r => (r.1 + skip, r.2) := by
  induction skip generalizing frames with
  | zero => simp
  | succ skip ih =>
    cases frames with
    | nil => cases n <;> simp [findLinked]
    | cons f below =>
      rw [Nat.add_right_comm, findLinked, ih, List.drop_succ_cons, Option.map_map]
      rfl

/-- A search from a frame does not notice what lies above it. -/
theorem resolveFrom_upTo (hle : index ≤ k) (hk : k < s.frames.length) :
    (s.upTo k).resolveFrom index name = s.resolveFrom index name := by
  have hskip : s.frames.length - 1 - index = (s.frames.length - 1 - k) + (k - index) := by omega
  have hindex : ∀ distance, s.frames.length - 1 - (distance + (s.frames.length - 1 - k)) =
      k + 1 - 1 - distance := fun distance => by omega
  rw [resolveFrom, resolveFrom, length_frames_upTo hk, hskip, findLinked_add, Option.map_map]
  simp only [Function.comp_def, hindex]
  rfl

/-- From the innermost frame, names are searched for as they are on the stack. -/
theorem resolveIndex_eq (h : s.frames.length = k + 1) :
    s.resolveIndex name = s.resolveFrom k name := by
  obtain ⟨base, frames⟩ := s
  cases frames with
  | nil => cases h
  | cons f below =>
    have hskip : (f :: below).length - 1 - k = 0 := h ▸ Nat.sub_self k
    rw [resolveIndex, resolve_of_frames rfl, resolveFrom, hskip]
    cases findLinked name 0 (f :: below) with
    | some r => rfl
    | none =>
      rw [Option.map_map]
      rfl

/-- In a frame that does not bind a name, the search goes on where the link leads. -/
theorem resolveFrom_of_link (h : s.frames = f :: below) (hfree : f.scopes.find? name = none)
    {distance : Nat} (hlink : f.link = some distance) (hlt : distance < below.length) :
    s.resolveFrom below.length name = s.resolveFrom (below.length - 1 - distance) name := by
  have hfound : findLinked name 0 (f :: below) = findLinked name (distance + 1) (f :: below) := by
    rw [findLinked_zero, hfree, hlink]
    rfl
  have hskip : (f :: below).length - 1 - below.length = 0 := Nat.sub_self below.length
  have hskip' : (f :: below).length - 1 - (below.length - 1 - distance) = distance + 1 := by
    simp only [List.length_cons]
    omega
  rw [resolveFrom, resolveFrom, h, hskip, hskip', hfound]

/-- Without a link, it goes on in the global scope. -/
theorem resolveFrom_of_no_link (h : s.frames = f :: below) (hfree : f.scopes.find? name = none)
    (hlink : f.link = none) :
    s.resolveFrom below.length name = (s.globals.find? name).map fun v => (none, v) := by
  have hmissing : findLinked name 0 (f :: below) = none := by
    rw [findLinked_zero, hfree, hlink]
    rfl
  have hskip : (f :: below).length - 1 - below.length = 0 := Nat.sub_self below.length
  rw [resolveFrom, h, hskip, hmissing]
  rfl

/-- The search from a frame is the one that goes by the indices of the layout. -/
theorem exists_walk (hlinks : Frame.LinksInRange s.frames) (hindex : index < s.frames.length)
    (name : String) :
    ∃ found, s.layout.Walks name (some (index : Int)) found ∧
      s.resolveFrom index name = (found.map fun r => (some r.1, r.2)).or
        ((s.globals.find? name).map fun v => (none, v)) := by
  have hskip : s.frames.length - 1 - index < s.frames.length := by omega
  have hback : s.frames.length - 1 - (s.frames.length - 1 - index) = index := by omega
  have hwalk := walks_layout s.base name hlinks hskip
  rw [hback] at hwalk
  refine ⟨_, hwalk, ?_⟩
  rw [Option.map_map]
  rfl

/-- A call in the layout that hands on a name is a frame that does not bind the name, and the parent
is where its link leads. -/
theorem exists_frame_of_handsOn (hlinks : Frame.LinksInRange s.frames) {parent : Option Int}
    (h : s.layout.HandsOn name index parent) :
    ∃ f below, (s.upTo index).frames = f :: below ∧ below.length = index ∧
      index < s.frames.length ∧ f.scopes.find? name = none ∧
      parent = f.link.map fun distance : Nat => (index : Int) - 1 - distance := by
  have hindex : index < s.frames.length := by
    obtain ⟨base, own, hmark, -⟩ := h
    rw [← length_marks_layout]
    exact (List.getElem?_eq_some_iff.mp hmark).1
  have hcut := ((wellFormed_layout hlinks).handsOn_cut (Nat.le_refl index) parent).mpr h
  rw [← layout_upTo hlinks hindex] at hcut
  have hlength := length_frames_upTo hindex
  generalize s.upTo index = t at hcut hlength ⊢
  obtain ⟨base, frames⟩ := t
  cases frames with
  | nil => cases hlength
  | cons f below =>
    obtain rfl : below.length = index := Nat.succ_inj.mp hlength
    have hsize := length_marks_layout ⟨base, below⟩
    have hadd : ((Stack.layout ⟨base, below⟩).add f).HandsOn name
        (Stack.layout ⟨base, below⟩).marks.length parent := hsize.symm ▸ hcut
    obtain ⟨hfree, hparent⟩ := hadd.of_add
    rw [hsize] at hparent
    exact ⟨f, below, rfl, rfl, hindex, hfree, hparent⟩

/-- A frame that does not bind a name and has no parent sees the binding of the global scope. -/
theorem resolveFrom_of_no_parent (hlinks : Frame.LinksInRange s.frames)
    (h : s.layout.HandsOn name index none) :
    s.resolveFrom index name = (s.globals.find? name).map fun v => (none, v) := by
  obtain ⟨f, below, hframes, rfl, hindex, hfree, hparent⟩ := exists_frame_of_handsOn hlinks h
  rw [← resolveFrom_upTo (Nat.le_refl _) hindex]
  exact resolveFrom_of_no_link hframes hfree (Option.map_eq_none_iff.mp hparent.symm)

/-- A frame that does not bind a name sees what is found on the stack cut back to its parent. -/
theorem resolveFrom_of_parent (hlinks : Frame.LinksInRange s.frames)
    (h : s.layout.HandsOn name index (some (k : Int))) :
    k < index ∧ index < s.frames.length ∧
      s.resolveFrom index name = (s.upTo k).resolveIndex name := by
  obtain ⟨f, below, hframes, rfl, hindex, hfree, hparent⟩ := exists_frame_of_handsOn hlinks h
  obtain ⟨distance, hlink, hk⟩ := Option.map_eq_some_iff.mp hparent.symm
  have hbelow : distance < below.length := by
    have hrange := linksInRange_drop hlinks (s.frames.length - 1 - below.length)
    rw [show s.frames.drop _ = f :: below from hframes] at hrange
    exact hrange.1 distance hlink
  obtain rfl : k = below.length - 1 - distance := by omega
  refine ⟨by omega, hindex, ?_⟩
  have hup := resolveFrom_of_link hframes hfree hlink hbelow
  rw [resolveFrom_upTo (Nat.le_refl _) hindex, resolveFrom_upTo (by omega) hindex] at hup
  have hk' : below.length - 1 - distance < s.frames.length := by omega
  rw [hup, resolveIndex_eq (length_frames_upTo hk'), resolveFrom_upTo (Nat.le_refl _) hk']

/-! ## What is done above a frame -/

/-- An operation above the frame `k`: another call, the end of a call above the frame, or scopes and
bindings in such a call. -/
inductive ChangesAbove (k : Nat) : Stack → Stack → Prop
  | enter {s : Stack} {bindings : Scope} {link : Option Nat} (hk : k < s.frames.length)
    (inRange : ∀ distance, link = some distance → distance < s.frames.length) :
    ChangesAbove k s (s.enter bindings link)
  | leave {s : Stack} (hk : k + 1 < s.frames.length) : ChangesAbove k s s.leave
  | push {s : Stack} (hk : k + 1 < s.frames.length) : ChangesAbove k s s.push
  | pop {s t : Stack} (hk : k + 1 < s.frames.length) (hpop : s.pop? = some t) : ChangesAbove k s t
  | assign {s : Stack} {name : String} {v : Value} (hk : k + 1 < s.frames.length) :
    ChangesAbove k s (s.assign name v)

/-- Such an operation leaves everything up to the frame alone. -/
theorem ChangesAbove.step (h : ChangesAbove k s t) (hlinks : Frame.LinksInRange s.frames)
    (hk : k < s.frames.length) :
    Frame.LinksInRange t.frames ∧ k < t.frames.length ∧ t.upTo k = s.upTo k := by
  have hwithTop : ∀ scopes, k + 1 < s.frames.length →
      Frame.LinksInRange (s.withTop scopes).frames ∧ k < (s.withTop scopes).frames.length ∧
        (s.withTop scopes).upTo k = s.upTo k := by
    intro scopes hk
    obtain ⟨base, frames⟩ := s
    cases frames with
    | nil => cases hk
    | cons f below =>
      have hbelow : k < below.length := Nat.lt_of_succ_lt_succ hk
      refine ⟨hlinks, Nat.lt_succ_of_lt hbelow, ?_⟩
      exact (upTo_cons hbelow).trans (upTo_cons hbelow).symm
  cases h with
  | enter _ inRange => exact ⟨⟨inRange, hlinks⟩, Nat.lt_succ_of_lt hk, upTo_cons hk⟩
  | leave hk =>
    obtain ⟨base, frames⟩ := s
    cases frames with
    | nil => cases hk
    | cons f below =>
      have hbelow : k < below.length := Nat.lt_of_succ_lt_succ hk
      exact ⟨hlinks.2, hbelow, (upTo_cons hbelow).symm⟩
  | push hk | assign hk => exact hwithTop _ hk
  | pop hk hpop =>
    obtain ⟨scopes, -, rfl⟩ := Option.map_eq_some_iff.mp hpop
    exact hwithTop scopes hk

/-- So do any number of them. -/
theorem ChangesAbove.steps (h : Relation.ReflTransGen (ChangesAbove k) s t)
    (hlinks : Frame.LinksInRange s.frames) (hk : k < s.frames.length) :
    Frame.LinksInRange t.frames ∧ k < t.frames.length ∧ t.upTo k = s.upTo k := by
  induction h with
  | refl => exact ⟨hlinks, hk, rfl⟩
  | tail _ hstep ih =>
    obtain ⟨hlinks', hk', hsame⟩ := ih
    obtain ⟨hlinks'', hk'', hsame'⟩ := hstep.step hlinks' hk'
    exact ⟨hlinks'', hk'', hsame'.trans hsame⟩

/-- What a frame does not bind itself, it sees through its parent alone. It sees what is found on
the stack that is cut back to the parent, or without a parent what the global scope binds. In the
layout, the search comes to the same call on both. And whatever is done above the parent, the frames
with this parent go on seeing the same. -/
theorem resolveFrom_through_parent (hlinks : Frame.LinksInRange s.frames) (index : Nat)
    (name : String) :
    (s.layout.HandsOn name index none →
      s.resolveFrom index name = (s.globals.find? name).map fun v => (none, v)) ∧
    ∀ k : Nat, s.layout.HandsOn name index (some (k : Int)) →
      s.resolveFrom index name = (s.upTo k).resolveIndex name ∧
      (s.upTo k).layout = s.layout.cut k ∧
      (∃ found, s.layout.Walks name (some (index : Int)) found ∧
        (s.layout.cut k).Walks name (some (k : Int)) found ∧ s.resolveFrom index name =
          (found.map fun r => (some r.1, r.2)).or ((s.globals.find? name).map fun v => (none, v))) ∧
      ∀ t, Relation.ReflTransGen (ChangesAbove k) s t →
        ∀ index', t.layout.HandsOn name index' (some (k : Int)) →
          t.resolveFrom index' name = s.resolveFrom index name := by
  refine ⟨resolveFrom_of_no_parent hlinks, fun k h => ?_⟩
  obtain ⟨hbelow, hindex, hresolve⟩ := resolveFrom_of_parent hlinks h
  have hk : k < s.frames.length := Nat.lt_trans hbelow hindex
  obtain ⟨found, hwalk, hfound⟩ := exists_walk hlinks hindex name
  refine ⟨hresolve, layout_upTo hlinks hk, ⟨found, hwalk, ?_, hfound⟩, fun t hsteps index' h' => ?_⟩
  · have hstart : ∀ i ∈ some (k : Int), i ≤ (k : Int) :=
      fun i hi => Int.le_of_eq (Option.some.inj hi).symm
    exact (Layout.walks_cut (wellFormed_layout hlinks) hstart).mp ((h.walks_iff found).mp hwalk)
  · obtain ⟨hlinks', -, hsame⟩ := ChangesAbove.steps hsteps hlinks hk
    obtain ⟨-, -, hresolve'⟩ := resolveFrom_of_parent hlinks' h'
    rw [hresolve', hresolve, hsame]

/-- Three calls, of which the last was defined in the first and sees its `helper`, not that of the
second, nor that of a call which it makes itself. No call has a parent but the last, so the second
sees only the global scope. -/
theorem resolveFrom_through_parent_of_three :
    let frame (v : Nat) : Frame := ⟨{ bottom := ⟨[("helper", .int (.ofNat v))]⟩ }, none⟩
    let s : Stack := ⟨{ bottom := ⟨[("g", .int 0)]⟩ }, [⟨{}, some 1⟩, frame 2, frame 1]⟩
    let t := (s.enter ⟨[("helper", .int 3)]⟩ none).push
    s.resolveFrom 2 "helper" = some (some 0, .int 1) ∧
      t.resolveFrom 2 "helper" = some (some 0, .int 1) ∧
      s.resolveFrom 1 "g" = some (none, .int 0) := by
  intro frame s t
  have hnone : ∀ n distance : Nat, none = some distance → distance < n := by
    intro n distance hd
    cases hd
  have hlinks : Frame.LinksInRange s.frames := by
    refine ⟨fun distance hd => ?_, hnone 1, hnone 0, trivial⟩
    cases hd
    decide
  have hparent : s.layout.HandsOn "helper" 2 (some ((0 : Nat) : Int)) := ⟨3, [{}], rfl, rfl, rfl⟩
  have hparent' : t.layout.HandsOn "helper" 2 (some ((0 : Nat) : Int)) := ⟨3, [{}], rfl, rfl, rfl⟩
  have hglobal : s.layout.HandsOn "g" 1 none := ⟨2, _, rfl, rfl, rfl⟩
  have hsteps : Relation.ReflTransGen (ChangesAbove 0) s t :=
    .tail (.single (.enter (by decide) (hnone 3))) (.push (by decide))
  obtain ⟨hup, -, -, hstays⟩ := (resolveFrom_through_parent hlinks 2 "helper").2 0 hparent
  have hfound : s.resolveFrom 2 "helper" = some (some 0, .int 1) := hup
  exact ⟨hfound, (hstays t hsteps 2 hparent').trans hfound,
    (resolveFrom_through_parent hlinks 1 "g").1 hglobal⟩

end Stack

end Scriptlet
