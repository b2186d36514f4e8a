import Scriptlet.Machine
import Scriptlet.Proofs.Evaluation.Vocabulary
import Scriptlet.Proofs.Places.Operators

/-!
# The same state at other places

Two machines are alike if their stacks have the same shape and alike values in the same places, they
have the same native functions, all of them built in, the same number of open calls, and have
printed the same (`Machine.Like`). The rest of their events may differ, and so may the place of a
call.

Two computations are similar if they take alike machines to alike machines with outcomes that agree
(`Exec.Similar`).
-/

namespace Scriptlet

variable {P : Correspondence}

/-! ## Stacks -/

structure Scopes.Like (P : Correspondence) (s s' : Scopes) : Prop where
  bottom : s.bottom.Like P s'.bottom
  above : List.Forall₂ (Mapping.Like P) s.above s'.above

structure Frame.Like (P : Correspondence) (f f' : Frame) : Prop where
  scopes : f.scopes.Like P f'.scopes
  link : f.link = f'.link

structure Stack.Like (P : Correspondence) (s s' : Stack) : Prop where
  base : s.base.Like P s'.base
  frames : List.Forall₂ (Frame.Like P) s.frames s'.frames

namespace Scopes.Like

variable {s s' : Scopes}

theorem find? (h : s.Like P s') (name : String) :
    Option.Rel (Value.Like P) (s.find? name) (s'.find? name) :=
  optionRel_or (optionRel_findSome? h.above fun _ _ hscope => hscope.find? name)
    (h.bottom.find? name)

theorem assign (h : s.Like P s') (name : String) {v v' : Value} (hv : v.Like P v') :
    (s.assign name v).Like P (s'.assign name v') := by
  obtain ⟨bottom, above⟩ := s
  obtain ⟨bottom', above'⟩ := s'
  obtain ⟨hbottom, habove⟩ := h
  cases habove with
  | nil => exact ⟨hbottom.insert name hv, .nil⟩
  | cons hscope hrest => exact ⟨hbottom, .cons (hscope.insert name hv) hrest⟩

end Scopes.Like

/-- What is found in the same place. -/
def FoundLike {α : Type} (P : Correspondence) (r r' : α × Value) : Prop :=
  r.1 = r'.1 ∧ r.2.Like P r'.2

theorem findLinked_like (name : String) {frames frames' : List Frame}
    (h : List.Forall₂ (Frame.Like P) frames frames') (skip : Nat) :
    Option.Rel (FoundLike P) (Stack.findLinked name skip frames)
      (Stack.findLinked name skip frames') := by
  -- What is found below the first frame is one frame further down.
  have hbehind : ∀ {r r' : Option (Nat × Value)}, Option.Rel (FoundLike P) r r' →
      Option.Rel (FoundLike P) (r.map fun r => (r.1 + 1, r.2)) (r'.map fun r => (r.1 + 1, r.2)) :=
    fun hr => optionRel_map hr fun _ _ hfound => ⟨congrArg (· + 1) hfound.1, hfound.2⟩
  induction h generalizing skip with
  | nil => cases skip <;> exact .none
  | @cons f f' below below' hf _ ih =>
    cases skip with
    | succ skip => exact hbehind (ih skip)
    | zero =>
      have hfound := hf.scopes.find? name
      rw [Stack.findLinked, Stack.findLinked, ← hf.link]
      generalize f.scopes.find? name = o at hfound ⊢
      generalize f'.scopes.find? name = o' at hfound ⊢
      cases hfound with
      | some hv => exact .some ⟨rfl, hv⟩
      | none =>
        cases f.link with
        | none => exact .none
        | some distance => exact hbehind (ih distance)

namespace Stack.Like

variable {s s' : Stack}

theorem top (h : s.Like P s') : s.top.Like P s'.top := by
  obtain ⟨base, frames⟩ := s
  obtain ⟨base', frames'⟩ := s'
  obtain ⟨hbase, hframes⟩ := h
  cases hframes with
  | nil => exact hbase
  | cons hf _ => exact hf.scopes

theorem withTop (h : s.Like P s') {scopes scopes' : Scopes} (hscopes : scopes.Like P scopes') :
    (s.withTop scopes).Like P (s'.withTop scopes') := by
  obtain ⟨base, frames⟩ := s
  obtain ⟨base', frames'⟩ := s'
  obtain ⟨hbase, hframes⟩ := h
  cases hframes with
  | nil => exact ⟨hscopes, .nil⟩
  | cons hf hbelow => exact ⟨hbase, .cons ⟨hscopes, hf.link⟩ hbelow⟩

theorem assign (h : s.Like P s') (name : String) {v v' : Value} (hv : v.Like P v') :
    (s.assign name v).Like P (s'.assign name v') :=
  h.withTop (h.top.assign name hv)

theorem enter (h : s.Like P s') {bindings bindings' : Scope} (hb : bindings.Like P bindings')
    (link : Option Nat) : (s.enter bindings link).Like P (s'.enter bindings' link) :=
  ⟨h.base, .cons ⟨⟨hb, .nil⟩, rfl⟩ h.frames⟩

theorem leave (h : s.Like P s') : s.leave.Like P s'.leave := by
  obtain ⟨base, frames⟩ := s
  obtain ⟨base', frames'⟩ := s'
  obtain ⟨hbase, hframes⟩ := h
  cases hframes with
  | nil => exact ⟨hbase, .nil⟩
  | cons _ hbelow => exact ⟨hbase, hbelow⟩

/-- What a name stands for is found in the same place. -/
theorem resolve (h : s.Like P s') (name : String) :
    Option.Rel (FoundLike P) (s.resolve name) (s'.resolve name) := by
  have houtside : ∀ {o o' : Option Value}, Option.Rel (Value.Like P) o o' →
      Option.Rel (FoundLike P) (o.map fun v => ((none : Option Nat), v))
        (o'.map fun v => ((none : Option Nat), v)) :=
    fun ho => optionRel_map ho fun _ _ hv => ⟨rfl, hv⟩
  obtain ⟨base, frames⟩ := s
  obtain ⟨base', frames'⟩ := s'
  obtain ⟨hbase, hframes⟩ := h
  have hglobals := houtside (hbase.bottom.find? name)
  have hlinked := findLinked_like name hframes 0
  -- Outside of all calls every scope is visible, inside of a call only the global one.
  cases hframes with
  | nil => exact houtside (hbase.find? name)
  | @cons f f' below below' hf hbelow =>
    simp only [Stack.resolve]
    generalize Stack.findLinked name 0 (f :: below) = r at hlinked ⊢
    generalize Stack.findLinked name 0 (f' :: below') = r' at hlinked ⊢
    cases hlinked with
    | some hfound => exact .some ⟨congrArg some hfound.1, hfound.2⟩
    | none => exact hglobals

theorem find? (h : s.Like P s') (name : String) :
    Option.Rel (Value.Like P) (s.find? name) (s'.find? name) :=
  optionRel_map (h.resolve name) fun _ _ hfound => hfound.2

end Stack.Like

/-! ## Machines -/

/-- The machines are alike, except for where calls take place and for events that print nothing. -/
structure Machine.Like (P : Correspondence) (m m' : Machine) : Prop where
  stack : m.stack.Like P m'.stack
  natives : m.natives = m'.natives
  builtin : ∀ name n, m.natives.find? name = some n → n.IsBuiltin
  openCalls : m.openCalls = m'.openCalls
  output : m.trace.map Event.output = m'.trace.map Event.output

namespace Machine.Like

variable {m m' : Machine}

theorem printedText_eq (h : m.Like P m') : printedText m.events = printedText m'.events := by
  unfold printedText Machine.events
  rw [List.map_reverse, List.map_reverse, h.output]

theorem record (h : m.Like P m') {e e' : Event} (he : e.output = e'.output) :
    (m.record e).Like P (m'.record e') :=
  ⟨h.stack, h.natives, h.builtin, h.openCalls, by simp [Machine.record, h.output, he]⟩

theorem assign (h : m.Like P m') (name : String) {v v' : Value} (hv : v.Like P v') :
    (m.assign name v).Like P (m'.assign name v') :=
  ⟨h.stack.assign name hv, h.natives, h.builtin, h.openCalls, h.output⟩

theorem enter (h : m.Like P m') {bindings bindings' : Scope} (hb : bindings.Like P bindings')
    (link : Option Nat) : (m.enter bindings link).Like P (m'.enter bindings' link) :=
  ⟨h.stack.enter hb link, h.natives, h.builtin, congrArg (· + 1) h.openCalls,
    congrArg (List.cons "") h.output⟩

theorem leave (h : m.Like P m') : m.leave.Like P m'.leave :=
  ⟨h.stack.leave, h.natives, h.builtin, congrArg (· - 1) h.openCalls,
    congrArg (List.cons "") h.output⟩

/-- Where a native function is called does not matter to those that are built in. -/
theorem calledFrom (h : m.Like P m') (site site' : Position) :
    { m with callSite := site }.Like P { m' with callSite := site' } :=
  ⟨h.stack, h.natives, h.builtin, h.openCalls, h.output⟩

end Machine.Like

/-! ## Steps -/

/-- The computations take alike machines to alike machines, with outcomes that agree. -/
def Exec.Similar {α β : Type} (P : Correspondence) (R : α → β → Prop) (x : Eval α) (y : Eval β) :
    Prop :=
  ∀ m m', m.Like P m' → Agree R (x.on m).1 (y.on m').1 ∧ (x.on m).2.Like P (y.on m').2

namespace Exec.Similar

variable {α β γ δ : Type} {R : α → β → Prop} {S : γ → δ → Prop} {x : Eval α} {y : Eval β}

theorem pure {a : α} {b : β} (h : R a b) :
    Similar P R (Pure.pure a : Eval α) (Pure.pure b : Eval β) :=
  fun _ _ hm => ⟨.ok h, hm⟩

theorem throw {e e' : RuntimeError} (h : e.erase = e'.erase) :
    Similar P R (MonadExcept.throw e : Eval α) (MonadExcept.throw e' : Eval β) :=
  fun _ _ hm => ⟨.error h, hm⟩

theorem ofOutcome {o : Except RuntimeError α} {o' : Except RuntimeError β} (h : Agree R o o') :
    Similar P R (Exec.ofOutcome o) (Exec.ofOutcome o') :=
  fun _ _ hm => ⟨h, hm⟩

theorem observe {f : Machine → α} {g : Machine → β} (h : ∀ m m', m.Like P m' → R (f m) (g m')) :
    Similar P R (Exec.observe f : Eval α) (Exec.observe g : Eval β) :=
  fun m m' hm => ⟨.ok (h m m' hm), hm⟩

theorem update {f g : Machine → Machine} (h : ∀ m m', m.Like P m' → (f m).Like P (g m')) :
    Similar P (fun _ _ => True) (Exec.update f : Eval Unit) (Exec.update g : Eval Unit) :=
  fun m m' hm => ⟨.ok trivial, h m m' hm⟩

theorem record {e e' : Event} (h : e.output = e'.output) :
    Similar P (fun _ _ => True) (Exec.record e : Eval Unit) (Exec.record e' : Eval Unit) :=
  update fun _ _ hm => hm.record h

theorem assign (name : String) {v v' : Value} (hv : v.Like P v') :
    Similar P (fun _ _ => True) (Exec.update fun m => m.assign name v : Eval Unit)
      (Exec.update fun m => m.assign name v' : Eval Unit) :=
  update fun _ _ hm => hm.assign name hv

theorem bind {f : α → Eval γ} {g : β → Eval δ} (hx : Similar P R x y)
    (hf : ∀ a b, R a b → Similar P S (f a) (g b)) : Similar P S (x >>= f) (y >>= g) := by
  intro m m' hm
  have h := hx m m' hm
  rw [on_bind, on_bind]
  generalize x.on m = r at h ⊢
  generalize y.on m' = r' at h ⊢
  obtain ⟨o, n⟩ := r
  obtain ⟨o', n'⟩ := r'
  obtain ⟨houtcome, hn⟩ := h
  cases houtcome with
  | ok value => exact hf _ _ value n n' hn
  | error cause => exact ⟨.error cause, hn⟩

theorem within {bindings bindings' : Scope} (hb : bindings.Like P bindings') (link : Option Nat)
    (hx : Similar P R x y) :
    Similar P R (Exec.within bindings link x) (Exec.within bindings' link y) := by
  intro m m' hm
  obtain ⟨houtcome, hafter⟩ := hx _ _ (hm.enter hb link)
  exact ⟨houtcome, hafter.leave⟩

theorem calledFrom (site site' : Position) (hx : Similar P R x y) :
    Similar P R (Exec.calledFrom site x) (Exec.calledFrom site' y) := by
  intro m m' hm
  obtain ⟨houtcome, hafter⟩ := hx _ _ (hm.calledFrom site site')
  exact ⟨houtcome, hafter.calledFrom _ _⟩

end Exec.Similar

end Scriptlet
