import Scriptlet.Proofs.Host.Operations

/-!
# Functions that call themselves by name

A name that is called within a call is found again from the body of the function: the link of the
call leads to the frame that binds the name, or there is none because only the global scope does. As
nothing below its own frame changes while a function runs, the name leads back to the function
throughout the body, and so on in every call that the function makes of itself
(`Environment.Recurs.lookup_eq_iff`).

Outside of all calls a name may also be found in a scope that the host has pushed over the global
one. No call sees such a scope, so there a function that calls itself finds what the global scope
says, if anything.
-/

namespace Scriptlet

namespace Stack

variable {s : Stack} {name : String} {link : Option Nat} {v : Value}

/-- The frame in which a name is found binds it itself. -/
theorem findLinked_of_found {skip distance : Nat} {frames : List Frame}
    (h : findLinked name skip frames = some (distance, v)) :
    findLinked name distance frames = some (distance, v) := by
  induction frames generalizing skip distance with
  | nil => cases skip <;> cases h
  | cons f below ih =>
    -- What lies behind the top frame is found from there on.
    have hbelow : ∀ {skip : Nat},
        ((findLinked name skip below).map fun r => (r.1 + 1, r.2)) = some (distance, v) →
        findLinked name distance (f :: below) = some (distance, v) := by
      intro skip hfound
      obtain ⟨⟨d, u⟩, hd, he⟩ := Option.map_eq_some_iff.mp hfound
      cases he
      rw [findLinked, ih hd]
      rfl
    cases skip with
    | succ skip => exact hbelow h
    | zero =>
      rw [findLinked_zero] at h
      cases hv : f.scopes.find? name with
      | some u =>
        rw [hv] at h
        cases h
        rw [findLinked_zero, hv]
      | none =>
        rw [hv] at h
        cases hlink : f.link with
        | none =>
          rw [hlink] at h
          cases h
        | some skip =>
          rw [hlink] at h
          exact hbelow h

/-- Within a call, a name that is called is seen by the callee as the caller has found it. -/
theorem seen_of_resolve (h : s.resolve name = some (link, v)) (hframes : s.frames ≠ []) :
    s.seen link name = some (link, v) := by
  obtain ⟨f, below, hcons⟩ := List.exists_cons_of_ne_nil hframes
  rw [resolve_of_frames hcons] at h
  cases hs : findLinked name 0 (f :: below) with
  | some r =>
    rw [hs] at h
    cases h
    rw [seen, follow, hcons, Option.bind_some, findLinked_of_found hs]
  | none =>
    rw [hs] at h
    obtain ⟨u, hu, he⟩ := Option.map_eq_some_iff.mp h
    cases he
    rw [seen, follow, Option.bind_none, hu]
    rfl

/-- Outside of all calls, a name that is called is seen by the callee as the global scope says. -/
theorem seen_of_resolve_outside (h : s.resolve name = some (link, v)) (hframes : s.frames = []) :
    (s.seen link name).map Prod.snd = s.globals.find? name := by
  obtain ⟨base, frames⟩ := s
  cases hframes
  obtain ⟨u, -, he⟩ := Option.map_eq_some_iff.mp h
  cases he
  rw [seen, follow, Option.bind_none, Option.map_map]
  exact Option.map_id'

/-- In a call that does not bind a name, the name stands for what the link of the call shows. -/
theorem find?_of_unbound (bindings : Scope) {scopes : Scopes} (h : scopes.find? name = none) :
    ((s.enter bindings link).withTop scopes).find? name = (s.seen link name).map Prod.snd := by
  have hframes : ((s.enter bindings link).withTop scopes).frames = ⟨scopes, link⟩ :: s.frames := rfl
  rw [find?, resolve_of_frames hframes, findLinked_zero, seen]
  simp only [h]
  cases follow name link s.frames <;> rfl

/-- From `s` to `t` only scopes on top have changed, or else `t` has more frames. -/
def ChangedOnTopOrInside (s t : Stack) : Prop :=
  (∃ scopes, t = s.withTop scopes) ∨ s.frames.length < t.frames.length

end Stack

theorem Machine.ChangedOnTop.orInside {m m' : Machine} {t : Stack} (h : m.ChangedOnTop m')
    (ht : m'.stack.ChangedOnTopOrInside t) : m.stack.ChangedOnTopOrInside t := by
  obtain ⟨scopes, hs⟩ := h.stack
  rw [Stack.ChangedOnTopOrInside, h.length_frames] at ht
  refine ht.imp_left fun ⟨scopes', hs'⟩ => ⟨scopes', ?_⟩
  rw [hs', hs, Stack.withTop_withTop]

namespace Environment

variable {env : Environment} {e : Evaluation} {m p : Machine} {name : String} {f : Function}
variable {link : Option Nat}

/-! ## The machines on the way of a call -/

theorem calls_change_top (env : Environment) (nesting left : Nat) :
    Machine.changedOnTop.coupling.SameCalls (env.callsWithin nesting left)
      (env.callsWithin nesting left) :=
  Machine.changedOnTop.hosted.callsWithin_sameCalls env nesting left

theorem finish_changedOnTop (env : Environment) (e : Evaluation) :
    e.start.ChangedOnTop (e.finish env) :=
  Work.keeps env (env.calls_change_top e.nesting e.left) e.work e.start e.start (.refl _)

/-- On its way, an evaluation changes scopes on top only, apart from what calls within it do to
their own frames. -/
theorem Visits.changedOnTopOrInside (h : env.Visits e p) :
    e.start.stack.ChangedOnTopOrInside p.stack := by
  induction h with
  | start => exact .inl ⟨_, (Stack.withTop_top _).symm⟩
  | @finish e => exact .inl (env.finish_changedOnTop e).stack
  | inside hcontains _ ih =>
    cases hcontains with
    | @part nesting left w m _ _ hpart =>
      have hm : Machine.changedOnTop.coupling.rel m m m := ⟨rfl, .refl m⟩
      have hcalls := env.calls_change_top nesting left
      exact (hpart.keeps hcalls hm (w.linked_of_forall fun _ => trivial)).1.2.orInside ih
    | @action nesting left _ m _ _ hpart =>
      have hm : Machine.changedOnTop.coupling.rel m m m := ⟨rfl, .refl m⟩
      have hcalls := env.calls_change_top nesting left
      exact (hpart.keeps Machine.changedOnTop.hosted hcalls hm).1.2.orInside ih
    | body _ =>
      -- The body has a frame of its own, so it is inside however it goes on.
      right
      rcases ih with ⟨scopes, hs⟩ | hlt
      · rw [hs, Stack.length_frames_withTop]
        exact Nat.lt_succ_self _
      · exact Nat.lt_of_succ_lt hlt
    | host _ => exact ih

/-- Where there are other frames than at the start, the evaluation passes through on the way of a
part. -/
theorem Visits.inside_of_length_ne (h : env.Visits e p)
    (hne : p.stack.frames.length ≠ e.start.stack.frames.length) :
    ∃ e', env.Contains e e' ∧ env.Visits e' p := by
  cases h with
  | start => exact absurd rfl hne
  | finish => exact absurd (env.finish_changedOnTop e).length_frames hne
  | inside hcontains hvisits => exact ⟨_, hcontains, hvisits⟩

/-- `env.InBody name m p`: a call by this name on `m` passes through `p`, where it is in the body of
the function and in no call within. -/
inductive InBody (env : Environment) (name : String) (m p : Machine) : Prop
  | intro {nesting left vs site}
    (hvisits : env.Visits ⟨nesting, left, .named name vs site, m⟩ p)
    (hlength : p.stack.frames.length = m.stack.frames.length + 1)

theorem InBody.frames_ne_nil (h : env.InBody name m p) : p.stack.frames ≠ [] := by
  obtain ⟨-, hlength⟩ := h
  exact List.ne_nil_of_length_pos (by omega)

/-- In the body of the function that the name stands for, the stack is that of the caller with the
frame of the call on top. -/
theorem InBody.stack_eq (h : env.InBody name m p) (hfree : m.natives.find? name = none)
    (hfound : m.stack.resolve name = some (link, .function f)) :
    ∃ bindings scopes, p.stack = (m.stack.enter bindings link).withTop scopes := by
  obtain ⟨hvisits, hlength⟩ := h
  have hne : p.stack.frames.length ≠ m.stack.frames.length := by omega
  -- From the name to the value, from that to the call, and from that to the body.
  obtain ⟨e₁, hnamed, hvisits⟩ := hvisits.inside_of_length_ne hne
  obtain ⟨hpart⟩ := hnamed
  cases hpart with
  | registered hregistered => simp [hfree] at hregistered
  | resolved _ hresolved =>
    obtain ⟨rfl, rfl⟩ := Prod.mk.inj (Option.some.inj (hfound.symm.trans hresolved))
    obtain ⟨e₂, hcallee, hvisits⟩ := hvisits.inside_of_length_ne hne
    obtain ⟨⟨⟩⟩ := hcallee
    obtain ⟨e₃, huser, hvisits⟩ := hvisits.inside_of_length_ne hne
    cases huser with
    | part hpart => cases hpart
    | body _ =>
      rcases hvisits.changedOnTopOrInside with ⟨scopes, hs⟩ | hlt
      · exact ⟨_, scopes, hs⟩
      · have hdeeper : m.stack.frames.length + 1 < p.stack.frames.length := hlt
        omega

/-- The body starts with the bindings of the arguments, if the call is not refused. -/
theorem InBody.entered {vs : List Value} {site : Position} (hfree : m.natives.find? name = none)
    (hfound : m.stack.resolve name = some (link, .function f))
    (hcheck : (f.checkCall env.settings.maxCallDepth vs site).on m = (.ok (), m)) :
    env.InBody name m (m.enter (f.bind vs) link) := by
  have hvisits : env.Visits ⟨0, 1, .named name vs site, m⟩ (m.enter (f.bind vs) link) :=
    .inside (.part (.resolved hfree hfound))
      (.inside (.part .userCall) (.inside (.body hcheck) .start))
  exact .intro hvisits rfl

/-- There a name that is called stands for what the link of the call shows, unless the call binds it
anew. -/
theorem InBody.lookup_eq (h : env.InBody name m p) (hfree : m.natives.find? name = none)
    (hfound : m.stack.resolve name = some (link, .function f))
    (hkept : p.stack.top.find? name = none) :
    p.lookup name = (m.stack.seen link name).map Prod.snd := by
  obtain ⟨bindings, scopes, hs⟩ := h.stack_eq hfree hfound
  rw [hs, Stack.top_withTop] at hkept
  rw [Machine.lookup, hs, Stack.find?_of_unbound bindings hkept]

/-- A function that is called within a call is found by the same name in its body. -/
theorem InBody.lookup_of_frames (h : env.InBody name m p) (hframes : m.stack.frames ≠ [])
    (hfree : m.natives.find? name = none) (hfound : m.lookup name = some (.function f))
    (hkept : p.stack.top.find? name = none) : p.lookup name = some (.function f) := by
  obtain ⟨⟨link, v⟩, hresolved, rfl⟩ := Option.map_eq_some_iff.mp hfound
  rw [h.lookup_eq hfree hresolved hkept, Stack.seen_of_resolve hresolved hframes]
  rfl

/-! ## Recursion -/

/-- `env.Recurs name f m p`: a call by this name on `m` passes through `p`, in the body of the
function itself or of a call that it makes of itself by that name, at any depth. None of the calls
on the way binds the name anew, and none calls a native function of that name. -/
inductive Recurs (env : Environment) (name : String) (f : Function) (m : Machine) : Machine → Prop
  | body {p : Machine} (hbody : env.InBody name m p) : Recurs env name f m p
  | again {p p' : Machine} (hrecurs : Recurs env name f m p) (hkept : p.stack.top.find? name = none)
    (hfree : p.natives.find? name = none) (hfound : p.lookup name = some (.function f))
    (hbody : env.InBody name p p') : Recurs env name f m p'

theorem Recurs.frames_ne_nil (h : env.Recurs name f m p) : p.stack.frames ≠ [] := by
  cases h with
  | body hbody => exact hbody.frames_ne_nil
  | again _ _ _ _ hbody => exact hbody.frames_ne_nil

/-- Throughout a call of a function by a name, at every depth of recursion, the name stands for the
function unless the call binds it anew: always so if the call is made within a call, and otherwise
if and only if the global scope is where the name stands for the function. -/
theorem Recurs.lookup_eq_iff (h : env.Recurs name f m p) (hfree : m.natives.find? name = none)
    (hfound : m.stack.resolve name = some (link, .function f))
    (hkept : p.stack.top.find? name = none) :
    p.lookup name = some (.function f) ↔
      (m.stack.frames = [] → m.stack.globals.find? name = some (.function f)) := by
  induction h with
  | body hbody =>
    rw [hbody.lookup_eq hfree hfound hkept]
    by_cases hframes : m.stack.frames = []
    · rw [Stack.seen_of_resolve_outside hfound hframes]
      exact ⟨fun hglobal _ => hglobal, fun hglobal => hglobal hframes⟩
    · rw [Stack.seen_of_resolve hfound hframes]
      exact ⟨fun _ hnil => absurd hnil hframes, fun _ => rfl⟩
  | again hrecurs hkept' hfree' hfound' hbody ih =>
    -- The call of itself is made within a call, so it does not matter where the first one was made.
    have hagain := hbody.lookup_of_frames hrecurs.frames_ne_nil hfree' hfound' hkept
    exact ⟨fun _ => (ih hkept').mp hfound', fun _ => hagain⟩

/-- A function that is bound in a call finds itself in a call that it makes of itself. -/
theorem Recurs.lookup_eq_iff_of_local :
    let f := Function.reader "reader"
    let m := (Machine.initial {}).enter ⟨[("reader", .function f)]⟩ none
    let p := m.enter {} (some 0)
    let p' := p.enter {} (some 1)
    Environment.bare.Recurs "reader" f m p' ∧ p'.stack.top.find? "reader" = none ∧
      p'.lookup "reader" = some (.function f) := by
  intro f m p p'
  have hfound : m.stack.resolve "reader" = some (some 0, .function f) := rfl
  have hfound' : p.stack.resolve "reader" = some (some 1, .function f) := rfl
  have hcheck : (f.checkCall 200 [] {}).on m = (.ok (), m) := rfl
  have hbody : Environment.bare.InBody "reader" m p := .entered rfl hfound hcheck
  have hcheck' : (f.checkCall 200 [] {}).on p = (.ok (), p) := rfl
  have hagain : Environment.bare.InBody "reader" p p' := .entered rfl hfound' hcheck'
  have hrecurs : Environment.bare.Recurs "reader" f m p' := .again (.body hbody) rfl rfl rfl hagain
  exact ⟨hrecurs, rfl, (hrecurs.lookup_eq_iff rfl hfound rfl).mpr fun houtside => nomatch houtside⟩

/-- A function that is defined in a scope which the host has pushed does not find itself. -/
theorem recursion_fails_in_pushed_scope :
    let f := Function.reader "reader"
    let ops := [HostOperation.push, .runTree [.function f]]
    let m := ops.foldl (HostOperation.after .bare) (.initial {})
    let p := m.enter {} none
    m.natives.find? "reader" = none ∧ m.stack.resolve "reader" = some (none, .function f) ∧
      Environment.bare.Recurs "reader" f m p ∧ p.stack.top.find? "reader" = none ∧
      p.lookup "reader" ≠ some (.function f) ∧
      ((Environment.bare.call "reader" [] {}).on m).1 = .error (.undefined "reader" {}) := by
  intro f ops m p
  have hfound : m.stack.resolve "reader" = some (none, .function f) := rfl
  have hcheck : (f.checkCall 200 [] {}).on m = (.ok (), m) := rfl
  have hbody : Environment.bare.InBody "reader" m p := .entered rfl hfound hcheck
  have hmissing : p.lookup "reader" = none := rfl
  exact ⟨rfl, hfound, .body hbody, rfl, by simp [hmissing], rfl⟩

end Environment

end Scriptlet
