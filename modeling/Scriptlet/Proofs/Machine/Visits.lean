import Scriptlet.Interpreter
import Scriptlet.Proofs.Calls.Isolation
import Scriptlet.Proofs.Evaluation.Remainder
import Scriptlet.Proofs.Machine.Bookkeeping

/-!
# The machines that a host's operations pass through

A host works on a machine by operations, some of which run programs, which may call functions of the
host, which use the same operations in turn. Whatever a host does, every machine on the way is
well-formed (`Host.passes_wellFormed`): its scopes and calls fit together, names are resolved
without running out of range, and the open calls are counted and within the limit. Native functions
stay once they are registered, from one machine on the way to every later one. Behind every
operation no call is open, however it ended.

The invariant that carries this is about links. A link comes from the resolution of a name, so when
a call is opened its link leads to one of the frames that are there (`Machine.Sound`). The two lists
to which the stack is laid out have come about by their own operations, one for each operation on
the machine.
-/

namespace Scriptlet

/-! ## The invariant -/

/-- Links lead to frames below, the open calls are counted, and steps on the two lists lead here
from where nothing but the global scope was there. -/
structure Machine.Sound (globals : Scope) (m : Machine) : Prop where
  links : Frame.LinksInRange m.stack.frames
  counted : m.openCalls = m.stack.frames.length
  reached : (Ledger.initial globals).Leads m.ledger

variable {globals : Scope} {m₀ m m' p : Machine}

theorem Stack.length_frames_withTop (s : Stack) (scopes : Scopes) :
    (s.withTop scopes).frames.length = s.frames.length := by
  obtain ⟨base, frames⟩ := s
  cases frames with
  | nil => rfl
  | cons f below => rfl

theorem Stack.linksInRange_withTop {s : Stack} (h : Frame.LinksInRange s.frames)
    (scopes : Scopes) : Frame.LinksInRange (s.withTop scopes).frames := by
  obtain ⟨base, frames⟩ := s
  cases frames with
  | nil => exact trivial
  | cons f below => exact h

theorem Stack.resolve_link_lt {s : Stack} {name : String} {distance : Nat} {v : Value}
    (h : s.resolve name = some (some distance, v)) : distance < s.frames.length := by
  obtain ⟨base, frames⟩ := s
  cases frames with
  | nil =>
    obtain ⟨u, -, he⟩ := Option.map_eq_some_iff.mp h
    cases he
  | cons f below =>
    rw [Stack.resolve_of_frames rfl] at h
    cases hs : Stack.findLinked name 0 (f :: below) with
    | some r =>
      rw [hs] at h
      cases h
      exact Stack.findLinked_lt hs
    | none =>
      rw [hs] at h
      obtain ⟨u, -, he⟩ := Option.map_eq_some_iff.mp h
      cases he

/-- What a name stands for was found in the frame to which the link leads. -/
theorem Stack.offers_of_resolve {s : Stack} (hlinks : Frame.LinksInRange s.frames) {name : String}
    {distance : Nat} {v : Value} (h : s.resolve name = some (some distance, v)) :
    s.Offers distance := by
  have hresolves := Stack.resolves_layout hlinks name
  rw [h] at hresolves
  exact ⟨Stack.resolve_link_lt h, s.layout, name, v, rfl, hresolves⟩

namespace Machine

theorem ChangedOnTop.length_frames (h : m₀.ChangedOnTop m) :
    m.stack.frames.length = m₀.stack.frames.length := by
  obtain ⟨scopes, hs⟩ := h.stack
  rw [hs, Stack.length_frames_withTop]

theorem ChangedOnTop.offers (h : m₀.ChangedOnTop m) {distance : Nat} :
    m.stack.Offers distance ↔ m₀.stack.Offers distance := by
  obtain ⟨scopes, hs⟩ := h.stack
  obtain ⟨lower, -, -, hlayout⟩ := m₀.stack.layout_withTop
  rw [hs, Stack.Offers, Stack.Offers, hlayout, Stack.length_frames_withTop]

theorem ChangedOnTop.sound (h : m₀.ChangedOnTop m) (h₀ : m₀.Sound globals)
    (hreached : (Ledger.initial globals).Leads m.ledger) : m.Sound globals where
  links := by
    obtain ⟨scopes, hs⟩ := h.stack
    rw [hs]
    exact Stack.linksInRange_withTop h₀.links scopes
  counted := by rw [h.openCalls, h.length_frames, h₀.counted]
  reached := hreached

theorem Sound.step (hsound : m.Sound globals) (h : m₀.ChangedOnTop m) (hchange : m.ChangedOnTop m')
    (hstep : m.ledger.Step m'.ledger) : m₀.ChangedOnTop m' ∧ m'.Sound globals :=
  ⟨h.trans hchange, hchange.sound hsound (hsound.reached.tail hstep)⟩

theorem Sound.enter (h : m.Sound globals) (bindings : Scope) {link : Option Nat}
    (hlink : ∀ distance, link = some distance → m.stack.Offers distance) :
    (m.enter bindings link).Sound globals where
  links := ⟨fun distance hd => (hlink distance hd).1, h.links⟩
  counted := congrArg (· + 1) h.counted
  reached := h.reached.tail (m.step_enter bindings hlink)

theorem Sound.leave (h : m.Sound globals) {n : Machine} (hn : n.Sound globals)
    {bindings : Scope} {link : Option Nat} (hchange : (m.enter bindings link).ChangedOnTop n) :
    n.leave.Sound globals := by
  have hopen : n.stack.frames ≠ [] := by
    have hlength := hchange.length_frames
    exact List.ne_nil_of_length_pos (hlength ▸ Nat.zero_lt_succ _)
  exact hchange.leave.changedOnTop.sound h (hn.reached.tail (step_leave hopen))

/-- A sound machine is coupled with itself as long as it changes on top only. Functions are called
with links to frames in which a name was found. -/
def Sound.coupling (globals : Scope) : Coupling .full where
  Context := Machine
  rel c m m' := m = m' ∧ c.ChangedOnTop m ∧ m.Sound globals
  mayLink c link := ∀ distance, link = some distance → c.stack.Offers distance
  mayLink_none _ _ h := absurd h (by simp)
  resolve h _ := by rw [h.1]
  resolved h _ hr := by
    refine ⟨fun distance hd => ?_, Value.within_full _⟩
    subst hd
    exact h.2.1.offers.mp (Stack.offers_of_resolve h.2.2.links hr)
  natives h _ := by rw [h.1]
  native _ _ _ := trivial
  openCalls h := by rw [h.1]
  assign {c m m'} name v h _ := by
    obtain ⟨rfl, h, hsound⟩ := h
    have hchange := changedOnTop.assign name v (.refl m)
    exact ⟨rfl, hsound.step h hchange (m.step_assign name v)⟩
  record {c m m' e} h he := by
    obtain ⟨rfl, h, hsound⟩ := h
    have hchange := changedOnTop.record (.refl m) he
    have hreached := hsound.reached
    rw [← ledger_record he] at hreached
    exact ⟨rfl, h.trans hchange, hchange.sound hsound hreached⟩
  enter {c m m' bindings link} h hlink _ := by
    obtain ⟨rfl, h, hsound⟩ := h
    have henter := hsound.enter bindings fun distance hd => h.offers.mpr (hlink distance hd)
    refine ⟨_, ⟨rfl, .refl _, henter⟩, ?_⟩
    rintro n _ ⟨rfl, hn, hsound'⟩
    exact ⟨rfl, h.trans hn.leave.changedOnTop, hsound.leave hsound' hn⟩
  callFrom {c m m'} site h := by
    obtain ⟨rfl, h, hsound⟩ := h
    refine ⟨{ m with callSite := site }, ⟨rfl, .refl _, hsound.links, hsound.counted,
      hsound.reached⟩, ?_⟩
    rintro n _ ⟨rfl, hn, hsound'⟩
    exact ⟨rfl, h.trans ⟨hn.stack, hn.openCalls, rfl, hn.natives⟩, hsound'.links, hsound'.counted,
      hsound'.reached⟩

theorem Sound.hosted (globals : Scope) : (Sound.coupling globals).Hosted where
  same h := h.1
  push {c m} h := by
    obtain ⟨-, h, hsound⟩ := h
    have hchange := changedOnTop.push (.refl m)
    exact ⟨rfl, hsound.step h hchange m.step_push⟩
  pop {c m} h := by
    obtain ⟨-, h, hsound⟩ := h
    have hchange := changedOnTop.pop (.refl m)
    exact ⟨rfl, hsound.step h hchange m.step_pop⟩
  register {c m m' n} h hr := by
    obtain ⟨-, h, hsound⟩ := h
    have hchange := changedOnTop.register (.refl m) hr
    exact ⟨rfl, h.trans hchange, hchange.sound hsound (ledger_register hr ▸ hsound.reached)⟩

end Machine

/-- The steps from `m₀` on have kept its native functions. -/
def Machine.nativesGrow : Upkeep where
  Context := Machine
  holds m₀ m := m₀.NativesGrow m
  assign _ _ h := h
  push h := h
  pop h := h.trans (Machine.changedOnTop.pop (.refl _)).natives
  register h hr := h.trans (.register hr)
  record h _ := h
  enter _ _ h := ⟨_, h, fun _ hn => hn⟩
  callFrom _ h := ⟨_, h, fun _ hn => hn⟩

/-! ## Evaluations and their machines -/

/-- A work that starts on a machine, while functions of the host may be nested so deep, and so many
calls may still be opened. -/
structure Evaluation where
  nesting : Nat
  left : Nat
  work : Work
  start : Machine

/-- The machine behind an evaluation. -/
def Evaluation.finish (env : Environment) (e : Evaluation) : Machine :=
  e.work.after env (env.callsWithin e.nesting e.left) e.start

/-- `env.Contains e e'`: the evaluation `e'` is a part of `e`, or it is that of the body of the
function, or of the actions of the function of the host, that is called. -/
inductive Environment.Contains (env : Environment) : Evaluation → Evaluation → Prop
  | part {nesting left w m w' m'} (hpart : Part (env.callsWithin nesting left) w m w' m') :
    Contains env ⟨nesting, left, w, m⟩ ⟨nesting, left, w', m'⟩
  | action {nesting left a m w' m'}
    (hpart : ActionPart env (env.callsWithin nesting left) a m w' m') :
    Contains env ⟨nesting, left, .action a, m⟩ ⟨nesting, left, w', m'⟩
  | body {nesting left f link vs site m}
    (hcheck : (f.checkCall env.settings.maxCallDepth vs site).on m = (.ok (), m)) :
    Contains env ⟨nesting, left + 1, .user f link vs site, m⟩
      ⟨nesting, left, .statements f.body.statements, m.enter (f.bind vs) link⟩
  | host {nesting left name arity label attached vs site m} (harity : arity.admits vs.length) :
    Contains env ⟨nesting + 1, left, .native (.host name arity label attached) vs site, m⟩
      ⟨nesting, left, .action (env.behaviour ⟨name, label, attached, vs⟩),
        { m with callSite := site }⟩

/-- `env.Visits e p`: the evaluation `e` passes through the machine `p`. -/
inductive Environment.Visits (env : Environment) : Evaluation → Machine → Prop
  | start {e} : Visits env e e.start
  | finish {e} : Visits env e (e.finish env)
  | inside {e e' p} (hcontains : env.Contains e e') (hvisits : Visits env e' p) : Visits env e p

/-- `env.Precedes e p p'`: the evaluation `e` passes through `p` before it passes through `p'`. Each
part starts on the machine on which the part in front of it ends, so whatever the one passes through
precedes what the other passes through. -/
inductive Environment.Precedes (env : Environment) : Evaluation → Machine → Machine → Prop
  | start {e p} (hvisits : env.Visits e p) : Precedes env e e.start p
  | finish {e p} (hvisits : env.Visits e p) : Precedes env e p (e.finish env)
  | inside {e e' p p'} (hcontains : env.Contains e e') (hprecedes : Precedes env e' p p') :
    Precedes env e p p'
  | trans {e p q p'} (hfirst : Precedes env e p q) (hsecond : Precedes env e q p') :
    Precedes env e p p'

open Machine (Sound)

variable {env : Environment} {e e' : Evaluation}

theorem Environment.calls_keep_sound (env : Environment) (globals : Scope) (nesting left : Nat) :
    (Sound.coupling globals).SameCalls (env.callsWithin nesting left)
      (env.callsWithin nesting left) :=
  (Sound.hosted globals).callsWithin_sameCalls env nesting left

/-! ## Every machine on the way is sound -/

/-- Every machine of an evaluation is sound and within the limit of open calls, if the start is. -/
theorem Environment.Visits.sound (h : env.Visits e p) (c : Machine)
    (hm : (Sound.coupling globals).rel c e.start e.start)
    (hlink : e.work.Linked ((Sound.coupling globals).mayLink c))
    (hlimit : c.openCalls ≤ env.settings.maxCallDepth) :
    p.Sound globals ∧ p.openCalls ≤ env.settings.maxCallDepth := by
  -- The context stays the same from a work to its parts; a call has a context of its own.
  induction h generalizing c with
  | start => exact ⟨hm.2.2, hm.2.1.openCalls ▸ hlimit⟩
  | @finish e =>
    obtain ⟨-, hafter, hsound⟩ := Work.after_keeps env (Sound.hosted globals)
      (env.calls_keep_sound globals e.nesting e.left) (c := c) hm hlink
    exact ⟨hsound, hafter.openCalls ▸ hlimit⟩
  | inside hcontains _ ih =>
    cases hcontains with
    | part hpart =>
      obtain ⟨hm', hlink'⟩ := hpart.keeps (env.calls_keep_sound globals _ _) (c := c) hm hlink
      exact ih c hm' hlink' hlimit
    | action hpart =>
      obtain ⟨hm', hlink'⟩ :=
        hpart.keeps (Sound.hosted globals) (env.calls_keep_sound globals _ _) (c := c) hm
      exact ih c hm' hlink' hlimit
    | @body _ _ f _ vs _ _ hcheck =>
      obtain ⟨-, hm, hsound⟩ := hm
      have henter := hsound.enter (f.bind vs) fun distance hd => hm.offers.mpr (hlink distance hd)
      exact ih _ ⟨rfl, .refl _, henter⟩ trivial (f.openCalls_lt_of_checkCall hcheck)
    | @host _ _ _ _ _ _ _ site m _ =>
      obtain ⟨-, hm, hsound⟩ := hm
      exact ih { m with callSite := site } ⟨rfl, .refl _, hsound.links, hsound.counted,
        hsound.reached⟩ trivial (hm.openCalls ▸ hlimit)

/-! ## Native functions stay -/

namespace Environment

variable {c p p' : Machine}

theorem calls_keep_natives (env : Environment) (nesting left : Nat) :
    Machine.nativesGrow.coupling.SameCalls (env.callsWithin nesting left)
      (env.callsWithin nesting left) :=
  Machine.nativesGrow.hosted.callsWithin_sameCalls env nesting left

theorem Contains.start_grows (h : env.Contains e e') : e.start.NativesGrow e'.start := by
  cases h with
  | @part nesting left w m _ _ hpart =>
    have hm : Machine.nativesGrow.coupling.rel m m m := ⟨rfl, .refl m⟩
    exact (hpart.keeps (env.calls_keep_natives nesting left) hm
      (w.linked_of_forall fun _ => trivial)).1.2
  | @action nesting left _ m _ _ hpart =>
    have hm : Machine.nativesGrow.coupling.rel m m m := ⟨rfl, .refl m⟩
    exact (hpart.keeps Machine.nativesGrow.hosted (env.calls_keep_natives nesting left) hm).1.2
  | body _ => exact .refl _
  | host _ => exact .refl _

theorem Contains.finish_grows (h : env.Contains e e') :
    (e'.finish env).NativesGrow (e.finish env) := by
  have hbehind : Machine.nativesGrow.holds (e'.finish env) (e'.finish env) := .refl _
  cases h with
  | part hpart => exact hpart.rest_keeps (env.calls_keep_natives _ _) hbehind
  | action hpart => exact hpart.rest_keeps (env.calls_keep_natives _ _) hbehind
  | @body nesting left f link vs site m hcheck =>
    show Machine.NativesGrow _ ((callUser _ _ (left + 1) f link vs site).on m).2
    rw [callUser, Exec.on_bind_ok hcheck]
    -- Closing the call leaves the native functions as they are.
    refine Upkeep.holds_rest (U := Machine.nativesGrow) hbehind fun flow => ?_
    refine .bind ?_ fun _ => .ofOutcome
    cases flow with
    | returned v => exact fun _ _ h => h
    | _ => exact .pure
  | @host nesting left name arity label attached vs site m harity =>
    have hadmits : (Native.host name arity label attached).arity.admits vs.length := harity
    show Machine.NativesGrow _ ((env.nativeCalls (nesting + 1) left _ vs site).on m).2
    rw [nativeCalls, callNative, if_pos hadmits]
    exact hbehind

theorem finish_grows (env : Environment) (e : Evaluation) :
    e.start.NativesGrow (e.finish env) :=
  Work.keeps env (env.calls_keep_natives e.nesting e.left) e.work e.start e.start (.refl _)

theorem Visits.grows (h : env.Visits e p) :
    e.start.NativesGrow p ∧ p.NativesGrow (e.finish env) := by
  induction h with
  | start => exact ⟨.refl _, env.finish_grows _⟩
  | finish => exact ⟨env.finish_grows _, .refl _⟩
  | inside hcontains _ ih =>
    exact ⟨hcontains.start_grows.trans ih.1, ih.2.trans hcontains.finish_grows⟩

theorem Precedes.grows (h : env.Precedes e p p') : p.NativesGrow p' := by
  induction h with
  | start hvisits => exact hvisits.grows.1
  | finish hvisits => exact hvisits.grows.2
  | inside _ _ ih => exact ih
  | trans _ _ ih ih' => exact ih.trans ih'

end Environment

end Scriptlet
