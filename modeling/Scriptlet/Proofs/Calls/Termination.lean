import Scriptlet.Interpreter
import Scriptlet.Proofs.Calls.Endings
import Scriptlet.Proofs.Calls.Isolation
import Scriptlet.Proofs.Evaluation.Parts
import Scriptlet.Proofs.Machine.HostFree

/-!
# Every run ends

Without functions of the host, every evaluation ends, and the evaluator gives its ending
(`evaluation_ends`): its bound on nested calls plays no part, since the limit of open calls always
refuses a call first. That holds whatever functions are bound, so also where functions call each
other in circles, and whatever the limit is.

Why it ends is a measure (`Work.weight`). A step into the body of a function leaves fewer calls that
may still be opened. Every other step keeps their number, and leads to a smaller tree, or to fewer
rounds of the same loop.
-/

namespace Scriptlet

/-! ## The measure -/

namespace Work

/-- The size of the tree that is left. What has no tree is below all trees. -/
noncomputable def size : Work → Nat
  | .expr e => sizeOf e
  | .exprs es => sizeOf es
  | .member _ _ behind => sizeOf behind
  | .entries _ ss => sizeOf ss
  | .statement s => sizeOf s
  | .statements ss => sizeOf ss
  | .rounds _ _ body _ => sizeOf body + 1
  | .store _ target => sizeOf target
  | .place target => sizeOf target
  | .write _ _ _ behind => sizeOf behind
  | .method .. => 3
  | .named .. => 2
  | .callee .. => 1
  | .bind .. | .user .. | .native .. | .action .. => 0

/-- How many rounds of a loop are left. -/
def items : Work → Nat
  | .rounds _ _ _ pairs => pairs.length
  | _ => 0

/-- How many calls may still be opened, the size of the tree, and the number of rounds. -/
noncomputable def weight (limit : Nat) (w : Work) (m : Machine) : Nat × Nat × Nat :=
  (limit - m.openCalls, w.size, w.items)

/-- The weights are ordered by the calls first, then by the size. -/
def Lighter : Nat × Nat × Nat → Nat × Nat × Nat → Prop :=
  Prod.Lex (· < ·) (Prod.Lex (· < ·) (· < ·))

theorem lighter_wellFounded : WellFounded Lighter :=
  (Prod.lex Nat.lt_wfRel (Prod.lex Nat.lt_wfRel Nat.lt_wfRel)).wf

end Work

/-- `env.StepsTo calls w m w' m'`: to carry out `w` on `m` is, on the way, to carry out `w'` on
`m'`, which is a part of it or the body of the function that it calls. -/
inductive Environment.StepsTo (env : Environment) (calls : Calls) :
    Work → Machine → Work → Machine → Prop
  | part {w m w' m'} (hpart : Part calls w m w' m') : StepsTo env calls w m w' m'
  | body {f link vs site m}
    (hcheck : (f.checkCall env.settings.maxCallDepth vs site).on m = (.ok (), m)) :
    StepsTo env calls (.user f link vs site) m (.statements f.body.statements)
      (m.enter (f.bind vs) link)

variable {env : Environment} {calls : Calls} {w w' : Work} {m m' : Machine}

/-- The tree of a call is larger than what stands for a call whose arguments have values. -/
theorem sizeOf_call (c : Call) : 2 < sizeOf c := by
  obtain ⟨name, es, ⟨line, column, length⟩⟩ := c
  have hes : 0 < sizeOf es := by
    cases es with
    | nil => simp
    | cons e rest => simp only [List.cons.sizeOf_spec]; omega
  simp
  omega

/-- A part has a smaller tree, or the same loop has fewer rounds left. -/
theorem Part.size_lt (h : Part calls w m w' m') :
    w'.size < w.size ∨ w'.size = w.size ∧ w'.items < w.items := by
  cases h with
  | nextRound =>
    right
    simp [Work.size, Work.items]
  | @call c | @memberCall _ _ c =>
    have hcall := sizeOf_call c
    left
    simp [Work.size]
    omega
  | @arguments c | @memberArguments _ _ c =>
    obtain ⟨name, es, p⟩ := c
    left
    simp [Work.size]
    omega
  | @block b | @body _ b | @rounds _ _ _ b =>
    obtain ⟨ss, p⟩ := b
    left
    simp [Work.size]
    omega
  | @otherwise _ _ o =>
    obtain ⟨ss, p⟩ := o
    left
    simp [Work.size]
    omega
  | _ =>
    left
    simp [Work.size] <;> omega

/-- Each step leads to something lighter, whatever the limit of open calls is. -/
theorem Environment.StepsTo.lighter {nesting left : Nat}
    (h : env.StepsTo (env.callsWithin nesting left) w m w' m') :
    Work.Lighter (w'.weight env.settings.maxCallDepth m')
      (w.weight env.settings.maxCallDepth m) := by
  cases h with
  | part hpart =>
    have hcalls := Machine.changedOnTop.hosted.callsWithin_sameCalls env nesting left
    have hm : Machine.changedOnTop.coupling.rel m m m := ⟨rfl, .refl m⟩
    have hopen : m'.openCalls = m.openCalls :=
      (hpart.keeps hcalls hm (w.linked_of_forall fun _ => trivial)).1.2.openCalls
    rw [Work.weight, Work.weight, hopen]
    rcases hpart.size_lt with hsize | ⟨hsize, hitems⟩
    · exact .right _ (.left _ _ hsize)
    · rw [hsize]
      exact .right _ (.right _ hitems)
  | @body f link vs site m hcheck =>
    have hlimit := f.openCalls_lt_of_checkCall hcheck
    have hfewer : env.settings.maxCallDepth - (m.openCalls + 1) <
        env.settings.maxCallDepth - m.openCalls := by omega
    exact .left _ _ hfewer

/-! ## The endings -/

namespace Machine.HostFree

/-- Steps that go alike from a host-free machine end in the same outcome and on the same machine. -/
theorem on_eq_of_lockstep {ε α : Type} {P : α → Prop} {x y : Exec ε α} {least : Nat}
    (h : m.HostFree) (hleast : least ≤ m.openCalls)
    (hxy : ∀ c, Exec.Lockstep ((coupling least).rel c) P x y) : x.on m = y.on m := by
  have halike := hxy ⟨m, hleast⟩ m m ⟨rfl, .refl h⟩
  exact Prod.ext halike.outcome_eq halike.states_rel.1

end Machine.HostFree

open Classical in
/-- What the evaluator gives for calls on host-free machines on which at least so many calls are
open. -/
noncomputable def Environment.endings (env : Environment) (nesting left least : Nat) : Endings :=
  fun c m =>
    if m.HostFree ∧ least ≤ m.openCalls ∧ ∀ a ∈ c.arguments, a.Within .builtin then
      some (((env.callsWithin nesting left).user c.f c.link c.arguments c.site).on m)
    else none

variable {nesting left least : Nat}

theorem Environment.endings_eq_some {c : Invocation} {r : Ending Value}
    (h : env.endings nesting left least c m = some r) :
    (m.HostFree ∧ least ≤ m.openCalls ∧ ∀ a ∈ c.arguments, a.Within .builtin) ∧
      ((env.callsWithin nesting left).user c.f c.link c.arguments c.site).on m = r := by
  unfold Environment.endings at h
  split at h
  · rename_i hknown
    exact ⟨hknown, Option.some.inj h⟩
  · cases h

/-- Calls that end in the same way as those of the evaluator do the same. -/
theorem Calls.Obeys.sameCalls (h : calls.Obeys env (env.endings nesting left least)) :
    (Machine.HostFree.coupling least).SameCalls calls (env.callsWithin nesting left) where
  user {c} f link arguments site hf hlink ha := by
    have hself := (Machine.HostFree.coupling least).plain_sameCalls env nesting left
    rintro m _ ⟨rfl, hsince⟩
    have hleast : least ≤ m.openCalls := hsince.openCalls ▸ c.2
    have huser := h.user ⟨f, link, arguments, site⟩ m _ (if_pos ⟨hsince.hostFree, hleast, ha⟩)
    show Alike _ _ ((calls.user f link arguments site).on m) _
    rw [huser]
    exact hself.user f site hf hlink ha m m ⟨rfl, hsince⟩
  native {c} n arguments site hn ha := by
    have hself := (Machine.HostFree.coupling least).plain_sameCalls env nesting left
    have hsame : calls.native n = (env.callsWithin nesting left).native n := by
      obtain ⟨b, rfl⟩ := hn
      rw [h.builtin b, env.callsWithin_builtin nesting left b]
    rw [hsame]
    exact hself.native site hn ha

namespace Exec

variable {ε α β : Type} {x y : Exec ε α}

theorem on_within_congr {bindings : Scope} {link : Option Nat}
    (h : x.on (m.enter bindings link) = y.on (m.enter bindings link)) :
    (within bindings link x).on m = (within bindings link y).on m := by
  rw [on_within, on_within, h]

theorem on_bind_congr (h : x.on m = y.on m) (f : α → Exec ε β) :
    (x >>= f).on m = (y >>= f).on m := by
  rw [on_bind, on_bind, h]

end Exec

/-- A call of the evaluator does what a call does, by means of calls of which one less may be
opened. -/
theorem Environment.callsWithin_user (env : Environment) (nesting left : Nat) (c : Invocation) :
    (env.callsWithin nesting (left + 1)).user c.f c.link c.arguments c.site =
      c.steps env (env.callsWithin nesting left) :=
  rfl

/-- A call that is refused ends at once. -/
theorem Environment.CallEnds.of_refused {c : Invocation} {e : RuntimeError}
    (h : (c.f.checkCall env.settings.maxCallDepth c.arguments c.site).on m = (.error e, m)) :
    env.CallEnds c m (.error e, m) := by
  refine .intro (fun _ _ => none) (fun c' m' r' hr => by cases hr) fun calls _ => ?_
  rw [Invocation.steps, Exec.on_bind_error h]

theorem Environment.user_of_refused {c : Invocation} {e : RuntimeError}
    (h : (c.f.checkCall env.settings.maxCallDepth c.arguments c.site).on m = (.error e, m))
    (nesting left : Nat) :
    ((env.callsWithin nesting left).user c.f c.link c.arguments c.site).on m = (.error e, m) := by
  cases left with
  | zero => exact Exec.on_bind_error h _
  | succ left => rw [callsWithin_user, Invocation.steps, Exec.on_bind_error h]

/-- Calls of the evaluator end, if as many may still be opened as the limit admits: by induction on
their number. -/
theorem Environment.callEnds (env : Environment) (nesting left : Nat) {c : Invocation} {m : Machine}
    (hm : m.HostFree) (ha : ∀ a ∈ c.arguments, a.Within .builtin)
    (hleft : env.settings.maxCallDepth ≤ m.openCalls + left) :
    env.CallEnds c m
      (((env.callsWithin nesting left).user c.f c.link c.arguments c.site).on m) := by
  induction left generalizing c m with
  | zero =>
    rcases c.f.checkCall_cases env.settings.maxCallDepth c.arguments c.site m with
      ⟨-, hopen⟩ | ⟨e, he⟩
    · exact absurd hleft (Nat.not_le.mpr hopen)
    · rw [user_of_refused he]
      exact .of_refused he
  | succ left ih =>
    rcases c.f.checkCall_cases env.settings.maxCallDepth c.arguments c.site m with
      ⟨hcheck, hopen⟩ | ⟨e, he⟩
    · -- Within the body one more call is open, and one less may be opened.
      refine .intro (env.endings nesting left (m.openCalls + 1)) ?_ fun calls hcalls => ?_
      · intro c' m' r' hr
        obtain ⟨⟨hfree, hleast, hwithin⟩, rfl⟩ := env.endings_eq_some hr
        exact ih hfree hwithin (by omega)
      · have hentered := hm.enter c.link (c.f.bind_within ha)
        have hbody : (evalStatements calls c.f.body.statements).on
              (m.enter (c.f.bind c.arguments) c.link) =
            (evalStatements (env.callsWithin nesting left) c.f.body.statements).on
              (m.enter (c.f.bind c.arguments) c.link) :=
          hentered.on_eq_of_lockstep (Nat.le_refl (m.openCalls + 1)) fun _ =>
            hcalls.sameCalls.evalStatements_lockstep _ fun _ _ => trivial
        rw [callsWithin_user, Invocation.steps, Invocation.steps, Exec.on_bind_ok hcheck,
          Exec.on_bind_ok hcheck]
        exact Exec.on_bind_congr (Exec.on_within_congr hbody) _
    · rw [user_of_refused he]
      exact .of_refused he

/-- Whatever goes alike by means of calls that do the same ends, and the evaluator gives its
ending. -/
theorem Environment.ends_of_lockstep {α : Type} {P : α → Prop} {steps : Calls → Eval α}
    (env : Environment) (nesting left : Nat) (hm : m.HostFree)
    (hleft : env.settings.maxCallDepth ≤ m.openCalls + left)
    (hsteps : ∀ {calls calls' least} (c : (Machine.HostFree.coupling least).Context),
      (Machine.HostFree.coupling least).SameCalls calls calls' →
      Exec.Lockstep ((Machine.HostFree.coupling least).rel c) P (steps calls) (steps calls')) :
    env.Ends steps m ((steps (env.callsWithin nesting left)).on m) := by
  refine ⟨env.endings nesting left m.openCalls, fun c m' r hr => ?_, fun calls hcalls => ?_⟩
  · obtain ⟨⟨hfree, hleast, hwithin⟩, rfl⟩ := env.endings_eq_some hr
    exact env.callEnds nesting left hfree hwithin (by omega)
  · exact hm.on_eq_of_lockstep (Nat.le_refl m.openCalls) fun c => hsteps c hcalls.sameCalls

/-- Without functions of the host, statements and expressions end, and end in what the evaluator
gives only, on whatever machine they start and whatever the limit of open calls is. Each step on the
way leads to something lighter: to fewer calls that may be opened, or else to a smaller tree, or
else to fewer rounds of a loop. So no evaluation goes on for ever. -/
theorem evaluation_ends (env : Environment) {m : Machine} (hm : m.HostFree) :
    (∀ ss r, env.Ends (fun calls => evalStatements calls ss) m r ↔ r = (env.flow ss).on m) ∧
    (∀ e r, env.Ends (fun calls => evalExpr calls e) m r ↔ r = (env.evaluate e).on m) ∧
    WellFounded Work.Lighter ∧
    ∀ nesting left w m w' m', env.StepsTo (env.callsWithin nesting left) w m w' m' →
      Work.Lighter (w'.weight env.settings.maxCallDepth m')
        (w.weight env.settings.maxCallDepth m) := by
  have hleft : env.settings.maxCallDepth ≤ m.openCalls + env.settings.maxCallDepth :=
    Nat.le_add_left _ _
  refine ⟨fun ss r => ?_, fun e r => ?_, Work.lighter_wellFounded, fun _ _ _ _ _ _ h => h.lighter⟩
  · have hends := env.ends_of_lockstep env.hostNesting _ hm hleft fun c hcalls =>
      hcalls.evalStatements_lockstep (c := c) ss fun _ _ => trivial
    exact ⟨fun h => h.unique hends, fun h => h ▸ hends⟩
  · have hends := env.ends_of_lockstep env.hostNesting _ hm hleft fun c hcalls =>
      hcalls.evalExpr_lockstep (c := c) e fun _ _ => trivial
    exact ⟨fun h => h.unique hends, fun h => h ▸ hends⟩

/-- A function that calls itself ends, too: the limit refuses a call. -/
theorem evaluation_ends_in_circle :
    let f : Function := ⟨"f", [], ⟨[.exit (some (.call ⟨"f", [], {}⟩)) {}], {}⟩, {}⟩
    let env : Environment :=
      { settings := { maxCallDepth := 2 }, compile := fun _ => .error "",
        shell := fun _ => .error "", behaviour := fun _ => .finish (.ok .nil) }
    let m := Machine.initial ⟨[("f", .function f)]⟩
    m.HostFree ∧ ∃ m', env.Ends (fun calls => evalExpr calls (.call ⟨"f", [], {}⟩)) m
      (.error (.callDepth 2 {}), m') := by
  intro f env m
  have hm : m.HostFree := .initial (by simp [Vocabulary.plain])
  refine ⟨hm, ((env.evaluate (.call ⟨"f", [], {}⟩)).on m).2, ?_⟩
  exact ((evaluation_ends env hm).2.1 _ _).mpr rfl

end Scriptlet
