import Scriptlet.Proofs.Evaluation.Course
import Scriptlet.Proofs.Host.Operations

/-!
# Calls are brackets in the log

The log tells when a call is opened and when it is closed, each with the number of scopes there are
by then. These events are well nested, whatever a host does, however deep its functions are nested
in one another, and however runs end (`Host.calls_bracketed`): between the opening of a call and its
closing the log tells of scopes that lie on the frame of the call only, of further calls on top of
these, and of no more calls within one another than the limit allows.

The numbers make it possible to follow the depth of the stack through the log. So the statement is
one about lists of events that lead from one depth to another (`Event.Nested`), and it is kept by
writing one such list behind another.
-/

namespace Scriptlet

/-- `Nested calls floor depth events depth'`: on a stack of `depth` scopes, of which those above
`floor` may be popped, the events lead to one of `depth'` scopes. Every call that is opened is
closed, with the depth that there was before it, and at most so many calls are open within one
another. -/
inductive Event.Nested : Nat → Nat → Nat → List Event → Nat → Prop
  | nil {calls floor depth} : Nested calls floor depth [] depth
  | other {calls floor depth e events depth'} (untold : e.tellsDepth = false)
    (rest : Nested calls floor depth events depth') : Nested calls floor depth (e :: events) depth'
  | pushed {calls floor depth events depth'} (above : floor ≤ depth)
    (rest : Nested calls floor (depth + 1) events depth') :
    Nested calls floor depth (.pushed (depth + 1) :: events) depth'
  | popped {calls floor depth events depth'} (above : floor ≤ depth)
    (rest : Nested calls floor depth events depth') :
    Nested calls floor (depth + 1) (.popped depth :: events) depth'
  | popRefused {calls floor events depth'} (rest : Nested calls floor floor events depth') :
    Nested calls floor floor (.popRefused floor :: events) depth'
  | call {calls floor depth body top events depth'} (above : floor ≤ depth)
    (inside : Nested calls (depth + 1) (depth + 1) body top)
    (rest : Nested (calls + 1) floor depth events depth') :
    Nested (calls + 1) floor depth (.entered (depth + 1) :: (body ++ .left depth :: events)) depth'

/-- The number of scopes that no pop takes away: those up to the lowest one of the innermost call,
or the global scope. -/
def Machine.floor (m : Machine) : Nat :=
  m.depth - m.stack.top.above.length

/-- From `m` to `m'` scopes on top have changed, and calls have been opened and closed, so many at
most within one another. -/
structure Machine.Bracketed (calls : Nat) (m m' : Machine) : Prop where
  changed : m.ChangedOnTop m'
  events : ∃ events, m'.events = m.events ++ events ∧
    Event.Nested calls m.floor m.depth events m'.depth

namespace Event.Nested

variable {calls floor depth depth' depth'' : Nat} {events later : List Event}

theorem append (h : Nested calls floor depth events depth')
    (hlater : Nested calls floor depth' later depth'') :
    Nested calls floor depth (events ++ later) depth'' := by
  induction h with
  | nil => exact hlater
  | other untold _ ih => exact .other untold (ih hlater)
  | pushed above _ ih => exact .pushed above (ih hlater)
  | popped above _ ih => exact .popped above (ih hlater)
  | popRefused _ ih => exact .popRefused (ih hlater)
  | call above inside _ _ ih =>
    rw [List.cons_append, List.append_assoc, List.cons_append]
    exact .call above inside (ih hlater)

end Event.Nested

namespace Scopes

variable {s s' : Scopes}

theorem above_of_pop_eq_none (h : s.pop? = none) : s.above = [] := by
  unfold pop? at h
  split at h
  · assumption
  · cases h

theorem size_of_pop_eq_some (h : s.pop? = some s') : s.size = s'.size + 1 := by
  unfold pop? at h
  split at h
  · cases h
  · rename_i habove
    cases h
    simp [size, habove]

end Scopes

namespace Machine

variable {m₀ m m' : Machine}

/-! ## The floor -/

theorem above_length_lt (s : Stack) : s.top.above.length < s.depth := by
  obtain ⟨base, frames⟩ := s
  cases frames with
  | nil => simp [Stack.top, Stack.depth, Scopes.size]
  | cons f below =>
    simp only [Stack.top, Stack.depth, Scopes.size, List.foldr_cons]
    omega

theorem floor_le_depth (m : Machine) : m.floor ≤ m.depth :=
  Nat.sub_le ..

/-- What changes on top leaves the floor as it is. -/
theorem ChangedOnTop.floor (h : m.ChangedOnTop m') : m'.floor = m.floor := by
  obtain ⟨scopes, hs⟩ := h.stack
  have hdepth := m.stack.depth_withTop scopes
  have habove := above_length_lt m.stack
  simp only [Machine.floor, Machine.depth, hs, Stack.top_withTop]
  simp only [Scopes.size] at hdepth
  omega

theorem floor_of_pop_eq_none (h : m.stack.pop? = none) : m.floor = m.depth := by
  rw [Machine.floor, Scopes.above_of_pop_eq_none (Option.map_eq_none_iff.mp h)]
  rfl

/-- A scope that is popped lies above the floor. -/
theorem depth_of_pop_eq_some {stack : Stack} (h : m.stack.pop? = some stack) :
    m.depth = stack.depth + 1 ∧ m.floor ≤ stack.depth := by
  obtain ⟨scopes, hscopes, rfl⟩ := Option.map_eq_some_iff.mp h
  have hsize := Scopes.size_of_pop_eq_some hscopes
  have hdepth := m.stack.depth_withTop scopes
  simp only [Scopes.size] at hsize hdepth
  simp only [Machine.floor, Machine.depth]
  omega

/-- Within a call that was just opened, no scope may be popped. -/
theorem floor_enter (m : Machine) (bindings : Scope) (link : Option Nat) :
    (m.enter bindings link).floor = m.depth + 1 :=
  m.stack.depth_enter bindings link

theorem Idle.floor (h : m.Idle) : m.floor = 1 := by
  have hframes := h.frames
  obtain ⟨⟨base, frames⟩, natives, openCalls, callSite, trace⟩ := m
  obtain rfl : frames = [] := hframes
  simp [Machine.floor, Machine.depth, Stack.depth, Stack.top, Scopes.size]

/-! ## Single steps -/

theorem events_record (m : Machine) (e : Event) : (m.record e).events = m.events ++ [e] :=
  List.reverse_cons

namespace Bracketed

variable {calls : Nat}

theorem refl (m : Machine) : m.Bracketed calls m :=
  ⟨.refl m, [], (List.append_nil _).symm, .nil⟩

theorem trans (h : m₀.Bracketed calls m) (h' : m.Bracketed calls m') :
    m₀.Bracketed calls m' := by
  obtain ⟨events, hevents, hnested⟩ := h.events
  obtain ⟨later, hlater, hnested'⟩ := h'.events
  refine ⟨h.changed.trans h'.changed, events ++ later, ?_, ?_⟩
  · rw [hlater, hevents, List.append_assoc]
  · rw [h.changed.floor] at hnested'
    exact hnested.append hnested'

theorem push (m : Machine) : m.Bracketed calls m.push := by
  have hdepth : m.push.depth = m.depth + 1 := m.stack.depth_push
  refine ⟨changedOnTop.push (.refl m), [.pushed (m.depth + 1)], ?_, ?_⟩
  · rw [← hdepth]
    exact List.reverse_cons
  · rw [hdepth]
    exact .pushed m.floor_le_depth .nil

theorem pop (m : Machine) : m.Bracketed calls m.pop := by
  refine ⟨(ChangedOnTop.refl m).pop, ?_⟩
  unfold Machine.pop
  cases hpop : m.stack.pop? with
  | none =>
    refine ⟨[.popRefused m.depth], List.reverse_cons, ?_⟩
    rw [floor_of_pop_eq_none hpop]
    exact .popRefused .nil
  | some stack =>
    obtain ⟨hdepth, hfloor⟩ := depth_of_pop_eq_some hpop
    refine ⟨[.popped stack.depth], List.reverse_cons, ?_⟩
    rw [hdepth]
    exact .popped hfloor .nil

theorem register {n : Native} (h : m.register n = .ok m') : m.Bracketed calls m' := by
  refine ⟨changedOnTop.register (.refl m) h, ?_⟩
  unfold Machine.register at h
  split at h
  · cases h
  · cases h
    exact ⟨[.registered n.name], List.reverse_cons, .other rfl .nil⟩

/-- A call is one bracket around what happens within it. -/
theorem leave {bindings : Scope} {link : Option Nat}
    (h : (m.enter bindings link).Bracketed calls m') : m.Bracketed (calls + 1) m'.leave := by
  have hrestored := h.changed.leave
  have hentered : (m.enter bindings link).depth = m.depth + 1 := m.stack.depth_enter bindings link
  have hleft : m'.leave.depth = m.depth := by rw [Machine.depth, hrestored.stack, Machine.depth]
  obtain ⟨body, hbody, hnested⟩ := h.events
  rw [m.floor_enter, hentered] at hnested
  refine ⟨hrestored.changedOnTop, .entered (m.depth + 1) :: (body ++ .left m.depth :: []), ?_, ?_⟩
  · have hopened : (m.enter bindings link).events = m.events ++ [.entered (m.depth + 1)] := by
      rw [← hentered]
      exact List.reverse_cons
    have hclosed : m'.leave.events = m'.events ++ [.left m.depth] := by
      rw [← hleft]
      exact List.reverse_cons
    rw [hclosed, hbody, hopened]
    simp
  · rw [hleft]
    exact .call m.floor_le_depth hnested .nil

end Bracketed

theorem tellsDepth_of_isPlain {e : Event} (h : e.isPlain = true) : e.tellsDepth = false := by
  cases e <;> first | rfl | cases h

/-- Steps open and close calls in pairs. -/
def bracketed (calls : Nat) : Course where
  leads m m' := m.Bracketed calls m'
  refl := .refl
  trans := .trans
  assign m name v :=
    ⟨changedOnTop.assign name v (.refl m), [], (List.append_nil _).symm, by
      rw [show (m.assign name v).depth = m.depth from m.stack.depth_assign name v]
      exact .nil⟩
  record m e he :=
    have untold := tellsDepth_of_isPlain he
    ⟨changedOnTop.record (.refl m) untold, [e], m.events_record e, .other untold .nil⟩
  push := .push
  pop := .pop
  register := .register
  callFrom {m m'} site h :=
    ⟨⟨h.changed.stack, h.changed.openCalls, rfl, h.changed.natives⟩, h.events⟩

theorem bracketed_nest : Course.Nest bracketed where
  leave _ _ h := .leave h

end Machine

/-! ## Operations of a host -/

/-- An operation of a host follows every course that calls follow. -/
theorem HostOperation.leads (C : Course) {env : Environment} (h : C.Guides env.calls) (m : Machine)
    (op : HostOperation) : C.leads m (op.after env m) := by
  have hannounce : C.Follows (env.announce : Eval Unit) := Course.announce_follows env
  cases op with
  | push => exact C.push m
  | pop => exact C.pop m
  | assign name value => exact C.assign m name value
  | register n => exact Course.register_follows n m
  | run source => exact h.runRead (parse source) m
  | runOctets octets => exact h.runRead (parseOctets octets) m
  | runTree program => exact hannounce.bind (fun _ => h.runProgram program) m
  | runSingle s => exact hannounce.bind (fun _ => h.runStatement s) m
  | flow statements => exact h.evalStatements statements m
  | evaluate e => exact h.evalExpr e m
  | call name arguments site => exact h.named name arguments site m

/-- Whatever a host has done with a machine, and whatever functions of the host do meanwhile,
however deep they are nested (`Environment.hostNesting` may be any number), the events of its next
operation open and close calls in pairs: a call that is opened with `depth + 1` scopes is closed
with `depth`, also if it fails; in between, the log tells of scopes at this depth or further up, and
of calls further up only; and no more calls are within one another than the limit allows. Outside of
all calls only the global scope cannot be popped. -/
theorem Host.calls_bracketed (env : Environment) (globals : Scope) (ops : List HostOperation)
    (op : HostOperation) :
    let m := ops.foldl (HostOperation.after env) (Machine.initial globals)
    ∃ events, (op.after env m).events = m.events ++ events ∧
      Event.Nested env.settings.maxCallDepth 1 m.depth events (op.after env m).depth := by
  intro m
  have hm : m.Idle := (Machine.Idle.initial globals).operations env ops
  have hcalls : (Machine.bracketed env.settings.maxCallDepth).Guides env.calls :=
    Course.callsWithin Machine.bracketed_nest env env.hostNesting env.settings.maxCallDepth
  obtain ⟨events, hevents, hnested⟩ := (op.leads _ hcalls m).events
  rw [hm.floor] at hnested
  exact ⟨events, hevents, hnested⟩

end Scriptlet
