import Scriptlet.Proofs.Evaluation.Lockstep

/-!
# What every step keeps up

A property of machines that all operations keep, those of programs as well as those of the host, is
kept by whole runs, too (`Coupling.Hosted.callsWithin_sameCalls`): whatever functions of the host
do, they do it by way of the operations, and may be nested in one another and in calls of functions
as deep as they like.

An *upkeep* is a family of such properties that has no condition on links.
-/

namespace Scriptlet

namespace Coupling

/-- The coupling relates a machine to itself only, and the operations of the host keep it. -/
structure Hosted (K : Coupling .full) : Prop where
  same : ∀ {c m m'}, K.rel c m m' → m = m'
  push : ∀ {c m}, K.rel c m m → K.rel c m.push m.push
  pop : ∀ {c m}, K.rel c m m → K.rel c m.pop m.pop
  register : ∀ {c m m'} {n : Native}, K.rel c m m → m.register n = .ok m' → K.rel c m' m'

namespace Hosted

variable {K : Coupling .full} (hK : K.Hosted) {c : K.Context} {env : Environment} {calls : Calls}
include hK

theorem observe_lockstep {ε α : Type} (f : Machine → α) :
    Exec.Lockstep (K.rel c) (fun _ => True) (Exec.observe f : Exec ε α) (Exec.observe f) :=
  .observe fun m m' h => ⟨by rw [hK.same h], trivial⟩

theorem announce_lockstep {ε : Type} :
    Exec.Lockstep (K.rel c) (fun _ => True) (env.announce : Exec ε Unit) env.announce := by
  refine .bind (hK.observe_lockstep env.isDebug) fun debug _ => ?_
  cases debug with
  | true => exact .update fun m m' h => K.record h rfl
  | false => exact .pure trivial

theorem register_lockstep (n : Native) :
    Exec.Lockstep (K.rel c) (fun _ => True) (Exec.register n) (Exec.register n) := by
  intro m m' hm
  obtain rfl := hK.same hm
  simp only [Exec.register, Exec.on_ofFunction]
  cases hr : m.register n with
  | ok m' => exact .ok trivial (hK.register hm hr)
  | error e => exact .error hm

theorem runRead_lockstep {read : Except ParseError Program} (hcalls : K.SameCalls calls calls) :
    Exec.Lockstep (K.rel c) (fun _ => True) (env.runRead calls read) (env.runRead calls read) := by
  refine .bind hK.announce_lockstep fun _ _ => ?_
  refine .bind (P := fun _ => True) (.ofOutcome fun _ _ => trivial) fun program _ => ?_
  refine .mapError (.bind (P := Flow.Within .full) ?_ fun flow _ => .ofOutcome fun _ _ => trivial)
  exact hcalls.evalStatements_lockstep program fun _ _ => trivial

omit hK in
theorem runStatement_lockstep (hcalls : K.SameCalls calls calls) (s : Statement) :
    Exec.Lockstep (K.rel c) (fun _ => True) (runStatement calls s) (runStatement calls s) := by
  unfold runStatement
  split
  · exact .mono (fun _ _ => trivial) (hcalls.evalExpr_lockstep _ fun _ _ => trivial)
  · refine .bind (P := Flow.Within .full) ?_ fun flow _ => .ofOutcome fun _ _ => trivial
    refine .bind (Coupling.record_lockstep rfl) fun _ _ => ?_
    exact hcalls.execute_lockstep _ fun _ _ => trivial

theorem runGiven_lockstep (hcalls : K.SameCalls calls calls) (work : Runnable) :
    Exec.Lockstep (K.rel c) (fun _ => True) (env.runGiven calls work)
      (env.runGiven calls work) := by
  cases work with
  | source | octets | program => exact hK.runRead_lockstep hcalls
  | statement s =>
    exact .bind hK.announce_lockstep fun _ _ => .mapError (runStatement_lockstep hcalls s)

/-- Whatever a function of the host does, it does by way of the operations. -/
theorem perform_lockstep (hcalls : K.SameCalls calls calls) (action : Action) :
    Exec.Lockstep (K.rel c) (·.Within .full) (env.perform calls action)
      (env.perform calls action) := by
  induction action with
  | finish outcome => exact .ofOutcome fun v _ => v.within_full
  | pushScope next ih =>
    refine .bind (.update fun m m' h => ?_) fun _ _ => ih
    obtain rfl := hK.same h
    exact hK.push h
  | popScope next ih =>
    refine .bind (.update fun m m' h => ?_) fun _ _ => ih
    obtain rfl := hK.same h
    exact hK.pop h
  | assign name v next ih =>
    exact .bind (Coupling.assign_lockstep name v.within_full) fun _ _ => ih
  | lookup name next ih | scopeDepth next ih | callSite next ih | isDebug next ih =>
    exact .bind (hK.observe_lockstep _) fun a _ => ih a
  | run work next ih =>
    exact .bind (.attempt (hK.runGiven_lockstep hcalls work)) fun o _ => ih o
  | flow statements next ih =>
    have hflow := hcalls.evalStatements_lockstep (c := c) statements fun _ _ => trivial
    exact .bind (.attempt hflow) fun o _ => ih o
  | evaluate e next ih =>
    exact .bind (.attempt (hcalls.evalExpr_lockstep e fun _ _ => trivial)) fun o _ => ih o
  | call name arguments site next ih =>
    exact .bind (.attempt (hcalls.named trivial fun a _ => a.within_full)) fun o _ => ih o
  | register n next ih =>
    refine .bind (P := fun _ => True) ?_ fun o _ => ih o
    exact .mono (fun _ _ => trivial) (.attempt (hK.register_lockstep n))

/-- Calls keep the property: by induction on how deep functions of the host may still be nested. -/
theorem callsWithin_sameCalls (env : Environment) (nesting left : Nat) :
    K.SameCalls (env.callsWithin nesting left) (env.callsWithin nesting left) := by
  have hnative : ∀ nesting left,
      K.SameNatives (env.nativeCalls nesting left) (env.nativeCalls nesting left) := by
    intro nesting
    induction nesting with
    | zero =>
      intro left
      unfold Environment.nativeCalls
      refine Coupling.callNative_sameNatives fun _ _ => ?_
      exact .bind (hK.observe_lockstep _) fun _ _ => .throw
    | succ nesting ih =>
      intro left
      unfold Environment.nativeCalls
      exact Coupling.callNative_sameNatives fun _ _ =>
        hK.perform_lockstep (Coupling.callUser_sameCalls ih left) _
  exact Coupling.callUser_sameCalls (hnative nesting) left

end Hosted

end Coupling

/-- Properties of machines that the operations keep. Which of them holds depends on a context. -/
structure Upkeep where
  /-- The circumstances of a step. -/
  Context : Type
  /-- What holds of a machine under these circumstances. -/
  holds : Context → Machine → Prop
  assign : ∀ {c m} (name : String) (v : Value), holds c m → holds c (m.assign name v)
  push : ∀ {c m}, holds c m → holds c m.push
  pop : ∀ {c m}, holds c m → holds c m.pop
  register : ∀ {c m m'} {n : Native}, holds c m → m.register n = .ok m' → holds c m'
  record : ∀ {c m} {e : Event}, holds c m → e.tellsDepth = false → holds c (m.record e)
  enter : ∀ {c m} (bindings : Scope) (link : Option Nat), holds c m →
    ∃ d, holds d (m.enter bindings link) ∧ ∀ n, holds d n → holds c n.leave
  callFrom : ∀ {c m} (site : Position), holds c m →
    ∃ d, holds d { m with callSite := site } ∧
      ∀ n, holds d n → holds c { n with callSite := m.callSite }

namespace Upkeep

/-- A machine with the property is coupled with itself. -/
def coupling (U : Upkeep) : Coupling .full where
  Context := U.Context
  rel c m m' := m = m' ∧ U.holds c m
  mayLink _ _ := True
  mayLink_none _ := trivial
  resolve h _ := by rw [h.1]
  resolved _ _ _ := ⟨trivial, Value.within_full _⟩
  natives h _ := by rw [h.1]
  native _ _ _ := trivial
  openCalls h := by rw [h.1]
  assign name v h _ := ⟨by rw [h.1], U.assign name v h.2⟩
  record h he := ⟨by rw [h.1], U.record h.2 he⟩
  enter {c m m' bindings link} h _ _ := by
    obtain ⟨rfl, h⟩ := h
    obtain ⟨d, hd, hback⟩ := U.enter bindings link h
    refine ⟨d, ⟨rfl, hd⟩, ?_⟩
    rintro n _ ⟨rfl, hn⟩
    exact ⟨rfl, hback n hn⟩
  callFrom {c m m'} site h := by
    obtain ⟨rfl, h⟩ := h
    obtain ⟨d, hd, hback⟩ := U.callFrom site h
    refine ⟨d, ⟨rfl, hd⟩, ?_⟩
    rintro n _ ⟨rfl, hn⟩
    exact ⟨rfl, hback n hn⟩

theorem hosted (U : Upkeep) : U.coupling.Hosted where
  same h := h.1
  push h := ⟨rfl, U.push h.2⟩
  pop h := ⟨rfl, U.pop h.2⟩
  register h hr := ⟨rfl, U.register h.2 hr⟩

variable (U : Upkeep)

/-- The steps keep the property, whether they fail or not. -/
def Keeps {ε α : Type} (x : Exec ε α) : Prop :=
  ∀ c m, U.holds c m → U.holds c (x.on m).2

variable {U}

theorem keeps_of_lockstep {ε α : Type} {P : α → Prop} {x : Exec ε α}
    (h : ∀ c, Exec.Lockstep (U.coupling.rel c) P x x) : U.Keeps x :=
  fun c m hm => (h c m m ⟨rfl, hm⟩).states_rel.2

/-- Statements keep the property. -/
theorem evalStatements_keeps (env : Environment) (nesting left : Nat) (ss : List Statement) :
    U.Keeps (evalStatements (env.callsWithin nesting left) ss) :=
  keeps_of_lockstep fun _ =>
    (U.hosted.callsWithin_sameCalls env nesting left).evalStatements_lockstep ss fun _ _ => trivial

end Upkeep

end Scriptlet
