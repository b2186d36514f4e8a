import Scriptlet.Interpreter
import Scriptlet.Proofs.Calls.Termination
import Scriptlet.Proofs.Evaluation.Congruence
import Scriptlet.Proofs.Evaluation.Remainder

/-!
# The limit of open calls is seen by those who reach it only

A run that stays within the limit of open calls goes the same way under every higher limit: it ends
in the same value or error, with the same events and the same bindings (`run_of_higher_limit`). No
statement and no expression goes on behind a call that is refused, and none can tell how many calls
may still be opened, so the limit shows in a refusal or not at all.

Functions of the host can go on behind a call that fails. Where there are none of them, the calls of
native functions are first replaced by those of the built-in ones, which do not look at the limit.
-/

namespace Scriptlet

/-- The environment with this limit of open calls. -/
def Environment.withLimit (env : Environment) (limit : Nat) : Environment :=
  { env with settings := { env.settings with maxCallDepth := limit } }

/-- The outcome is the refusal of a call, since too many are open. -/
def Refused {α : Type} (outcome : Except RuntimeError α) : Prop :=
  ∃ limit site, outcome = .error (.callDepth limit site)

/-- The second steps end as the first do, unless those end with the refusal of a call. -/
def Exec.AgreesUnlessRefused {α : Type} (x y : Eval α) : Prop :=
  ∀ m, Refused (x.on m).1 ∨ y.on m = x.on m

namespace Exec.AgreesUnlessRefused

variable {α β : Type} {x y : Eval α}

theorem refl (x : Eval α) : AgreesUnlessRefused x x :=
  fun _ => .inr rfl

/-- Steps that refuse a call agree with all. -/
theorem of_refused (limit : Nat) (site : Position) (y : Eval α) :
    AgreesUnlessRefused (throw (.callDepth limit site)) y :=
  fun _ => .inl ⟨limit, site, rfl⟩

theorem bind {f g : α → Eval β} (hx : AgreesUnlessRefused x y)
    (hf : ∀ a, AgreesUnlessRefused (f a) (g a)) : AgreesUnlessRefused (x >>= f) (y >>= g) := by
  intro m
  rcases hx m with ⟨limit, site, hrefused⟩ | hsame
  · -- A refusal ends the whole.
    have hx : x.on m = (.error (.callDepth limit site), (x.on m).2) := Prod.ext hrefused rfl
    rw [on_bind_error hx]
    exact .inl ⟨limit, site, rfl⟩
  · rw [on_bind, on_bind, hsame]
    generalize x.on m = r
    obtain ⟨o, m'⟩ := r
    cases o with
    | ok a => exact hf a m'
    | error e => exact .inr rfl

theorem within (bindings : Scope) (link : Option Nat) (h : AgreesUnlessRefused x y) :
    AgreesUnlessRefused (Exec.within bindings link x) (Exec.within bindings link y) := by
  intro m
  rw [on_within, on_within]
  rcases h (m.enter bindings link) with hrefused | hsame
  · exact .inl hrefused
  · exact .inr (by rw [hsame])

end Exec.AgreesUnlessRefused

open Exec (AgreesUnlessRefused)

/-- No construct of the language undoes the refusal of a call. -/
def Congruence.unlessRefused : Congruence where
  rel := AgreesUnlessRefused
  refl := .refl
  bind := .bind

/-! ## Calls under two limits -/

/-- Under a higher limit no further calls are refused. -/
theorem Function.checkCall_agrees (f : Function) {limit limit' : Nat} (hlimit : limit ≤ limit')
    (arguments : List Value) (site : Position) :
    AgreesUnlessRefused (f.checkCall limit arguments site) (f.checkCall limit' arguments site) := by
  unfold Function.checkCall
  split
  · refine .bind (.refl _) fun opened => ?_
    by_cases hopened : opened < limit
    · rw [if_pos hopened, if_pos (Nat.lt_of_lt_of_le hopened hlimit)]
      exact .refl _
    · rw [if_neg hopened]
      exact .of_refused limit site _
  · exact .refl _

/-- Calls of functions agree if as many calls may be opened on the second side, and calls of native
functions do not depend on that: by induction on the calls that may be opened on the first. -/
theorem callUser_agrees {limit limit' : Nat} (hlimit : limit ≤ limit') (native : NativeCalls)
    {left left' : Nat} (hleft : left ≤ left') :
    Congruence.unlessRefused.RelatesCalls
      { user := callUser limit (fun _ => native) left, native }
      { user := callUser limit' (fun _ => native) left', native } := by
  refine ⟨?_, fun n arguments site => .refl _⟩
  show ∀ f link arguments site, AgreesUnlessRefused
    (callUser limit (fun _ => native) left f link arguments site)
    (callUser limit' (fun _ => native) left' f link arguments site)
  induction left generalizing left' with
  | zero =>
    intro f link arguments site
    rw [callUser]
    -- Behind the check, the first side refuses the call, whatever the second does.
    cases left' with
    | zero =>
      rw [callUser]
      exact .bind (f.checkCall_agrees hlimit _ _) fun _ => .of_refused limit site _
    | succ left' =>
      rw [callUser]
      exact .bind (f.checkCall_agrees hlimit _ _) fun _ => .of_refused limit site _
  | succ left ih =>
    intro f link arguments site
    obtain ⟨left', rfl⟩ := Nat.exists_eq_add_of_le' (Nat.lt_of_lt_of_le left.succ_pos hleft)
    have hcalls : Congruence.unlessRefused.RelatesCalls
        { user := callUser limit (fun _ => native) left, native }
        { user := callUser limit' (fun _ => native) left', native } :=
      ⟨ih (Nat.le_of_succ_le_succ hleft), fun n arguments site => .refl _⟩
    rw [callUser, callUser]
    refine .bind (f.checkCall_agrees hlimit _ _) fun _ => ?_
    refine .bind (.within _ _ ?_) fun flow => .refl _
    exact hcalls.evalStatements_rel f.body.statements

/-! ## Without functions of the host -/

/-- What calls of native functions do if there are none of the host. -/
def Environment.plainNatives (env : Environment) : NativeCalls :=
  env.callNative fun _ => pure .nil

/-- What calls do if there are no functions of the host. -/
def Environment.plainCalls (env : Environment) (left : Nat) : Calls where
  user := callUser env.settings.maxCallDepth (fun _ => env.plainNatives) left
  native := env.plainNatives

theorem Environment.callsWithin_plain {names : String → Prop} (K : Coupling (.plain names))
    (env : Environment) (nesting left : Nat) :
    K.SameCalls (env.callsWithin nesting left) (env.plainCalls left) := by
  refine Coupling.callUser_sameCalls (fun left => ?_) left
  cases nesting with
  | zero =>
    unfold nativeCalls
    exact K.plain_sameNatives env _ _
  | succ nesting =>
    unfold nativeCalls
    exact K.plain_sameNatives env _ _

/-- The environment with these settings. -/
def Environment.withSettings (env : Environment) (settings : Settings) : Environment :=
  { env with settings }

/-! Built-in functions do not look at the settings. -/

namespace Builtin

variable (env : Environment) (settings : Settings)

theorem firstMatch_withSettings (b : Builtin) (text : String) (site : Position)
    (entries : List (String × Value)) :
    firstMatch (env.withSettings settings) b text site entries =
      firstMatch env b text site entries := by
  induction entries with
  | nil => rfl
  | cons entry rest ih =>
    rw [firstMatch, firstMatch, ih]
    rfl

theorem searchMap_withSettings (b : Builtin) (patterns text : Value) (site : Position) :
    searchMap (env.withSettings settings) b patterns text site =
      searchMap env b patterns text site := by
  unfold searchMap
  simp only [firstMatch_withSettings]

theorem call_withSettings (b : Builtin) (arguments : List Value) (site : Position) :
    b.call (env.withSettings settings) arguments site = b.call env arguments site := by
  unfold call
  simp only [searchMap_withSettings]
  rfl

end Builtin

theorem Environment.plainNatives_withSettings (env : Environment) (settings : Settings) :
    (env.withSettings settings).plainNatives = env.plainNatives := by
  unfold plainNatives callNative
  simp only [Builtin.call_withSettings]

theorem Environment.plainNatives_withLimit (env : Environment) (limit : Nat) :
    (env.withLimit limit).plainNatives = env.plainNatives :=
  env.plainNatives_withSettings _

variable {m : Machine}

/-- Statements end as under a lower limit, unless a call is refused there. -/
theorem Environment.evalStatements_withLimit (env : Environment) {limit limit' : Nat}
    (hlimit : limit ≤ limit') (hm : m.HostFree) (ss : List Statement) :
    Refused ((evalStatements (env.withLimit limit).calls ss).on m).1 ∨
      (evalStatements (env.withLimit limit').calls ss).on m =
        (evalStatements (env.withLimit limit).calls ss).on m := by
  have hplain : ∀ limit, (evalStatements (env.withLimit limit).calls ss).on m =
      (evalStatements ((env.withLimit limit).plainCalls limit) ss).on m := fun limit =>
    hm.on_eq_of_lockstep (Nat.zero_le _) fun _ =>
      ((env.withLimit limit).callsWithin_plain _ env.hostNesting limit).evalStatements_lockstep ss
        fun _ _ => trivial
  rw [hplain, hplain, plainCalls, plainCalls, env.plainNatives_withLimit,
    env.plainNatives_withLimit]
  exact (callUser_agrees hlimit env.plainNatives hlimit).evalStatements_rel ss m

theorem Environment.runProgram_withLimit (env : Environment) {limit limit' : Nat}
    (hlimit : limit ≤ limit') (hm : m.HostFree) (program : Program) :
    Refused ((runProgram (env.withLimit limit).calls program).on m).1 ∨
      (runProgram (env.withLimit limit').calls program).on m =
        (runProgram (env.withLimit limit).calls program).on m := by
  rcases env.evalStatements_withLimit hlimit hm program with ⟨l, p, hrefused⟩ | hsame
  · refine .inl ⟨l, p, ?_⟩
    rw [runProgram, Exec.on_bind_error (Prod.ext hrefused rfl)]
  · exact .inr (Exec.on_bind_congr hsame _)

theorem Machine.HostFree.announced (hm : m.HostFree) (env : Environment) :
    (env.announced m).HostFree := by
  unfold Environment.announced
  split
  · exact hm.record _
  · exact hm

/-- Without functions of the host, a run that does not end with the refusal of a call, since too
many are open, goes the same way under every higher limit: from the same machine it leads to the
same outcome and the same machine, with all its bindings and events. -/
theorem run_of_higher_limit (env : Environment) {limit limit' : Nat} (hlimit : limit ≤ limit')
    (hm : m.HostFree) :
    (∀ source, (∀ l p, (((env.withLimit limit).run source).on m).1 ≠
        .error (.runtime (.callDepth l p))) →
      ((env.withLimit limit').run source).on m = ((env.withLimit limit).run source).on m) ∧
    ∀ program, (∀ l p, (((env.withLimit limit).runTree program).on m).1 ≠
        .error (.callDepth l p)) →
      ((env.withLimit limit').runTree program).on m =
        ((env.withLimit limit).runTree program).on m := by
  -- Whether debug mode is on does not depend on the limit.
  have hannounced : ∀ limit, (env.withLimit limit).announced m = env.announced m := fun _ => rfl
  have hm' := hm.announced env
  refine ⟨fun source hend => ?_, fun program hend => ?_⟩
  · rw [Environment.run, Environment.on_runSource, hannounced] at hend
    rw [Environment.run, Environment.run, Environment.on_runSource, Environment.on_runSource,
      hannounced, hannounced]
    cases hparse : parse source with
    | error e => rfl
    | ok program =>
      simp only [hparse] at hend ⊢
      rcases env.runProgram_withLimit hlimit hm' program with ⟨l, p, hrefused⟩ | hsame
      · exact absurd (congrArg (Except.mapError Failure.runtime) hrefused) (hend l p)
      · rw [hsame]
  · have hrun : ∀ limit, ((env.withLimit limit).runTree program).on m =
        (runProgram (env.withLimit limit).calls program).on (env.announced m) := fun limit =>
      Exec.on_bind_ok ((env.withLimit limit).on_announce m) _
    rw [hrun] at hend
    rw [hrun, hrun]
    rcases env.runProgram_withLimit hlimit hm' program with ⟨l, p, hrefused⟩ | hsame
    · exact absurd hrefused (hend l p)
    · exact hsame

/-- A call within a call is refused under a limit of one. Under a limit of two it is not, so the run
goes the same way under a limit of three, from a source as well as from a tree. -/
theorem run_of_higher_limit_in_nested_call :
    let g : Function := ⟨"g", [], ⟨[.exit (some (.literal (.int 7) {})) {}], {}⟩, {}⟩
    let f : Function := ⟨"f", [], ⟨[.exit (some (.call ⟨"g", [], {}⟩)) {}], {}⟩, {}⟩
    let m := Machine.initial ⟨[("f", .function f), ("g", .function g)]⟩
    let run (limit : Nat) := ((Environment.bare.withLimit limit).run "return f()").on m
    let runTree (limit : Nat) := ((Environment.bare.withLimit limit).runTree f.body.statements).on m
    m.HostFree ∧ (run 1).1 = .error (.runtime (.callDepth 1 {})) ∧
      (run 2).1 = .ok (.int 7) ∧ run 3 = run 2 ∧
      (runTree 1).1 = .ok (.int 7) ∧ runTree 3 = runTree 1 := by
  intro g f m run runTree
  have hm : m.HostFree := .initial (by simp [Vocabulary.plain])
  have hparse : parse "return f()" =
      .ok [.exit (some (.call ⟨"f", [], ⟨0, 7, 1⟩⟩)) ⟨0, 0, 6⟩] := by
    with_unfolding_all rfl
  have hrefused : (run 1).1 = .error (.runtime (.callDepth 1 {})) := by
    show (((Environment.bare.withLimit 1).run _).on m).1 = _
    rw [Environment.run, Environment.on_runSource, hparse]
    rfl
  have hend : (run 2).1 = .ok (.int 7) := by
    show (((Environment.bare.withLimit 2).run _).on m).1 = _
    rw [Environment.run, Environment.on_runSource, hparse]
    rfl
  have htree : (runTree 1).1 = .ok (.int 7) := rfl
  refine ⟨hm, hrefused, hend, ?_, htree, ?_⟩
  · refine (run_of_higher_limit .bare (by decide : 2 ≤ 3) hm).1 "return f()" fun l p h => ?_
    cases hend.symm.trans h
  · refine (run_of_higher_limit .bare (by decide : 1 ≤ 3) hm).2 f.body.statements fun l p h => ?_
    cases htree.symm.trans h

end Scriptlet
