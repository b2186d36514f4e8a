import Scriptlet.Script
import Scriptlet.Proofs.Calls.Limit
import Scriptlet.Proofs.Calls.Sight
import Scriptlet.Proofs.Evaluation.Course

/-!
# Debug mode is about how failures are reported

Without functions of the host, a run cannot tell whether the settings turn debug mode on: the two
runs go the same way, except that one of them announces the mode first (`Machine.apart`). What
differs is a script. It returns a failure in debug mode and otherwise reports it, and nothing but
that report is on the level of errors in the log (`Machine.unreported`).

The settings are not the only way to turn debug mode on. A script can do it itself, by what it binds
`debug` to in the global scope, and it is the machine that a failure leaves behind that counts.
-/

namespace Scriptlet

/-- The environment with debug mode on or off. -/
def Environment.withDebug (env : Environment) (debug : Bool) : Environment :=
  env.withSettings { env.settings with debug }

namespace Machine

variable {m m' : Machine} {past past' : List Event}

/-! ## Machines with different pasts -/

/-- There are no functions of the host, and the second machine is the first with another past: the
latest events of both are the same, those before are `past` and `past'`. -/
structure Apart (past past' : List Event) (m m' : Machine) : Prop where
  hostFree : m.HostFree
  events : ∃ later, m.trace = later ++ past ∧ m' = { m with trace := later ++ past' }

theorem Apart.intro (h : m.HostFree) (trace : List Event) :
    Apart m.trace trace m { m with trace } :=
  ⟨h, [], rfl, rfl⟩

theorem Apart.hostFree_right (h : Apart past past' m m') : m'.HostFree := by
  obtain ⟨hm, later, -, rfl⟩ := h
  exact ⟨hm.natives, hm.base, hm.frames⟩

/-- A run does not look at the events before. -/
def apart (past past' : List Event) : Coupling .builtin where
  Context := Unit
  rel _ := Apart past past'
  mayLink _ _ := True
  mayLink_none _ := trivial
  resolve h _ := by
    obtain ⟨-, later, -, rfl⟩ := h
    rfl
  resolved h _ hr := ⟨trivial, h.hostFree.resolve hr⟩
  natives h _ := by
    obtain ⟨-, later, -, rfl⟩ := h
    rfl
  native h _ hn := h.hostFree.natives hn
  openCalls h := by
    obtain ⟨-, later, -, rfl⟩ := h
    rfl
  assign name v h hv := by
    obtain ⟨hm, later, htrace, rfl⟩ := h
    exact ⟨hm.assign name hv, later, htrace, rfl⟩
  record {c m m' e} h _ := by
    obtain ⟨hm, later, htrace, rfl⟩ := h
    exact ⟨hm.record e, e :: later, congrArg (e :: ·) htrace, rfl⟩
  enter {c m m' bindings link} h _ hb := by
    obtain ⟨hm, later, htrace, rfl⟩ := h
    refine ⟨(), ⟨hm.enter link hb, _ :: later, congrArg (_ :: ·) htrace, rfl⟩, ?_⟩
    rintro n _ ⟨hn, later, htrace, rfl⟩
    exact ⟨hn.leave, _ :: later, congrArg (_ :: ·) htrace, rfl⟩
  callFrom {c m m'} site h := by
    obtain ⟨hm, later, htrace, rfl⟩ := h
    refine ⟨(), ⟨hm.callFrom site, later, htrace, rfl⟩, ?_⟩
    rintro n _ ⟨hn, later, htrace, rfl⟩
    exact ⟨hn.callFrom m.callSite, later, htrace, rfl⟩

theorem events_of_trace {later : List Event} (h : m'.trace = later ++ m.trace) :
    m'.events = m.events ++ later.reverse := by
  rw [events, events, h, List.reverse_append]

theorem output_of_trace {later : List Event} (h : m'.trace = later ++ m.trace) :
    m'.output = m.output ++ printedText later.reverse := by
  rw [output, output, events_of_trace h]
  simp [printedText, String.join_append]

/-! ## Failures in the log -/

/-- Steps report no failure: what they add to the log is on lower levels than that of errors. -/
def unreported : Course where
  leads m m' := ∃ later, m'.trace = later ++ m.trace ∧ ∀ e ∈ later, e.level? ≠ some .error
  refl _ := ⟨[], rfl, by simp⟩
  trans := by
    rintro m m' m'' ⟨later, htrace, hlater⟩ ⟨last, htrace', hlast⟩
    refine ⟨last ++ later, by rw [htrace', htrace, List.append_assoc], fun e he => ?_⟩
    exact (List.mem_append.mp he).elim (hlast e) (hlater e)
  assign _ _ _ := ⟨[], rfl, by simp⟩
  record m e he := ⟨[e], rfl, by cases e <;> simp_all [Event.isPlain, Event.level?]⟩
  push m := ⟨[.pushed m.push.depth], rfl, by simp [Event.level?]⟩
  pop m := by
    unfold Machine.pop
    split
    · exact ⟨[.popped _], rfl, by simp [Event.level?]⟩
    · exact ⟨[.popRefused _], rfl, by simp [Event.level?]⟩
  register {m m' n} h := by
    unfold Machine.register at h
    split at h
    · cases h
    · cases h
      exact ⟨[.registered n.name], rfl, by simp [Event.level?]⟩
  callFrom _ h := h

theorem unreported_nest : Course.Nest fun _ => unreported where
  leave {_ m m'} bindings link h := by
    obtain ⟨later, htrace, hlater⟩ := h
    refine ⟨.left m'.leave.depth :: (later ++ [.entered (m.enter bindings link).depth]), ?_, ?_⟩
    · have hopened : (m.enter bindings link).trace =
          .entered (m.enter bindings link).depth :: m.trace := rfl
      rw [List.cons_append, List.append_assoc, List.singleton_append, ← hopened, ← htrace]
      rfl
    · simpa [Event.level?, or_imp, forall_and] using hlater

/-- The log shows no errors where nothing is on their level. -/
theorem logLines_error_eq_nil {events : List Event} (h : ∀ e ∈ events, e.level? ≠ some .error) :
    logLines .error events = [] := by
  refine List.filterMap_eq_nil_iff.mpr fun e he => ?_
  have hlevel := h e he
  rw [Event.logLine?, Option.map_eq_none_iff, Option.filter_eq_none_iff]
  intro level hl
  cases level with
  | error => exact absurd hl hlevel
  | warn | debug | trace => decide

/-- The program turns debug mode on by what it binds `debug` to in the global scope. -/
theorem wantsDebug_iff :
    m.wantsDebug = true ↔ m.stack.globals.find? "debug" = some (.bool true) := by
  rw [wantsDebug, Option.any_eq_true]
  constructor
  · rintro ⟨v, hv, htrue⟩
    cases v with
    | bool b =>
      cases b with
      | true => exact hv
      | false => cases htrue
    | _ => cases htrue
  · intro h
    exact ⟨_, h, rfl⟩

end Machine

open Machine (Apart logLines_error_eq_nil)

namespace Environment

variable (env : Environment) {m m' : Machine} {past past' : List Event}

/-- Debug mode does not show in a run of a program, and neither does the past. -/
theorem runProgram_withDebug (debug debug' : Bool) (h : Apart past past' m m')
    (program : Program) :
    let r := (runProgram (env.withDebug debug).calls program).on m
    let r' := (runProgram (env.withDebug debug').calls program).on m'
    r.1 = r'.1 ∧ Apart past past' r.2 r'.2 := by
  intro r r'
  let plain := env.plainCalls env.settings.maxCallDepth
  have hplain : ∀ debug, (env.withDebug debug).plainCalls env.settings.maxCallDepth = plain := by
    intro debug
    show Calls.mk _ _ = Calls.mk _ _
    rw [withDebug, env.plainNatives_withSettings]
    rfl
  have hcalls : ∀ debug {K : Coupling .builtin}, K.SameCalls (env.withDebug debug).calls plain :=
    fun debug K => hplain debug ▸ (env.withDebug debug).callsWithin_plain K env.hostNesting _
  have hright : (runProgram (env.withDebug debug').calls program).on m' =
      (runProgram plain program).on m' :=
    Exec.on_bind_congr (h.hostFree_right.on_eq_of_lockstep (Nat.zero_le _) fun _ =>
      (hcalls debug').evalStatements_lockstep program fun _ _ => trivial) _
  have hboth : Exec.Lockstep ((Machine.apart past past').rel ()) (fun _ => True)
      (runProgram (env.withDebug debug).calls program) (runProgram plain program) :=
    .bind ((hcalls debug).evalStatements_lockstep program fun _ _ => trivial) fun _ _ =>
      .ofOutcome fun _ _ => trivial
  have halike := hboth m m' h
  rw [← hright] at halike
  exact ⟨halike.outcome_eq, halike.states_rel⟩

theorem output_announced (m : Machine) : (env.announced m).output = m.output := by
  unfold announced
  split
  · simp [Event.output]
  · rfl

/-- Without functions of the host, debug mode shows in a run of a source by its announcement
only. -/
theorem run_withDebug (hm : m.HostFree) (source : String) :
    let on := ((env.withDebug true).run source).on m
    let off := ((env.withDebug false).run source).on m
    on.1 = off.1 ∧
      Apart (m.record .debugMode).trace ((env.withDebug false).announced m).trace on.2 off.2 := by
  intro on off
  have hon : (env.withDebug true).announced m = m.record .debugMode := rfl
  have hannounced : Apart (m.record .debugMode).trace ((env.withDebug false).announced m).trace
      (m.record .debugMode) ((env.withDebug false).announced m) := by
    have hsame : (env.withDebug false).announced m =
        { m.record .debugMode with trace := ((env.withDebug false).announced m).trace } := by
      unfold announced
      split
      · rfl
      · rfl
    rw [hsame]
    exact .intro (hm.record _) _
  show (((env.withDebug true).run source).on m).1 = (((env.withDebug false).run source).on m).1 ∧
    Apart _ _ (((env.withDebug true).run source).on m).2 (((env.withDebug false).run source).on m).2
  rw [run, run, on_runSource, on_runSource, hon]
  cases parse source with
  | error e => exact ⟨rfl, hannounced⟩
  | ok program =>
    obtain ⟨houtcome, hapart⟩ := env.runProgram_withDebug true false hannounced program
    exact ⟨congrArg (Except.mapError Failure.runtime) houtcome, hapart⟩

/-! ## Scripts -/

/-- The events of a run of a tree are on lower levels than that of errors. -/
theorem runTree_unreported (program : Program) :
    ∀ e ∈ ((env.runTree program).on (.initial {})).2.events, e.level? ≠ some .error := by
  have hcalls : Machine.unreported.Guides env.calls :=
    Course.callsWithin Machine.unreported_nest env env.hostNesting env.settings.maxCallDepth
  have hrun : Machine.unreported.Follows (env.runTree program) :=
    .bind (Course.announce_follows env) fun _ => hcalls.runProgram program
  obtain ⟨later, htrace, hlater⟩ := hrun (.initial {})
  intro e he
  rw [Machine.events, htrace, List.mem_reverse] at he
  exact hlater e (by simpa [Machine.initial] using he)

/-- What is reported is decided on the machine that a failure leaves behind. -/
theorem on_reporting (steps : Eval Value) (m : Machine) :
    (env.reporting steps).on m =
      match steps.on m with
      | (.ok v, m') => (.ok v, m')
      | (.error e, m') =>
        if env.isDebug m' then (.error (.runtime e), m')
        else (.ok .nil, m'.record (.failed e)) := by
  rw [reporting, Exec.on_bind_ok (Exec.on_attempt steps m)]
  generalize steps.on m = r
  obtain ⟨outcome, m'⟩ := r
  cases outcome with
  | ok v => rfl
  | error e =>
    rw [Exec.on_bind_ok (Exec.on_observe _ _)]
    by_cases hdebug : env.isDebug m' = true
    · simp only [hdebug, if_true]
      rfl
    · simp only [hdebug]
      rfl

theorem script_of_parse_error {source : String} {e : ParseError} (h : parse source = .error e) :
    env.script source = (.error (.parse e), []) := by
  rw [script, runScript, h]
  rfl

/-- A script that can be read runs it, and then looks at the outcome. -/
theorem script_of_parse {source : String} {program : Program} (h : parse source = .ok program) :
    env.script source =
      match (env.runTree program).on (.initial {}) with
      | (.ok v, m) => (.ok v, m.events)
      | (.error e, m) =>
        if env.isDebug m then (.error (.runtime e), m.events)
        else (.ok .nil, m.events ++ [.failed e]) := by
  have hscript : (env.runScript source).on (.initial {}) =
      (env.reporting (env.runTree program)).on (.initial {}) := by
    rw [runScript, h]
    rfl
  rw [script, hscript, on_reporting]
  generalize (env.runTree program).on (.initial {}) = r
  obtain ⟨outcome, m⟩ := r
  cases outcome with
  | ok v => rfl
  | error e =>
    by_cases hdebug : env.isDebug m = true
    · simp only [hdebug, if_true]
    · simp only [hdebug]
      simp [Machine.events, Machine.record]

theorem script_eq_parse_error_iff {source : String} {e : ParseError} :
    (env.script source).1 = .error (.parse e) ↔ parse source = .error e := by
  constructor
  · intro h
    cases hparse : parse source with
    | error e' =>
      rw [env.script_of_parse_error hparse] at h
      cases h
      rfl
    | ok program =>
      rw [env.script_of_parse hparse] at h
      split at h
      · cases h
      · split at h
        · cases h
        · cases h
  · intro h
    rw [env.script_of_parse_error h]

/-- What a script does with an error that its program ends in. -/
theorem script_of_failure {source : String} {program : Program} (h : parse source = .ok program)
    {e : RuntimeError} (he : ((env.runTree program).on (.initial {})).1 = .error e) :
    let m := ((env.runTree program).on (.initial {})).2
    (env.isDebug m = true → env.script source = (.error (.runtime e), m.events)) ∧
      (env.isDebug m = false → env.script source = (.ok .nil, m.events ++ [.failed e]) ∧
        logLines .error (env.script source).2 = ["ERROR " ++ e.message]) := by
  intro m
  have hran : (env.runTree program).on (.initial {}) = (.error e, m) := Prod.ext he rfl
  have hscript := env.script_of_parse h
  rw [hran] at hscript
  have hlog : logLines .error m.events = [] :=
    logLines_error_eq_nil (env.runTree_unreported program)
  refine ⟨fun hdebug => ?_, fun hdebug => ?_⟩
  · rw [hscript]
    simp only [hdebug, if_true]
  · have hreported : env.script source = (.ok .nil, m.events ++ [.failed e]) := by
      rw [hscript]
      simp [hdebug]
    refine ⟨hreported, ?_⟩
    rw [hreported, logLines, List.filterMap_append, ← logLines, hlog]
    rfl

/-- The settings and the global scope can turn debug mode on. -/
theorem isDebug_iff (m : Machine) :
    env.isDebug m = true ↔
      env.settings.debug = true ∨ m.stack.globals.find? "debug" = some (.bool true) := by
  rw [isDebug, Bool.or_eq_true, Machine.wantsDebug_iff]

/-- Debug mode is about how failures are reported. Without functions of the host, a run goes the
same way whether the settings turn it on or off, but for its announcement: the outcome is the same,
and so are the bindings, the native functions and the text that is printed. A script fails as one
that is no program if and only if its source is none, and nothing has happened by then. Otherwise
its value is that of the program. If there is none, the error is returned if the settings or the
global scope turn debug mode on by then, and else it is reported, as the one event on the level of
errors. -/
theorem debug_decides_reporting (env : Environment) :
    (∀ {m : Machine}, m.HostFree → ∀ source,
      let on := ((env.withDebug true).run source).on m
      let off := ((env.withDebug false).run source).on m
      on.1 = off.1 ∧ on.2.stack = off.2.stack ∧ on.2.natives = off.2.natives ∧
        on.2.output = off.2.output ∧
        ∃ later, on.2.events = m.events ++ .debugMode :: later ∧
          off.2.events = ((env.withDebug false).announced m).events ++ later) ∧
    ∀ source,
      (∀ e, (env.script source).1 = .error (.parse e) ↔ parse source = .error e) ∧
      (∀ e, parse source = .error e → (env.script source).2 = []) ∧
      ∀ program, parse source = .ok program →
        let ran := (env.runTree program).on (.initial {})
        logLines .error ran.2.events = [] ∧
        (∀ v, ran.1 = .ok v → env.script source = (.ok v, ran.2.events)) ∧
        ∀ e, ran.1 = .error e →
          ((env.settings.debug = true ∨
              ran.2.stack.globals.find? "debug" = some (.bool true)) →
            env.script source = (.error (.runtime e), ran.2.events)) ∧
          (¬(env.settings.debug = true ∨
              ran.2.stack.globals.find? "debug" = some (.bool true)) →
            env.script source = (.ok .nil, ran.2.events ++ [.failed e]) ∧
            logLines .error (env.script source).2 = ["ERROR " ++ e.message]) := by
  refine ⟨fun {m} hm source => ?_, fun source => ⟨fun e => env.script_eq_parse_error_iff,
    fun e h => by rw [env.script_of_parse_error h], fun program h => ⟨?_, fun v hv => ?_,
    fun e he => ?_⟩⟩⟩
  · obtain ⟨houtcome, -, later, hon, hoff⟩ := env.run_withDebug hm source
    have hoff' := congrArg Machine.trace hoff
    refine ⟨houtcome, by rw [hoff], by rw [hoff], ?_, later.reverse, ?_, ?_⟩
    · rw [Machine.output_of_trace hon, Machine.output_of_trace hoff', output_announced]
      simp [Event.output]
    · rw [Machine.events_of_trace hon]
      simp [Machine.events, Machine.record]
    · exact Machine.events_of_trace hoff'
  · exact logLines_error_eq_nil (env.runTree_unreported program)
  · have hran : (env.runTree program).on (.initial {}) =
        (.ok v, ((env.runTree program).on (.initial {})).2) := Prod.ext hv rfl
    rw [env.script_of_parse h, hran]
  · rw [← env.isDebug_iff, Bool.not_eq_true]
    exact env.script_of_failure h he

/-- A call that binds `debug` does so in its own scope, so the error behind it is reported. -/
theorem debug_decides_reporting_of_local :
    let source := "f() \x7b debug = true\nreturn x \x7d\nreturn f()"
    let m := Machine.initial {}
    let on := ((bare.withDebug true).run source).on m
    let off := ((bare.withDebug false).run source).on m
    m.HostFree ∧ on.1 = .error (.runtime (.undefined "x" ⟨1, 7, 1⟩)) ∧ off.1 = on.1 ∧
      (bare.script source).1 = .ok .nil ∧
      logLines .error (bare.script source).2 = ["ERROR Error at 2:8: 'x' is not defined."] := by
  intro source m on off
  have hm : m.HostFree := .initial (by simp)
  let body : List Statement :=
    [.assign (.var ⟨"debug", ⟨0, 6, 5⟩⟩) (.literal (.bool true) ⟨0, 14, 4⟩) ⟨0, 6, 5⟩,
      .newLine ⟨0, 18, 1⟩, .exit (some (.var ⟨"x", ⟨1, 7, 1⟩⟩)) ⟨1, 0, 6⟩]
  have hparse : parse "f() \x7b debug = true\nreturn x \x7d\nreturn f()" =
      .ok [.function ⟨"f", [], ⟨body, ⟨0, 4, 1⟩⟩, ⟨0, 0, 1⟩⟩, .newLine ⟨1, 10, 1⟩,
        .exit (some (.call ⟨"f", [], ⟨2, 7, 1⟩⟩)) ⟨2, 0, 6⟩] := by
    with_unfolding_all rfl
  have hon : on.1 = .error (.runtime (.undefined "x" ⟨1, 7, 1⟩)) := by
    show (((bare.withDebug true).run _).on m).1 = _
    rw [run, on_runSource, hparse]
    rfl
  obtain ⟨hruns, hscripts⟩ := debug_decides_reporting bare
  obtain ⟨-, -, hprogram⟩ := hscripts source
  obtain ⟨-, -, hfailure⟩ := hprogram _ hparse
  obtain ⟨-, hreported⟩ := hfailure (.undefined "x" ⟨1, 7, 1⟩) rfl
  obtain ⟨hscript, hlog⟩ := hreported (by rintro (h | h) <;> cases h)
  exact ⟨hm, hon, (hruns hm source).1.symm, by rw [hscript], hlog⟩

end Environment

end Scriptlet
