import Scriptlet.Proofs.Calls.Sight
import Scriptlet.Proofs.Machine.Innermost
import Scriptlet.Proofs.Machine.Visits

/-!
# What a host does with a machine

Between runs a host pushes and pops scopes, binds names and registers native functions, and it runs
programs and calls functions. From whatever machine it starts, and whatever it does, the machine is
*idle* behind each operation: no call is open. On the way, every machine is well-formed
(`Host.passes_wellFormed`). A host that brings no functions of its own meets machines without such
functions only (`Machine.HostFree.operations`).
-/

namespace Scriptlet

/-- An operation of a host. -/
inductive HostOperation where
  | push
  | pop
  | assign (name : String) (value : Value)
  | register (n : Native)
  | run (source : String)
  | runOctets (octets : List UInt8)
  | runTree (program : Program)
  | runSingle (s : Statement)
  | flow (statements : List Statement)
  | evaluate (e : Expr)
  | call (name : String) (arguments : List Value) (site : Position)

/-- No call is open, and no native function is at work. -/
structure Machine.Idle (m : Machine) : Prop where
  frames : m.stack.frames = []
  openCalls : m.openCalls = 0
  callSite : m.callSite = {}

/-- The scopes and calls of a machine fit together. At the start there was only the global scope
`start`. -/
structure Machine.WellFormed (limit : Nat) (start : Scope) (m : Machine) : Prop where
  /-- The two lists have come about step by step, and the steps have told what the machine has. -/
  reached : (Ledger.initial start).Leads m.ledger
  fits : m.ledger.Fits start
  /-- The global scope is the lowest. -/
  globals : m.stack.layout.scopes[0]? = some m.stack.globals
  depth : m.depth = m.stack.layout.scopes.length
  counted : m.openCalls = m.stack.layout.marks.length
  limited : m.openCalls ≤ limit
  /-- By way of the indices, too, every name is found where it is found on the stack. -/
  resolves : ∀ name, m.stack.layout.Resolves name ((m.stack.resolve name).map fun r =>
    (r.1.map fun distance => m.openCalls - 1 - distance, r.2))

namespace HostOperation

/-- The machine behind an operation, whether that fails or not. -/
def after (env : Environment) (m : Machine) : HostOperation → Machine
  | push => m.push
  | pop => m.pop
  | assign name value => m.assign name value
  | register n => ((Exec.register n).on m).2
  | run source => ((env.run source).on m).2
  | runOctets octets => ((env.runOctets octets).on m).2
  | runTree program => ((env.runTree program).on m).2
  | runSingle s => ((env.runSingle s).on m).2
  | flow statements => ((env.flow statements).on m).2
  | evaluate e => ((env.evaluate e).on m).2
  | call name arguments site => ((env.call name arguments site).on m).2

/-- What an operation runs, if it runs something. -/
def given? : HostOperation → Option Runnable
  | run source => some (.source source)
  | runOctets octets => some (.octets octets)
  | runTree program => some (.program program)
  | runSingle s => some (.statement s)
  | _ => none

/-- What an operation evaluates, and the machine on which that starts. -/
def work? (env : Environment) (m : Machine) : HostOperation → Option (Work × Machine)
  | flow statements => some (.statements statements, m)
  | evaluate e => some (.expr e, m)
  | call name arguments site => some (.named name arguments site, m)
  | op => op.given?.bind fun given => env.given? m given

/-- `op.Passes env m p`: an operation on `m` passes through `p`. -/
inductive Passes (env : Environment) (op : HostOperation) (m : Machine) : Machine → Prop
  | start : Passes env op m m
  | inside {w m' p} (hwork : op.work? env m = some (w, m'))
    (hvisits : env.Visits ⟨env.hostNesting, env.settings.maxCallDepth, w, m'⟩ p) : Passes env op m p
  | finish : Passes env op m (op.after env m)

/-- `op.Precedes env m p p'`: an operation on `m` passes through `p` before it passes through `p'`.
-/
inductive Precedes (env : Environment) (op : HostOperation) (m : Machine) :
    Machine → Machine → Prop
  | start {p} (hpasses : op.Passes env m p) : Precedes env op m m p
  | finish {p} (hpasses : op.Passes env m p) : Precedes env op m p (op.after env m)
  | inside {w m' p p'} (hwork : op.work? env m = some (w, m'))
    (hprecedes : env.Precedes ⟨env.hostNesting, env.settings.maxCallDepth, w, m'⟩ p p') :
    Precedes env op m p p'
  | trans {p q p'} (hfirst : Precedes env op m p q) (hsecond : Precedes env op m q p') :
    Precedes env op m p p'

variable {env : Environment} {m m' p p' : Machine} {w : Work} {op : HostOperation}

/-! ## What operations evaluate -/

/-- An operation that runs something does nothing else. -/
theorem after_of_given? {given : Runnable} (h : op.given? = some given) :
    op.after env m = ((env.runGiven env.calls given).on m).2 := by
  cases op with
  | push | pop | assign | register | flow | evaluate | call => cases h
  | run source | runOctets octets =>
    cases h
    rfl
  | runTree program =>
    cases h
    show ((env.runTree program).on m).2 = _
    rw [Environment.runTree, Exec.on_bind_ok (env.on_announce m), Environment.runGiven,
      env.on_runRead]
    exact on_flowValue (evalStatements env.calls program) (env.announced m)
  | runSingle s =>
    cases h
    show ((env.runSingle s).on m).2 = _
    rw [Environment.runSingle, Environment.runGiven, Exec.on_bind_ok (env.on_announce m),
      Exec.on_bind_ok (env.on_announce m)]
    rfl

/-- An operation runs something, or evaluates it on the machine as it is. -/
theorem work?_cases (h : op.work? env m = some (w, m')) :
    (∃ given, op.given? = some given ∧ env.given? m given = some (w, m')) ∨
      m' = m ∧ op.after env m = w.after env env.calls m ∧ ∀ P, w.Linked P := by
  cases op with
  | flow statements | evaluate e | call name arguments site =>
    cases h
    exact .inr ⟨rfl, rfl, fun _ => trivial⟩
  | _ =>
    simp only [work?] at h
    exact .inl (Option.bind_eq_some_iff.mp h)

/-- An operation evaluates its work and no more. -/
theorem after_of_work? (h : op.work? env m = some (w, m')) :
    op.after env m = w.after env env.calls m' := by
  rcases work?_cases h with ⟨given, hgiven, hwork⟩ | ⟨rfl, hafter, -⟩
  · rw [after_of_given? hgiven]
    exact env.after_of_given? hwork
  · exact hafter

section

variable {K : Coupling .full} {c : K.Context}

/-- What an operation evaluates starts on a machine that is coupled with itself, if the operation
does. -/
theorem work?_keeps (hm : K.rel c m m) (h : op.work? env m = some (w, m')) :
    K.rel c m' m' ∧ w.Linked (K.mayLink c) := by
  rcases work?_cases h with ⟨given, -, hwork⟩ | ⟨rfl, -, hlinked⟩
  · exact env.given?_keeps hm hwork
  · exact ⟨hm, hlinked _⟩

/-- An operation keeps what all steps keep, whatever functions of the host do meanwhile. -/
theorem after_keeps (hK : K.Hosted) (env : Environment) (hm : K.rel c m m) (op : HostOperation) :
    K.rel c (op.after env m) (op.after env m) := by
  have hcalls : K.SameCalls env.calls env.calls :=
    hK.callsWithin_sameCalls env env.hostNesting env.settings.maxCallDepth
  have hgiven : ∀ {given : Runnable}, op.given? = some given →
      K.rel c (op.after env m) (op.after env m) := by
    intro given hgiven
    rw [after_of_given? hgiven]
    exact (hK.runGiven_lockstep hcalls given _ _ hm).states_rel
  cases op with
  | push => exact hK.push hm
  | pop => exact hK.pop hm
  | assign name value => exact K.assign name hm value.within_full
  | register n => exact (hK.register_lockstep n _ _ hm).states_rel
  | run | runOctets | runTree | runSingle => exact hgiven rfl
  | flow statements => exact (hcalls.statements_keeps statements _ _ hm).states_rel
  | evaluate e => exact (hcalls.expr_keeps e _ _ hm).states_rel
  | call name arguments site => exact (hcalls.named_keeps name arguments site _ _ hm).states_rel

end

/-- An operation changes scopes on top only. -/
theorem changedOnTop (env : Environment) (m : Machine) (op : HostOperation) :
    m.ChangedOnTop (op.after env m) :=
  (after_keeps (K := Machine.changedOnTop.coupling) Machine.changedOnTop.hosted env
    ⟨rfl, .refl m⟩ op).2

/-- Native functions stay from the start of an operation on, and up to its end. -/
theorem Passes.grows (h : op.Passes env m p) :
    m.NativesGrow p ∧ p.NativesGrow (op.after env m) := by
  have hafter : m.NativesGrow (op.after env m) := (op.changedOnTop env m).natives
  cases h with
  | start => exact ⟨.refl m, hafter⟩
  | finish => exact ⟨hafter, .refl _⟩
  | inside hwork hvisits =>
    have hm : Machine.changedOnTop.coupling.rel m m m := ⟨rfl, .refl m⟩
    obtain ⟨-, hstart⟩ := (work?_keeps hm hwork).1
    obtain ⟨hbefore, hbehind⟩ := hvisits.grows
    rw [after_of_work? hwork]
    exact ⟨hstart.natives.trans hbefore, hbehind⟩

theorem Precedes.grows (h : op.Precedes env m p p') : p.NativesGrow p' := by
  induction h with
  | start hpasses => exact hpasses.grows.1
  | finish hpasses => exact hpasses.grows.2
  | inside _ hprecedes => exact hprecedes.grows
  | trans _ _ ih ih' => exact ih.trans ih'

end HostOperation

namespace Machine

variable {limit : Nat} {globals : Scope} {m m' : Machine}

theorem Idle.initial (globals : Scope) : (Machine.initial globals).Idle :=
  ⟨rfl, rfl, rfl⟩

theorem Sound.initial (globals : Scope) : (Machine.initial globals).Sound globals :=
  ⟨trivial, rfl, .refl⟩

theorem Sound.after (h : m.Sound globals) (env : Environment) (op : HostOperation) :
    (op.after env m).Sound globals :=
  (op.after_keeps (Sound.hosted globals) env (c := m) ⟨rfl, .refl m, h⟩).2.2

/-- An idle machine is idle again when it has changed on top only. -/
theorem Idle.changedOnTop (h : m.Idle) (hm : m.ChangedOnTop m') : m'.Idle where
  frames := by
    have hlength := hm.length_frames
    rw [h.frames] at hlength
    exact List.eq_nil_of_length_eq_zero hlength
  openCalls := hm.openCalls.trans h.openCalls
  callSite := hm.callSite.trans h.callSite

theorem Sound.wellFormed (h : m.Sound globals) (hlimit : m.openCalls ≤ limit) :
    m.WellFormed limit globals where
  reached := h.reached
  fits := (Ledger.Fits.initial globals).steps h.reached
  globals := m.stack.head_scopes_layout
  depth := m.stack.depth_eq_length
  counted := h.counted.trans m.stack.length_marks_layout.symm
  limited := hlimit
  resolves name := by
    rw [h.counted]
    exact Stack.resolves_layout h.links name

end Machine

open HostOperation

/-- Between operations, and behind them, a machine is idle. -/
theorem Machine.Idle.operations (env : Environment) {m : Machine} (h : m.Idle)
    (ops : List HostOperation) : (ops.foldl (HostOperation.after env) m).Idle := by
  induction ops generalizing m with
  | nil => exact h
  | cons op rest ih => exact ih (h.changedOnTop (op.changedOnTop env m))

theorem Machine.Sound.operations (env : Environment) {globals : Scope} {m : Machine}
    (h : m.Sound globals) (ops : List HostOperation) :
    (ops.foldl (HostOperation.after env) m).Sound globals := by
  induction ops generalizing m with
  | nil => exact h
  | cons op rest ih => exact ih (h.after env op)

/-- Whatever a host has done with a machine, the next operation passes through well-formed machines
only, also where functions of the host work on the machine in the middle of a program, however deep
they are nested. From one of these machines to any later one, native functions are neither replaced
nor removed. The machine behind the operation is idle. -/
theorem Host.passes_wellFormed (env : Environment) (globals : Scope) (ops : List HostOperation)
    (op : HostOperation) :
    let m := ops.foldl (HostOperation.after env) (Machine.initial globals)
    (op.after env m).Idle ∧
      (∀ p, op.Passes env m p → p.WellFormed env.settings.maxCallDepth globals) ∧
      ∀ p p', op.Precedes env m p p' → p.NativesGrow p' := by
  intro m
  have hm : m.Idle := (Machine.Idle.initial globals).operations env ops
  have hsound : m.Sound globals := (Machine.Sound.initial globals).operations env ops
  have hbound : m.openCalls ≤ env.settings.maxCallDepth := hm.openCalls ▸ Nat.zero_le _
  have hafter : (op.after env m).Idle := hm.changedOnTop (op.changedOnTop env m)
  refine ⟨hafter, fun p hp => ?_, fun p p' hprecedes => hprecedes.grows⟩
  cases hp with
  | start => exact hsound.wellFormed hbound
  | inside hwork hvisits =>
    have hrel : (Machine.Sound.coupling globals).rel m m m := ⟨rfl, .refl m, hsound⟩
    obtain ⟨hstart, hlinked⟩ := work?_keeps hrel hwork
    obtain ⟨hsound', hlimit⟩ := hvisits.sound m hstart hlinked hbound
    exact hsound'.wellFormed hlimit
  | finish =>
    have hlimit : (op.after env m).openCalls ≤ env.settings.maxCallDepth :=
      hafter.openCalls ▸ Nat.zero_le _
    exact (hsound.after env op).wellFormed hlimit

/-- A function of a program calls one of the host, which registers another one, pushes a scope, and
calls a function of the program in turn. On the machine within that one two calls are open, with the
scope that was pushed between them, and what was registered before is there to stay. -/
theorem Host.passes_wellFormed_in_reentry :
    let f : Function := ⟨"f", [], ⟨[.expression (.call ⟨"h", [], {}⟩)], {}⟩, {}⟩
    let g : Function := ⟨"g", [], ⟨[], {}⟩, {}⟩
    let k : Native := .host "k" .any "k" []
    let env : Environment := { Environment.bare with
      behaviour := fun _ => .register k fun _ => .pushScope (.call "g" [] {} fun _ =>
        .finish (.ok .nil)) }
    let globals : Scope := ⟨[("f", .function f), ("g", .function g)]⟩
    let m := [HostOperation.register (.host "h" .any "h" [])].foldl (HostOperation.after env)
      (Machine.initial globals)
    let op : HostOperation := .call "f" [] {}
    ∃ p, op.Passes env m p ∧ p.openCalls = 2 ∧ p.ledger.noted = [3, 1] ∧
      p.natives.find? "k" = some k ∧ p.WellFormed 200 globals ∧
      (op.after env m).natives.find? "k" = some k := by
  intro f g k env globals m op
  have hpasses : ∃ p, op.Passes env m p ∧ p.openCalls = 2 ∧ p.ledger.noted = [3, 1] ∧
      p.natives.find? "k" = some k :=
    ⟨_, .inside rfl <| .inside (.part (.resolved rfl rfl)) <| .inside (.part .userCall) <|
      .inside (.body rfl) <| .inside (.part .first) <| .inside (.part .expression) <|
      .inside (.part (.call rfl)) <| .inside (.part (.registered rfl)) <| .inside (.host rfl) <|
      .inside (.action (.register rfl)) <| .inside (.action .push) <| .inside (.action .call) <|
      .inside (.part (.resolved ((Mapping.find?_insert_of_ne _ (by decide) k).trans rfl) rfl)) <|
      .inside (.part .userCall) <| .inside (.body rfl) .start, rfl, rfl,
      Mapping.find?_insert_self _ "k" k⟩
  obtain ⟨p, hp, hopen, hnoted, hk⟩ := hpasses
  obtain ⟨-, hwellFormed, hgrow⟩ := Host.passes_wellFormed env globals
    [.register (.host "h" .any "h" [])] op
  exact ⟨p, hp, hopen, hnoted, hk, hwellFormed p hp, hgrow p _ (.finish hp) "k" k hk⟩

/-! ## Hosts without functions of their own -/

/-- An operation that brings along no function of the host. -/
def HostOperation.Plain : HostOperation → Prop
  | .assign _ value => value.Within .builtin
  | .register n => n.IsBuiltin
  | .call _ arguments _ => ∀ a ∈ arguments, a.Within .builtin
  | _ => True

/-- Whether an operation pushes or pops a scope. -/
def HostOperation.isScoping : HostOperation → Bool
  | push => true
  | pop => true
  | _ => false

namespace Machine.HostFree

open HostOperation

variable {m m' : Machine} {op : HostOperation}

/-- An operation that neither pushes nor pops binds in the innermost scope only. -/
theorem unscoped (h : m.HostFree) (env : Environment) (hop : op.Plain)
    (hscope : op.isScoping = false) :
    (op.after env m).HostFree ∧ m.ChangedInnermost (op.after env m) := by
  have hcalls := innermost.plain_sameCalls env env.hostNesting env.settings.maxCallDepth
  have hrel : innermost.rel m m m := ⟨rfl, h, .refl m⟩
  have hannounced : innermost.rel m (env.announced m) (env.announced m) := by
    unfold Environment.announced
    split
    · exact innermost.record hrel rfl
    · exact hrel
  have hstatements : ∀ {m' : Machine}, innermost.rel m m' m' → ∀ ss,
      ((evalStatements env.calls ss).on m').2.HostFree ∧
        m.ChangedInnermost ((evalStatements env.calls ss).on m').2 := fun hrel ss =>
    (hcalls.evalStatements_lockstep ss (fun _ _ => trivial) _ _ hrel).states_rel.2
  have hexpr : ∀ {m' : Machine}, innermost.rel m m' m' → ∀ e,
      ((evalExpr env.calls e).on m').2.HostFree ∧
        m.ChangedInnermost ((evalExpr env.calls e).on m').2 := fun hrel e =>
    (hcalls.evalExpr_lockstep e (fun _ _ => trivial) _ _ hrel).states_rel.2
  have hread : ∀ read : Except ParseError Program,
      ((env.runRead env.calls read).on m).2.HostFree ∧
        m.ChangedInnermost ((env.runRead env.calls read).on m).2 := by
    intro read
    cases read with
    | ok program =>
      rw [env.on_runRead]
      exact hstatements hannounced program
    | error e =>
      rw [env.on_runRead_error]
      exact hannounced.2
  cases op with
  | push | pop => cases hscope
  | assign name value => exact (innermost.assign name hrel hop).2
  | register n =>
    simp only [HostOperation.after, Exec.register, Exec.on_ofFunction]
    cases hr : m.register n with
    | ok m' => exact ⟨h.register hop hr, .register hr⟩
    | error e => exact ⟨h, .refl m⟩
  | run source => exact hread (parse source)
  | runOctets octets => exact hread (parseOctets octets)
  | runTree program =>
    rw [show (HostOperation.runTree program).after env m = _ from after_of_work? rfl]
    exact hstatements hannounced program
  | runSingle s =>
    cases s with
    | expression e =>
      rw [show (HostOperation.runSingle (.expression e)).after env m = _ from after_of_work? rfl]
      exact hexpr hannounced e
    | _ =>
      rw [show (HostOperation.runSingle _).after env m = _ from after_of_work? rfl]
      exact (hcalls.execute_lockstep _ (fun _ _ => trivial) _ _
        (innermost.record hannounced rfl)).states_rel.2
  | flow statements => exact hstatements hrel statements
  | evaluate e => exact hexpr hrel e
  | call name arguments site => exact (hcalls.named trivial hop _ _ hrel).states_rel.2

theorem after (h : m.HostFree) (env : Environment) (hop : op.Plain) :
    (op.after env m).HostFree := by
  cases op with
  | push => exact h.push
  | pop => exact h.pop
  | _ => exact (h.unscoped env hop rfl).1

/-- Whatever such a host does, the machine stays without functions of the host. -/
theorem operations (h : m.HostFree) (env : Environment) {ops : List HostOperation}
    (hops : ∀ op ∈ ops, op.Plain) : (ops.foldl (HostOperation.after env) m).HostFree := by
  induction ops generalizing m with
  | nil => exact h
  | cons op rest ih =>
    obtain ⟨hop, hrest⟩ := List.forall_mem_cons.mp hops
    exact ih (h.after env hop) hrest

end Machine.HostFree

end Scriptlet
