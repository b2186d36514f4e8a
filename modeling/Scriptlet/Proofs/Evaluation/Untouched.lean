import Scriptlet.Proofs.Calls.Isolation
import Scriptlet.Proofs.Machine.HostFree

/-!
# Expressions change nothing

As long as no function of the host takes part, evaluating an expression leaves the machine as it
was, apart from further events: no scope changes, not even the innermost, and neither do the frames,
the native functions, the number of open calls and the place from which a native function is called
(`evalExpr_untouched`). That holds whether the expression has a value or fails.

Statements do bind names, so this is an induction on expressions alone: where an expression calls a
function, whose body is made of statements, the frame of the call takes their bindings along.
-/

namespace Scriptlet

/-- From `m` to `m'` nothing has changed, except that events may have been added. -/
def Machine.Untouched (m m' : Machine) : Prop :=
  ∃ events, m' = { m with trace := events ++ m.trace }

namespace Machine.Untouched

variable {m₀ m m' : Machine}

theorem refl (m : Machine) : m.Untouched m :=
  ⟨[], rfl⟩

theorem trans (h : m₀.Untouched m) (h' : m.Untouched m') : m₀.Untouched m' := by
  obtain ⟨events, rfl⟩ := h
  obtain ⟨later, rfl⟩ := h'
  exact ⟨later ++ events, by simp⟩

theorem record (m : Machine) (e : Event) : m.Untouched (m.record e) :=
  ⟨[e], rfl⟩

/-- A machine that is restored has not been touched if the native functions are the same. -/
theorem of_restored (h : m.Restored m') (hsince : HostFree.Since m m') : m.Untouched m' := by
  obtain ⟨events, htrace⟩ := hsince.trace
  refine ⟨events, ?_⟩
  obtain ⟨stack, natives, openCalls, callSite, trace⟩ := m'
  obtain ⟨rfl, rfl, rfl, -⟩ := h
  obtain rfl : natives = m.natives := hsince.natives
  obtain rfl : events ++ m.trace = trace := htrace
  rfl

theorem lookup (h : m.Untouched m') (name : String) : m'.lookup name = m.lookup name := by
  obtain ⟨events, rfl⟩ := h
  rfl

theorem hostFree (h : m.Untouched m') (hm : m.HostFree) : m'.HostFree := by
  obtain ⟨events, rfl⟩ := h
  exact ⟨hm.natives, hm.base, hm.frames⟩

end Machine.Untouched

/-- Steps that do not touch a machine without functions of the host, whether they fail or not. -/
def Exec.Quiet {ε α : Type} (steps : Exec ε α) : Prop :=
  ∀ m : Machine, m.HostFree → m.Untouched (steps.on m).2

namespace Exec.Quiet

variable {ε α β : Type}

theorem pure {a : α} : Quiet (Pure.pure a : Exec ε α) :=
  fun m _ => .refl m

theorem throw {e : ε} : Quiet (MonadExcept.throw e : Exec ε α) :=
  fun m _ => .refl m

theorem ofOutcome {o : Except ε α} : Quiet (Exec.ofOutcome o) :=
  fun m _ => .refl m

theorem observe {f : Machine → α} : Quiet (Exec.observe f : Exec ε α) :=
  fun m _ => .refl m

theorem record {e : Event} : Quiet (Exec.record e : Exec ε Unit) :=
  fun m _ => .record m e

/-- The second steps get the value of the first. -/
theorem bind {P : α → Prop} {x : Exec ε α} {f : α → Exec ε β}
    (hvalue : ∀ m : Machine, m.HostFree → ∀ a, (x.on m).1 = .ok a → P a) (hx : x.Quiet)
    (hf : ∀ a, P a → (f a).Quiet) : (x >>= f).Quiet := by
  intro m hm
  have hP := hvalue m hm
  have hfirst := hx m hm
  rw [on_bind]
  generalize x.on m = r at hP hfirst
  obtain ⟨o, m'⟩ := r
  cases o with
  | ok a => exact hfirst.trans (hf a (hP a rfl) m' (hfirst.hostFree hm))
  | error e => exact hfirst

/-- The second steps are quiet whatever value they get. -/
theorem andThen {x : Exec ε α} {f : α → Exec ε β} (hx : x.Quiet) (hf : ∀ a, (f a).Quiet) :
    (x >>= f).Quiet :=
  .bind (P := fun _ => True) (fun _ _ _ _ => trivial) hx fun a _ => hf a

theorem calledFrom {x : Exec ε α} (hx : x.Quiet) (site : Position) :
    (Exec.calledFrom site x).Quiet := by
  intro m hm
  obtain ⟨events, h⟩ := hx { m with callSite := site } (hm.callFrom site)
  exact ⟨events, by rw [on_calledFrom, h]⟩

end Exec.Quiet

/-! ## Calls -/

theorem Builtin.runCommand_quiet (env : Environment) (command : Value) (site : Position) :
    (runCommand env command site).Quiet := by
  unfold runCommand
  refine .andThen .ofOutcome fun text => .andThen .record fun _ => ?_
  split
  · exact .throw
  · split
    · exact .pure
    · exact .andThen .record fun _ => .pure

/-- All that built-in functions change is what has happened. -/
theorem Builtin.call_quiet (env : Environment) (b : Builtin) (arguments : List Value)
    (site : Position) : (b.call env arguments site).Quiet := by
  unfold Builtin.call
  split
  · exact .andThen .record fun _ => .pure
  · exact .andThen .record fun _ => .pure
  · exact .ofOutcome
  · exact .pure
  · exact .pure
  · exact .ofOutcome
  · exact .ofOutcome
  · exact .ofOutcome
  · exact runCommand_quiet env _ site
  · exact .throw

/-- Calls that do not touch the machine. -/
structure Calls.Quiet (calls : Calls) : Prop where
  /-- The values of calls stay within the vocabulary. -/
  within : (Machine.HostFree.coupling 0).SameCalls calls calls
  user : ∀ (f : Function) (link : Option Nat) {arguments : List Value} (site : Position),
    (∀ a ∈ arguments, a.Within .builtin) → (calls.user f link arguments site).Quiet
  native : ∀ {n : Native} {arguments : List Value} (site : Position), n.IsBuiltin →
    (calls.native n arguments site).Quiet

theorem Environment.callNative_quiet (env : Environment) (host : HostCall → Eval Value)
    {n : Native} (hn : n.IsBuiltin) (arguments : List Value) (site : Position) :
    (env.callNative host n arguments site).Quiet := by
  obtain ⟨b, rfl⟩ := hn
  unfold Environment.callNative
  split
  · exact .calledFrom (b.call_quiet env arguments site) site
  · exact .throw

/-- The frame of a call takes along whatever the body has bound. -/
theorem Environment.callsWithin_quiet (env : Environment) (nesting left : Nat) :
    (env.callsWithin nesting left).Quiet where
  within := (Machine.HostFree.coupling 0).plain_sameCalls env nesting left
  user f link arguments site ha m hm := by
    have hbody := fun opened (_ : left = opened + 1) =>
      Upkeep.evalStatements_keeps (U := Machine.changedOnTop) env nesting opened f.body.statements
    refine .of_restored (callUser_restores hbody link arguments site m) ?_
    exact hm.since_of_lockstep fun c =>
      ((Machine.HostFree.coupling 0).plain_sameCalls env nesting left).user f site
        (fun _ _ => trivial) trivial ha
  native {n arguments} site hn := by
    show (env.nativeCalls nesting left n arguments site).Quiet
    cases nesting with
    | zero => exact env.callNative_quiet _ hn arguments site
    | succ nesting => exact env.callNative_quiet _ hn arguments site

theorem evalVariable_quiet (v : Variable) : (evalVariable v).Quiet := by
  refine .andThen .observe fun found => ?_
  cases found with
  | some u => exact .pure
  | none =>
    refine .andThen .observe fun found => ?_
    cases found with
    | some n => exact .pure
    | none => exact .throw

namespace Calls.Quiet

variable {calls : Calls}

section Callees

variable (h : calls.Quiet)
include h

theorem value {callee : Value} {arguments : List Value} (name : String) (link : Option Nat)
    (site : Position) (hc : callee.Within .builtin) (ha : ∀ a ∈ arguments, a.Within .builtin) :
    (calls.value name callee link arguments site).Quiet := by
  cases callee with
  | function f => exact h.user f link site ha
  | native n => exact h.native site (Value.within_native.mp hc)
  | _ => exact .throw

theorem named {arguments : List Value} (name : String) (site : Position)
    (ha : ∀ a ∈ arguments, a.Within .builtin) : (calls.named name arguments site).Quiet := by
  intro m hm
  simp only [Calls.named, Exec.on_bind, Exec.on_observe]
  cases hn : m.natives.find? name with
  | some n => exact h.native site (hm.natives hn) m hm
  | none =>
    simp only [Exec.on_bind, Exec.on_observe]
    cases hr : m.stack.resolve name with
    | some r => exact h.value name r.1 site (hm.resolve hr) ha m hm
    | none => exact .refl m

theorem method {object : Value} {arguments : List Value} (name : String) (site : Position)
    (ho : object.Within .builtin) (ha : ∀ a ∈ arguments, a.Within .builtin) :
    (calls.method object name arguments site).Quiet := by
  unfold Calls.method
  split
  · rename_i callee hm
    exact h.value name none site (Value.hereditary_within.method? ho hm) ha
  · exact h.named name site ha

theorem expr_within (e : Expr) (m : Machine) (hm : m.HostFree) (v : Value)
    (hv : ((evalExpr calls e).on m).1 = .ok v) : v.Within .builtin :=
  hm.value_of_lockstep (fun _ => h.within.evalExpr_lockstep e fun _ _ => trivial) hv

theorem exprs_within (es : List Expr) (m : Machine) (hm : m.HostFree) (vs : List Value)
    (hvs : ((evalExprs calls es).on m).1 = .ok vs) : ∀ v ∈ vs, v.Within .builtin :=
  hm.value_of_lockstep (fun _ => h.within.evalExprs_lockstep es fun _ _ => trivial) hvs

end Callees

/-! ## Expressions -/

mutual

theorem expr (h : calls.Quiet) : ∀ e : Expr, (evalExpr calls e).Quiet
  | .var v => by
    rw [evalExpr]
    exact evalVariable_quiet v
  | .literal value _ => by
    rw [evalExpr]
    exact .pure
  | .binary left o right position => by
    rw [evalExpr]
    exact .andThen (h.expr left) fun a => .andThen (h.expr right) fun b => .ofOutcome
  | .list values _ => by
    rw [evalExpr]
    exact .andThen (h.exprs values) fun vs => .pure
  | .block ⟨statements, _⟩ => by
    rw [evalExpr]
    exact .andThen (h.entries {} statements) fun entries => .pure
  | .call ⟨name, arguments, site⟩ => by
    rw [evalExpr]
    exact .bind (h.exprs_within arguments) (h.exprs arguments) fun vs hvs => h.named name site hvs
  | .field object member position => by
    rw [evalExpr]
    cases object.asVariable? with
    | some v =>
      have howner : ∀ m : Machine, m.HostFree → ∀ u, ((evalOwner v).on m).1 = .ok u →
          u.Within .builtin := fun m hm u =>
        hm.value_of_lockstep fun _ => Coupling.evalOwner_lockstep trivial
      exact .bind howner .observe fun u hu => h.member position hu member
    | none =>
      exact .bind (h.expr_within object) (h.expr object) fun u hu => h.member position hu member

theorem exprs (h : calls.Quiet) : ∀ es : List Expr, (evalExprs calls es).Quiet
  | [] => by
    rw [evalExprs]
    exact .pure
  | e :: es => by
    rw [evalExprs]
    exact .andThen (h.expr e) fun v => .andThen (h.exprs es) fun vs => .pure

theorem member (h : calls.Quiet) {object : Value} (position : Position)
    (ho : object.Within .builtin) :
    ∀ member : Member, (evalMember calls object position member).Quiet
  | .name v => by
    rw [evalMember]
    exact .ofOutcome
  | .index key => by
    rw [evalMember]
    exact .andThen (h.expr key) fun k => .ofOutcome
  | .call ⟨name, arguments, site⟩ => by
    rw [evalMember]
    exact .bind (h.exprs_within arguments) (h.exprs arguments) fun vs hvs =>
      h.method name site ho hvs

/-- An assignment in a block that spells a mapping makes an entry and binds nothing. -/
theorem entries (h : calls.Quiet) (entries : Mapping Value) :
    ∀ statements : List Statement, (evalEntries calls entries statements).Quiet
  | [] => by
    rw [evalEntries]
    exact .pure
  | .assign target value position :: rest => by
    cases target with
    | var key =>
      rw [evalEntries]
      exact .andThen (h.expr value) fun v => h.entries (entries.insert key.name v) rest
    | _ =>
      simp only [evalEntries]
      exact .throw
  | .newLine _ :: rest => by
    rw [evalEntries]
    exact h.entries entries rest
  | .comment _ :: rest => by
    rw [evalEntries]
    exact h.entries entries rest
  | .function _ :: _ | .conditional .. :: _ | .loop .. :: _ | .exit .. :: _ | .stop _ :: _
  | .skip _ :: _ | .expression _ :: _ => by
    simp only [evalEntries]
    exact .throw

end

end Calls.Quiet

/-- On a machine without functions of the host, an expression changes nothing: whatever functions it
calls, and whether it has a value or fails, the machine differs by further events only. -/
theorem evalExpr_untouched (env : Environment) (nesting left : Nat) (e : Expr) {m : Machine}
    (h : m.HostFree) : m.Untouched ((evalExpr (env.callsWithin nesting left) e).on m).2 :=
  (env.callsWithin_quiet nesting left).expr e m h

/-- Within a call, an expression calls a function that binds `x` and then fails. -/
theorem evalExpr_untouched_by_failure :
    let f : Function := ⟨"f", [], ⟨[.assign (.var ⟨"x", {}⟩) (.literal (.int 1) {}) {},
      .exit (some (.var ⟨"y", {}⟩)) {}], {}⟩, {}⟩
    let m := (Machine.initial ⟨[("f", .function f)]⟩).enter ⟨[("x", .int 0)]⟩ none
    let steps := evalExpr (Environment.bare.callsWithin 1 1) (.call ⟨"f", [], {}⟩)
    m.HostFree ∧ (steps.on m).1 = .error (.undefined "y" {}) ∧ m.Untouched (steps.on m).2 := by
  intro f m steps
  have h : m.HostFree :=
    (Machine.HostFree.initial (by simp [Vocabulary.plain])).enter none (by simp)
  exact ⟨h, rfl, evalExpr_untouched .bare 1 1 _ h⟩

end Scriptlet
