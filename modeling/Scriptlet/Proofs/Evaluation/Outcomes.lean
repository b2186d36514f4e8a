import Scriptlet.Interpreter
import Scriptlet.Proofs.Evaluation.Remainder

/-!
# Where runs lead, apart from events

What a program computes does not depend on the events of the past, though every step adds some.
`steps.Ends m o n` says that on `m`, whatever has happened before, the steps have the outcome `o`
and leave the machine as `n`, apart from what has happened by then. The rules below follow the
evaluator, so that the run of a tree is put together from the runs of its parts: one rule for each
way in which a tree can go on, with the rules for failures where runs are known to fail.
-/

namespace Scriptlet

/-- On a machine that differs from `m` in its events at most, the steps have this outcome, and lead
to a machine that differs from `n` in its events at most. -/
def Exec.Ends {ε α : Type} (steps : Exec ε α) (m : Machine) (o : Except ε α) (n : Machine) : Prop :=
  ∀ events, ∃ events', steps.on { m with trace := events } = (o, { n with trace := events' })

namespace Exec.Ends

section Sequences

variable {ε ε' α β : Type} {m n n' : Machine} {x : Exec ε α} {f : α → Exec ε β}

theorem on {o : Except ε α} (h : x.Ends m o n) :
    (x.on m).1 = o ∧ ∃ events, (x.on m).2 = { n with trace := events } := by
  obtain ⟨events, he⟩ := h m.trace
  exact ⟨congrArg Prod.fst he, events, congrArg Prod.snd he⟩

theorem pure (a : α) (m : Machine) : (Pure.pure a : Exec ε α).Ends m (.ok a) m :=
  fun events => ⟨events, rfl⟩

theorem throw (e : ε) (m : Machine) : (MonadExcept.throw e : Exec ε α).Ends m (.error e) m :=
  fun events => ⟨events, rfl⟩

theorem ofOutcome (o : Except ε α) (m : Machine) : (Exec.ofOutcome o).Ends m o m :=
  fun events => ⟨events, rfl⟩

theorem record (e : Event) (m : Machine) : (Exec.record e : Exec ε Unit).Ends m (.ok ()) m :=
  fun events => ⟨e :: events, rfl⟩

theorem assign (name : String) (v : Value) (m : Machine) :
    (Exec.update fun m => m.assign name v : Exec ε Unit).Ends m (.ok ()) (m.assign name v) :=
  fun events => ⟨events, rfl⟩

/-- What does not depend on the events is observed of `m` itself. -/
theorem observe {g : Machine → α} (hg : ∀ events, g { m with trace := events } = g m) :
    (Exec.observe g : Exec ε α).Ends m (.ok (g m)) m :=
  fun events => ⟨events, by rw [on_observe, hg]⟩

theorem bind {o : Except ε β} {a : α} (hx : x.Ends m (.ok a) n) (hf : (f a).Ends n o n') :
    (x >>= f).Ends m o n' := by
  intro events
  obtain ⟨between, hbetween⟩ := hx events
  obtain ⟨behind, hbehind⟩ := hf between
  exact ⟨behind, (on_bind_ok hbetween f).trans hbehind⟩

theorem bind_error {e : ε} (hx : x.Ends m (.error e) n) : (x >>= f).Ends m (.error e) n := by
  intro events
  obtain ⟨behind, hbehind⟩ := hx events
  exact ⟨behind, on_bind_error hbehind f⟩

theorem map {o : Except ε α} {g : α → β} (hx : x.Ends m o n) :
    (x >>= fun a => Pure.pure (g a)).Ends m (o.map g) n := by
  cases o with
  | ok a => exact hx.bind (.pure (g a) n)
  | error e => exact hx.bind_error

theorem mapError {o : Except ε α} (hx : x.Ends m o n) (g : ε → ε') :
    (x.mapError g).Ends m (o.mapError g) n := by
  intro events
  obtain ⟨behind, hbehind⟩ := hx events
  exact ⟨behind, by rw [Exec.mapError, on_ofFunction, hbehind]⟩

/-- Machines that differ in their events only are the same here. -/
theorem congr {o : Except ε α} (h : x.Ends m o n)
    (hn : { n with trace := [] } = { n' with trace := [] }) : x.Ends m o n' := by
  intro events
  obtain ⟨behind, hbehind⟩ := h events
  have hsame : { n with trace := behind } = { n' with trace := behind } :=
    congrArg (fun k : Machine => { k with trace := behind }) hn
  exact ⟨behind, by rw [hbehind, hsame]⟩

theorem within {o : Except ε α} {bindings : Scope} {link : Option Nat}
    (hx : x.Ends (m.enter bindings link) o n) :
    (Exec.within bindings link x).Ends m o n.leave := by
  intro events
  obtain ⟨behind, hbehind⟩ := hx (Machine.enter { m with trace := events } bindings link).trace
  exact ⟨_, congrArg (fun r => (r.1, r.2.leave)) hbehind⟩

end Sequences

/-! ## Expressions -/

section Trees

variable {calls : Calls} {m n n' : Machine} {position : Position}

theorem var {v : Variable} {u : Value} (h : m.lookup v.name = some u) :
    (evalExpr calls (.var v)).Ends m (.ok u) m := by
  have hfound : (Exec.observe fun m => m.lookup v.name : Eval (Option Value)).Ends m
      (.ok (some u)) m := h ▸ .observe fun _ => rfl
  rw [evalExpr]
  exact hfound.bind (.pure u m)

theorem literal (value : Literal) : (evalExpr calls (.literal value position)).Ends m
    (.ok value.value) m := by
  rw [evalExpr]
  exact .pure _ m

theorem binary {left right : Expr} {operator : Operator} {a b : Value}
    (ha : (evalExpr calls left).Ends m (.ok a) n) (hb : (evalExpr calls right).Ends n (.ok b) n') :
    (evalExpr calls (.binary left operator right position)).Ends m
      (operator.apply a b position) n' := by
  rw [evalExpr]
  exact ha.bind (hb.bind (.ofOutcome _ n'))

theorem list {values : List Expr} {o : Except RuntimeError (List Value)}
    (h : (evalExprs calls values).Ends m o n) :
    (evalExpr calls (.list values position)).Ends m (o.map .list) n := by
  rw [evalExpr]
  exact h.map

theorem noEntries : (evalExpr calls (.block ⟨[], position⟩)).Ends m (.ok (.map {})) m := by
  rw [evalExpr, evalEntries]
  exact Exec.Ends.bind (.pure _ m) (.pure _ m)

theorem call {name : String} {arguments : List Expr} {vs : List Value}
    {o : Except RuntimeError Value} (hvs : (evalExprs calls arguments).Ends m (.ok vs) n)
    (h : (calls.named name vs position).Ends n o n') :
    (evalExpr calls (.call ⟨name, arguments, position⟩)).Ends m o n' := by
  rw [evalExpr]
  exact hvs.bind h

theorem noValues : (evalExprs calls []).Ends m (.ok []) m := by
  rw [evalExprs]
  exact .pure _ m

theorem values {e : Expr} {es : List Expr} {v : Value} {o : Except RuntimeError (List Value)}
    (hv : (evalExpr calls e).Ends m (.ok v) n) (hvs : (evalExprs calls es).Ends n o n') :
    (evalExprs calls (e :: es)).Ends m (o.map (v :: ·)) n' := by
  rw [evalExprs]
  exact hv.bind hvs.map

theorem values_error {e : Expr} {es : List Expr} {error : RuntimeError}
    (hv : (evalExpr calls e).Ends m (.error error) n) :
    (evalExprs calls (e :: es)).Ends m (.error error) n := by
  rw [evalExprs]
  exact hv.bind_error

/-- A name that stands for a function, and for no native one. -/
theorem named {name : String} {f : Function} {link : Option Nat} {vs : List Value}
    {o : Except RuntimeError Value} (hfree : m.natives.find? name = none)
    (hfound : m.stack.resolve name = some (link, .function f))
    (h : (calls.user f link vs position).Ends m o n) :
    (calls.named name vs position).Ends m o n := by
  have hnone : (Exec.observe fun m => m.natives.find? name : Eval (Option Native)).Ends m
      (.ok none) m := hfree ▸ .observe fun _ => rfl
  have hsome : (Exec.observe fun m => m.stack.resolve name :
      Eval (Option (Option Nat × Value))).Ends m (.ok (some (link, .function f))) m :=
    hfound ▸ .observe fun _ => rfl
  exact hnone.bind (hsome.bind h)

/-! ## Statements -/

variable {rest : List Statement} {o : Except RuntimeError Flow}

theorem next {s : Statement} (hs : (execute calls s).Ends m (.ok .normal) n)
    (hrest : (evalStatements calls rest).Ends n o n') :
    (evalStatements calls (s :: rest)).Ends m o n' := by
  rw [evalStatements]
  exact (Exec.Ends.record _ m).bind (hs.bind hrest)

/-- No statement follows one that returns or fails. -/
theorem last {s : Statement} {o : Except RuntimeError Value}
    (hs : (execute calls s).Ends m (o.map .returned) n) :
    (evalStatements calls (s :: rest)).Ends m (o.map .returned) n := by
  rw [evalStatements]
  refine (Exec.Ends.record _ m).bind ?_
  cases o with
  | ok v => exact hs.bind (.pure _ n)
  | error e => exact hs.bind_error

theorem newLine (hrest : (evalStatements calls rest).Ends m o n) :
    (evalStatements calls (.newLine position :: rest)).Ends m o n := by
  refine .next ?_ hrest
  rw [execute]
  exact .pure _ m

theorem function {f : Function} {name : String} (hname : f.name = name)
    (hrest : (evalStatements calls rest).Ends (m.assign name (.function f)) o n) :
    (evalStatements calls (.function f :: rest)).Ends m o n := by
  subst hname
  refine .next ?_ hrest
  rw [execute]
  exact (Exec.Ends.assign f.name (.function f) m).bind (.pure _ _)

theorem assignName {v : Variable} {e : Expr} {u : Value}
    (he : (evalExpr calls e).Ends m (.ok u) n) :
    (execute calls (.assign (.var v) e position)).Ends m (.ok .normal) (n.assign v.name u) := by
  rw [execute]
  refine he.bind (Exec.Ends.bind (a := ()) ?_ (.pure _ _))
  rw [evalAssign]
  exact .assign v.name u n

/-- An assignment to a member of what a name stands for, under a key. -/
theorem assignIndex {v : Variable} {key e : Expr} {place : Position} {old k u new : Value}
    (he : (evalExpr calls e).Ends m (.ok u) m) (hold : m.lookup v.name = some old)
    (hkey : (evalExpr calls key).Ends m (.ok k) m) (hnew : old.write k u place = .ok new) :
    (execute calls (.assign (.field (.var v) (.index key) place) e position)).Ends m (.ok .normal)
      (m.assign v.name new) := by
  have hplace : (evalPlace calls (.var v)).Ends m (.ok old) m := by
    have hfound : (m.lookup v.name).getD .nil = old := by
      rw [hold]
      rfl
    rw [evalPlace]
    exact hfound ▸ Exec.Ends.observe fun _ => rfl
  have hwrite : (evalWrite calls old u place (.index key)).Ends m (.ok new) m := by
    rw [evalWrite]
    exact hkey.bind (hnew ▸ .ofOutcome _ m)
  have hstore : (evalAssign calls new (.var v)).Ends m (.ok ()) (m.assign v.name new) := by
    rw [evalAssign]
    exact .assign v.name new m
  rw [execute]
  refine he.bind (Exec.Ends.bind (a := ()) ?_ (.pure _ _))
  rw [evalAssign]
  exact hplace.bind (hwrite.bind hstore)

theorem exit {e : Expr} {o : Except RuntimeError Value} (h : (evalExpr calls e).Ends m o n) :
    (evalStatements calls (.exit (some e) position :: rest)).Ends m (o.map .returned) n := by
  refine .last ?_
  rw [execute]
  exact h.map

theorem conditional_true {condition : Expr} {body : Block} {o : Except RuntimeError Value}
    (hcondition : (evalExpr calls condition).Ends m (.ok (.bool true)) m)
    (hbody : (evalStatements calls body.statements).Ends m (o.map .returned) n) :
    (evalStatements calls (.conditional condition body none position :: rest)).Ends m
      (o.map .returned) n := by
  obtain ⟨statements, p⟩ := body
  refine .last ?_
  rw [execute]
  exact hcondition.bind hbody

theorem conditional_false {condition : Expr} {body : Block}
    (hcondition : (evalExpr calls condition).Ends m (.ok (.bool false)) m)
    (hrest : (evalStatements calls rest).Ends m o n) :
    (evalStatements calls (.conditional condition body none position :: rest)).Ends m o n := by
  obtain ⟨statements, p⟩ := body
  refine .next ?_ hrest
  rw [execute]
  exact hcondition.bind (.pure _ m)

end Trees

/-! ## Calls and programs -/

section Calls

variable {limit left : Nat} {native : Nat → NativeCalls} {f : Function} {link : Option Nat}
variable {arguments : List Value} {site : Position} {m n : Machine}

theorem checkCall (hlength : arguments.length = f.parameters.length) :
    (f.checkCall limit arguments site).Ends m
      (if m.openCalls < limit then .ok () else .error (.callDepth limit site)) m := by
  rw [Function.checkCall, if_pos hlength]
  refine Exec.Ends.bind (.observe fun _ => rfl) ?_
  split
  · exact .pure _ m
  · exact .throw _ m

/-- A call is refused when as many calls are open as may be. -/
theorem refused (hlength : arguments.length = f.parameters.length) (hopen : limit ≤ m.openCalls) :
    (callUser limit native left f link arguments site).Ends m (.error (.callDepth limit site))
      m := by
  have hcheck : (f.checkCall limit arguments site).Ends m (.error (.callDepth limit site)) m := by
    have hends : (f.checkCall limit arguments site).Ends m _ m := .checkCall hlength
    rwa [if_neg (Nat.not_lt.mpr hopen)] at hends
  cases left <;> exact hcheck.bind_error

/-- A call whose body returns or fails, and changes no more than its own frame, leaves everything as
it was. -/
theorem user {o : Except RuntimeError Value} (hlength : arguments.length = f.parameters.length)
    (hopen : m.openCalls < limit)
    (hbody : (evalStatements { user := callUser limit native left, native := native left }
      f.body.statements).Ends (m.enter (f.bind arguments) link) (o.map .returned) n)
    (hn : { n.leave with trace := [] } = { m with trace := [] }) :
    (callUser limit native (left + 1) f link arguments site).Ends m o m := by
  have hcheck : (f.checkCall limit arguments site).Ends m (.ok ()) m := by
    have hends : (f.checkCall limit arguments site).Ends m _ m := .checkCall hlength
    rwa [if_pos hopen] at hends
  rw [callUser]
  refine hcheck.bind ?_
  cases o with
  | ok v => exact (hbody.within.congr hn).bind ((Exec.Ends.record _ m).bind (.ofOutcome _ m))
  | error e => exact (hbody.within.congr hn).bind_error

/-- A program that returns or fails. -/
theorem run {env : Environment} {source : String} {program : Program}
    {o : Except RuntimeError Value} (hparse : parse source = .ok program)
    (h : (evalStatements env.calls program).Ends m (o.map .returned) n) :
    (env.run source).Ends m (o.mapError .runtime) n := by
  have hannounce : (env.announce : Exec Failure Unit).Ends m (.ok ()) m := by
    refine Exec.Ends.bind (.observe fun _ => rfl) ?_
    split
    · exact .record _ m
    · exact .pure _ m
  rw [Environment.run, Environment.runSource, Environment.runRead, hparse]
  refine hannounce.bind (Exec.Ends.bind (.ofOutcome _ m) (Exec.Ends.mapError ?_ _))
  cases o with
  | ok v => exact h.bind (.ofOutcome _ n)
  | error e => exact h.bind_error

end Calls

end Exec.Ends

end Scriptlet
