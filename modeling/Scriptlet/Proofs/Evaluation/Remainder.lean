import Scriptlet.Proofs.Evaluation.Parts

/-!
# What an evaluation does behind a part

Behind a part, an evaluation goes on from the machine that the part has left, with further steps or
with none. So a property that steps keep, and that holds behind a part, holds behind the whole
(`Part.rest_keeps`, `ActionPart.rest_keeps`). Nothing has to hold where the whole starts.
-/

namespace Scriptlet

namespace Upkeep

variable {U : Upkeep} {c : U.Context} {ε α β : Type} {m : Machine}

theorem Keeps.pure {a : α} : U.Keeps (Pure.pure a : Exec ε α) :=
  fun _ _ h => h

theorem Keeps.throw {e : ε} : U.Keeps (MonadExcept.throw e : Exec ε α) :=
  fun _ _ h => h

theorem Keeps.ofOutcome {o : Except ε α} : U.Keeps (Exec.ofOutcome o) :=
  fun _ _ h => h

/-- Steps that go on from a machine with the property. -/
theorem holds_rest {x : Exec ε α} {f : α → Exec ε β} (hx : U.holds c (x.on m).2)
    (hf : ∀ a, U.Keeps (f a)) : U.holds c ((x >>= f).on m).2 := by
  rw [Exec.on_bind]
  generalize x.on m = r at hx
  obtain ⟨o, m'⟩ := r
  cases o with
  | ok a => exact hf a c m' hx
  | error e => exact hx

theorem Keeps.bind {x : Exec ε α} {f : α → Exec ε β} (hx : U.Keeps x) (hf : ∀ a, U.Keeps (f a)) :
    U.Keeps (x >>= f) :=
  fun c m h => holds_rest (hx c m h) hf

end Upkeep

open Upkeep (holds_rest)

variable {U : Upkeep} {c : U.Context} {env : Environment} {calls : Calls}
variable {w w' : Work} {m m' : Machine}

/-- A work keeps the property if calls do. -/
theorem Work.keeps (env : Environment) (hcalls : U.coupling.SameCalls calls calls) (w : Work)
    (c : U.Context) (m : Machine) (h : U.holds c m) : U.holds c (w.after env calls m) :=
  (w.after_keeps env U.hosted hcalls (c := c) ⟨rfl, h⟩ (w.linked_of_forall fun _ => trivial)).2

/-! ## Sources -/

/-- Taking the value from how statements end leaves the machine alone. -/
theorem on_flowValue (x : Eval Flow) (m : Machine) :
    ((do
      let flow ← x
      Exec.ofOutcome flow.value : Eval Value).on m).2 = (x.on m).2 := by
  rw [Exec.on_bind]
  generalize x.on m = r
  obtain ⟨o, m'⟩ := r
  cases o with
  | ok flow => rfl
  | error e => rfl

theorem Environment.on_runRead (env : Environment) (calls : Calls) (program : Program)
    (m : Machine) :
    ((env.runRead calls (.ok program)).on m).2 =
      ((evalStatements calls program).on (env.announced m)).2 := by
  rw [runRead, Exec.on_bind_ok (env.on_announce m)]
  exact on_flowValue (evalStatements calls program) (env.announced m)

theorem Environment.on_runRead_error (env : Environment) (calls : Calls) (e : ParseError)
    (m : Machine) : ((env.runRead calls (.error e)).on m).2 = env.announced m := by
  rw [runRead, Exec.on_bind_ok (env.on_announce m)]
  rfl

/-- Reading a source, and running what has been read. -/
theorem Environment.on_runSource (env : Environment) (calls : Calls) (source : String)
    (m : Machine) :
    (env.runSource calls source).on m =
      match parse source with
      | .ok program =>
        (((runProgram calls program).on (env.announced m)).1.mapError .runtime,
          ((runProgram calls program).on (env.announced m)).2)
      | .error e => (.error (.parse e), env.announced m) := by
  rw [runSource, runRead, Exec.on_bind_ok (env.on_announce m)]
  cases parse source with
  | ok program => rfl
  | error e => rfl

theorem eq_ok_of_toOption {ε α : Type} {x : Except ε α} {a : α} (h : x.toOption = some a) :
    x = .ok a := by
  cases x with
  | ok b =>
    cases h
    rfl
  | error e => cases h

/-- Running something leaves the machine as its evaluation does. -/
theorem Environment.after_of_given? {work : Runnable} (h : env.given? m work = some (w, m')) :
    ((env.runGiven calls work).on m).2 = w.after env calls m' := by
  cases work with
  | source text =>
    obtain ⟨program, hread, he⟩ := Option.map_eq_some_iff.mp h
    cases he
    rw [runGiven, runSource, eq_ok_of_toOption hread]
    exact env.on_runRead calls program m
  | octets octets =>
    obtain ⟨program, hread, he⟩ := Option.map_eq_some_iff.mp h
    cases he
    rw [runGiven, eq_ok_of_toOption hread]
    exact env.on_runRead calls program m
  | program program =>
    cases h
    exact env.on_runRead calls program m
  | statement s =>
    rw [runGiven, Exec.on_bind_ok (env.on_announce m)]
    cases s with
    | expression e =>
      cases h
      rfl
    | _ =>
      cases h
      exact on_flowValue (evalStatement calls _) (env.announced m)

/-! ## Loops -/

/-- What happens behind the body of a loop in a round. -/
def Flow.goOn (next : Eval Flow) : Flow → Eval Flow
  | .broke _ => pure .normal
  | .returned result => pure (.returned result)
  | .normal => next
  | .continued _ => next

theorem Flow.goOn_eq {flow : Flow} (h : flow.goesOn) (next : Eval Flow) :
    flow.goOn next = next := by
  cases flow with
  | normal | continued _ => rfl
  | returned _ | broke _ => cases h

theorem Flow.goOn_keeps {next : Eval Flow} (h : U.Keeps next) (flow : Flow) :
    U.Keeps (flow.goOn next) := by
  cases flow with
  | normal | continued _ => exact h
  | returned _ | broke _ => exact .pure

/-- The rounds of a loop, from the machine on which the body of the first starts. -/
theorem on_runLoop_cons (index : Option Variable) (item : Variable) (body : Eval Flow)
    (pair : Value × Value) (rest : List (Value × Value)) (m : Machine) :
    (runLoop index item body (pair :: rest)).on m =
      (body >>= Flow.goOn (runLoop index item body rest)).on (m.inRound index item pair) := by
  have hgoOn : (fun flow : Flow => match flow with
      | .broke _ => (pure .normal : Eval Flow)
      | .returned result => pure (.returned result)
      | .normal => runLoop index item body rest
      | .continued _ => runLoop index item body rest) =
      Flow.goOn (runLoop index item body rest) := by
    funext flow
    cases flow <;> rfl
  rw [← hgoOn]
  cases index <;> rfl

/-! ## Parts of works -/

theorem Part.named_rest {name : String} {vs : List Value} {site : Position}
    (h : Part calls (.named name vs site) m w' m') (hpart : U.holds c (w'.after env calls m')) :
    U.holds c (Work.after env calls m (.named name vs site)) := by
  cases h with
  | registered hfound =>
    simp only [Work.after, Calls.named, Exec.on_bind, Exec.on_observe, hfound]
    exact hpart
  | resolved hfree hfound =>
    simp only [Work.after, Calls.named, Exec.on_bind, Exec.on_observe, hfree, hfound]
    exact hpart

theorem Part.method_rest {o : Value} {name : String} {vs : List Value} {site : Position}
    (h : Part calls (.method o name vs site) m w' m') (hpart : U.holds c (w'.after env calls m')) :
    U.holds c (Work.after env calls m (.method o name vs site)) := by
  cases h with
  | own hfound =>
    simp only [Work.after, Calls.method, hfound]
    exact hpart
  | byName hmissing =>
    simp only [Work.after, Calls.method, hmissing]
    exact hpart

section

variable (hcalls : U.coupling.SameCalls calls calls)
include hcalls

theorem Part.expr_rest {e : Expr} (h : Part calls (.expr e) m w' m')
    (hpart : U.holds c (w'.after env calls m')) : U.holds c (Work.after env calls m (.expr e)) := by
  have keeps := Work.keeps env hcalls
  cases h with
  | left =>
    rw [Work.after, evalExpr]
    exact holds_rest hpart fun a => .bind (keeps (.expr _)) fun b => .ofOutcome
  | right hx =>
    rw [Work.after, evalExpr, Exec.on_bind_ok hx]
    exact holds_rest hpart fun b => .ofOutcome
  | values =>
    rw [Work.after, evalExpr]
    exact holds_rest hpart fun vs => .pure
  | @block b =>
    obtain ⟨ss, p⟩ := b
    rw [Work.after, evalExpr]
    exact holds_rest hpart fun entries => .pure
  | @arguments d =>
    obtain ⟨name, es, p⟩ := d
    rw [Work.after, evalExpr]
    exact holds_rest hpart fun vs => keeps (.named _ _ _)
  | @call d _ _ _ hx =>
    obtain ⟨name, es, p⟩ := d
    rw [Work.after, evalExpr, Exec.on_bind_ok hx]
    exact hpart
  | object hother =>
    rw [Work.after, evalExpr]
    simp only [hother]
    exact holds_rest hpart fun v => keeps (.member _ _ _)
  | owner =>
    rw [Work.after, evalExpr]
    exact hpart
  | member hother hx =>
    rw [Work.after, evalExpr]
    simp only [hother]
    rw [Exec.on_bind_ok hx]
    exact hpart

theorem Part.exprs_rest {es : List Expr} (h : Part calls (.exprs es) m w' m')
    (hpart : U.holds c (w'.after env calls m')) :
    U.holds c (Work.after env calls m (.exprs es)) := by
  have keeps := Work.keeps env hcalls
  cases h with
  | head =>
    rw [Work.after, evalExprs]
    exact holds_rest hpart fun v => .bind (keeps (.exprs _)) fun vs => .pure
  | tail hx =>
    rw [Work.after, evalExprs, Exec.on_bind_ok hx]
    exact holds_rest hpart fun vs => .pure

theorem Part.member_rest {o : Value} {p : Position} {member : Member}
    (h : Part calls (.member o p member) m w' m') (hpart : U.holds c (w'.after env calls m')) :
    U.holds c (Work.after env calls m (.member o p member)) := by
  have keeps := Work.keeps env hcalls
  cases h with
  | key =>
    rw [Work.after, evalMember]
    exact holds_rest hpart fun k => .ofOutcome
  | @memberArguments _ _ d =>
    obtain ⟨name, es, p⟩ := d
    rw [Work.after, evalMember]
    exact holds_rest hpart fun vs => keeps (.method _ _ _ _)
  | @memberCall _ _ d _ _ _ hx =>
    obtain ⟨name, es, p⟩ := d
    rw [Work.after, evalMember, Exec.on_bind_ok hx]
    exact hpart

theorem Part.entries_rest {found : Mapping Value} {ss : List Statement}
    (h : Part calls (.entries found ss) m w' m') (hpart : U.holds c (w'.after env calls m')) :
    U.holds c (Work.after env calls m (.entries found ss)) := by
  have keeps := Work.keeps env hcalls
  cases h with
  | entry =>
    rw [Work.after, evalEntries]
    exact holds_rest hpart fun v => keeps (.entries _ _)
  | entriesBehind hx =>
    rw [Work.after, evalEntries, Exec.on_bind_ok hx]
    exact hpart
  | @entriesBehindTrivia _ s _ _ htrivia =>
    cases s with
    | newLine _ | comment _ =>
      rw [Work.after, evalEntries]
      exact hpart
    | _ => cases htrivia

theorem Part.statement_rest {s : Statement} (h : Part calls (.statement s) m w' m')
    (hpart : U.holds c (w'.after env calls m')) :
    U.holds c (Work.after env calls m (.statement s)) := by
  have keeps := Work.keeps env hcalls
  cases h with
  | assigned =>
    rw [Work.after, execute]
    exact holds_rest hpart fun v => .bind (keeps (.store _ _)) fun _ => .pure
  | assign hx =>
    rw [Work.after, execute, Exec.on_bind_ok hx]
    exact holds_rest hpart fun _ => .pure
  | function =>
    rw [Work.after, execute]
    exact hpart
  | @condition _ b o =>
    obtain ⟨ss, p⟩ := b
    cases o with
    | none =>
      rw [Work.after, execute]
      refine holds_rest hpart fun v => .bind .ofOutcome fun taken => ?_
      cases taken with
      | true => exact keeps (.statements _)
      | false => exact .pure
    | some o =>
      obtain ⟨ss', p'⟩ := o
      rw [Work.after, execute]
      refine holds_rest hpart fun v => .bind .ofOutcome fun taken => ?_
      cases taken with
      | true => exact keeps (.statements _)
      | false => exact keeps (.statements _)
  | @body _ b o _ _ _ hx =>
    obtain ⟨ss, p⟩ := b
    cases o with
    | none =>
      rw [Work.after, execute, Exec.on_bind_ok hx]
      exact hpart
    | some o =>
      obtain ⟨ss', p'⟩ := o
      rw [Work.after, execute, Exec.on_bind_ok hx]
      exact hpart
  | @otherwise _ b o _ _ _ hx =>
    obtain ⟨ss, p⟩ := b
    obtain ⟨ss', p'⟩ := o
    rw [Work.after, execute, Exec.on_bind_ok hx]
    exact hpart
  | @iterable _ _ _ b =>
    obtain ⟨ss, p⟩ := b
    rw [Work.after, execute]
    refine holds_rest hpart fun v => ?_
    cases v.pairs? with
    | some pairs => exact keeps (.rounds _ _ _ pairs)
    | none => exact .throw
  | @rounds _ _ _ b _ _ _ _ _ hx hpairs =>
    obtain ⟨ss, p⟩ := b
    rw [Work.after, execute, Exec.on_bind_ok hx]
    simp only [hpairs]
    exact hpart
  | result | expression =>
    rw [Work.after, execute]
    exact holds_rest hpart fun v => .pure

theorem Part.statements_rest {ss : List Statement} (h : Part calls (.statements ss) m w' m')
    (hpart : U.holds c (w'.after env calls m')) :
    U.holds c (Work.after env calls m (.statements ss)) := by
  have keeps := Work.keeps env hcalls
  cases h with
  | first =>
    rw [Work.after, evalStatements, Exec.on_bind_ok (Exec.on_record _ _)]
    refine holds_rest hpart fun flow => ?_
    cases flow with
    | normal => exact keeps (.statements _)
    | _ => exact .pure
  | next hx =>
    rw [Work.after, evalStatements, Exec.on_bind_ok (Exec.on_record _ _), Exec.on_bind_ok hx]
    exact hpart

/-- From the machine on which the body of a loop starts to the end of the loop. -/
theorem holds_rounds {index : Option Variable} {item : Variable} {body : List Statement}
    {pair : Value × Value} {rest : List (Value × Value)}
    (h : U.holds c (m.inRound index item pair)) :
    U.holds c (Work.after env calls m (.rounds index item body (pair :: rest))) := by
  have keeps := Work.keeps env hcalls
  rw [Work.after, on_runLoop_cons]
  exact Upkeep.Keeps.bind (keeps (.statements body))
    (Flow.goOn_keeps (keeps (.rounds index item body rest))) c _ h

theorem Part.rounds_rest {index : Option Variable} {item : Variable} {body : List Statement}
    {pairs : List (Value × Value)} (h : Part calls (.rounds index item body pairs) m w' m')
    (hpart : U.holds c (w'.after env calls m')) :
    U.holds c (Work.after env calls m (.rounds index item body pairs)) := by
  have keeps := Work.keeps env hcalls
  cases h with
  | roundIndex => exact holds_rounds hcalls (U.assign item.name _ hpart)
  | roundItem => exact holds_rounds hcalls hpart
  | round =>
    rw [Work.after, on_runLoop_cons]
    exact holds_rest hpart (Flow.goOn_keeps (keeps (.rounds _ _ _ _)))
  | nextRound hx hflow =>
    rw [Work.after, on_runLoop_cons, Exec.on_bind_ok hx, Flow.goOn_eq hflow]
    exact hpart

theorem Part.store_rest {v : Value} {target : Expr} (h : Part calls (.store v target) m w' m')
    (hpart : U.holds c (w'.after env calls m')) :
    U.holds c (Work.after env calls m (.store v target)) := by
  have keeps := Work.keeps env hcalls
  cases h with
  | storeBinding =>
    rw [Work.after, evalAssign]
    exact hpart
  | storeInside =>
    rw [Work.after, evalAssign]
    exact holds_rest hpart fun old => .bind (keeps (.write _ _ _ _)) fun new => keeps (.store _ _)
  | storeWrite hold =>
    rw [Work.after, evalAssign, Exec.on_bind_ok hold]
    exact holds_rest hpart fun new => keeps (.store _ _)
  | storeOuter hold hnew =>
    rw [Work.after, evalAssign, Exec.on_bind_ok hold, Exec.on_bind_ok hnew]
    exact hpart

theorem Part.place_rest {target : Expr} (h : Part calls (.place target) m w' m')
    (hpart : U.holds c (w'.after env calls m')) :
    U.holds c (Work.after env calls m (.place target)) := by
  have keeps := Work.keeps env hcalls
  cases h with
  | placeInside =>
    rw [Work.after, evalPlace]
    refine holds_rest hpart fun v => ?_
    split
    · exact .pure
    · exact keeps (.member _ _ _)
  | placeMember hx hthere =>
    rw [Work.after, evalPlace, Exec.on_bind_ok hx, hthere]
    exact hpart

theorem Part.write_rest {o v : Value} {p : Position} {member : Member}
    (h : Part calls (.write o v p member) m w' m') (hpart : U.holds c (w'.after env calls m')) :
    U.holds c (Work.after env calls m (.write o v p member)) := by
  have keeps := Work.keeps env hcalls
  cases h with
  | writeKey =>
    rw [Work.after, evalWrite]
    exact holds_rest hpart fun k => .ofOutcome

/-- What holds behind a part of a work holds behind the work. -/
theorem Part.rest_keeps (h : Part calls w m w' m') (hpart : U.holds c (w'.after env calls m')) :
    U.holds c (w.after env calls m) := by
  cases w with
  | expr => exact h.expr_rest hcalls hpart
  | exprs => exact h.exprs_rest hcalls hpart
  | member => exact h.member_rest hcalls hpart
  | entries => exact h.entries_rest hcalls hpart
  | statement => exact h.statement_rest hcalls hpart
  | statements => exact h.statements_rest hcalls hpart
  | rounds => exact h.rounds_rest hcalls hpart
  | store => exact h.store_rest hcalls hpart
  | place => exact h.place_rest hcalls hpart
  | write => exact h.write_rest hcalls hpart
  | named => exact h.named_rest hpart
  | method => exact h.method_rest hpart
  | callee => cases h <;> exact hpart
  | bind | user | native | action => cases h

/-! ## Parts of what functions of the host do -/

/-- What holds behind a part of what a function of the host does holds behind all of it. -/
theorem ActionPart.rest_keeps {a : Action} (h : ActionPart env calls a m w' m')
    (hpart : U.holds c (w'.after env calls m')) :
    U.holds c (Work.after env calls m (.action a)) := by
  have keeps := Work.keeps env hcalls
  cases h with
  | push | pop | bound | lookup | scopeDepth | callSite | isDebug => exact hpart
  | @bind name v next m => exact keeps (.action next) c (m.assign name v) hpart
  | @given work next m _ _ hgiven =>
    have hrun : U.holds c ((env.runGiven calls work).on m).2 := env.after_of_given? hgiven ▸ hpart
    rw [Work.after, Environment.perform]
    exact holds_rest hrun fun outcome => keeps (.action _)
  | ran hx | flowed hx | evaluated hx | called hx | register hx =>
    rw [Work.after, Environment.perform, Exec.on_bind, Exec.on_attempt, hx]
    exact hpart
  | flow | evaluate | call =>
    rw [Work.after, Environment.perform]
    exact holds_rest hpart fun outcome => keeps (.action _)

end

end Scriptlet
