import Scriptlet.Evaluation.Call
import Scriptlet.Proofs.Evaluation.Vocabulary

/-!
# Runs in lockstep

Two runs of the same tree on different machines do the same as long as the machines agree on what
the tree asks them: what names stand for, and which native functions there are. A *coupling* is a
relation between machines that says so, and that the steps of evaluation keep. The relation may
depend on the calls that are open, which is what its contexts are for.

`SameCalls.evalExpr_lockstep` and its companions are the induction on trees, and
`Coupling.callUser_sameCalls` the one on the calls that may still be opened. A property of single
runs is a coupling of a machine with itself.
-/

namespace Scriptlet

/-- Two runs have ended alike: with the same outcome, whose value satisfies `P`, and in related
states. -/
inductive Alike {ε α : Type} (R : Machine → Machine → Prop) (P : α → Prop) :
    Except ε α × Machine → Except ε α × Machine → Prop
  | ok {a : α} {m m' : Machine} (value : P a) (states : R m m') : Alike R P (.ok a, m) (.ok a, m')
  | error {e : ε} {m m' : Machine} (states : R m m') : Alike R P (.error e, m) (.error e, m')

/-- From related states, the two computations end alike. -/
def Exec.Lockstep {ε α : Type} (R : Machine → Machine → Prop) (P : α → Prop) (x y : Exec ε α) :
    Prop :=
  ∀ m m', R m m' → Alike R P (x.on m) (y.on m')

namespace Alike

variable {ε α : Type} {R : Machine → Machine → Prop} {P : α → Prop}
variable {r r' : Except ε α × Machine}

theorem states_rel (h : Alike R P r r') : R r.2 r'.2 := by
  cases h with
  | ok _ states => exact states
  | error states => exact states

theorem outcome_eq (h : Alike R P r r') : r.1 = r'.1 := by
  cases h <;> rfl

theorem value_of_eq_ok (h : Alike R P r r') {a : α} (ha : r.1 = .ok a) : P a := by
  cases h with
  | ok value _ =>
    cases ha
    exact value
  | error _ => cases ha

theorem intro {o : Except ε α} {m m' : Machine} (value : ∀ a, o = .ok a → P a) (states : R m m') :
    Alike R P (o, m) (o, m') := by
  cases o with
  | ok a => exact .ok (value a rfl) states
  | error e => exact .error states

end Alike

namespace Exec.Lockstep

variable {ε ε' α β : Type} {R : Machine → Machine → Prop} {P : α → Prop} {Q : β → Prop}

theorem pure {a : α} (h : P a) : Lockstep R P (Pure.pure a : Exec ε α) (Pure.pure a) :=
  fun _ _ hR => .ok h hR

theorem throw {e : ε} : Lockstep R P (MonadExcept.throw e : Exec ε α) (MonadExcept.throw e) :=
  fun _ _ hR => .error hR

theorem bind {x y : Exec ε α} {f g : α → Exec ε β} (hx : Lockstep R P x y)
    (hf : ∀ a, P a → Lockstep R Q (f a) (g a)) : Lockstep R Q (x >>= f) (y >>= g) := by
  intro m m' hR
  rw [on_bind, on_bind]
  have h := hx m m' hR
  generalize x.on m = r at h
  generalize y.on m' = r' at h
  cases h with
  | ok value states => exact hf _ value _ _ states
  | error states => exact .error states

theorem mono {P' : α → Prop} {x y : Exec ε α} (hP : ∀ a, P a → P' a) (h : Lockstep R P x y) :
    Lockstep R P' x y := by
  intro m m' hR
  have h := h m m' hR
  generalize x.on m = r at h
  generalize y.on m' = r' at h
  cases h with
  | ok value states => exact .ok (hP _ value) states
  | error states => exact .error states

theorem ofOutcome {o : Except ε α} (h : ∀ a, o = .ok a → P a) :
    Lockstep R P (Exec.ofOutcome o) (Exec.ofOutcome o) :=
  fun _ _ hR => .intro h hR

theorem observe {f : Machine → α} (h : ∀ m m', R m m' → f m = f m' ∧ P (f m)) :
    Lockstep R P (Exec.observe f : Exec ε α) (Exec.observe f) := by
  intro m m' hR
  obtain ⟨heq, hP⟩ := h m m' hR
  simp only [on_observe, ← heq]
  exact .ok hP hR

theorem update {f g : Machine → Machine} (h : ∀ m m', R m m' → R (f m) (g m')) :
    Lockstep R (fun _ => True) (Exec.update f : Exec ε Unit) (Exec.update g) :=
  fun m m' hR => .ok trivial (h m m' hR)

theorem attempt {x y : Exec ε α} (h : Lockstep R P x y) :
    Lockstep R (fun o => ∀ a, o = .ok a → P a) (x.attempt : Exec ε' (Except ε α)) y.attempt := by
  intro m m' hR
  have h := h m m' hR
  simp only [on_attempt, h.outcome_eq]
  exact .ok (fun a ha => h.value_of_eq_ok (h.outcome_eq.trans ha)) h.states_rel

theorem mapError {f : ε → ε'} {x y : Exec ε α} (h : Lockstep R P x y) :
    Lockstep R P (x.mapError f) (y.mapError f) := by
  intro m m' hR
  have h := h m m' hR
  show Alike R P ((x.on m).1.mapError f, (x.on m).2) ((y.on m').1.mapError f, (y.on m').2)
  generalize x.on m = r at h
  generalize y.on m' = r' at h
  cases h with
  | ok value states => exact .ok value states
  | error states => exact .error states

end Exec.Lockstep

/-- The value with which statements end, if they end in the statement `return`, is within the
vocabulary. -/
def Flow.Within (w : Vocabulary) : Flow → Prop
  | .returned value => value.Within w
  | _ => True

theorem Flow.Within.value {w : Vocabulary} {flow : Flow} (h : flow.Within w) {v : Value}
    (hv : flow.value = .ok v) : v.Within w := by
  cases flow with
  | normal =>
    cases hv
    simp
  | returned u =>
    cases hv
    exact h
  | broke _ => cases hv
  | continued _ => cases hv

/-- The bindings with which a call starts are within the vocabulary of the arguments. -/
theorem Function.bind_within {w : Vocabulary} {f : Function} {arguments : List Value}
    (ha : ∀ a ∈ arguments, a.Within w) : ∀ e ∈ (f.bind arguments).entries, e.2.Within w := by
  intro e he
  exact ha _ (List.of_mem_zip (Mapping.mem_ofList he)).2

/-- Whether an event tells a number of scopes. -/
def Event.tellsDepth : Event → Bool
  | popRefused _ => true
  | pushed _ => true
  | popped _ => true
  | entered _ => true
  | left _ => true
  | _ => false

/-- A relation between machines that agree on the names and native functions of a vocabulary. -/
structure Coupling (w : Vocabulary) where
  /-- The circumstances of a step, such as the calls that are open. -/
  Context : Type
  /-- Machines that are related under these circumstances. -/
  rel : Context → Machine → Machine → Prop
  /-- The links with which a function may be called under these circumstances. -/
  mayLink : Context → Option Nat → Prop
  mayLink_none : ∀ c, mayLink c none
  resolve : ∀ {c m m' name}, rel c m m' → w.names name →
    m.stack.resolve name = m'.stack.resolve name
  resolved : ∀ {c m m' name link v}, rel c m m' → w.names name →
    m.stack.resolve name = some (link, v) → mayLink c link ∧ v.Within w
  natives : ∀ {c m m' name}, rel c m m' → w.names name →
    m.natives.find? name = m'.natives.find? name
  native : ∀ {c m m' name n}, rel c m m' → w.names name → m.natives.find? name = some n →
    w.natives n
  openCalls : ∀ {c m m'}, rel c m m' → m.openCalls = m'.openCalls
  assign : ∀ {c m m'} (name : String) {v : Value}, rel c m m' → v.Within w →
    rel c (m.assign name v) (m'.assign name v)
  record : ∀ {c m m'} {e : Event}, rel c m m' → e.tellsDepth = false →
    rel c (m.record e) (m'.record e)
  /-- Within a call of a function another context applies, and this one again behind it. -/
  enter : ∀ {c m m'} {bindings : Scope} {link : Option Nat}, rel c m m' → mayLink c link →
    (∀ e ∈ bindings.entries, e.2.Within w) →
    ∃ d, rel d (m.enter bindings link) (m'.enter bindings link) ∧
      ∀ n n', rel d n n' → rel c n.leave n'.leave
  /-- Within a call of a native function another context applies, and this one again behind it. -/
  callFrom : ∀ {c m m'} (site : Position), rel c m m' →
    ∃ d, rel d { m with callSite := site } { m' with callSite := site } ∧
      ∀ n n', rel d n n' →
        rel c { n with callSite := m.callSite } { n' with callSite := m'.callSite }

namespace Coupling

variable {w : Vocabulary} (K : Coupling w)

/-- Two sides on which calls do the same. -/
structure SameCalls (calls calls' : Calls) : Prop where
  user : ∀ {c} (f : Function) {link : Option Nat} {arguments : List Value} (site : Position),
    (∀ n ∈ f.names, w.names n) → K.mayLink c link → (∀ a ∈ arguments, a.Within w) →
    Exec.Lockstep (K.rel c) (·.Within w) (calls.user f link arguments site)
      (calls'.user f link arguments site)
  native : ∀ {c} {n : Native} {arguments : List Value} (site : Position),
    w.natives n → (∀ a ∈ arguments, a.Within w) →
    Exec.Lockstep (K.rel c) (·.Within w) (calls.native n arguments site)
      (calls'.native n arguments site)

variable {K} {calls calls' : Calls} {c : K.Context}

/-! ## Single steps -/

theorem lookup {m m' : Machine} {name : String} (h : K.rel c m m') (hn : w.names name) :
    m.lookup name = m'.lookup name := by
  rw [Machine.lookup, Machine.lookup, Stack.find?, Stack.find?, K.resolve h hn]

theorem lookup_within {m m' : Machine} {name : String} {v : Value} (h : K.rel c m m')
    (hn : w.names name) (hv : m.lookup name = some v) : v.Within w := by
  obtain ⟨⟨link, u⟩, hr, rfl⟩ := Option.map_eq_some_iff.mp hv
  exact (K.resolved h hn hr).2

theorem record_lockstep {e : Event} (he : e.tellsDepth = false) :
    Exec.Lockstep (K.rel c) (fun _ => True) (Exec.record e : Eval Unit) (Exec.record e) :=
  .update fun _ _ h => K.record h he

theorem assign_lockstep (name : String) {v : Value} (hv : v.Within w) :
    Exec.Lockstep (K.rel c) (fun _ => True) (Exec.update fun m => m.assign name v : Eval Unit)
      (Exec.update fun m => m.assign name v) :=
  .update fun _ _ h => K.assign name h hv

theorem evalVariable_lockstep {v : Variable} (hn : w.names v.name) :
    Exec.Lockstep (K.rel c) (·.Within w) (evalVariable v) (evalVariable v) := by
  refine .bind (P := fun o => ∀ u, o = some u → u.Within w) ?_ fun o ho => ?_
  · exact .observe fun m m' h => ⟨lookup h hn, fun u => lookup_within h hn⟩
  · cases o with
    | some u => exact .pure (ho u rfl)
    | none =>
      refine .bind (P := fun o => ∀ n, o = some n → w.natives n) ?_ fun o ho => ?_
      · exact .observe fun m m' h => ⟨K.natives h hn, fun n => K.native h hn⟩
      · cases o with
        | some n => exact .pure (by simpa using ho n rfl)
        | none => exact .throw

theorem evalOwner_lockstep {v : Variable} (hn : w.names v.name) :
    Exec.Lockstep (K.rel c) (·.Within w) (evalOwner v) (evalOwner v) := by
  refine .observe fun m m' h => ⟨by rw [lookup h hn], ?_⟩
  cases hv : m.lookup v.name with
  | none => simp
  | some u => exact lookup_within h hn hv

namespace SameCalls

variable (hcalls : K.SameCalls calls calls')
include hcalls

theorem value {name : String} {callee : Value} {link : Option Nat} {arguments : List Value}
    {site : Position} (hc : callee.Within w) (hl : K.mayLink c link)
    (ha : ∀ a ∈ arguments, a.Within w) :
    Exec.Lockstep (K.rel c) (·.Within w) (calls.value name callee link arguments site)
      (calls'.value name callee link arguments site) := by
  cases callee with
  | function f => exact hcalls.user f site (by simpa using hc) hl ha
  | native n => exact hcalls.native site (by simpa using hc) ha
  | _ => exact .throw

theorem named {name : String} {arguments : List Value} {site : Position} (hn : w.names name)
    (ha : ∀ a ∈ arguments, a.Within w) :
    Exec.Lockstep (K.rel c) (·.Within w) (calls.named name arguments site)
      (calls'.named name arguments site) := by
  refine .bind (P := fun o => ∀ n, o = some n → w.natives n) ?_ fun o ho => ?_
  · exact .observe fun m m' h => ⟨K.natives h hn, fun n => K.native h hn⟩
  · cases o with
    | some n => exact hcalls.native site (ho n rfl) ha
    | none =>
      refine .bind (P := fun o => ∀ r, o = some r → K.mayLink c r.1 ∧ r.2.Within w) ?_
        fun o ho => ?_
      · exact .observe fun m m' h => ⟨K.resolve h hn, fun r hr => K.resolved h hn hr⟩
      · cases o with
        | some r => exact hcalls.value (ho r rfl).2 (ho r rfl).1 ha
        | none => exact .throw

theorem method {object : Value} {name : String} {arguments : List Value} {site : Position}
    (ho : object.Within w) (hn : w.names name) (ha : ∀ a ∈ arguments, a.Within w) :
    Exec.Lockstep (K.rel c) (·.Within w) (calls.method object name arguments site)
      (calls'.method object name arguments site) := by
  unfold Calls.method
  split
  · rename_i callee hm
    exact hcalls.value (Value.hereditary_within.method? ho hm) (K.mayLink_none c) ha
  · exact hcalls.named hn ha

end SameCalls

/-! ## Trees -/

theorem runLoop_lockstep {index : Option Variable} {item : Variable} {body body' : Eval Flow}
    (hbody : Exec.Lockstep (K.rel c) (Flow.Within w) body body') {pairs : List (Value × Value)}
    (hpairs : ∀ p ∈ pairs, p.1.Within w ∧ p.2.Within w) :
    Exec.Lockstep (K.rel c) (Flow.Within w) (runLoop index item body pairs)
      (runLoop index item body' pairs) := by
  induction pairs with
  | nil => exact .pure trivial
  | cons pair rest ih =>
    obtain ⟨key, value⟩ := pair
    have hrest := ih fun p hm => hpairs p (List.mem_cons_of_mem _ hm)
    obtain ⟨hkey, hvalue⟩ := hpairs (key, value) List.mem_cons_self
    rw [runLoop, runLoop]
    refine .bind (record_lockstep rfl) fun _ _ => ?_
    -- An index is assigned first; from there on the rounds are the same with and without one.
    rcases index with _ | v
    case' some => refine .bind (assign_lockstep v.name hkey) fun _ _ => ?_
    all_goals
      refine .bind (assign_lockstep item.name hvalue) fun _ _ => .bind hbody fun flow hflow => ?_
      cases flow with
      | normal => exact hrest
      | returned result => exact .pure hflow
      | broke _ => exact .pure trivial
      | continued _ => exact hrest

namespace SameCalls

mutual

theorem evalExpr_lockstep (hcalls : K.SameCalls calls calls') :
    ∀ e : Expr, (∀ n ∈ e.names, w.names n) →
    Exec.Lockstep (K.rel c) (·.Within w) (evalExpr calls e) (evalExpr calls' e)
  | .var v, hn => by
    rw [evalExpr, evalExpr]
    exact evalVariable_lockstep (hn v.name (by simp [Expr.names]))
  | .literal value _, _ => by
    rw [evalExpr, evalExpr]
    exact .pure (Literal.value_within value)
  | .binary left o right position, hn => by
    simp only [Expr.names, List.forall_mem_append] at hn
    rw [evalExpr, evalExpr]
    refine .bind (hcalls.evalExpr_lockstep left hn.1) fun a ha => ?_
    refine .bind (hcalls.evalExpr_lockstep right hn.2) fun b hb => ?_
    exact .ofOutcome fun v hv => Value.hereditary_within.apply ha hb hv
  | .list values _, hn => by
    rw [evalExpr, evalExpr]
    exact .bind (hcalls.evalExprs_lockstep values hn) fun vs hvs => .pure (by simpa using hvs)
  | .block ⟨statements, _⟩, hn => by
    rw [evalExpr, evalExpr]
    exact .bind (hcalls.evalEntries_lockstep {} statements (by simp) hn) fun entries he =>
      .pure (by simpa using he)
  | .call ⟨name, arguments, site⟩, hn => by
    simp only [Expr.names, Call.names, List.forall_mem_cons] at hn
    rw [evalExpr, evalExpr]
    exact .bind (hcalls.evalExprs_lockstep arguments hn.2) fun vs hvs => hcalls.named hn.1 hvs
  | .field object member position, hn => by
    simp only [Expr.names, List.forall_mem_append] at hn
    rw [evalExpr, evalExpr]
    cases hv : object.asVariable? with
    | some v =>
      have hname : v.name ∈ object.names := by
        cases object <;> simp [Expr.asVariable?] at hv
        simp [Expr.names, hv]
      exact .bind (evalOwner_lockstep (hn.1 _ hname)) fun u hu =>
        hcalls.evalMember_lockstep position hu member hn.2
    | none =>
      exact .bind (hcalls.evalExpr_lockstep object hn.1) fun u hu =>
        hcalls.evalMember_lockstep position hu member hn.2

theorem evalExprs_lockstep (hcalls : K.SameCalls calls calls') :
    ∀ es : List Expr, (∀ n ∈ namesOfAll es, w.names n) →
    Exec.Lockstep (K.rel c) (fun vs => ∀ v ∈ vs, v.Within w) (evalExprs calls es)
      (evalExprs calls' es)
  | [], _ => by
    rw [evalExprs, evalExprs]
    exact .pure (by simp)
  | e :: es, hn => by
    simp only [namesOfAll, List.forall_mem_append] at hn
    rw [evalExprs, evalExprs]
    refine .bind (hcalls.evalExpr_lockstep e hn.1) fun v hv => ?_
    refine .bind (hcalls.evalExprs_lockstep es hn.2) fun vs hvs => .pure ?_
    simpa using ⟨hv, hvs⟩

theorem evalMember_lockstep (hcalls : K.SameCalls calls calls') {object : Value}
    (position : Position) (ho : object.Within w) :
    ∀ member : Member, (∀ n ∈ member.names, w.names n) →
      Exec.Lockstep (K.rel c) (·.Within w) (evalMember calls object position member)
        (evalMember calls' object position member)
  | .name v, _ => by
    rw [evalMember, evalMember]
    exact .ofOutcome fun u hu => Value.hereditary_within.readName ho hu
  | .index key, hn => by
    rw [evalMember, evalMember]
    exact .bind (hcalls.evalExpr_lockstep key hn) fun k _ =>
      .ofOutcome fun u hu => Value.hereditary_within.readIndex ho hu
  | .call ⟨name, arguments, site⟩, hn => by
    simp only [Member.names, Call.names, List.forall_mem_cons] at hn
    rw [evalMember, evalMember]
    exact .bind (hcalls.evalExprs_lockstep arguments hn.2) fun vs hvs => hcalls.method ho hn.1 hvs

theorem evalEntries_lockstep (hcalls : K.SameCalls calls calls') (entries : Mapping Value) :
    ∀ statements : List Statement, (∀ e ∈ entries.entries, e.2.Within w) →
      (∀ n ∈ namesOfStatements statements, w.names n) →
      Exec.Lockstep (K.rel c) (fun m => ∀ e ∈ m.entries, e.2.Within w)
        (evalEntries calls entries statements) (evalEntries calls' entries statements)
  | [], he, _ => by
    rw [evalEntries, evalEntries]
    exact .pure he
  | .assign target value position :: rest, he, hn => by
    cases target with
    | var key =>
      simp only [namesOfStatements, Statement.names, List.forall_mem_append] at hn
      rw [evalEntries, evalEntries]
      refine .bind (hcalls.evalExpr_lockstep value hn.1) fun v hv => ?_
      refine hcalls.evalEntries_lockstep (entries.insert key.name v) rest (fun e hm => ?_) hn.2
      rcases Mapping.mem_insert hm with rfl | hm
      · exact hv
      · exact he e hm
    | _ =>
      simp only [evalEntries]
      exact .throw
  | .newLine _ :: rest, he, hn => by
    simp only [namesOfStatements, Statement.names, List.nil_append] at hn
    rw [evalEntries, evalEntries]
    exact hcalls.evalEntries_lockstep entries rest he hn
  | .comment _ :: rest, he, hn => by
    simp only [namesOfStatements, Statement.names, List.nil_append] at hn
    rw [evalEntries, evalEntries]
    exact hcalls.evalEntries_lockstep entries rest he hn
  | .function _ :: _, _, _ | .conditional .. :: _, _, _ | .loop .. :: _, _, _
  | .exit .. :: _, _, _ | .stop _ :: _, _, _ | .skip _ :: _, _, _ | .expression _ :: _, _, _ => by
    simp only [evalEntries]
    exact .throw

theorem execute_lockstep (hcalls : K.SameCalls calls calls') :
    ∀ s : Statement, (∀ n ∈ s.names, w.names n) →
    Exec.Lockstep (K.rel c) (Flow.Within w) (execute calls s) (execute calls' s)
  | .assign target value position, hn => by
    rw [execute, execute]
    cases target with
    | var v =>
      simp only [Statement.names] at hn
      refine .bind (hcalls.evalExpr_lockstep value hn) fun v hv => ?_
      exact .bind (hcalls.evalAssign_lockstep hv _ (.inl rfl)) fun _ _ => .pure trivial
    | _ =>
      simp only [Statement.names, List.forall_mem_append] at hn
      refine .bind (hcalls.evalExpr_lockstep value hn.2) fun v hv => ?_
      exact .bind (hcalls.evalAssign_lockstep hv _ (.inr hn.1)) fun _ _ => .pure trivial
  | .function f, hn => by
    rw [execute, execute]
    exact .bind (assign_lockstep f.name (by simpa [Statement.names] using hn)) fun _ _ =>
      .pure trivial
  | .conditional condition ⟨body, _⟩ none _, hn => by
    simp only [Statement.names, Block.names, List.forall_mem_append] at hn
    rw [execute, execute]
    refine .bind (hcalls.evalExpr_lockstep condition hn.1) fun v hv => ?_
    refine .bind (P := fun _ => True) (.ofOutcome fun _ _ => trivial) fun b _ => ?_
    cases b with
    | true => exact hcalls.evalStatements_lockstep body hn.2
    | false => exact .pure trivial
  | .conditional condition ⟨body, _⟩ (some ⟨otherwise, _⟩) _, hn => by
    simp only [Statement.names, Block.names, List.forall_mem_append] at hn
    rw [execute, execute]
    refine .bind (hcalls.evalExpr_lockstep condition hn.1) fun v hv => ?_
    refine .bind (P := fun _ => True) (.ofOutcome fun _ _ => trivial) fun b _ => ?_
    cases b with
    | true => exact hcalls.evalStatements_lockstep body hn.2.1
    | false => exact hcalls.evalStatements_lockstep otherwise hn.2.2
  | .loop index item iterable ⟨body, _⟩ _, hn => by
    simp only [Statement.names, Block.names, List.forall_mem_append] at hn
    rw [execute, execute]
    refine .bind (hcalls.evalExpr_lockstep iterable hn.1) fun v hv => ?_
    cases hp : v.pairs? with
    | some pairs =>
      exact runLoop_lockstep (hcalls.evalStatements_lockstep body hn.2)
        (Value.hereditary_within.pairs? hv hp)
    | none => exact .throw
  | .exit none _, _ => by
    rw [execute, execute]
    exact .pure (by simp [Flow.Within])
  | .exit (some value) _, hn => by
    rw [execute, execute]
    exact .bind (hcalls.evalExpr_lockstep value hn) fun v hv => .pure hv
  | .stop _, _ | .skip _, _ | .newLine _, _ | .comment _, _ => by
    rw [execute, execute]
    exact .pure trivial
  | .expression e, hn => by
    rw [execute, execute]
    exact .bind (hcalls.evalExpr_lockstep e hn) fun _ _ => .pure trivial

theorem evalAssign_lockstep (hcalls : K.SameCalls calls calls') {value : Value}
    (hv : value.Within w) :
    ∀ e : Expr, (e.asVariable?.isSome ∨ ∀ n ∈ e.names, w.names n) →
      Exec.Lockstep (K.rel c) (fun _ => True) (evalAssign calls value e)
        (evalAssign calls' value e)
  | .var v, _ => by
    rw [evalAssign, evalAssign]
    exact assign_lockstep v.name hv
  | .field object member position, hn => by
    have hn := hn.resolve_left (by simp [Expr.asVariable?])
    simp only [Expr.names, List.forall_mem_append] at hn
    rw [evalAssign, evalAssign]
    refine .bind (hcalls.evalPlace_lockstep object hn.1) fun old hold => ?_
    refine .bind (hcalls.evalWrite_lockstep position hold hv member hn.2) fun new hnew => ?_
    exact hcalls.evalAssign_lockstep hnew object (.inr hn.1)
  | .literal .., _ | .binary .., _ | .list .., _ | .block _, _ | .call _, _ => by
    simp only [evalAssign]
    exact .throw

theorem evalPlace_lockstep (hcalls : K.SameCalls calls calls') :
    ∀ e : Expr, (∀ n ∈ e.names, w.names n) →
    Exec.Lockstep (K.rel c) (·.Within w) (evalPlace calls e) (evalPlace calls' e)
  | .var v, hn => by
    rw [evalPlace, evalPlace]
    exact evalOwner_lockstep (hn v.name (by simp [Expr.names]))
  | .field object member position, hn => by
    simp only [Expr.names, List.forall_mem_append] at hn
    rw [evalPlace, evalPlace]
    refine .bind (hcalls.evalPlace_lockstep object hn.1) fun v hv => ?_
    cases v.isNil with
    | true => exact .pure Value.within_nil
    | false => exact hcalls.evalMember_lockstep position hv member hn.2
  | .literal .., _ | .binary .., _ | .list .., _ | .block _, _ | .call _, _ => by
    simp only [evalPlace]
    exact .throw

theorem evalWrite_lockstep (hcalls : K.SameCalls calls calls') {object value : Value}
    (position : Position) (ho : object.Within w) (hv : value.Within w) :
    ∀ member : Member, (∀ n ∈ member.names, w.names n) →
      Exec.Lockstep (K.rel c) (·.Within w) (evalWrite calls object value position member)
        (evalWrite calls' object value position member)
  | .name v, _ => by
    rw [evalWrite, evalWrite]
    exact .ofOutcome fun u hu => Value.hereditary_within.write ho hv hu
  | .index key, hn => by
    rw [evalWrite, evalWrite]
    exact .bind (hcalls.evalExpr_lockstep key hn) fun k _ =>
      .ofOutcome fun u hu => Value.hereditary_within.write ho hv hu
  | .call _, _ => by
    rw [evalWrite, evalWrite]
    exact .throw

theorem evalStatements_lockstep (hcalls : K.SameCalls calls calls') :
    ∀ ss : List Statement, (∀ n ∈ namesOfStatements ss, w.names n) →
    Exec.Lockstep (K.rel c) (Flow.Within w) (evalStatements calls ss) (evalStatements calls' ss)
  | [], _ => by
    rw [evalStatements, evalStatements]
    exact .pure trivial
  | s :: rest, hn => by
    simp only [namesOfStatements, List.forall_mem_append] at hn
    rw [evalStatements, evalStatements]
    refine .bind (record_lockstep rfl) fun _ _ => ?_
    refine .bind (hcalls.execute_lockstep s hn.1) fun flow hflow => ?_
    cases flow with
    | normal => exact hcalls.evalStatements_lockstep rest hn.2
    | returned _ => exact .pure hflow
    | broke _ => exact .pure hflow
    | continued _ => exact .pure hflow

end

end SameCalls

/-! ## Calls -/

theorem calledFrom_lockstep {ε α : Type} {P : α → Prop} {site : Position} {x y : Exec ε α}
    (h : ∀ d, Exec.Lockstep (K.rel d) P x y) :
    Exec.Lockstep (K.rel c) P (Exec.calledFrom site x) (Exec.calledFrom site y) := by
  intro m m' hR
  obtain ⟨d, hd, hback⟩ := K.callFrom site hR
  have h := h d _ _ hd
  simp only [Exec.on_calledFrom, h.outcome_eq]
  exact .intro (fun a ha => h.value_of_eq_ok (h.outcome_eq.trans ha)) (hback _ _ h.states_rel)

theorem within_lockstep {ε α : Type} {P : α → Prop} {bindings : Scope} {link : Option Nat}
    {x y : Exec ε α} (hlink : K.mayLink c link) (hb : ∀ e ∈ bindings.entries, e.2.Within w)
    (h : ∀ d, Exec.Lockstep (K.rel d) P x y) :
    Exec.Lockstep (K.rel c) P (Exec.within bindings link x) (Exec.within bindings link y) := by
  intro m m' hR
  obtain ⟨d, hd, hback⟩ := K.enter hR hlink hb
  have h := h d _ _ hd
  simp only [Exec.on_within, h.outcome_eq]
  exact .intro (fun a ha => h.value_of_eq_ok (h.outcome_eq.trans ha)) (hback _ _ h.states_rel)

theorem runCommand_lockstep {env : Environment} {command : Value} {site : Position} :
    Exec.Lockstep (K.rel c) (·.Within w) (Builtin.runCommand env command site)
      (Builtin.runCommand env command site) := by
  unfold Builtin.runCommand
  refine .bind (P := fun _ => True) (.ofOutcome fun _ _ => trivial) fun text _ => ?_
  refine .bind (record_lockstep rfl) fun _ _ => ?_
  split
  · exact .throw
  · split
    · exact .pure Value.within_string
    · refine .bind (record_lockstep ?_) fun _ _ => .pure Value.within_string
      rfl

theorem builtin_lockstep {env : Environment} {b : Builtin} {arguments : List Value}
    {site : Position} (ha : ∀ a ∈ arguments, a.Within w) :
    Exec.Lockstep (K.rel c) (·.Within w) (b.call env arguments site)
      (b.call env arguments site) := by
  have hprint : ∀ text, Exec.Lockstep (K.rel c) (·.Within w) (Builtin.print text)
      (Builtin.print text) := fun text =>
    .bind (record_lockstep rfl) fun _ _ => .pure (by simp)
  have hbool : ∀ {α : Type} {o : Except RuntimeError α} {f : α → Bool} {v : Value},
      (o.map fun a => .bool (f a)) = .ok v → v.Within w := by
    intro α o f v h
    cases o <;> cases h
    simp
  unfold Builtin.call
  split
  · exact hprint _
  · exact hprint _
  · exact .ofOutcome fun u hu => Value.hereditary_within.length hu
  · exact .pure (by simp)
  · exact .pure (by simp)
  · exact .ofOutcome fun u hu => hbool hu
  · exact .ofOutcome fun u hu => hbool hu
  · rename_i patterns text
    refine .ofOutcome fun u hu => ?_
    cases hs : Builtin.searchMap env .regexMapValue patterns text site with
    | error e => simp [hs, Except.map] at hu
    | ok found =>
      simp only [hs, Except.map, Except.ok.injEq] at hu
      subst hu
      cases found with
      | none => simp
      | some v => exact Value.hereditary_within.searchMap (ha patterns (by simp)) hs
  · exact runCommand_lockstep
  · exact .throw

/-- What calls of native functions do on both sides. -/
def SameNatives (K : Coupling w) (native native' : NativeCalls) : Prop :=
  ∀ (c : K.Context) (n : Native) (arguments : List Value) (site : Position), w.natives n →
    (∀ a ∈ arguments, a.Within w) →
    Exec.Lockstep (K.rel c) (·.Within w) (native n arguments site) (native' n arguments site)

/-- Calls of native functions do the same if those of the host do. -/
theorem callNative_sameNatives {env : Environment} {host host' : HostCall → Eval Value}
    (hhost : ∀ {d} {name : String} {arity : Arity} {label : String} {attached arguments},
      w.natives (.host name arity label attached) → (∀ a ∈ arguments, a.Within w) →
      Exec.Lockstep (K.rel d) (·.Within w) (host { name, label, attached, arguments })
        (host' { name, label, attached, arguments })) :
    K.SameNatives (env.callNative host) (env.callNative host') := by
  intro c n arguments site hn ha
  unfold Environment.callNative
  split
  · refine calledFrom_lockstep fun d => ?_
    cases n with
    | builtin b => exact builtin_lockstep ha
    | host name arity label attached => exact hhost hn ha
  · exact .throw

/-- Both sides refuse the same calls if the same number of calls is open. -/
theorem checkCall_lockstep {R : Machine → Machine → Prop}
    (hopen : ∀ m m', R m m' → m.openCalls = m'.openCalls) {f : Function} {limit : Nat}
    {arguments : List Value} {site : Position} :
    Exec.Lockstep R (fun _ => True) (f.checkCall limit arguments site)
      (f.checkCall limit arguments site) := by
  unfold Function.checkCall
  split
  · refine .bind (P := fun _ => True) (.observe fun m m' h => ⟨hopen m m' h, trivial⟩) ?_
    intro opened _
    split
    · exact .pure trivial
    · exact .throw
  · exact .throw

/-- What is left of a call when its body has ended. -/
theorem finish_lockstep {R : Machine → Machine → Prop}
    (hrecord : ∀ m m' v, R m m' → R (m.record (.returned v)) (m'.record (.returned v)))
    {flow : Flow} (hflow : flow.Within w) :
    Exec.Lockstep R (·.Within w)
      (do recordReturn flow; Exec.ofOutcome flow.value)
      (do recordReturn flow; Exec.ofOutcome flow.value) := by
  refine .bind (P := fun _ => True) ?_ fun _ _ =>
    .ofOutcome fun v hv => hflow.value hv
  cases flow with
  | returned v => exact .update fun m m' h => hrecord m m' v h
  | _ => exact .pure trivial

/-- Calls of functions do the same if those of native functions do: by induction on the number of
calls that may still be opened, since the body of a function runs with one less. -/
theorem callUser_sameCalls {limit : Nat} {native native' : Nat → NativeCalls}
    (hnative : ∀ left, K.SameNatives (native left) (native' left)) (left : Nat) :
    K.SameCalls { user := callUser limit native left, native := native left }
      { user := callUser limit native' left, native := native' left } := by
  induction left with
  | zero =>
    refine ⟨?_, fun _ => hnative 0 _ _ _ _⟩
    intro c f link arguments site hf hlink ha
    show Exec.Lockstep _ _ (callUser limit native 0 f link arguments site)
      (callUser limit native' 0 f link arguments site)
    rw [callUser, callUser]
    exact .bind (checkCall_lockstep fun _ _ => K.openCalls) fun _ _ => .throw
  | succ left ih =>
    refine ⟨?_, fun _ => hnative (left + 1) _ _ _ _⟩
    intro c f link arguments site hf hlink ha
    show Exec.Lockstep _ _ (callUser limit native (left + 1) f link arguments site)
      (callUser limit native' (left + 1) f link arguments site)
    rw [callUser, callUser]
    refine .bind (checkCall_lockstep fun _ _ => K.openCalls) fun _ _ => ?_
    refine .bind (P := Flow.Within w) ?_ fun flow hflow => ?_
    · refine within_lockstep hlink (Function.bind_within ha) fun d => ?_
      exact ih.evalStatements_lockstep f.body.statements (f.names_eq ▸ hf)
    · exact finish_lockstep (fun _ _ _ h => K.record h rfl) hflow

/-- Without functions of the host, it does not matter what these do. -/
theorem plain_sameNatives {names : String → Prop} (K : Coupling (.plain names)) (env : Environment)
    (host host' : HostCall → Eval Value) :
    K.SameNatives (env.callNative host) (env.callNative host') := by
  refine callNative_sameNatives fun h => ?_
  obtain ⟨b, hb⟩ := h
  cases hb

/-- Without functions of the host, calls do the same whatever the host is. -/
theorem plain_sameCalls {names : String → Prop} (K : Coupling (.plain names)) (env : Environment)
    (nesting left : Nat) :
    K.SameCalls (env.callsWithin nesting left) (env.callsWithin nesting left) := by
  refine callUser_sameCalls (fun left => ?_) left
  cases nesting with
  | zero =>
    unfold Environment.nativeCalls
    exact K.plain_sameNatives env _ _
  | succ nesting =>
    unfold Environment.nativeCalls
    exact K.plain_sameNatives env _ _

end Coupling

end Scriptlet
