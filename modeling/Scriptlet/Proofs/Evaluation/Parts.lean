import Scriptlet.Proofs.Evaluation.Upkeep

/-!
# The parts of an evaluation

An evaluation consists of smaller ones, each of which starts where the one before it ended: operands
before operators, arguments before calls, one statement after another. What is evaluated is a
*work*, and the parts of a work are given by one rule for each place in the evaluator that starts
another evaluation (`Part`), together with the machine on which it starts.

What steps keep, they keep from the start of a work to the start of each part of it (`Part.keeps`).
The body of a called function and the actions of a function of the host are no parts: there, other
calls are allowed than in the work itself.
-/

namespace Scriptlet

/-- What there is to evaluate, with the values that are known by then. -/
inductive Work where
  | expr (e : Expr)
  | exprs (es : List Expr)
  | member (object : Value) (position : Position) (member : Member)
  | entries (found : Mapping Value) (statements : List Statement)
  | statement (s : Statement)
  | statements (ss : List Statement)
  /-- The rounds of a loop that are left. -/
  | rounds (index : Option Variable) (item : Variable) (body : List Statement)
      (pairs : List (Value × Value))
  | bind (name : String) (value : Value)
  | store (value : Value) (target : Expr)
  | place (target : Expr)
  | write (object value : Value) (position : Position) (member : Member)
  | named (name : String) (arguments : List Value) (site : Position)
  | method (object : Value) (name : String) (arguments : List Value) (site : Position)
  | callee (name : String) (callee : Value) (link : Option Nat) (arguments : List Value)
      (site : Position)
  | user (f : Function) (link : Option Nat) (arguments : List Value) (site : Position)
  | native (n : Native) (arguments : List Value) (site : Position)
  /-- What is left of a function of the host. -/
  | action (a : Action)

namespace Work

/-- The machine behind a work that starts on `m`. -/
@[simp]
def after (env : Environment) (calls : Calls) (m : Machine) : Work → Machine
  | .expr e => ((evalExpr calls e).on m).2
  | .exprs es => ((evalExprs calls es).on m).2
  | .member o position behind => ((evalMember calls o position behind).on m).2
  | .entries found ss => ((evalEntries calls found ss).on m).2
  | .statement s => ((execute calls s).on m).2
  | .statements ss => ((evalStatements calls ss).on m).2
  | .rounds index item body pairs =>
    ((runLoop index item (evalStatements calls body) pairs).on m).2
  | .bind name v => m.assign name v
  | .store v target => ((evalAssign calls v target).on m).2
  | .place target => ((evalPlace calls target).on m).2
  | .write o v position behind => ((evalWrite calls o v position behind).on m).2
  | .named name arguments site => ((calls.named name arguments site).on m).2
  | .method o name arguments site => ((calls.method o name arguments site).on m).2
  | .callee name v link arguments site => ((calls.value name v link arguments site).on m).2
  | .user f link arguments site => ((calls.user f link arguments site).on m).2
  | .native n arguments site => ((calls.native n arguments site).on m).2
  | .action a => ((env.perform calls a).on m).2

/-- If the work is a call with a link, the link satisfies `P`. -/
def Linked (P : Option Nat → Prop) : Work → Prop
  | .callee _ _ link _ _ => P link
  | .user _ link _ _ => P link
  | _ => True

theorem linked_of_forall {P : Option Nat → Prop} (h : ∀ link, P link) (w : Work) : w.Linked P := by
  cases w with
  | callee _ _ link _ _ => exact h link
  | user _ link _ _ => exact h link
  | _ => trivial

end Work

/-- The machine in a round of a loop, when the index is bound if there is one. -/
def Machine.withIndex (m : Machine) (index : Option Variable) (key : Value) : Machine :=
  match index with
  | some v => m.assign v.name key
  | none => m

/-- The machine on which the body of a loop starts in a round. -/
def Machine.inRound (m : Machine) (index : Option Variable) (item : Variable)
    (pair : Value × Value) : Machine :=
  ((m.record (.iteration pair.2)).withIndex index pair.1).assign item.name pair.2

/-- Whether the rounds of a loop go on behind a round that ends in this way. -/
def Flow.goesOn : Flow → Bool
  | .normal => true
  | .continued _ => true
  | _ => false

/-- `Part calls w m w' m'`: a work `w` that starts on `m` evaluates `w'`, which starts on `m'`. -/
inductive Part (calls : Calls) : Work → Machine → Work → Machine → Prop
  -- Expressions.
  | left {l o r p m} : Part calls (.expr (.binary l o r p)) m (.expr l) m
  | right {l o r p m v m'} (hleft : (evalExpr calls l).on m = (.ok v, m')) :
    Part calls (.expr (.binary l o r p)) m (.expr r) m'
  | values {es p m} : Part calls (.expr (.list es p)) m (.exprs es) m
  | block {b m} : Part calls (.expr (.block b)) m (.entries {} b.statements) m
  | arguments {c m} : Part calls (.expr (.call c)) m (.exprs c.arguments) m
  | call {c m vs m'} (harguments : (evalExprs calls c.arguments).on m = (.ok vs, m')) :
    Part calls (.expr (.call c)) m (.named c.name vs c.position) m'
  | object {e member p m} (hother : e.asVariable? = none) :
    Part calls (.expr (.field e member p)) m (.expr e) m
  | owner {v member p m} :
    Part calls (.expr (.field (.var v) member p)) m
      (.member ((m.lookup v.name).getD .nil) p member) m
  | member {e member p m v m'} (hother : e.asVariable? = none)
    (hobject : (evalExpr calls e).on m = (.ok v, m')) :
    Part calls (.expr (.field e member p)) m (.member v p member) m'
  | head {e es m} : Part calls (.exprs (e :: es)) m (.expr e) m
  | tail {e es m v m'} (hhead : (evalExpr calls e).on m = (.ok v, m')) :
    Part calls (.exprs (e :: es)) m (.exprs es) m'
  | key {o p key m} : Part calls (.member o p (.index key)) m (.expr key) m
  | memberArguments {o p c m} : Part calls (.member o p (.call c)) m (.exprs c.arguments) m
  | memberCall {o p c m vs m'} (harguments : (evalExprs calls c.arguments).on m = (.ok vs, m')) :
    Part calls (.member o p (.call c)) m (.method o c.name vs c.position) m'
  | entry {found key value p rest m} :
    Part calls (.entries found (.assign (.var key) value p :: rest)) m (.expr value) m
  | entriesBehind {found key value p rest m v m'}
    (hvalue : (evalExpr calls value).on m = (.ok v, m')) :
    Part calls (.entries found (.assign (.var key) value p :: rest)) m
      (.entries (found.insert key.name v) rest) m'
  | entriesBehindTrivia {found s rest m} (htrivia : s.isTrivia) :
    Part calls (.entries found (s :: rest)) m (.entries found rest) m
  -- Statements.
  | assigned {target value p m} : Part calls (.statement (.assign target value p)) m (.expr value) m
  | assign {target value p m v m'} (hvalue : (evalExpr calls value).on m = (.ok v, m')) :
    Part calls (.statement (.assign target value p)) m (.store v target) m'
  | function {f m} : Part calls (.statement (.function f)) m (.bind f.name (.function f)) m
  | condition {c b o p m} : Part calls (.statement (.conditional c b o p)) m (.expr c) m
  | body {c b o p m m'} (hcondition : (evalExpr calls c).on m = (.ok (.bool true), m')) :
    Part calls (.statement (.conditional c b o p)) m (.statements b.statements) m'
  | otherwise {c b o p m m'} (hcondition : (evalExpr calls c).on m = (.ok (.bool false), m')) :
    Part calls (.statement (.conditional c b (some o) p)) m (.statements o.statements) m'
  | iterable {index item e b p m} : Part calls (.statement (.loop index item e b p)) m (.expr e) m
  | rounds {index item e b p m v m' pairs} (hiterable : (evalExpr calls e).on m = (.ok v, m'))
    (hpairs : v.pairs? = some pairs) :
    Part calls (.statement (.loop index item e b p)) m (.rounds index item b.statements pairs) m'
  | result {e p m} : Part calls (.statement (.exit (some e) p)) m (.expr e) m
  | expression {e m} : Part calls (.statement (.expression e)) m (.expr e) m
  | first {s rest m} :
    Part calls (.statements (s :: rest)) m (.statement s) (m.record (.statement s.position.line))
  | next {s rest m m'}
    (hfirst : (execute calls s).on (m.record (.statement s.position.line)) = (.ok .normal, m')) :
    Part calls (.statements (s :: rest)) m (.statements rest) m'
  | roundIndex {v item body pair rest m} :
    Part calls (.rounds (some v) item body (pair :: rest)) m (.bind v.name pair.1)
      (m.record (.iteration pair.2))
  | roundItem {index item body pair rest m} :
    Part calls (.rounds index item body (pair :: rest)) m (.bind item.name pair.2)
      ((m.record (.iteration pair.2)).withIndex index pair.1)
  | round {index item body pair rest m} :
    Part calls (.rounds index item body (pair :: rest)) m (.statements body)
      (m.inRound index item pair)
  | nextRound {index item body pair rest m flow m'}
    (hround : (evalStatements calls body).on (m.inRound index item pair) = (.ok flow, m'))
    (hflow : flow.goesOn) :
    Part calls (.rounds index item body (pair :: rest)) m (.rounds index item body rest) m'
  -- Assignments to places.
  | storeBinding {x v m} : Part calls (.store v (.var x)) m (.bind x.name v) m
  | storeInside {e member p v m} : Part calls (.store v (.field e member p)) m (.place e) m
  | storeWrite {e member p v m old m'} (hold : (evalPlace calls e).on m = (.ok old, m')) :
    Part calls (.store v (.field e member p)) m (.write old v p member) m'
  | storeOuter {e member p v m old m' new m''} (hold : (evalPlace calls e).on m = (.ok old, m'))
    (hnew : (evalWrite calls old v p member).on m' = (.ok new, m'')) :
    Part calls (.store v (.field e member p)) m (.store new e) m''
  | placeInside {e member p m} : Part calls (.place (.field e member p)) m (.place e) m
  | placeMember {e member p m v m'} (hobject : (evalPlace calls e).on m = (.ok v, m'))
    (hthere : v.isNil = false) :
    Part calls (.place (.field e member p)) m (.member v p member) m'
  | writeKey {o v p key m} : Part calls (.write o v p (.index key)) m (.expr key) m
  -- Calls.
  | registered {name vs site m n} (hfound : m.natives.find? name = some n) :
    Part calls (.named name vs site) m (.native n vs site) m
  | resolved {name vs site m link v} (hfree : m.natives.find? name = none)
    (hfound : m.stack.resolve name = some (link, v)) :
    Part calls (.named name vs site) m (.callee name v link vs site) m
  | own {o name vs site m v} (hfound : o.method? name = some v) :
    Part calls (.method o name vs site) m (.callee name v none vs site) m
  | byName {o name vs site m} (hmissing : o.method? name = none) :
    Part calls (.method o name vs site) m (.named name vs site) m
  | userCall {name f link vs site m} :
    Part calls (.callee name (.function f) link vs site) m (.user f link vs site) m
  | nativeCall {name n link vs site m} :
    Part calls (.callee name (.native n) link vs site) m (.native n vs site) m

/-- The machine behind the announcement of debug mode. -/
def Environment.announced (env : Environment) (m : Machine) : Machine :=
  if env.isDebug m then m.record .debugMode else m

@[simp]
theorem Environment.on_announce (env : Environment) {ε : Type} (m : Machine) :
    (env.announce : Exec ε Unit).on m = (.ok (), env.announced m) := by
  unfold Environment.announce Environment.announced
  rw [Exec.on_bind_ok (Exec.on_observe _ _)]
  split
  · rfl
  · rfl

/-- What running something evaluates, and the machine on which that starts. -/
def Environment.given? (env : Environment) (m : Machine) : Runnable → Option (Work × Machine)
  | .source text => (parse text).toOption.map fun program => (.statements program, env.announced m)
  | .octets octets =>
    (parseOctets octets).toOption.map fun program => (.statements program, env.announced m)
  | .program program => some (.statements program, env.announced m)
  | .statement (.expression e) => some (.expr e, env.announced m)
  | .statement s => some (.statement s, (env.announced m).record (.statement s.position.line))

/-- The parts of what a function of the host does. -/
inductive ActionPart (env : Environment) (calls : Calls) :
    Action → Machine → Work → Machine → Prop
  | push {next m} : ActionPart env calls (.pushScope next) m (.action next) m.push
  | pop {next m} : ActionPart env calls (.popScope next) m (.action next) m.pop
  | bind {name v next m} : ActionPart env calls (.assign name v next) m (.bind name v) m
  | bound {name v next m} :
    ActionPart env calls (.assign name v next) m (.action next) (m.assign name v)
  | lookup {name next m} :
    ActionPart env calls (.lookup name next) m (.action (next (m.lookup name))) m
  | scopeDepth {next m} : ActionPart env calls (.scopeDepth next) m (.action (next m.depth)) m
  | callSite {next m} : ActionPart env calls (.callSite next) m (.action (next m.callSite)) m
  | isDebug {next m} : ActionPart env calls (.isDebug next) m (.action (next (env.isDebug m))) m
  | given {work next m w m'} (hgiven : env.given? m work = some (w, m')) :
    ActionPart env calls (.run work next) m w m'
  | ran {work next m outcome m'} (hrun : (env.runGiven calls work).on m = (outcome, m')) :
    ActionPart env calls (.run work next) m (.action (next outcome)) m'
  | flow {ss next m} : ActionPart env calls (.flow ss next) m (.statements ss) m
  | flowed {ss next m outcome m'} (hflow : (evalStatements calls ss).on m = (outcome, m')) :
    ActionPart env calls (.flow ss next) m (.action (next outcome)) m'
  | evaluate {e next m} : ActionPart env calls (.evaluate e next) m (.expr e) m
  | evaluated {e next m outcome m'} (hvalue : (evalExpr calls e).on m = (outcome, m')) :
    ActionPart env calls (.evaluate e next) m (.action (next outcome)) m'
  | call {name vs site next m} :
    ActionPart env calls (.call name vs site next) m (.named name vs site) m
  | called {name vs site next m outcome m'}
    (hcall : (calls.named name vs site).on m = (outcome, m')) :
    ActionPart env calls (.call name vs site next) m (.action (next outcome)) m'
  | register {n next m outcome m'} (hregister : (Exec.register n).on m = (outcome, m')) :
    ActionPart env calls (.register n next) m (.action (next outcome)) m'

/-- A call is refused, or the check changes nothing. -/
theorem Function.checkCall_cases (f : Function) (limit : Nat) (vs : List Value) (site : Position)
    (m : Machine) :
    ((f.checkCall limit vs site).on m = (.ok (), m) ∧ m.openCalls < limit) ∨
      ∃ e, (f.checkCall limit vs site).on m = (.error e, m) := by
  unfold Function.checkCall
  by_cases hcount : vs.length = f.parameters.length
  · rw [if_pos hcount, Exec.on_bind_ok (Exec.on_observe _ _)]
    by_cases hlimit : m.openCalls < limit
    · rw [if_pos hlimit]
      exact .inl ⟨rfl, hlimit⟩
    · rw [if_neg hlimit]
      exact .inr ⟨_, rfl⟩
  · rw [if_neg hcount]
    exact .inr ⟨_, rfl⟩

/-- A call that is not refused stays within the limit. -/
theorem Function.openCalls_lt_of_checkCall {f : Function} {limit : Nat} {vs : List Value}
    {site : Position} {m m' : Machine} (h : (f.checkCall limit vs site).on m = (.ok (), m')) :
    m.openCalls < limit := by
  rcases f.checkCall_cases limit vs site m with ⟨-, hlimit⟩ | ⟨e, he⟩
  · exact hlimit
  · rw [he] at h
    cases h

/-! ## What steps keep -/

variable {K : Coupling .full} {c : K.Context} {env : Environment} {calls : Calls}
variable {w w' : Work} {m m' : Machine}

/-- Where steps lead from a machine that is coupled with itself. -/
theorem Exec.Lockstep.keeps {ε α : Type} {P : α → Prop} {x : Exec ε α} {o : Except ε α}
    (h : Exec.Lockstep (K.rel c) P x x) (hm : K.rel c m m) (hx : x.on m = (o, m')) :
    K.rel c m' m' := by
  have hrel := (h m m hm).states_rel
  rwa [hx] at hrel

namespace Coupling.SameCalls

variable (hcalls : K.SameCalls calls calls)
include hcalls

theorem expr_keeps (e : Expr) :
    Exec.Lockstep (K.rel c) (·.Within .full) (evalExpr calls e) (evalExpr calls e) :=
  hcalls.evalExpr_lockstep e fun _ _ => trivial

theorem exprs_keeps (es : List Expr) :
    Exec.Lockstep (K.rel c) (fun vs => ∀ v ∈ vs, v.Within .full) (evalExprs calls es)
      (evalExprs calls es) :=
  hcalls.evalExprs_lockstep es fun _ _ => trivial

theorem statement_keeps (s : Statement) :
    Exec.Lockstep (K.rel c) (Flow.Within .full) (execute calls s) (execute calls s) :=
  hcalls.execute_lockstep s fun _ _ => trivial

theorem statements_keeps (ss : List Statement) :
    Exec.Lockstep (K.rel c) (Flow.Within .full) (evalStatements calls ss)
      (evalStatements calls ss) :=
  hcalls.evalStatements_lockstep ss fun _ _ => trivial

theorem place_keeps (e : Expr) :
    Exec.Lockstep (K.rel c) (·.Within .full) (evalPlace calls e) (evalPlace calls e) :=
  hcalls.evalPlace_lockstep e fun _ _ => trivial

theorem write_keeps (object value : Value) (position : Position) (member : Member) :
    Exec.Lockstep (K.rel c) (·.Within .full) (evalWrite calls object value position member)
      (evalWrite calls object value position member) :=
  hcalls.evalWrite_lockstep position object.within_full value.within_full member fun _ _ => trivial

theorem named_keeps (name : String) (arguments : List Value) (site : Position) :
    Exec.Lockstep (K.rel c) (·.Within .full) (calls.named name arguments site)
      (calls.named name arguments site) :=
  hcalls.named trivial fun a _ => a.within_full

end Coupling.SameCalls

theorem Machine.withIndex_keeps (h : K.rel c m m) (index : Option Variable) (key : Value) :
    K.rel c (m.withIndex index key) (m.withIndex index key) := by
  cases index with
  | none => exact h
  | some v => exact K.assign v.name h key.within_full

theorem Machine.inRound_keeps (h : K.rel c m m) (index : Option Variable) (item : Variable)
    (pair : Value × Value) : K.rel c (m.inRound index item pair) (m.inRound index item pair) :=
  K.assign item.name (withIndex_keeps (K.record h rfl) index pair.1) pair.2.within_full

/-- Each part of a work starts on a machine that is coupled with itself, if the work does. If the
part is a call, its link is one that a call may have there. -/
theorem Part.keeps (hcalls : K.SameCalls calls calls) (hm : K.rel c m m)
    (hlink : w.Linked (K.mayLink c)) (h : Part calls w m w' m') :
    K.rel c m' m' ∧ w'.Linked (K.mayLink c) := by
  cases h with
  | left | values | block | arguments | object | owner | head | key | memberArguments | entry
  | entriesBehindTrivia | assigned | function | condition | iterable | result | expression
  | storeBinding | storeInside | placeInside | writeKey | registered | byName | nativeCall =>
    exact ⟨hm, trivial⟩
  | right hx | member _ hx | tail hx | entriesBehind hx | assign hx | body hx | otherwise hx
  | rounds hx =>
    exact ⟨(hcalls.expr_keeps _).keeps hm hx, trivial⟩
  | call hx | memberCall hx => exact ⟨(hcalls.exprs_keeps _).keeps hm hx, trivial⟩
  | first => exact ⟨K.record hm rfl, trivial⟩
  | next hx =>
    exact ⟨(hcalls.statement_keeps _).keeps (K.record hm rfl) hx, trivial⟩
  | roundIndex => exact ⟨K.record hm rfl, trivial⟩
  | roundItem => exact ⟨Machine.withIndex_keeps (K.record hm rfl) _ _, trivial⟩
  | round => exact ⟨Machine.inRound_keeps hm _ _ _, trivial⟩
  | nextRound hx =>
    exact ⟨(hcalls.statements_keeps _).keeps (Machine.inRound_keeps hm _ _ _) hx, trivial⟩
  | storeWrite hx | placeMember hx _ => exact ⟨(hcalls.place_keeps _).keeps hm hx, trivial⟩
  | storeOuter hold hnew =>
    have hinside := (hcalls.place_keeps _).keeps hm hold
    exact ⟨(hcalls.write_keeps _ _ _ _).keeps hinside hnew, trivial⟩
  | resolved _ hfound => exact ⟨hm, (K.resolved hm trivial hfound).1⟩
  | own => exact ⟨hm, K.mayLink_none c⟩
  | userCall => exact ⟨hm, hlink⟩

theorem Environment.announced_keeps (env : Environment) (hm : K.rel c m m) :
    K.rel c (env.announced m) (env.announced m) := by
  unfold Environment.announced
  split
  · exact K.record hm rfl
  · exact hm

/-- What is run starts on a machine that is coupled with itself, too. -/
theorem Environment.given?_keeps {work : Runnable} (hm : K.rel c m m)
    (h : env.given? m work = some (w', m')) : K.rel c m' m' ∧ w'.Linked (K.mayLink c) := by
  have hannounced := env.announced_keeps hm
  cases work with
  | source text | octets octets =>
    obtain ⟨program, -, he⟩ := Option.map_eq_some_iff.mp h
    cases he
    exact ⟨hannounced, trivial⟩
  | program program =>
    cases h
    exact ⟨hannounced, trivial⟩
  | statement s =>
    cases s with
    | expression e =>
      cases h
      exact ⟨hannounced, trivial⟩
    | _ =>
      cases h
      exact ⟨K.record hannounced rfl, trivial⟩

theorem ActionPart.keeps (hK : K.Hosted) (hcalls : K.SameCalls calls calls) {a : Action}
    (hm : K.rel c m m) (h : ActionPart env calls a m w' m') :
    K.rel c m' m' ∧ w'.Linked (K.mayLink c) := by
  cases h with
  | push => exact ⟨hK.push hm, trivial⟩
  | pop => exact ⟨hK.pop hm, trivial⟩
  | bind | lookup | scopeDepth | callSite | isDebug | flow | evaluate | call => exact ⟨hm, trivial⟩
  | bound => exact ⟨K.assign _ hm (Value.within_full _), trivial⟩
  | given hgiven => exact env.given?_keeps hm hgiven
  | ran hrun => exact ⟨(hK.runGiven_lockstep hcalls _).keeps hm hrun, trivial⟩
  | flowed hflow => exact ⟨(hcalls.statements_keeps _).keeps hm hflow, trivial⟩
  | evaluated hvalue => exact ⟨(hcalls.expr_keeps _).keeps hm hvalue, trivial⟩
  | called hcall => exact ⟨(hcalls.named_keeps _ _ _).keeps hm hcall, trivial⟩
  | register hregister => exact ⟨(hK.register_lockstep _).keeps hm hregister, trivial⟩

/-- The machine behind a work is coupled with itself, if the one at its start is. -/
theorem Work.after_keeps (env : Environment) (hK : K.Hosted) (hcalls : K.SameCalls calls calls)
    (hm : K.rel c m m) (hlink : w.Linked (K.mayLink c)) :
    K.rel c (w.after env calls m) (w.after env calls m) := by
  cases w with
  | expr e => exact (hcalls.expr_keeps e _ _ hm).states_rel
  | exprs es => exact (hcalls.exprs_keeps es _ _ hm).states_rel
  | member object position member =>
    exact (hcalls.evalMember_lockstep position object.within_full member (fun _ _ => trivial)
      _ _ hm).states_rel
  | entries found statements =>
    exact (hcalls.evalEntries_lockstep found statements (fun e _ => e.2.within_full)
      (fun _ _ => trivial) _ _ hm).states_rel
  | statement s => exact (hcalls.statement_keeps s _ _ hm).states_rel
  | statements ss => exact (hcalls.statements_keeps ss _ _ hm).states_rel
  | rounds index item body pairs =>
    exact (Coupling.runLoop_lockstep (hcalls.statements_keeps body)
      (fun p _ => ⟨p.1.within_full, p.2.within_full⟩) _ _ hm).states_rel
  | bind name value => exact K.assign name hm value.within_full
  | store value target =>
    exact (hcalls.evalAssign_lockstep value.within_full target (.inr fun _ _ => trivial)
      _ _ hm).states_rel
  | place target => exact (hcalls.place_keeps target _ _ hm).states_rel
  | write object value position member =>
    exact (hcalls.write_keeps object value position member _ _ hm).states_rel
  | named name arguments site => exact (hcalls.named_keeps name arguments site _ _ hm).states_rel
  | method object name arguments site =>
    exact (hcalls.method object.within_full trivial (fun a _ => a.within_full) _ _ hm).states_rel
  | callee name callee link arguments site =>
    exact (hcalls.value callee.within_full hlink (fun a _ => a.within_full) _ _ hm).states_rel
  | user f link arguments site =>
    exact (hcalls.user f site (fun _ _ => trivial) hlink (fun a _ => a.within_full)
      _ _ hm).states_rel
  | native n arguments site =>
    exact (hcalls.native site trivial (fun a _ => a.within_full) _ _ hm).states_rel
  | action a => exact (hK.perform_lockstep hcalls a _ _ hm).states_rel

end Scriptlet
