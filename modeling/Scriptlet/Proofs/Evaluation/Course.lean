import Scriptlet.Interpreter

/-!
# The course of a run

A *course* is a preorder on machines that the single steps of a run follow: binding a name,
recording an event, pushing and popping a scope, and so on. Since a run takes one step behind
another, what its steps follow, whole runs follow, whether they fail or not
(`Course.Guides.evalStatements` and its companions).

A call opens a frame and closes it again, and between the two it is the body that follows a course.
So calls follow one of a family of courses, which are counted by the calls that may still be opened:
the body of a function follows the course before that of its call (`Course.callsWithin`).
-/

namespace Scriptlet

/-- Whether an event neither tells a number of scopes nor reports a failure. -/
def Event.isPlain : Event → Bool
  | failed _ | popRefused _ | pushed _ | popped _ | entered _ | left _ => false
  | _ => true

/-- A preorder on machines that the single steps of a run follow. -/
structure Course where
  leads : Machine → Machine → Prop
  refl : ∀ m, leads m m
  trans : ∀ {m m' m''}, leads m m' → leads m' m'' → leads m m''
  assign : ∀ m (name : String) (v : Value), leads m (m.assign name v)
  record : ∀ m {e : Event}, e.isPlain = true → leads m (m.record e)
  push : ∀ m, leads m m.push
  pop : ∀ m, leads m m.pop
  register : ∀ {m m'} {n : Native}, m.register n = .ok m' → leads m m'
  /-- The place from which a native function is called comes back behind it. -/
  callFrom : ∀ {m m'} (site : Position), leads { m with callSite := site } m' →
    leads m { m' with callSite := m.callSite }

namespace Course

/-- The steps follow the course, whether they fail or not. -/
def Follows (C : Course) {ε α : Type} (x : Exec ε α) : Prop :=
  ∀ m, C.leads m (x.on m).2

/-- All calls follow the course. -/
structure Guides (C : Course) (calls : Calls) : Prop where
  user : ∀ (f : Function) (link : Option Nat) (vs : List Value) (site : Position),
    C.Follows (calls.user f link vs site)
  native : ∀ (n : Native) (vs : List Value) (site : Position), C.Follows (calls.native n vs site)

variable {C : Course}

/-! ## Single steps -/

namespace Follows

variable {ε ε' α β : Type}

theorem pure {a : α} : C.Follows (Pure.pure a : Exec ε α) :=
  fun m => C.refl m

theorem throw {e : ε} : C.Follows (MonadExcept.throw e : Exec ε α) :=
  fun m => C.refl m

theorem ofOutcome {o : Except ε α} : C.Follows (Exec.ofOutcome o) :=
  fun m => C.refl m

theorem observe {f : Machine → α} : C.Follows (Exec.observe f : Exec ε α) :=
  fun m => C.refl m

theorem record {e : Event} (he : e.isPlain = true) : C.Follows (Exec.record e : Exec ε Unit) :=
  fun m => C.record m he

theorem assign {name : String} {v : Value} :
    C.Follows (Exec.update fun m => m.assign name v : Exec ε Unit) :=
  fun m => C.assign m name v

theorem bind {x : Exec ε α} {f : α → Exec ε β} (hx : C.Follows x) (hf : ∀ a, C.Follows (f a)) :
    C.Follows (x >>= f) := by
  intro m
  have h := hx m
  rw [Exec.on_bind]
  generalize x.on m = r at h
  obtain ⟨o, m'⟩ := r
  cases o with
  | ok a => exact C.trans h (hf a m')
  | error e => exact h

theorem attempt {x : Exec ε α} (hx : C.Follows x) :
    C.Follows (x.attempt : Exec ε' (Except ε α)) :=
  hx

theorem mapError {f : ε → ε'} {x : Exec ε α} (hx : C.Follows x) : C.Follows (x.mapError f) :=
  hx

theorem calledFrom {x : Exec ε α} (hx : C.Follows x) (site : Position) :
    C.Follows (Exec.calledFrom site x) :=
  fun _ => C.callFrom site (hx _)

end Follows

theorem evalVariable_follows (v : Variable) : C.Follows (evalVariable v) := by
  refine .bind .observe fun found => ?_
  cases found with
  | some u => exact .pure
  | none =>
    refine .bind .observe fun found => ?_
    cases found with
    | some n => exact .pure
    | none => exact .throw

theorem runLoop_follows (index : Option Variable) (item : Variable) {body : Eval Flow}
    (hbody : C.Follows body) (pairs : List (Value × Value)) :
    C.Follows (runLoop index item body pairs) := by
  induction pairs with
  | nil => exact .pure
  | cons pair rest ih =>
    obtain ⟨key, value⟩ := pair
    rw [runLoop]
    refine .bind (.record rfl) fun _ => ?_
    rcases index with _ | v
    case' some => refine .bind .assign fun _ => ?_
    all_goals
      refine .bind .assign fun _ => .bind hbody fun flow => ?_
      cases flow with
      | normal | continued _ => exact ih
      | returned _ | broke _ => exact .pure

/-! ## Trees -/

namespace Guides

variable {calls : Calls}

section

variable (h : C.Guides calls)
include h

theorem value (name : String) (callee : Value) (link : Option Nat) (vs : List Value)
    (site : Position) : C.Follows (calls.value name callee link vs site) := by
  cases callee with
  | function f => exact h.user f link vs site
  | native n => exact h.native n vs site
  | _ => exact .throw

theorem named (name : String) (vs : List Value) (site : Position) :
    C.Follows (calls.named name vs site) := by
  refine .bind .observe fun registered => ?_
  cases registered with
  | some n => exact h.native n vs site
  | none =>
    refine .bind .observe fun resolved => ?_
    cases resolved with
    | some r => exact h.value name r.2 r.1 vs site
    | none => exact .throw

theorem method (object : Value) (name : String) (vs : List Value) (site : Position) :
    C.Follows (calls.method object name vs site) := by
  unfold Calls.method
  split
  · exact h.value name _ none vs site
  · exact h.named name vs site

end

mutual

theorem evalExpr (h : C.Guides calls) : ∀ e : Expr, C.Follows (evalExpr calls e)
  | .var v => by
    rw [Scriptlet.evalExpr]
    exact evalVariable_follows v
  | .literal .. => by
    rw [Scriptlet.evalExpr]
    exact .pure
  | .binary left o right position => by
    rw [Scriptlet.evalExpr]
    exact .bind (h.evalExpr left) fun a => .bind (h.evalExpr right) fun b => .ofOutcome
  | .list values _ => by
    rw [Scriptlet.evalExpr]
    exact .bind (h.evalExprs values) fun vs => .pure
  | .block ⟨statements, _⟩ => by
    rw [Scriptlet.evalExpr]
    exact .bind (h.evalEntries {} statements) fun entries => .pure
  | .call ⟨name, arguments, site⟩ => by
    rw [Scriptlet.evalExpr]
    exact .bind (h.evalExprs arguments) fun vs => h.named name vs site
  | .field object member position => by
    rw [Scriptlet.evalExpr]
    cases object.asVariable? with
    | some v => exact .bind .observe fun u => h.evalMember u position member
    | none => exact .bind (h.evalExpr object) fun u => h.evalMember u position member

theorem evalExprs (h : C.Guides calls) : ∀ es : List Expr, C.Follows (evalExprs calls es)
  | [] => by
    rw [Scriptlet.evalExprs]
    exact .pure
  | e :: es => by
    rw [Scriptlet.evalExprs]
    exact .bind (h.evalExpr e) fun v => .bind (h.evalExprs es) fun vs => .pure

theorem evalMember (h : C.Guides calls) (object : Value) (position : Position) :
    ∀ member : Member, C.Follows (evalMember calls object position member)
  | .name v => by
    rw [Scriptlet.evalMember]
    exact .ofOutcome
  | .index key => by
    rw [Scriptlet.evalMember]
    exact .bind (h.evalExpr key) fun k => .ofOutcome
  | .call ⟨name, arguments, site⟩ => by
    rw [Scriptlet.evalMember]
    exact .bind (h.evalExprs arguments) fun vs => h.method object name vs site

theorem evalEntries (h : C.Guides calls) (entries : Mapping Value) :
    ∀ statements : List Statement, C.Follows (evalEntries calls entries statements)
  | [] => by
    rw [Scriptlet.evalEntries]
    exact .pure
  | .assign target value position :: rest => by
    cases target with
    | var key =>
      rw [Scriptlet.evalEntries]
      exact .bind (h.evalExpr value) fun v => h.evalEntries (entries.insert key.name v) rest
    | _ =>
      simp only [Scriptlet.evalEntries]
      exact .throw
  | .newLine _ :: rest | .comment _ :: rest => by
    rw [Scriptlet.evalEntries]
    exact h.evalEntries entries rest
  | .function _ :: _ | .conditional .. :: _ | .loop .. :: _ | .exit .. :: _ | .stop _ :: _
  | .skip _ :: _ | .expression _ :: _ => by
    simp only [Scriptlet.evalEntries]
    exact .throw

theorem execute (h : C.Guides calls) : ∀ s : Statement, C.Follows (execute calls s)
  | .assign target value position => by
    rw [Scriptlet.execute]
    exact .bind (h.evalExpr value) fun v => .bind (h.evalAssign v target) fun _ => .pure
  | .conditional condition ⟨body, _⟩ none _ => by
    rw [Scriptlet.execute]
    refine .bind (h.evalExpr condition) fun v => .bind .ofOutcome fun taken => ?_
    split
    · exact h.evalStatements body
    · exact .pure
  | .conditional condition ⟨body, _⟩ (some ⟨otherwise, _⟩) _ => by
    rw [Scriptlet.execute]
    refine .bind (h.evalExpr condition) fun v => .bind .ofOutcome fun taken => ?_
    split
    · exact h.evalStatements body
    · exact h.evalStatements otherwise
  | .loop index item iterable ⟨body, _⟩ _ => by
    rw [Scriptlet.execute]
    refine .bind (h.evalExpr iterable) fun v => ?_
    cases v.pairs? with
    | some pairs => exact runLoop_follows index item (h.evalStatements body) pairs
    | none => exact .throw
  | .exit (some value) _ => by
    rw [Scriptlet.execute]
    exact .bind (h.evalExpr value) fun v => .pure
  | .expression e => by
    rw [Scriptlet.execute]
    exact .bind (h.evalExpr e) fun v => .pure
  | .function f => by
    rw [Scriptlet.execute]
    exact .bind .assign fun _ => .pure
  | .exit none _ | .stop _ | .skip _ | .newLine _ | .comment _ => by
    rw [Scriptlet.execute]
    exact .pure

theorem evalStatements (h : C.Guides calls) :
    ∀ ss : List Statement, C.Follows (evalStatements calls ss)
  | [] => by
    rw [Scriptlet.evalStatements]
    exact .pure
  | s :: rest => by
    rw [Scriptlet.evalStatements]
    refine .bind (.record rfl) fun _ => .bind (h.execute s) fun flow => ?_
    cases flow with
    | normal => exact h.evalStatements rest
    | _ => exact .pure

theorem evalAssign (h : C.Guides calls) (value : Value) :
    ∀ e : Expr, C.Follows (evalAssign calls value e)
  | .var _ => by
    rw [Scriptlet.evalAssign]
    exact .assign
  | .field object member position => by
    rw [Scriptlet.evalAssign]
    refine .bind (h.evalPlace object) fun old => ?_
    exact .bind (h.evalWrite old value position member) fun new => h.evalAssign new object
  | .literal .. | .binary .. | .list .. | .block _ | .call _ => by
    simp only [Scriptlet.evalAssign]
    exact .throw

theorem evalPlace (h : C.Guides calls) : ∀ e : Expr, C.Follows (evalPlace calls e)
  | .var _ => by
    rw [Scriptlet.evalPlace]
    exact .observe
  | .field object member position => by
    rw [Scriptlet.evalPlace]
    refine .bind (h.evalPlace object) fun v => ?_
    split
    · exact .pure
    · exact h.evalMember v position member
  | .literal .. | .binary .. | .list .. | .block _ | .call _ => by
    simp only [Scriptlet.evalPlace]
    exact .throw

theorem evalWrite (h : C.Guides calls) (object value : Value) (position : Position) :
    ∀ member : Member, C.Follows (evalWrite calls object value position member)
  | .name _ => by
    rw [Scriptlet.evalWrite]
    exact .ofOutcome
  | .index key => by
    rw [Scriptlet.evalWrite]
    exact .bind (h.evalExpr key) fun k => .ofOutcome
  | .call _ => by
    rw [Scriptlet.evalWrite]
    exact .throw

end

end Guides

/-! ## Programs and native functions -/

variable {env : Environment} {calls : Calls}

theorem announce_follows (env : Environment) {ε : Type} :
    C.Follows (env.announce : Exec ε Unit) := by
  refine .bind .observe fun debug => ?_
  split
  · exact .record rfl
  · exact .pure

theorem Guides.runProgram (h : C.Guides calls) (program : Program) :
    C.Follows (runProgram calls program) :=
  .bind (h.evalStatements program) fun _ => .ofOutcome

theorem Guides.runStatement (h : C.Guides calls) (s : Statement) :
    C.Follows (runStatement calls s) := by
  have hsingle : C.Follows (evalStatement calls s) :=
    .bind (.record rfl) fun _ => h.execute s
  unfold Scriptlet.runStatement
  split
  · exact h.evalExpr _
  · exact .bind hsingle fun _ => .ofOutcome

theorem Guides.runRead (h : C.Guides calls) (read : Except ParseError Program) :
    C.Follows (env.runRead calls read) :=
  .bind (announce_follows env) fun _ => .bind .ofOutcome fun program =>
    .mapError (h.runProgram program)

theorem Guides.runGiven (h : C.Guides calls) (work : Runnable) :
    C.Follows (env.runGiven calls work) := by
  cases work with
  | source | octets | program => exact h.runRead _
  | statement s => exact .bind (announce_follows env) fun _ => .mapError (h.runStatement s)

theorem register_follows (n : Native) : C.Follows (Exec.register n) := by
  intro m
  simp only [Exec.register, Exec.on_ofFunction]
  cases hr : m.register n with
  | ok m' => exact C.register hr
  | error e => exact C.refl m

/-- Whatever a function of the host does, it does by way of the operations. -/
theorem Guides.perform (h : C.Guides calls) (action : Action) :
    C.Follows (env.perform calls action) := by
  induction action with
  | finish outcome => exact .ofOutcome
  | pushScope next ih => exact .bind C.push fun _ => ih
  | popScope next ih => exact .bind C.pop fun _ => ih
  | assign name v next ih => exact .bind .assign fun _ => ih
  | lookup name next ih | scopeDepth next ih | callSite next ih | isDebug next ih =>
    exact .bind .observe fun a => ih a
  | run work next ih => exact .bind (.attempt (h.runGiven work)) fun o => ih o
  | flow ss next ih => exact .bind (.attempt (h.evalStatements ss)) fun o => ih o
  | evaluate e next ih => exact .bind (.attempt (h.evalExpr e)) fun o => ih o
  | call name vs site next ih => exact .bind (.attempt (h.named name vs site)) fun o => ih o
  | register n next ih => exact .bind (.attempt (register_follows n)) fun o => ih o

theorem builtin_follows (env : Environment) (b : Builtin) (vs : List Value) (site : Position) :
    C.Follows (b.call env vs site) := by
  unfold Builtin.call
  split
  · exact .bind (.record rfl) fun _ => .pure
  · exact .bind (.record rfl) fun _ => .pure
  · exact .ofOutcome
  · exact .pure
  · exact .pure
  · exact .ofOutcome
  · exact .ofOutcome
  · exact .ofOutcome
  · unfold Builtin.runCommand
    refine .bind .ofOutcome fun text => .bind (.record rfl) fun _ => ?_
    split
    · exact .throw
    · split
      · exact .pure
      · exact .bind (.record rfl) fun _ => .pure
  · exact .throw

theorem callNative_follows {host : HostCall → Eval Value} (hhost : ∀ c, C.Follows (host c))
    (n : Native) (vs : List Value) (site : Position) :
    C.Follows (env.callNative host n vs site) := by
  unfold Environment.callNative
  split
  · refine .calledFrom ?_ site
    cases n with
    | builtin b => exact builtin_follows env b vs site
    | host name arity label attached => exact hhost _
  · exact .throw

/-! ## Calls of functions -/

theorem checkCall_follows (f : Function) (limit : Nat) (vs : List Value) (site : Position) :
    C.Follows (f.checkCall limit vs site) := by
  unfold Function.checkCall
  split
  · refine .bind .observe fun opened => ?_
    split
    · exact .pure
    · exact .throw
  · exact .throw

section Family

variable {C : Nat → Course}

/-- What follows one of the courses between the opening and the closing of a call makes the call
follow the next one. -/
structure Nest (C : Nat → Course) : Prop where
  leave : ∀ {left m m'} (bindings : Scope) (link : Option Nat),
    (C left).leads (m.enter bindings link) m' → (C (left + 1)).leads m m'.leave

/-- By induction on the calls that may still be opened. -/
theorem callUser_follows (hC : Nest C) {limit : Nat} {native : Nat → NativeCalls}
    (hnative : ∀ left n vs site, (C left).Follows (native left n vs site)) (left : Nat) :
    (C left).Guides { user := callUser limit native left, native := native left } := by
  refine ⟨?_, hnative left⟩
  induction left with
  | zero =>
    intro f link vs site
    show (C 0).Follows (callUser limit native 0 f link vs site)
    rw [callUser]
    exact .bind (checkCall_follows f limit vs site) fun _ => .throw
  | succ left ih =>
    intro f link vs site
    have hbody : (C left).Follows (evalStatements
        { user := callUser limit native left, native := native left } f.body.statements) :=
      Guides.evalStatements ⟨ih, hnative left⟩ f.body.statements
    show (C (left + 1)).Follows (callUser limit native (left + 1) f link vs site)
    rw [callUser]
    refine .bind (checkCall_follows f limit vs site) fun _ => ?_
    refine .bind (fun m => hC.leave (f.bind vs) link (hbody _)) fun flow => ?_
    refine .bind ?_ fun _ => .ofOutcome
    cases flow with
    | returned v => exact .record rfl
    | _ => exact .pure

/-- Calls follow the course for the calls that may still be opened: by induction on how deep
functions of the host may still be nested. -/
theorem callsWithin (hC : Nest C) (env : Environment) (nesting left : Nat) :
    (C left).Guides (env.callsWithin nesting left) := by
  have hnative : ∀ nesting left n vs site,
      (C left).Follows (env.nativeCalls nesting left n vs site) := by
    intro nesting
    induction nesting with
    | zero =>
      intro left
      unfold Environment.nativeCalls
      exact callNative_follows fun _ => .bind .observe fun _ => .throw
    | succ nesting ih =>
      intro left
      unfold Environment.nativeCalls
      exact callNative_follows fun c =>
        (callUser_follows hC ih left).perform (env.behaviour c)
  exact callUser_follows hC (hnative nesting) left

end Family

end Course

end Scriptlet
