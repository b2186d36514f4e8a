import Scriptlet.Machine.Event
import Scriptlet.Machine.Stack

/-!
# Machines

The state of a run: the stack of scopes, the native functions that are registered, the number of
open calls, the place from which a native function is called, and the events so far. A run is a
state transformer that may fail; a failure keeps the state in which it arose.

The operations of a machine record the events that belong to them, so that the trace tells every
change of the stack.
-/

namespace Scriptlet

/-- The state of a run. -/
structure Machine where
  stack : Stack := {}
  /-- The native functions that are called by name. -/
  natives : Mapping Native := {}
  /-- How many calls of functions are open. -/
  openCalls : Nat := 0
  /-- Where the native function that is at work was called, if one is. -/
  callSite : Position := {}
  /-- The events so far, the latest first. -/
  trace : List Event := []

/-- Steps on a machine that fail with an `ε`. -/
abbrev Exec (ε α : Type) := ExceptT ε (StateM Machine) α

/-- Steps of a run. -/
abbrev Eval (α : Type) := Exec RuntimeError α

/-- The outcome of steps from a state, and the state in which they leave the machine. -/
def Exec.on {ε α : Type} (steps : Exec ε α) (m : Machine) : Except ε α × Machine :=
  StateT.run (ExceptT.run steps) m

/-- The steps that map a state to an outcome and a next state. -/
def Exec.ofFunction {ε α : Type} (f : Machine → Except ε α × Machine) : Exec ε α :=
  ExceptT.mk fun m => f m

/-- Steps whose failures are causes of another kind. -/
def Exec.mapError {ε ε' α : Type} (f : ε → ε') (steps : Exec ε α) : Exec ε' α :=
  .ofFunction fun m => ((steps.on m).1.mapError f, (steps.on m).2)

/-- Steps that never fail, with the outcome of these as their value. -/
def Exec.attempt {ε ε' α : Type} (steps : Exec ε α) : Exec ε' (Except ε α) :=
  .ofFunction fun m => (.ok (steps.on m).1, (steps.on m).2)

/-- The step that changes nothing and has this outcome. -/
def Exec.ofOutcome {ε α : Type} (outcome : Except ε α) : Exec ε α :=
  .ofFunction fun m => (outcome, m)

namespace Machine

/-- The native functions that are always registered. -/
def builtins : Mapping Native :=
  .ofList (Builtin.all.map fun b => (b.name, .builtin b))

/-- A machine before its first run, with these bindings in the global scope. -/
def initial (globals : Scope) : Machine :=
  { stack := { base := { bottom := globals } }, natives := builtins }

instance : Inhabited Machine := ⟨initial {}⟩

def record (m : Machine) (e : Event) : Machine :=
  { m with trace := e :: m.trace }

/-- The events in the order in which they happened. -/
def events (m : Machine) : List Event :=
  m.trace.reverse

def depth (m : Machine) : Nat :=
  m.stack.depth

def lookup (m : Machine) (name : String) : Option Value :=
  m.stack.find? name

def assign (m : Machine) (name : String) (value : Value) : Machine :=
  { m with stack := m.stack.assign name value }

def push (m : Machine) : Machine :=
  let stack := m.stack.push
  { m with stack }.record (.pushed stack.depth)

/-- Takes away the innermost scope. The global scope and the lowest scope of a call stay, which is
recorded. -/
def pop (m : Machine) : Machine :=
  match m.stack.pop? with
  | some stack => { m with stack }.record (.popped stack.depth)
  | none => m.record (.popRefused m.depth)

def enter (m : Machine) (bindings : Scope) (link : Option Nat) : Machine :=
  let stack := m.stack.enter bindings link
  { m with stack, openCalls := m.openCalls + 1 }.record (.entered stack.depth)

/-- Closes the innermost call, with all scopes that were pushed in it. -/
def leave (m : Machine) : Machine :=
  let stack := m.stack.leave
  { m with stack, openCalls := m.openCalls - 1 }.record (.left stack.depth)

/-- Registers a native function, unless its name is taken. -/
def register (m : Machine) (n : Native) : Except RuntimeError Machine :=
  if m.natives.contains n.name then .error (.duplicateName n.name)
  else .ok ({ m with natives := m.natives.insert n.name n }.record (.registered n.name))

/-- Whether the global scope turns debug mode on. -/
def wantsDebug (m : Machine) : Bool :=
  (m.stack.globals.find? "debug").any fun v => v == .bool true

end Machine

namespace Exec

variable {ε ε' α β : Type}

def observe (f : Machine → α) : Exec ε α :=
  .ofFunction fun m => (.ok (f m), m)

def update (f : Machine → Machine) : Exec ε Unit :=
  .ofFunction fun m => (.ok (), f m)

def record (e : Event) : Exec ε Unit :=
  update fun m => m.record e

/-- Registers a native function, unless its name is taken. -/
def register (n : Native) : Eval Unit :=
  .ofFunction fun m =>
    match m.register n with
    | .ok m => (.ok (), m)
    | .error e => (.error e, m)

/-- Steps within a call with these bindings. The call is closed however they end. -/
def within (bindings : Scope) (link : Option Nat) (steps : Exec ε α) : Exec ε α :=
  .ofFunction fun m =>
    let (outcome, m) := steps.on (m.enter bindings link)
    (outcome, m.leave)

/-- Steps of a native function that is called at `site`. The place from which it was called itself
comes back however they end. -/
def calledFrom (site : Position) (steps : Exec ε α) : Exec ε α :=
  .ofFunction fun m =>
    let (outcome, after) := steps.on { m with callSite := site }
    (outcome, { after with callSite := m.callSite })

/-! ## Outcomes -/

@[simp]
theorem on_pure (a : α) (m : Machine) : (pure a : Exec ε α).on m = (.ok a, m) :=
  rfl

@[simp]
theorem on_throw (e : ε) (m : Machine) : (throw e : Exec ε α).on m = (.error e, m) :=
  rfl

/-- The second of two steps gets the value and the state of the first, if that does not fail. -/
theorem on_bind (steps : Exec ε α) (next : α → Exec ε β) (m : Machine) :
    (steps >>= next).on m =
      match steps.on m with
      | (.ok a, m) => (next a).on m
      | (.error e, m) => (.error e, m) := by
  show StateT.run (ExceptT.run (steps >>= next)) m = _
  simp only [ExceptT.run_bind, StateT.run_bind]
  show (match StateT.run (ExceptT.run steps) m with
    | (r, m') => _) = _
  cases h : StateT.run (ExceptT.run steps) m with
  | mk r m' => cases r <;> simp [on, h] <;> rfl

theorem on_bind_ok {steps : Exec ε α} {m m' : Machine} {a : α} (h : steps.on m = (.ok a, m'))
    (next : α → Exec ε β) : (steps >>= next).on m = (next a).on m' := by
  rw [on_bind, h]

theorem on_bind_error {steps : Exec ε α} {m m' : Machine} {e : ε} (h : steps.on m = (.error e, m'))
    (next : α → Exec ε β) : (steps >>= next).on m = (.error e, m') := by
  rw [on_bind, h]

@[simp]
theorem on_ofFunction (f : Machine → Except ε α × Machine) (m : Machine) :
    (ofFunction f).on m = f m :=
  rfl

@[simp]
theorem on_ofOutcome (outcome : Except ε α) (m : Machine) :
    (ofOutcome outcome).on m = (outcome, m) :=
  rfl

@[simp]
theorem on_observe (f : Machine → α) (m : Machine) :
    (observe f : Exec ε α).on m = (.ok (f m), m) :=
  rfl

@[simp]
theorem on_update (f : Machine → Machine) (m : Machine) :
    (update f : Exec ε Unit).on m = (.ok (), f m) :=
  rfl

@[simp]
theorem on_record (e : Event) (m : Machine) :
    (record e : Exec ε Unit).on m = (.ok (), m.record e) :=
  rfl

@[simp]
theorem on_attempt (steps : Exec ε α) (m : Machine) :
    (steps.attempt : Exec ε' (Except ε α)).on m = (.ok (steps.on m).1, (steps.on m).2) :=
  rfl

/-- However the steps of a call end, the call is closed. -/
@[simp]
theorem on_within (bindings : Scope) (link : Option Nat) (steps : Exec ε α) (m : Machine) :
    (within bindings link steps).on m =
      ((steps.on (m.enter bindings link)).1, (steps.on (m.enter bindings link)).2.leave) :=
  rfl

@[simp]
theorem on_calledFrom (site : Position) (steps : Exec ε α) (m : Machine) :
    (calledFrom site steps).on m =
      ((steps.on { m with callSite := site }).1,
        { (steps.on { m with callSite := site }).2 with callSite := m.callSite }) :=
  rfl

end Exec

end Scriptlet
