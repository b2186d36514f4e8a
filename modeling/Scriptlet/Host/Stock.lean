import Scriptlet.Evaluation.Environment

/-!
# Ready-made functions for hosts

Functions that a host can register without further work. Each does one thing that functions of the
host are for: it returns a value, tells where and in which state it is called, changes scopes and
bindings, runs and calls code, fails, or registers more functions.
-/

namespace Scriptlet

/-- The ready-made functions. -/
inductive Stock where
  /-- Returns the value attached to it. -/
  | const
  /-- Returns its arguments. -/
  | args
  /-- Returns the position of its call. -/
  | site
  /-- Returns the number of scopes. -/
  | depth
  /-- Tells whether debug mode is on. -/
  | debug
  /-- Pushes a scope and returns the number of scopes. -/
  | push
  /-- Pops a scope and returns the number of scopes. -/
  | pop
  /-- Binds a name to a value. -/
  | set
  /-- Returns the list of what a name stands for, which is empty if it stands for nothing. -/
  | get
  /-- Calls what a name stands for. -/
  | call
  /-- Runs a source. -/
  | run
  /-- Requires a truth value. -/
  | bool
  /-- Fails. -/
  | fail
  /-- Registers a function that returns a value. -/
  | register
deriving DecidableEq, Repr

namespace Stock

def all : List Stock :=
  [const, args, site, depth, debug, push, pop, set, get, call, run, bool, fail, register]

/-- What hosts know one by. -/
def label : Stock → String
  | const => "const"
  | args => "args"
  | site => "site"
  | depth => "depth"
  | debug => "debug"
  | push => "push"
  | pop => "pop"
  | set => "set"
  | get => "get"
  | call => "call"
  | run => "run"
  | bool => "bool"
  | fail => "fail"
  | register => "register"

def ofLabel? (label : String) : Option Stock :=
  all.find? fun s => s.label = label

@[simp]
theorem ofLabel?_label (s : Stock) : ofLabel? s.label = some s := by
  cases s <;> rfl

def native (s : Stock) (name : String) (arity : Arity) (attached : List Value) : Native :=
  .host name arity s.label attached

def give (v : Value) : Action :=
  .finish (.ok v)

def giveDepth : Action :=
  .scopeDepth fun n => give (.int (Int64.ofNat n))

/-- Goes on with the text that the first argument is. -/
def withText (s : Stock) (c : HostCall) (site : Position) (next : String → Action) : Action :=
  match (c.arguments.headD .nil).asString (.native s.label) site with
  | .ok text => next text
  | .error e => .finish (.error e)

/-- The outcome of a run as that of a call. -/
def ofRun (c : HostCall) (site : Position) : Except Failure Value → Except RuntimeError Value
  | .ok v => .ok v
  | .error (.parse e) => .error (.native c.name e.details site)
  | .error (.runtime e) => .error e

/-- What a ready-made function does that is called at `site`. -/
def behave (s : Stock) (c : HostCall) (site : Position) : Action :=
  let first := c.arguments.headD .nil
  let second := c.arguments.tail.headD .nil
  match s with
  | const => give (c.attached.headD .nil)
  | args => give (.list c.arguments)
  | .site =>
    give (.string
      (toString site.line ++ ":" ++ toString site.column ++ ":" ++ toString site.length))
  | depth => giveDepth
  | debug => .isDebug fun on => give (.bool on)
  | push => .pushScope giveDepth
  | pop => .popScope giveDepth
  | set => s.withText c site fun name => .assign name second (give .nil)
  | get => s.withText c site fun name => .lookup name fun found => give (.list found.toList)
  | call => s.withText c site fun name => .call name c.arguments.tail site .finish
  | run =>
    s.withText c site fun source =>
      .run (.source source) fun outcome => .finish (ofRun c site outcome)
  | bool => .finish ((first.asBool (.native "bool check") site).map Value.bool)
  | fail => .finish (.error (.native c.name first.display site))
  | register =>
    s.withText c site fun name =>
      .register (const.native name .any [second]) fun outcome => .finish (outcome.map fun _ => .nil)

/-- What functions of the host do when they are all ready-made. -/
def behaviour (c : HostCall) : Action :=
  match ofLabel? c.label with
  | some s => .callSite (s.behave c)
  | none => give .nil

end Stock

end Scriptlet
