import Scriptlet.Evaluation
import Scriptlet.Evaluation.Builtin
import Scriptlet.Grammar.Program

/-!
# Calls

What a call does. A call of a function is refused when too many are open. The number of further
calls goes down with each that is opened, so a run ends, whatever the functions are. Functions of
the host can run sources and make calls in turn; how deep they may be nested in one another is
bounded by a number of its own, which goes down when one of them is called, and which stands for the
room that the host has.
-/

namespace Scriptlet

def runProgram (calls : Calls) (program : Program) : Eval Value := do
  let flow ← evalStatements calls program
  Exec.ofOutcome flow.value

/-- The value of a single statement, which for an expression is its value. -/
def runStatement (calls : Calls) (s : Statement) : Eval Value :=
  match s with
  | .expression e => evalExpr calls e
  | s => do
    let flow ← evalStatement calls s
    Exec.ofOutcome flow.value

/-- Records that debug mode is on, if it is. -/
def Environment.announce (env : Environment) {ε : Type} : Exec ε Unit := do
  if ← Exec.observe env.isDebug then
    Exec.record .debugMode

/-- Runs what has been read, if it could be read. -/
def Environment.runRead (env : Environment) (calls : Calls) (read : Except ParseError Program) :
    Exec Failure Value := do
  env.announce
  let program ← Exec.ofOutcome (read.mapError .parse)
  (runProgram calls program).mapError .runtime

def Environment.runSource (env : Environment) (calls : Calls) (source : String) :
    Exec Failure Value :=
  env.runRead calls (parse source)

def Environment.runGiven (env : Environment) (calls : Calls) : Runnable → Exec Failure Value
  | .source text => env.runSource calls text
  | .octets octets => env.runRead calls (parseOctets octets)
  | .program program => env.runRead calls (.ok program)
  | .statement s => do
    env.announce
    (runStatement calls s).mapError .runtime

/-- Does what a function of the host does. -/
def Environment.perform (env : Environment) (calls : Calls) : Action → Eval Value
  | .finish outcome => Exec.ofOutcome outcome
  | .pushScope next => do
    Exec.update Machine.push
    env.perform calls next
  | .popScope next => do
    Exec.update Machine.pop
    env.perform calls next
  | .assign name value next => do
    Exec.update fun m => m.assign name value
    env.perform calls next
  | .lookup name next => do
    let found ← Exec.observe fun m => m.lookup name
    env.perform calls (next found)
  | .scopeDepth next => do
    let depth ← Exec.observe Machine.depth
    env.perform calls (next depth)
  | .callSite next => do
    let site ← Exec.observe Machine.callSite
    env.perform calls (next site)
  | .isDebug next => do
    let debug ← Exec.observe env.isDebug
    env.perform calls (next debug)
  | .run work next => do
    let outcome ← (env.runGiven calls work).attempt
    env.perform calls (next outcome)
  | .flow statements next => do
    let outcome ← (evalStatements calls statements).attempt
    env.perform calls (next outcome)
  | .evaluate e next => do
    let outcome ← (evalExpr calls e).attempt
    env.perform calls (next outcome)
  | .call name arguments site next => do
    let outcome ← (calls.named name arguments site).attempt
    env.perform calls (next outcome)
  | .register n next => do
    let outcome ← (Exec.register n).attempt
    env.perform calls (next outcome)

/-- What calls of native functions do. -/
abbrev NativeCalls := Native → List Value → Position → Eval Value

/-- Calls a native function, given what those of the host do. -/
def Environment.callNative (env : Environment) (host : HostCall → Eval Value) : NativeCalls :=
  fun n arguments site =>
    if n.arity.admits arguments.length then
      Exec.calledFrom site <|
        match n with
        | .builtin b => b.call env arguments site
        | .host name _ label attached => host { name, label, attached, arguments }
    else throw (.arity n.name n.arity arguments.length site)

/-- The error for a call with the wrong number of arguments. -/
def Function.arityError (f : Function) (found : Nat) (site : Position) : RuntimeError :=
  .arity f.name (.exactly f.parameters.length) found site

def Function.bind (f : Function) (arguments : List Value) : Scope :=
  .ofList ((f.parameters.map (·.name)).zip arguments)

/-- Records the value with which a call ends, if it ends in the statement `return`. -/
def recordReturn : Flow → Eval Unit
  | .returned value => Exec.record (.returned value)
  | _ => pure ()

/-- Refuses a call with the wrong number of arguments, or else one call too many. -/
def Function.checkCall (f : Function) (limit : Nat) (arguments : List Value) (site : Position) :
    Eval Unit := do
  if arguments.length = f.parameters.length then
    if (← Exec.observe Machine.openCalls) < limit then pure ()
    else throw (.callDepth limit site)
  else throw (f.arityError arguments.length site)

/-- Calls a function. The given number goes down with each call within the body; it starts from the
limit or above, so it is always the limit that refuses a call. What calls of native functions do
depends on it, too. -/
def callUser (limit : Nat) (native : Nat → NativeCalls) :
    Nat → Function → Option Nat → List Value → Position → Eval Value
  | 0, f, _, arguments, site => do
    f.checkCall limit arguments site
    throw (.callDepth limit site)
  | left + 1, f, link, arguments, site => do
    f.checkCall limit arguments site
    let calls := { user := callUser limit native left, native := native left }
    let flow ← Exec.within (f.bind arguments) link (evalStatements calls f.body.statements)
    recordReturn flow
    Exec.ofOutcome flow.value

/-- What calls of native functions do while functions of the host may be nested so deep, and so many
calls may still be opened. The first number stands for the room that the host has: the language
itself does not bound it, and nothing here depends on how large it is. -/
def Environment.nativeCalls (env : Environment) : Nat → Nat → NativeCalls
  | 0, _ => env.callNative fun c => do
    throw (.native c.name "nested too deeply" (← Exec.observe Machine.callSite))
  | nesting + 1, left =>
    let native := env.nativeCalls nesting
    let calls := { user := callUser env.settings.maxCallDepth native left, native := native left }
    env.callNative fun c => env.perform calls (env.behaviour c)

/-- What calls do under the same conditions. -/
def Environment.callsWithin (env : Environment) (nesting left : Nat) : Calls :=
  let native := env.nativeCalls nesting
  { user := callUser env.settings.maxCallDepth native left, native := native left }

def Environment.calls (env : Environment) : Calls :=
  env.callsWithin env.hostNesting env.settings.maxCallDepth

end Scriptlet
