import Scriptlet.Evaluation.Action

/-!
# Environments

What a run takes from outside: the settings, how patterns are read, what shell commands do, and how
the functions of the host behave. All of it stays the same during a run, so an environment is a
parameter and no part of the machine.
-/

namespace Scriptlet

/-- What the user of the interpreter chooses. -/
structure Settings where
  /-- Whether failures are returned rather than reported. -/
  debug : Bool := false
  /-- How many calls of functions may be open at the same time. -/
  maxCallDepth : Nat := 200
deriving DecidableEq, Repr, Inhabited

/-- A function of the host, as it is called. -/
structure HostCall where
  name : String
  /-- What the host knows the function by. -/
  label : String
  /-- The values that the host attached to the function. -/
  attached : List Value
  arguments : List Value

/-- What a run takes from outside. -/
structure Environment where
  settings : Settings := {}
  /-- The texts that a pattern matches somewhere, or why it is no pattern. -/
  compile : String → Except String (String → Bool)
  /-- What a shell command leaves behind, or why it cannot be started. -/
  shell : String → Except String Shell.Outcome
  /-- How the functions of the host behave. -/
  behaviour : HostCall → Action
  /-- How deep functions of the host can be nested in one another before the host runs out of room.
  The language sets no bound, so this may be any number: a run that ends needs no more than some. -/
  hostNesting : Nat := 10000

/-- Whether failures are to be returned: the settings can ask for it, and so can the program. -/
def Environment.isDebug (env : Environment) (m : Machine) : Bool :=
  env.settings.debug || m.wantsDebug

end Scriptlet
