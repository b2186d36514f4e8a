import Scriptlet.Shell.Builtin.Arguments
import Scriptlet.Shell.Builtin.Names
import Scriptlet.Shell.Builtin.Places
import Scriptlet.Shell.Builtin.Signals

/-!
# Builtins

The commands that a shell runs itself because they are about the shell, apart from those that run
other commands. They serve the executable only; the built-in functions of the language are others
(`Builtin.call`).
-/

namespace Scriptlet.Shell

def firstNumber? (arguments : List String) : Act (Option Nat) := do
  match arguments with
  | [] => return none
  | s :: _ => return some (← numberOf s)

def leaveLoops (skip : Nat → Skip) : Builtin := fun arguments => do
  let n := (← firstNumber? arguments).getD 1
  if n = 0 then refuse ("Illegal number: " ++ arguments.headD "")
  let n := min n (← asks Process.loops)
  if n > 0 then change fun p => { p with skip := some (skip n) }
  return 0

def finish : Builtin := fun arguments => do
  let code := (← firstNumber? arguments).getD (← asks Process.code)
  change fun p => { p with skip := some .finish }
  return code

def exit : Builtin := fun arguments => do
  match ← firstNumber? arguments with
  | some n => setCode n
  | none => pure ()
  throw .exit

/-- The builtins, by name, but those that run commands. -/
def builtin? (name : String) : Option Builtin :=
  match name with
  | ":" | "true" => some fun _ => return 0
  | "false" => some fun _ => return 1
  | "echo" => some fun arguments => put (echo arguments) 0
  | "printf" => some fun arguments => do (printf (← withoutOptions arguments)).put
  | "test" => some test
  | "[" => some fun arguments => do
    if arguments.getLast? = some "]" then test arguments.dropLast else refuse "missing ]"
  | "export" => some (declare "export" (fun v => { v with isExported := true }) (·.isExported))
  | "readonly" => some (declare "readonly" (fun v => { v with isReadonly := true }) (·.isReadonly))
  | "local" => some localVariables
  | "unset" => some unset
  | "read" => some readLine
  | "set" => some setArguments
  | "shift" => some shift
  | "getopts" => some getOptions
  | "alias" => some changeAliases
  | "unalias" => some removeAliases
  | "type" => some type
  | "hash" => some hash
  | "trap" => some trap
  | "kill" => some kill
  | "cd" | "chdir" => some changeDirectory
  | "pwd" => some printDirectory
  | "umask" => some mask
  | "break" => some (leaveLoops .leave)
  | "continue" => some (leaveLoops .nextRound)
  | "return" => some finish
  | "exit" => some exit
  | "jobs" => some fun _ => return 0
  | "fg" | "bg" => some fun _ => refuse "job control is off"
  | "times" => some fun _ => put "0m0.000000s 0m0.000000s\n0m0.000000s 0m0.000000s\n" 0
  | "ulimit" => some fun _ => put "unlimited\n" 0
  | _ => none

end Scriptlet.Shell
