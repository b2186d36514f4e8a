/-!
# What a shell command leaves behind

A command that could be started has an output and ends in some way. This is all that a run learns
of a command.
-/

namespace Scriptlet.Shell

def signals : List String :=
  ["HUP", "INT", "QUIT", "ILL", "TRAP", "ABRT", "BUS", "FPE", "KILL", "USR1", "SEGV", "USR2",
   "PIPE", "ALRM", "TERM", "STKFLT", "CHLD", "CONT", "STOP", "TSTP", "TTIN", "TTOU", "URG", "XCPU",
   "XFSZ", "VTALRM", "PROF", "WINCH", "IO", "PWR", "SYS"]

def signalName? (n : Nat) : Option String :=
  if n = 0 then none else signals[n - 1]?

/-- How a command ends. -/
inductive Status where
  | exited (code : UInt8)
  | killed (signal : Nat)
deriving DecidableEq, Repr, Inhabited

namespace Status

def isSuccess : Status → Bool
  | exited code => code = 0
  | killed _ => false

def code : Status → Nat
  | exited code => code.toNat
  | killed signal => 128 + signal

def describe : Status → String
  | exited code => "exit status: " ++ toString code.toNat
  | killed signal =>
    let name := match signalName? signal with
      | some name => " (SIG" ++ name ++ ")"
      | none => ""
    "signal: " ++ toString signal ++ name

end Status

/-- What a command leaves behind: what it wrote, and how it ended. -/
structure Outcome where
  output : List UInt8 := []
  status : Status := .exited 0
deriving DecidableEq, Repr, Inhabited

end Scriptlet.Shell
