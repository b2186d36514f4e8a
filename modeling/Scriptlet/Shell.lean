import Scriptlet.Shell.Evaluation

/-!
# The shell

Running the text of a command in a shell that has just been started, with nothing to read and with
its output collected.

The shell and its utilities serve the executable only. A run takes what commands do as a parameter
(`Environment.shell`), and what is proved of runs is proved for whatever commands do. Nothing that
is proved depends on this shell.
-/

namespace Scriptlet.Shell

def usualEnvironment : List (String × String) :=
  [("HOME", "/root"), ("PATH", "/usr/local/sbin:/usr/local/bin:/usr/sbin:/usr/bin:/sbin:/bin")]

/-- The directory in which a shell is started. It is empty. -/
def usualDirectory : Path :=
  ["work"]

/-- The process of a shell that is started, whose descriptors lead to the first three
descriptions. -/
def startingProcess : Process where
  shell := 1000
  number := 1000
  bindings := startingBindings usualEnvironment usualDirectory
  descriptors := [(0, 0), (1, 1), (2, 2)]
  directory := usualDirectory

def startingSession : Session where
  world :=
    { descriptions := #[.empty, .sink "" false, .sink "" false]
      files := Files.initial.put usualDirectory .directory
      lastNumber := 1000 }
  process := startingProcess

/-- How deep commands can be nested, and how often loops can be repeated. -/
def commandDepth : Nat :=
  Nat.pow 2 22

def Session.output (s : Session) : String :=
  match s.world.descriptions.getD 1 .empty with
  | .sink text _ => text
  | _ => ""

/-- What a command leaves behind. A command that holds the null character, or 131072 octets or more,
cannot be started; the reason is not told. -/
def run (command : String) : Except String Outcome :=
  let text := octetsOf command
  if text.toList.contains '\x00' || text.length ≥ 131072 then .error ""
  else
    let runner := runCommand commandDepth
    let script : Act Unit := do
      setCode (← runText runner {} text)
    match conclude runner jobDepth script startingSession with
    | .ok status s => .ok { output := toOctets s.output, status }
    | .error _ s => .ok { output := toOctets s.output, status := .exited 2 }

end Scriptlet.Shell
