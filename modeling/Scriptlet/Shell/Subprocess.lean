import Scriptlet.Shell.Builtin

/-!
# Processes that processes start

Commands within a command are run by an action that is a parameter. A process of its own is run as a
copy of the one that starts it, to its end, and then what it has changed in the world is taken over.
-/

namespace Scriptlet.Shell

/-- What is known where a command is run. -/
structure Place where
  /-- Whether nothing follows in the process. -/
  isLast : Bool := false
  /-- Whether what follows hangs on the code, so that a failure ends nothing. -/
  isTested : Bool := false

/-- Runs a command. -/
abbrev Runner := Place → Command → Act Unit

/-- The wording of signals that end processes. -/
def signalWording (n : Nat) : String :=
  ["Hangup", "Interrupt", "Quit", "Illegal instruction", "Trace/breakpoint trap", "Aborted",
   "Bus error", "Floating point exception", "Killed", "User defined signal 1",
   "Segmentation fault", "User defined signal 2", "Broken pipe", "Alarm clock", "Terminated",
   "Stack fault", "Child exited", "Continued", "Stopped (signal)", "Stopped",
   "Stopped (tty input)", "Stopped (tty output)", "Urgent I/O condition",
   "CPU time limit exceeded", "File size limit exceeded", "Virtual timer expired",
   "Profiling timer expired", "Window changed", "I/O possible", "Power failure",
   "Bad system call"].getD (n - 1) ("Unknown signal " ++ toString n)

/-- The code of a process that has ended. A signal that ends it is mentioned, unless it is usual. -/
def codeOf (status : Status) : Act Nat := do
  match status with
  | .exited _ => pure ()
  | .killed n =>
    unless n = 2 || n = 13 do
      let _ ← write 2 (signalWording n ++ "\n")
  return status.code

/-- Runs the lines of a text, and gives the code of the last command. The number bounds how many
there are. -/
def runLines (run : Runner) (place : Place) : Nat → Nat → Source → Act Nat
  | 0, code, _ => return code
  | n + 1, code, source => do
    if source.isEmpty then return code
    match source.readLine (← asks Process.aliases) with
    | .error e =>
      change fun p => { p with line := e.line }
      refuse e.message
    | .ok (command, source) =>
      change fun p =>
        { p with
          documents := source.documents ++ p.documents
          documentCount := source.documentCount }
      let source := { source with documents := [] }
      match command with
      | .nothing => runLines run place n code source
      | command =>
        run { place with isLast := place.isLast && source.isEmpty } command
        let code ← asks Process.code
        if (← asks Process.skip).isSome then return code
        runLines run place n code source

def runText (run : Runner) (place : Place) (text : String) : Act Nat := do
  runLines run place (text.length + 1) 0 (.ofText text (← asks Process.documentCount))

/-- Runs what is to be run for the signals that have come. -/
def runTraps (run : Runner) : Act Unit := do
  takeSignals
  let signals ← asks Process.signals
  unless signals.isEmpty do
    change fun p => { p with signals := [] }
    let code ← asks Process.code
    for n in signals do
      match (← asks Process.traps).lookup n with
      | some action =>
        let _ ← runText run {} action
        setCode code
      | none => pure ()

/-- An action, and how it ends the process if it does. -/
def ending (action : Act Unit) : Act Status := fun s =>
  let exited (s : Session) : EStateM.Result Interrupt Session Status :=
    .ok (.exited (UInt8.ofNat s.process.code)) s
  match action s with
  | .ok _ s => exited s
  | .error .exit s | .error .failure s => exited s
  | .error (.killed n) s => .ok (.killed n) s
  | .error .exhausted s => .error .exhausted s

/-- Runs an action in a copy of the process, which may differ, and gives how the copy ends. -/
def inCopy (differs : Process → Process) (action : Act Status) : Act Status := fun s =>
  let parent := s.process
  match action { s with process := differs parent } with
  | .ok status s => .ok status { s with process := parent }
  | .error e s => .error e { s with process := parent }

/-- What a process that starts from another one has of its own. -/
def Process.child (p : Process) (number : Nat) : Process :=
  { p with
    number
    ancestors := p.number :: p.ancestors
    traps := p.traps.filter fun t => t.2 = ""
    signals := [] }

/-- Whether anything is to be run for signals, or at the end. -/
def hasTraps : Act Bool := do
  return (← asks Process.traps).any fun t => t.2 != ""

/-- Runs the jobs of the process that have not been run yet. -/
def runJobs (conclude : Act Unit → Act Status) (run : Runner) : Act Unit := do
  let number ← asks Process.number
  for job in ← sees World.jobs do
    match job.waiting with
    | some (process, command) =>
      if job.owner = number then
        let status ← inCopy (fun _ => process) (conclude (run { isLast := true } command))
        changeWorld fun w =>
          { w with
            jobs := w.jobs.map fun j =>
              if j.number = job.number && j.waiting.isSome then
                { j with waiting := none, status }
              else j }
    | none => pure ()

/-- Runs an action to the end of the process: what is to be run at the end is run. Jobs that are
left are run too. The number bounds how deep jobs start jobs. -/
def conclude (run : Runner) : Nat → Act Unit → Act Status
  | 0, action => ending action
  | n + 1, action => do
    let atEnd : Act Unit := do
      change fun p => { p with skip := none }
      match (← asks Process.traps).lookup 0 with
      | some text =>
        change fun p => { p with traps := p.traps.filter fun t => t.1 != 0 }
        let code ← asks Process.code
        let _ ← runText run {} text
        setCode code
      | none => pure ()
    let status ← ending action
    let status ← match status with
      | .exited _ => ending atEnd
      | status => pure status
    runJobs (conclude run n) run
    return status

/-- How many processes deep jobs are run. -/
def jobDepth : Nat := 100

def apart (run : Runner) (differs : Process → Process) (action : Act Unit) : Act Status := do
  runJobs (conclude run jobDepth) run
  let number ← newNumber
  let status ← inCopy (fun p => differs (p.child number)) (conclude run jobDepth action)
  takeSignals
  return status

/-- Adds a job. -/
def addJob (command : Command) : Act Unit := do
  let number ← newNumber
  let p ← asks id
  let empty ← addDescription .empty
  let child := p.child number
  let process := { child with descriptors := redirect child.descriptors 0 (some empty) }
  changeWorld fun w =>
    { w with jobs := w.jobs ++ [{ number, owner := p.number, waiting := some (process, command) }] }
  change fun p => { p with lastJob := number }
  setCode 0

/-- What a command writes. -/
def outputOf (run : Runner) (command : Command) : Act String := do
  let sink ← addDescription (.sink "" false)
  let leads (p : Process) : Process :=
    { p with descriptors := redirect p.descriptors 1 (some sink) }
  let status ← apart run leads (run { isLast := true } command)
  let code ← codeOf status
  change fun p => { p with outputCode := code }
  match ← description sink with
  | .sink text _ =>
    setDescription sink .empty
    return text
  | _ => return ""

end Scriptlet.Shell
