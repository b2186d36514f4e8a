import Scriptlet.Shell.Files
import Scriptlet.Shell.Numeral
import Scriptlet.Shell.Outcome
import Scriptlet.Shell.Reading

/-!
# What runs commands

A process has variables, functions, descriptors and more of its own; a process that starts from
another one starts with a copy. What descriptors lead to, and the files, are shared by all. An
action changes both and gives a result, unless something ends the process.

The session is that of the shell which the executable brings along; for what is proved of runs, what
commands do is a parameter.
-/

namespace Scriptlet.Shell

/-- A variable. One without a value can still have the other properties. -/
structure Variable where
  value : Option String := none
  isExported : Bool := false
  isReadonly : Bool := false
deriving DecidableEq, Repr, Inhabited

/-- What a command asks the commands around it to do. -/
inductive Skip where
  /-- To leave so many loops. -/
  | leave (loops : Nat)
  /-- To leave all but the last of so many loops, and go on with the next round of that one. -/
  | nextRound (loops : Nat)
  /-- To end a function, or the text that is run. -/
  | finish
deriving DecidableEq, Repr

/-- What an open descriptor leads to. -/
inductive Description where
  /-- The file that is always empty. -/
  | empty
  /-- Where text is collected, perhaps for another command that takes it. -/
  | sink (text : String) (isPipe : Bool)
  /-- Text that can be taken once. -/
  | stream (rest : List Char)
  /-- A place in a file. -/
  | file (path : Path) (place : Nat) (access : Access)
deriving Inhabited

/-- A process. -/
structure Process where
  name : String := "sh"
  /-- The number of the shell that it belongs to. -/
  shell : Nat
  /-- Its own number. -/
  number : Nat
  /-- The processes that wait for it. -/
  ancestors : List Nat := []
  arguments : List String := []
  bindings : List (String × Variable) := []
  functions : List (String × Command) := []
  aliases : List (String × String) := []
  /-- The programs that have been found in the directories to look in, and where. -/
  remembered : List (String × String) := []
  /-- The letters of the options that are set. -/
  options : List Char := []
  /-- The code of the last command. -/
  code : Nat := 0
  line : Nat := 1
  /-- The builtin that is being run. -/
  builtin : Option String := none
  skip : Option Skip := none
  /-- How many loops are around what is being run, within a function. -/
  loops : Nat := 0
  /-- How many functions are being run. -/
  calls : Nat := 0
  /-- Where descriptors lead. -/
  descriptors : List (Nat × Nat) := []
  /-- What is run for signals; zero stands for the end of the process. -/
  traps : List (Nat × String) := []
  /-- Signals that have come, and have a trap. -/
  signals : List Nat := []
  /-- For each command and function with variables of its own, those that it hides. -/
  hidden : List (List (String × Option Variable)) := []
  directory : Path := []
  documents : List (Nat × Word) := []
  documentCount : Nat := 0
  mask : Nat := 0o22
  /-- The number of the last job. -/
  lastJob : Nat := 0
  /-- Where the reading of options is within an argument. -/
  optionPlace : Nat := 0
  /-- The code of the last command whose output was taken. -/
  outputCode : Nat := 0

/-- A command that is not waited for. -/
structure Job where
  number : Nat
  /-- The process that started it. -/
  owner : Nat
  /-- What is still to be run, by which process. -/
  waiting : Option (Process × Command)
  /-- How it has ended, once it has. -/
  status : Status := .exited 0
  /-- Whether the end has been mentioned. -/
  isKnown : Bool := false

/-- What all processes share. -/
structure World where
  descriptions : Array Description := #[]
  files : Files := .initial
  /-- The number of the process started last. -/
  lastNumber : Nat
  jobs : List Job := []
  /-- Signals to processes that wait for others. -/
  signals : List (Nat × Nat) := []

/-- The state of what runs commands. -/
structure Session where
  world : World
  process : Process

/-- What ends a process. -/
inductive Interrupt where
  /-- It ends with its code. -/
  | exit
  /-- Something that a shell cannot go on after. -/
  | failure
  | killed (signal : Nat)
  /-- What runs commands has given up. -/
  | exhausted
deriving DecidableEq, Repr

/-- An action of a process. -/
abbrev Act := EStateM Interrupt Session

/-! ## The process -/

def asks {α : Type} (f : Process → α) : Act α := do
  return f (← get).process

def change (f : Process → Process) : Act Unit :=
  modify fun s => { s with process := f s.process }

def sees {α : Type} (f : World → α) : Act α := do
  return f (← get).world

def changeWorld (f : World → World) : Act Unit :=
  modify fun s => { s with world := f s.world }

def setCode (code : Nat) : Act Unit :=
  change fun p => { p with code }

def hasOption (letter : Char) : Act Bool :=
  asks fun p => p.options.contains letter

/-- Does something whatever happens in an action. -/
def afterwards {α : Type} (action : Act α) (after : Act Unit) : Act α := fun s =>
  match action s with
  | .ok a s =>
    match after s with
    | .ok _ s => .ok a s
    | .error e s => .error e s
  | .error e s =>
    match after s with
    | .ok _ s => .error e s
    | .error e s => .error e s

/-! ## Descriptors -/

/-- Adds what a descriptor can lead to, and gives its number. -/
def addDescription (d : Description) : Act Nat :=
  modifyGet fun s =>
    (s.world.descriptions.size,
      { s with world := { s.world with descriptions := s.world.descriptions.push d } })

def description (n : Nat) : Act Description := do
  return (← sees World.descriptions).getD n .empty

def setDescription (n : Nat) (d : Description) : Act Unit :=
  changeWorld fun w => { w with descriptions := w.descriptions.setIfInBounds n d }

/-- Descriptors with one of them leading elsewhere, or nowhere. -/
def redirect (descriptors : List (Nat × Nat)) (n : Nat) (target : Option Nat) : List (Nat × Nat) :=
  let others := descriptors.filter fun d => d.1 != n
  match target with
  | some t => (n, t) :: others
  | none => others

def lead (n : Nat) (target : Option Nat) : Act Unit :=
  change fun p => { p with descriptors := redirect p.descriptors n target }

def overwritten (content : String) (place : Nat) (text : String) : String :=
  if place = content.length then content ++ text
  else
    let cs := content.toList
    let gap := List.replicate (place - cs.length) '\x00'
    String.ofList (cs.take place ++ gap ++ text.toList ++ cs.drop (place + text.length))

/-- How much is collected for another command. By then that command is taken to have ended. -/
def pipeRoom : Nat :=
  Nat.pow 2 21

/-- Writes a text to what a number of a description stands for; false if that cannot be done. -/
def writeTo (n : Nat) (text : String) : Act Bool := do
  match ← description n with
  | .empty => return true
  | .sink before isPipe =>
    if isPipe && before.utf8ByteSize > pipeRoom then throw (.killed 13)
    setDescription n .empty
    setDescription n (.sink (before ++ text) isPipe)
    return true
  | .stream _ => return false
  | .file path place access =>
    if access = .read then return false
    else
      let content := match (← sees World.files).node? path with
        | some (.file content _) => content
        | _ => ""
      let place := if access = .append then content.length else place
      changeWorld fun w =>
        { w with files := w.files.put path (.file (overwritten content place text) false) }
      setDescription n (.file path (place + text.length) access)
      return true

/-- Writes a text to a descriptor; false if that cannot be done. -/
def write (n : Nat) (text : String) : Act Bool := do
  match (← asks Process.descriptors).lookup n with
  | none => return false
  | some d => writeTo d text

/-- What is left to be taken from a descriptor, if anything can be. -/
def available (n : Nat) : Act (Option (List Char)) := do
  match (← asks Process.descriptors).lookup n with
  | none => return none
  | some d =>
    match ← description d with
    | .empty => return some []
    | .sink _ _ => return none
    | .stream rest => return some rest
    | .file path place access =>
      match access, (← sees World.files).node? path with
      | .read, some (.file content _) | .both, some (.file content _) =>
        return some (content.toList.drop place)
      | .read, _ => return some []
      | _, _ => return none

/-- Takes some characters from a descriptor, and leaves the others. -/
def leave (n : Nat) (taken : Nat) : Act Unit := do
  match (← asks Process.descriptors).lookup n with
  | none => return ()
  | some d =>
    match ← description d with
    | .stream rest => setDescription d (.stream (rest.drop taken))
    | .file path place access => setDescription d (.file path (place + taken) access)
    | _ => return ()

/-! ## Complaints -/

def complain (message : String) : Act Unit := do
  let p ← asks id
  let about := match p.builtin with
    | some name => name ++ ": "
    | none => ""
  let _ ← write 2 (p.name ++ ": " ++ toString p.line ++ ": " ++ about ++ message ++ "\n")

def give {α : Type} (code : Nat) (message : String) : Act α := do
  complain message
  setCode code
  throw .failure

def refuse {α : Type} (message : String) : Act α :=
  give 2 message

def numberOf (s : String) : Act Nat := do
  match Numeral.natural10? s with
  | some n => return n
  | none => refuse ("Illegal number: " ++ s)

/-! ## Variables -/

def held? (name : String) : Act (Option Variable) := do
  return (← asks Process.bindings).lookup name

def value? (name : String) : Act (Option String) := do
  return (← held? name).bind Variable.value

/-- Puts a variable in place of the one of that name, or behind all others. -/
def putVariable (name : String) (v : Option Variable) : Act Unit :=
  change fun p =>
    { p with
      bindings := match v with
        | none => p.bindings.filter fun w => w.1 != name
        | some v =>
          if p.bindings.any fun w => w.1 = name then
            p.bindings.map fun w => if w.1 = name then (name, v) else w
          else p.bindings ++ [(name, v)] }

def assign (name value : String) (exports : Bool) : Act Unit := do
  let v := (← held? name).getD {}
  if v.isReadonly then refuse (name ++ ": is read only")
  let exports := exports || v.isExported || (← hasOption 'a')
  putVariable name (some { v with value := some value, isExported := exports })
  if name = "OPTIND" then change fun p => { p with optionPlace := 0 }
  if name = "PATH" then change fun p => { p with remembered := [] }

/-- Makes a variable one of the innermost command or function with variables of its own. -/
def hide (name : String) : Act Unit := do
  let v ← held? name
  change fun p =>
    { p with
      hidden := match p.hidden with
        | [] => []
        | frame :: rest =>
          (if frame.any fun h => h.1 = name then frame else (name, v) :: frame) :: rest }

def withOwnVariables {α : Type} (action : Act α) : Act α := do
  change fun p => { p with hidden := [] :: p.hidden }
  afterwards action do
    for (name, v) in (← asks Process.hidden).headD [] do
      putVariable name v
    change fun p => { p with hidden := p.hidden.tail }

def environment : Act (List (String × String)) := do
  let exported := (← asks Process.bindings).filterMap fun (name, v) =>
    if v.isExported then v.value.map (name, ·) else none
  return inTableOrder 39 exported

def separators : Act (List Char) := do
  match ← value? "IFS" with
  | some s => return s.toList
  | none => return [' ', '\t', '\n']

def newNumber : Act Nat :=
  modifyGet fun s =>
    let n := s.world.lastNumber + 1
    (n, { s with world := { s.world with lastNumber := n } })

end Scriptlet.Shell
