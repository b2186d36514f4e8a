import Scriptlet.Shell.Launch
import Scriptlet.Shell.Redirection

/-!
# Simple commands

Words are expanded, what the first one names is found, and it is run with the others.
-/

namespace Scriptlet.Shell

/-- Runs a function. -/
def callFunction (run : Runner) (place : Place) (body : Command) (arguments : List String) :
    Act Unit := do
  let before ← asks id
  if before.calls ≥ 1000 then refuse "Maximum function recursion depth (1000) reached"
  change fun p => { p with arguments, loops := 0, calls := p.calls + 1, optionPlace := 0 }
  afterwards (run { isTested := place.isTested } body) do
    change fun p =>
      { p with
        arguments := before.arguments
        loops := before.loops
        calls := before.calls
        optionPlace := before.optionPlace
        skip := if p.skip = some .finish then none else p.skip }

/-- Runs a builtin under its name. A failure ends the process only if the builtin is special. -/
def callBuiltin (name : String) (isSpecial : Bool) (action : Act Nat) : Act Unit := do
  let before ← asks Process.builtin
  change fun p => { p with builtin := some name }
  let guarded : Act Unit := fun s =>
    match action s with
    | .ok code s => setCode code s
    | .error .failure s => if isSpecial then .error .failure s else .ok () s
    | .error e s => .error e s
  afterwards guarded (change fun p => { p with builtin := before })

/-- Runs the text in a file. -/
def runFile (run : Runner) (arguments : List String) : Act Nat := do
  match arguments with
  | [] => return 0
  | name :: _ =>
    let fs ← sees World.files
    let directory ← asks Process.directory
    let path := ((← value? "PATH").getD "").toList
    let places := if name.toList.contains '/' then [name]
      else (cutAt (· == ':') path).map fun d => String.ofList d ++ "/" ++ name
    match places.findSome? fun spelling => (fs.find directory spelling).toOption with
    | none =>
      if name.toList.contains '/' then refuse ("cannot open " ++ name ++ ": No such file")
      else refuse (name ++ ": not found")
    | some (_, node) =>
      let text := match node with
        | .file text _ => text
        | _ => ""
      change fun p => { p with builtin := some name }
      let code ← runText run {} text
      change fun p => { p with skip := if p.skip = some .finish then none else p.skip }
      return code

/-- Waits for jobs. -/
def wait (run : Runner) (arguments : List String) : Act Nat := do
  runJobs (conclude run jobDepth) run
  let mut code := 0
  for s in arguments do
    let number ← numberOf s
    match (← sees World.jobs).find? fun j => j.number = number with
    | some job =>
      code ← if job.isKnown then pure (job.status.code) else codeOf job.status
      changeWorld fun w =>
        { w with
          jobs := w.jobs.map fun j => if j.number = number then { j with isKnown := true } else j }
    | none => code := 127
  return code

/-- Says what a name stands for, for `command`. -/
def describeCommand (arguments : List String) : Act Nat := do
  let (options, arguments) ← readOptions "pvV" arguments
  let brief := !options.any fun o => o.1 = 'V'
  match arguments with
  | [] => return 0
  | name :: _ =>
    match ← describeName name brief with
    | some s => put (s ++ "\n") 0
    | none => if brief then return 127 else put (name ++ ": not found\n") 127

/-- A command name with its arguments, behind the words that ask for one that is no function. -/
structure Called where
  name : String
  arguments : List String
  /-- Whether functions are passed over. -/
  noFunction : Bool := false

/-- The command that words call. What stands behind `command` and its options is called in its
place, unless an option asks for something else. While options are read, all of its arguments are
given. -/
def Called.ofWords (reading : Option (List String)) : List String → Option Called
  | [] => reading.map fun arguments => { name := "command", arguments, noFunction := true }
  | s :: rest =>
    let self (arguments : List String) : Called :=
      { name := "command", arguments, noFunction := true }
    let here :=
      if s = "command" then ofWords (some rest) rest
      else some { name := s, arguments := rest, noFunction := reading.isSome }
    match reading, s.toList with
    | some arguments, ['-', '-'] =>
      if rest.isEmpty then some (self arguments) else ofWords none rest
    | some arguments, '-' :: c :: more =>
      if (c :: more).all (· = 'p') then ofWords reading rest else some (self arguments)
    | _, _ => here

/-- What a name is run as. -/
inductive Kind where
  | function (body : Command)
  | special
  | builtin
  | program
deriving Inhabited

/-- What a name is run as. -/
def kindOf (c : Called) : Act Kind := do
  let functions ← asks Process.functions
  match if c.noFunction then none else functions.lookup c.name with
  | some body => return .function body
  | none =>
    if specialBuiltins.contains c.name then return .special
    else if builtinNames.contains c.name then return .builtin
    else return .program

/-- Whether the arguments of a builtin that are assignments stay one word each. -/
def takesAssignments (name : String) : Bool :=
  name = "export" || name = "readonly" || name = "local" || name = "alias"

/-- Expands the words of a command, behind those that are expanded already. What is called settles
how the arguments are expanded. -/
def expandWords (output : Command → Act String) (before : List String) :
    List Word → Act (List String)
  | [] => return before
  | w :: rest => do
    let before := before ++ (← expandFields output w)
    let name := ((Called.ofWords none before).map Called.name).getD "command"
    if name = "command" then expandWords output before rest
    else
      let others ← rest.mapM fun w =>
        if takesAssignments name && (Word.assignment? w).isSome then
          return [← expandValue output w]
        else expandFields output w
      return before ++ others.flatten

/-- Runs what a command that is no function is. -/
def runBuiltin (run : Runner) (place : Place) (c : Called) : Act Nat := do
  match c.name with
  | "eval" => runText run { isTested := place.isTested } (" ".intercalate c.arguments)
  | "." => runFile run c.arguments
  | "wait" => wait run c.arguments
  | "command" => describeCommand c.arguments
  | "exec" =>
    match c.arguments with
    | [] => return 0
    | words =>
      change fun p => { p with traps := p.traps.filter fun t => t.2 = "" }
      match ← findProgram (words.headD "") with
      | .found _ _ =>
        started run { place with isLast := true } (runProgram run programDepth words)
        asks Process.code
      | program =>
        cannotRun (words.headD "") program
        throw .exit
  | name =>
    match builtin? name with
    | some b => b c.arguments
    | none => return 0

/-- Writes a command before it is run. -/
def trace (assignments : List (String × String)) (words : List String) : Act Unit := do
  if ← hasOption 'x' then
    let all := assignments.map (fun (name, value) => name ++ "=" ++ value) ++ words
    let _ ← write 2 (((← value? "PS4").getD "") ++ " ".intercalate all ++ "\n")

/-- Runs a simple command. -/
def runSimple (run : Runner) (place : Place) (line : Nat) (assignments words : List Word)
    (redirections : List Redirection) : Act Unit := do
  let output := outputOf run
  change fun p => { p with line, outputCode := 0 }
  let words ← expandWords output [] words
  let called := Called.ofWords none words
  let kind ← match called with
    | some c => kindOf c
    | none => pure .special
  let isExec := (called.map Called.name) = some "exec"
  let isCommand := words.head? = some "command"
  let isSpecial := (kind matches .special) && !isCommand
  let body : Act Unit := do
    let mut values := []
    for w in assignments do
      match Word.assignment? w with
      | some (name, value) =>
        let text ← expandValue output value
        if !isSpecial then hide name
        assign name text (!isSpecial || (isExec && words.length > 1))
        values := values ++ [(name, text)]
      | none => pure ()
    trace values words
    match called, kind with
    | none, _ => setCode (← asks Process.outputCode)
    | some c, .function function => callFunction run place function c.arguments
    | some c, .program =>
      match ← findProgram c.name with
      | .found _ _ =>
        started run place (runProgram run programDepth (c.name :: c.arguments))
      | .notPermitted =>
        started run place (cannotRun c.name .notPermitted)
      | program => cannotRun c.name program
    | some c, _ => callBuiltin c.name isSpecial (runBuiltin run place c)
  let targets ← redirections.mapM (expandRedirection output)
  let redirected : Act Unit := do
    if ← applyTargets targets then body
    else
      setCode 2
      if isSpecial && called.isSome then throw .failure
  let own : Act Unit := if isSpecial then redirected else withOwnVariables redirected
  if isExec && (called.map fun c => c.arguments.isEmpty) = some true then own
  else withDescriptors (targets.map Target.descriptor) own

end Scriptlet.Shell
