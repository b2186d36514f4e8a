import Scriptlet.Shell.SimpleCommand

/-!
# Running commands

What commands do. A step runs a command with an action for the commands within it, and `runCommand`
ties the knot. Parts of pipelines and other commands in processes of their own are run one after the
other. Like all of the shell, this serves the executable only.
-/

namespace Scriptlet.Shell

/-- Notes that a loop has been left or goes on with its next round; true if it ends. -/
def endsLoop : Act Bool := do
  match ← asks Process.skip with
  | none => return false
  | some .finish => return true
  | some (.leave n) =>
    change fun p => { p with skip := if n ≤ 1 then none else some (.leave (n - 1)) }
    return true
  | some (.nextRound n) =>
    change fun p => { p with skip := if n ≤ 1 then none else some (.nextRound (n - 1)) }
    return n > 1

def withinLoop (action : Act Nat) : Act Unit := do
  change fun p => { p with loops := p.loops + 1 }
  let code ← afterwards action (change fun p => { p with loops := p.loops - 1 })
  setCode code

/-- Repeats a body while a condition succeeds, or until it does; at most so many times. -/
def repeatWhile (run : Runner) (place : Place) (untilSuccess : Bool) (condition body : Command) :
    Nat → Nat → Act Nat
  | 0, _ => throw .exhausted
  | n + 1, code => do
    run { isTested := true } condition
    let tested ← asks Process.code
    let skips := (← asks Process.skip).isSome
    if ← endsLoop then
      return if (← asks Process.skip) = some .finish then tested else code
    else if skips then repeatWhile run place untilSuccess condition body n code
    else if (tested = 0) = untilSuccess then return code
    else
      run { isTested := place.isTested } body
      let code ← asks Process.code
      if ← endsLoop then return code
      else repeatWhile run place untilSuccess condition body n code

/-- Runs a body for each of these values of a variable. -/
def repeatFor (run : Runner) (place : Place) (name : String) (body : Command) :
    Nat → List String → Act Nat
  | code, [] => return code
  | _, s :: rest => do
    assign name s false
    run { isTested := place.isTested } body
    let code ← asks Process.code
    if ← endsLoop then return code else repeatFor run place name body code rest

/-- Runs the body of the first case that a text fits. -/
def runCases (run : Runner) (place : Place) (text : List Char) : List Case → Act Unit
  | [] => setCode 0
  | .mk patterns body :: rest => do
    let rec anyFits : List Word → Act Bool
      | [] => return false
      | w :: ws => do
        if Glob.fits (← expandPattern (outputOf run) w) text then return true else anyFits ws
    if ← anyFits patterns then
      match body with
      | .nothing => setCode 0
      | body => run place body
    else runCases run place text rest

/-- Remembers the program that a command runs, if it can be told before the command is expanded. -/
def rememberProgram : Command → Act Unit
  | .simple _ _ (w :: _) _ => do
    match Word.plain? w with
    | none => return ()
    | some name =>
      let isProgram := isName name && !builtinNames.contains name && !specialBuiltins.contains name
      if isProgram && ((← asks Process.functions).lookup name).isNone then
        let _ ← findProgram name
  | _ => return ()

/-- Runs commands of which each gets what the one before writes. -/
def runPipeline (run : Runner) : Option Nat → List Command → Act Unit
  | _, [] => return ()
  | input, c :: rest => do
    let sink ← if rest.isEmpty then pure none
      else do pure (some (← addDescription (.sink "" true)))
    let leads (p : Process) : Process :=
      let ds := match input with
        | some d => redirect p.descriptors 0 (some d)
        | none => p.descriptors
      let ds := match sink with
        | some d => redirect ds 1 (some d)
        | none => ds
      { p with descriptors := ds }
    let code ← codeOf (← apart run leads (run { isLast := true } c))
    match sink with
    | none => setCode code
    | some d =>
      match ← description d with
      | .sink text _ => setDescription d (.stream text.toList)
      | _ => pure ()
      runPipeline run (some d) rest

def endOnFailure (place : Place) : Act Unit := do
  if !place.isTested && (← asks Process.code) != 0 && (← hasOption 'e') then throw .exit

/-- Runs a command, given how the commands in it are run. The number bounds how often a loop is
repeated. -/
def step (run : Runner) (n : Nat) (place : Place) (command : Command) : Act Unit := do
  match command with
  | .nothing => return ()
  | .simple line assignments words redirections =>
    runSimple run place line assignments words redirections
    if (← asks Process.skip).isNone then endOnFailure place
  | .pipeline commands true =>
    for c in commands do
      rememberProgram c
    runPipeline run none commands
    endOnFailure place
  | .pipeline commands false => addJob (.pipeline commands true)
  | .redirected line body redirections =>
    change fun p => { p with line }
    let targets ← redirections.mapM (expandRedirection (outputOf run))
    withDescriptors (targets.map Target.descriptor) do
      if ← applyTargets targets then run { isTested := place.isTested } body else setCode 2
  | .apart line body redirections true =>
    change fun p => { p with line }
    let targets ← redirections.mapM (expandRedirection (outputOf run))
    let inside : Act Unit := do
      if ← applyTargets targets then run { place with isLast := true } body
      else
        setCode 2
        throw .failure
    if place.isLast && !(← hasTraps) then
      inside
      throw .exit
    else
      setCode (← codeOf (← apart run id inside))
      endOnFailure place
  | .apart line body redirections false => addJob (.apart line body redirections true)
  | .sequence first second =>
    run { isTested := place.isTested } first
    if (← asks Process.skip).isNone then run place second
  | .both first second =>
    run { isTested := true } first
    if (← asks Process.skip).isNone && (← asks Process.code) = 0 then run place second
  | .either first second =>
    run { isTested := true } first
    if (← asks Process.skip).isNone && (← asks Process.code) != 0 then run place second
  | .negated body =>
    run { isTested := true } body
    if (← asks Process.skip).isNone then
      setCode (if (← asks Process.code) = 0 then 1 else 0)
  | .conditional condition yes no =>
    run { isTested := true } condition
    if (← asks Process.skip).isNone then
      if (← asks Process.code) = 0 then run place yes
      else
        match no with
        | some no => run place no
        | none => setCode 0
  | .loop untilSuccess condition body =>
    withinLoop (repeatWhile run place untilSuccess condition body n 0)
  | .each line name words body =>
    change fun p => { p with line }
    let values := (← words.mapM (expandFields (outputOf run))).flatten
    withinLoop (repeatFor run place name body 0 values)
  | .choice line word cases =>
    change fun p => { p with line }
    let text ← expandText (outputOf run) word
    runCases run place text.toList cases
  | .function _ name body =>
    change fun p =>
      { p with functions := (name, body) :: p.functions.filter fun f => f.1 != name }
    setCode 0

/-- Runs a command. The number bounds how deep commands are nested, and how often loops are
repeated. -/
def runCommand : Nat → Runner
  | 0, _, _ => throw .exhausted
  | n + 1, place, command => do
    unless ← hasOption 'n' do
      step (runCommand n) n place command
      runTraps (runCommand n)

end Scriptlet.Shell
