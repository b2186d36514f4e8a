import Scriptlet.Shell.Subprocess
import Scriptlet.Shell.Utility.Catalogue

/-!
# Running programs

What the name of a program that has been found is run as: a utility, a shell, or a program that runs
another one.
-/

namespace Scriptlet.Shell

/-- How much is written by what does not end by itself. -/
def endlessRoom : Nat := Nat.pow 2 16

/-- Writes what a utility leaves. One that does not end by itself is ended when the command that
takes what it writes has ended. -/
def Done.finish (d : Done) : Act Unit := do
  for (isComplaint, text) in d.written do
    let times := if d.isEndless then endlessRoom / max 1 text.length else 1
    let _ ← write (if isComplaint then 2 else 1) (String.join (List.replicate times text))
  if d.isEndless then
    match ← (← asks Process.descriptors).lookup 1 |>.mapM description with
    | some (.sink _ true) => throw (.killed 13)
    | some .empty | some (.sink _ false) | some (.file ..) => throw .exhausted
    | _ => pure ()
  match d.files with
  | some files => changeWorld fun w => { w with files }
  | none => pure ()
  setCode d.code

/-- Runs a utility. -/
def runUtility (u : Utility) (arguments : List String) : Act Unit := do
  let input ← available 0
  let source ← (← asks Process.descriptors).lookup 0 |>.mapM description
  let task : Task :=
    { arguments
      environment := ← environment
      input
      inputIsFile := source matches some (.file ..)
      files := ← sees World.files
      directory := ← asks Process.directory }
  let done := u task
  if done.reads then leave 0 (input.getD []).length
  done.finish

/-- The variables of a shell that starts with an environment. -/
def startingBindings (environment : List (String × String)) (directory : Path) :
    List (String × Variable) :=
  let exported := environment.map fun (name, value) =>
    (name, { value := some value, isExported := true : Variable })
  let own := [("IFS", " \t\n"), ("PS1", "# "), ("PS2", "> "), ("PS4", "+ "), ("OPTIND", "1"),
    ("PPID", "999")]
  let isGiven (name : String) : Bool := environment.any fun e => e.1 = name
  let plain := (own.filter fun v => !isGiven v.1).map fun (name, value) =>
    (name, { value := some value : Variable })
  let here : Variable := { value := some (Files.spell directory), isExported := true }
  plain ++ (exported.filter fun v => v.1 != "PWD") ++ [("PWD", here)]

/-- What a shell that is started by another process is. -/
def Process.newShell (p : Process) (environment : List (String × String)) : Process where
  shell := p.number
  number := p.number
  ancestors := p.ancestors
  bindings := startingBindings environment p.directory
  descriptors := p.descriptors
  traps := p.traps.filter fun t => t.2 = ""
  directory := p.directory
  mask := p.mask
  line := 0

/-- Runs a shell in place of the process, with the options and operands in arguments. The number
bounds how many options there are. -/
def runShell (run : Runner) (takesText : Bool) (isInput : Bool) : Nat → List String → Act Unit
  | 0, _ => throw .exit
  | n + 1, arguments => do
    let rest := arguments.tail
    let execute (text : String) : Act Unit := do
      change fun p => { p with line := 1 }
      let code ← runText run {} text
      if text.isEmpty then setCode code
    match (arguments.headD "").toList with
    | '-' :: '-' :: [] => operands rest execute
    | sign :: letters =>
      if (sign = '-' || sign = '+') && !letters.isEmpty then
        let special (c : Char) : Bool := c = 'c' || c = 's' || c = 'i'
        let c := letters.contains 'c' && sign = '-'
        let s := letters.contains 's' && sign = '-'
        match ← setLetters (sign = '-') rest (letters.filter fun c => !special c) with
        | some rest => runShell run (takesText || c) (isInput || s) n rest
        | none => return ()
      else operands arguments execute
    | [] => operands arguments execute
where
  /-- Runs the text that the operands or what can be read say. -/
  operands (arguments : List String) (execute : String → Act Unit) : Act Unit := do
    if takesText then
      match arguments with
      | [] => refuse "-c requires an argument"
      | text :: rest =>
        match rest with
        | [] => pure ()
        | name :: arguments => change fun p => { p with name, arguments }
        execute text
    else
      match isInput, arguments with
      | false, name :: rest =>
        let fs ← sees World.files
        match fs.find (← asks Process.directory) name with
        | .ok (_, .file text _) =>
          change fun p => { p with name, arguments := rest }
          execute text
        | .ok _ => execute ""
        | .error _ => refuse ("cannot open " ++ name ++ ": No such file")
      | _, rest =>
        change fun p => { p with arguments := rest }
        let text ← available 0
        leave 0 (text.getD []).length
        execute (String.ofList (text.getD []))

/-- Runs an action in place of the process if nothing follows in it, and else in one of its own. -/
def started (run : Runner) (place : Place) (action : Act Unit) : Act Unit := do
  if place.isLast && !(← hasTraps) then
    runJobs (conclude run jobDepth) run
    match ← conclude run jobDepth action with
    | .exited _ => throw .exit
    | .killed n => throw (.killed n)
  else
    let status ← apart run id action
    setCode (← codeOf status)

/-- Writes that a program cannot be run, and gives its code. -/
def cannotRun (name : String) : Program → Act Unit
  | .notPermitted => do
    complain (name ++ ": Permission denied")
    setCode 126
  | .notFound => do
    complain (name ++ if name = "" then ": Permission denied" else ": not found")
    setCode 127
  | .found _ _ => return ()

def replaceByShell (run : Runner) (arguments : List String) : Act Unit := do
  let environment ← environment
  change fun p => p.newShell environment
  runShell run false false (arguments.length + 1) arguments

/-- Runs a program for another one, which says in words of its own that it cannot be run. -/
def runFor (complaint : String → String) (next : List String → Act Unit) :
    List String → Act Unit
  | [] => return ()
  | name :: arguments => do
    let fail (reason : String) (code : Nat) : Act Unit := do
      let _ ← write 2 (complaint name ++ ": " ++ reason ++ "\n")
      setCode code
    match ← findProgramIn ((← value? "PATH").getD "/bin:/usr/bin") name with
    | .found _ spelling => next (spelling :: arguments)
    | .notFound => fail "No such file or directory" 127
    | .notPermitted => fail "Permission denied" 126

/-- Runs a program with another environment, or writes the environment. -/
def withEnvironment (next : List String → Act Unit) : List String → Act Unit
  | [] => do
    let all ← environment
    setCode (← put (String.join (all.map fun (name, value) => name ++ "=" ++ value ++ "\n")) 0)
  | "-i" :: rest | "-" :: rest => do
    change fun p => { p with bindings := [] }
    withEnvironment next rest
  | "-u" :: name :: rest => do
    putVariable name none
    withEnvironment next rest
  | s :: rest => do
    match splitAssignment s with
    | (name, some value) =>
      putVariable name (some { value := some value, isExported := true })
      withEnvironment next rest
    | _ => runFor (fun name => "env: '" ++ name ++ "'") next (s :: rest)

/-- Runs a program within a time, which only waiting takes. -/
def withinTime (next : List String → Act Unit) (arguments : List String) : Act Unit := do
  let options : OptionSet :=
    { letters := "s:k:vfp"
      long := [("signal", 's'), ("kill-after", 'k'), ("verbose", 'v'), ("foreground", 'f'),
        ("preserve-status", 'p')]
      anywhere := false }
  match options.read arguments with
  | .error message => (usageComplaint "timeout" message 125).finish
  | .ok (given, time :: name :: arguments) =>
    match Utility.duration? time with
    | none =>
      (usageComplaint "timeout" ("invalid time interval '" ++ time ++ "'") 125).finish
    | some (limit, unit) =>
      let isTooLong := limit > 0 && name = "sleep" &&
        match arguments.mapM Utility.duration? with
        | some times =>
          let (total, part) := times.foldl (fun (a, b) (c, d) => (a * d + c * b, b * d)) (0, 1)
          limit * part < total * unit
        | none => false
      if isTooLong then
        let isKill := valueOf? given 's' = some "KILL" || valueOf? given 's' = some "9"
        setCode (if isKill then 137 else if isGiven given 'p' then 143 else 124)
      else
        let complaint (name : String) := "timeout: failed to run command '" ++ name ++ "'"
        runFor complaint next (name :: arguments)
  | .ok _ =>
    let _ ← write 2 "Try 'timeout --help' for more information.\n"
    setCode 125

/-- Runs a program with a priority, which nothing depends on. -/
def withPriority (next : List String → Act Unit) (arguments : List String) : Act Unit := do
  let options : OptionSet :=
    { letters := "n:", long := [("adjustment", 'n')], anywhere := false }
  let isPriority (s : String) : Bool := s.toList.head? = some '-' && areDigits (s.toList.drop 1)
  match options.read (arguments.dropWhile isPriority) with
  | .error message => (usageComplaint "nice" message 125).finish
  | .ok (_, []) => (Done.ofText "0\n").finish
  | .ok (_, command) => runFor (fun name => "nice: '" ++ name ++ "'") next command

/-- Runs a program that goes on when the others of a session end. -/
def withoutHangup (next : List String → Act Unit) (command : List String) : Act Unit := do
  if command.isEmpty then (usageComplaint "nohup" "missing operand" 125).finish
  else runFor (fun name => "nohup: failed to run command '" ++ name ++ "'") next command

def withSession (next : List String → Act Unit) (arguments : List String) : Act Unit := do
  let options : OptionSet := { letters := "cfw", long := [("wait", 'w')], anywhere := false }
  match options.read arguments with
  | .error message => (usageComplaint "setsid" message 1).finish
  | .ok (_, []) => (usageComplaint "setsid" "no command specified" 1).finish
  | .ok (_, command) => runFor (fun name => "setsid: failed to execute " ++ name) next command

/-- The words of a text in which quotes and backslashes group, given the one that has been begun, in
reverse. -/
def groupedWords (word : Option (List Char)) (quote : Option Char) : List Char → List String
  | [] => (word.map fun w => String.ofList w.reverse).toList
  | c :: rest =>
    let add (c : Char) := some (c :: word.getD [])
    match quote with
    | some '\\' => groupedWords (add c) none rest
    | some q =>
      if c = q then groupedWords (some (word.getD [])) none rest
      else groupedWords (add c) quote rest
    | none =>
      if c = '"' || c = '\'' then groupedWords (some (word.getD [])) (some c) rest
      else if c = '\\' then groupedWords word (some c) rest
      else if isSpace c then
        (word.map fun w => String.ofList w.reverse).toList ++ groupedWords none none rest
      else groupedWords (add c) none rest

/-- A text with one text in it replaced by another. The number bounds how long it is. -/
def replaceAll (old new : List Char) : Nat → List Char → List Char
  | 0, cs => cs
  | _, [] => []
  | n + 1, c :: rest =>
    match behind? old (c :: rest) with
    | some behind => new ++ replaceAll old new n behind
    | none => c :: replaceAll old new n rest

/-- The parts of a list of at most so many elements. The number bounds how many there are. -/
def groups {α : Type} (size : Nat) : Nat → List α → List (List α)
  | 0, _ => []
  | _, [] => []
  | n + 1, as => as.take size :: groups size n (as.drop size)

/-- How a program that runs others takes its input. -/
structure InputUse where
  /-- The mark that each line is put in the place of. -/
  mark : Option String := none
  /-- How many words are taken at a time. -/
  count : Option Nat := none
  /-- How many lines are taken at a time. -/
  lineCount : Option Nat := none
  /-- Whether each command is written before it is run. -/
  isVerbose : Bool := false
  /-- What ends a word, if not blanks. -/
  separator : Option Char := none
  /-- Whether nothing is run when there are no words. -/
  needsWords : Bool := false
  words : List String := []

/-- How arguments say that the input is taken. -/
def InputUse.ofArguments (use : InputUse) : List String → InputUse
  | "-I" :: mark :: rest => ofArguments { use with mark := some mark } rest
  | "-n" :: n :: rest => ofArguments { use with count := Numeral.natural10? n } rest
  | "-L" :: n :: rest => ofArguments { use with lineCount := Numeral.natural10? n } rest
  | "-t" :: rest => ofArguments { use with isVerbose := true } rest
  | "-0" :: rest => ofArguments { use with separator := some '\x00' } rest
  | "-r" :: rest => ofArguments { use with needsWords := true } rest
  | s :: rest =>
    match s.toList with
    | '-' :: 'I' :: mark => ofArguments { use with mark := some (String.ofList mark) } rest
    | '-' :: 'n' :: n =>
      ofArguments { use with count := Numeral.natural10? (String.ofList n) } rest
    | '-' :: 'L' :: n =>
      ofArguments { use with lineCount := Numeral.natural10? (String.ofList n) } rest
    | '-' :: 'd' :: c => ofArguments { use with separator := (unescape c.length c).1.head? } rest
    | _ => { use with words := s :: rest }
  | [] => use

/-- Runs a program with what can be read as further arguments. -/
def withInput (run : Runner) (next : List String → Act Unit) (arguments : List String) :
    Act Unit := do
  let use := InputUse.ofArguments {} arguments
  let input := (← available 0).getD []
  leave 0 input.length
  let empty ← addDescription .empty
  let words := if use.words.isEmpty then ["echo"] else use.words
  let items := match use.mark, use.separator with
    | some _, none => (lines input).map fun l => String.ofList (l.dropWhile isSpace)
    | _, some c =>
      let parts := (cutAt (· == c) input).map String.ofList
      if parts.getLast? = some "" then parts.dropLast else parts
    | none, none => groupedWords none none input
  let byLines (k : Nat) : List (List String) :=
    let rows := ((lines input).map (groupedWords none none)).filter fun row => !row.isEmpty
    (groups (max k 1) (rows.length + 1) rows).map List.flatten
  let all := match use.mark, use.count, use.lineCount with
    | some mark, _, _ => items.map fun item =>
      words.map fun w =>
        String.ofList (replaceAll mark.toList item.toList w.length w.toList)
    | none, some k, _ => (groups (max k 1) (items.length + 1) items).map fun g => words ++ g
    | none, none, some k => (byLines k).map fun g => words ++ g
    | none, none, none => [words ++ items]
  let none? := items.isEmpty && (use.needsWords || use.mark.isSome)
  let mut code := 0
  for command in if none? then [] else if all.isEmpty then [words] else all do
    let leads (p : Process) : Process :=
      { p with descriptors := redirect p.descriptors 0 (some empty) }
    if use.isVerbose then let _ ← write 2 (" ".intercalate command ++ "\n")
    match ← apart run leads (runFor (fun name => "xargs: " ++ name) next command) with
    | .exited 0 => pure ()
    | .exited 127 => code := 127
    | .exited 126 => code := 126
    | .exited _ => if code = 0 then code := 123
    | .killed _ => code := 125
  setCode code

/-- Runs a program in place of the process. The number bounds how many programs run one another. -/
def runProgram (run : Runner) : Nat → List String → Act Unit
  | 0, _ => throw .exhausted
  | _, [] => setCode 0
  | n + 1, name :: arguments => do
    match ← findProgram name with
    | .found path _ =>
      let base := path.headD ""
      match base, Utility.ofName? base with
      | "sh", _ | "dash", _ => replaceByShell run arguments
      | "env", _ => withEnvironment (runProgram run n) arguments
      | "timeout", _ => withinTime (runProgram run n) arguments
      | "xargs", _ => withInput run (runProgram run n) arguments
      | "nice", _ => withPriority (runProgram run n) arguments
      | "nohup", _ => withoutHangup (runProgram run n) arguments
      | "setsid", _ => withSession (runProgram run n) arguments
      | _, some u => runUtility u arguments
      | _, none => replaceByShell run (Files.spell path :: arguments)
    | program => cannotRun name program

/-- How many programs run one another. -/
def programDepth : Nat := 1000

end Scriptlet.Shell
