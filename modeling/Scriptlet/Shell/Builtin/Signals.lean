import Scriptlet.Shell.Builtin.Variables

/-!
# Builtins about signals

Setting what is run for signals, taking them, and sending them.
-/

namespace Scriptlet.Shell

def signalNumber? (s : String) : Option Nat :=
  match Numeral.natural10? s with
  | some n => if n ≤ 64 then some n else none
  | none =>
    let name := s.toUpper
    if name = "EXIT" then some 0 else (signals.findIdx? (· == name)).map (· + 1)

/-- The name of a signal, or its number. -/
def signalLabel (n : Nat) : String :=
  match n with
  | 0 => "EXIT"
  | 16 => "16"
  | n =>
    match signalName? n with
    | some name => name
    | none =>
      if n = 34 then "RTMIN" else if n = 64 then "RTMAX"
      else if 34 < n && n < 50 then "RTMIN+" ++ toString (n - 34)
      else if 50 ≤ n && n < 64 then "RTMAX-" ++ toString (64 - n)
      else toString n

/-- Sets what is run for signals, or lists it. -/
def trap : Builtin := fun arguments => do
  match ← withoutOptions arguments with
  | [] =>
    let traps ← asks Process.traps
    let ordered := traps.mergeSort fun a b => a.1 ≤ b.1
    put (String.join (ordered.map fun (n, action) =>
      "trap -- " ++ quoted action ++ " " ++ signalLabel n ++ "\n")) 0
  | first :: rest =>
    let isReset := rest.isEmpty || (Numeral.natural10? first).isSome
    let (action, names) := if isReset then (none, first :: rest)
      else (if first = "-" then none else some first, rest)
    for name in names do
      match signalNumber? name with
      | none =>
        let _ ← write 2 ("trap: " ++ name ++ ": bad trap\n")
        return 1
      | some n =>
        change fun p =>
          let others := p.traps.filter fun t => t.1 != n
          { p with
            traps := match action with
              | some s => (n, s) :: others
              | none => others }
    return 0

/-- The signals that do nothing if nothing is run for them, and those that stop a process. -/
def harmlessSignals : List Nat :=
  [0, 17, 18, 19, 20, 21, 22, 23, 28]

def takeSignal (n : Nat) : Act Unit := do
  let traps ← asks Process.traps
  match if n = 9 then none else traps.lookup n with
  | some action =>
    if n != 0 && action != "" then change fun p => { p with signals := p.signals ++ [n] }
  | none => unless harmlessSignals.contains n do throw (.killed n)

/-- Takes the signals that have come while another process was running. -/
def takeSignals : Act Unit := do
  let number ← asks Process.number
  let mine := (← sees World.signals).filter fun s => s.1 = number
  unless mine.isEmpty do
    changeWorld fun w => { w with signals := w.signals.filter fun s => s.1 != number }
    for (_, n) in mine do
      takeSignal n

/-- Sends a signal to a process; false if there is none of that number. -/
def send (n target : Nat) : Act Bool := do
  let p ← asks id
  if target = p.number then
    takeSignal n
    return true
  match (← sees World.jobs).find? fun j => j.number = target with
  | some job =>
    if job.waiting.isNone then return false
    unless harmlessSignals.contains n do
      changeWorld fun w =>
        { w with
          jobs := w.jobs.map fun j =>
            if j.number = target then { j with waiting := none, status := .killed n } else j }
    return true
  | none =>
    if p.ancestors.contains target then
      changeWorld fun w => { w with signals := w.signals ++ [(target, n)] }
      return true
    return false

/-- Sends signals, or lists them. -/
def kill : Builtin := fun arguments => do
  let usage {α : Type} : Act α :=
    refuse ("Usage: kill [-s sigspec | -signum | -sigspec] [pid | job]... or\n" ++
      "kill -l [exitstatus]")
  let start (s : String) := (s.toList.head?).any (· = '-')
  let (lists, signal, targets) ← match arguments with
    | [] => usage
    | first :: rest =>
      if !start first then pure (false, 15, first :: rest)
      else
        match signalNumber? (String.ofList first.toList.tail) with
        | some n => pure (false, n, rest)
        | none =>
          let (options, rest) ← readOptions "ls:" (first :: rest)
          let mut signal := 15
          for (c, value) in options do
            if c = 's' then
              match signalNumber? value with
              | some n => signal := n
              | none => refuse ("invalid signal number or name: " ++ value)
          pure (options.any fun o => o.1 = 'l', signal, rest)
  if lists then
    match targets with
    | [] =>
      let all := (List.range 64).map fun n => signalLabel (n + 1) ++ "\n"
      put ("0\n" ++ String.join all) 0
    | s :: _ =>
      let n ← numberOf s
      let n := if n > 128 then n - 128 else n
      if 0 < n && n ≤ 64 then put (signalLabel n ++ "\n") 0
      else refuse ("invalid signal number or exit status: " ++ s)
  else if targets.isEmpty then usage
  else
    let mut code := 0
    for s in targets do
      let target ← numberOf (if start s then String.ofList s.toList.tail else s)
      unless ← send signal target do
        complain "No such process\n"
        code := 1
    return code

end Scriptlet.Shell
