import Scriptlet.Shell.Builtin.Basic
import Scriptlet.Shell.Expansion

/-!
# Builtins about variables

Listing, declaring, removing and reading variables.
-/

namespace Scriptlet.Shell

def orderedVariables : Act (List (String × Variable)) := do
  let all ← asks Process.bindings
  return all.mergeSort fun a b => !comesBefore b.1.toList a.1.toList

def listVariables (word : String) (all : List (String × Variable)) : Act Nat := do
  let line (name : String) (v : Variable) : String :=
    let value := match v.value with
      | some s => "=" ++ quoted s
      | none => ""
    word ++ name ++ value ++ "\n"
  put (String.join (all.map fun (name, v) => line name v)) 0

def splitAssignment (s : String) : String × Option String :=
  let name := s.toList.takeWhile (· != '=')
  match s.toList.drop name.length with
  | '=' :: value => (String.ofList name, some (String.ofList value))
  | _ => (s, none)

def checkName (name : String) : Act Unit := do
  unless isName name do refuse (name ++ ": bad variable name")

/-- Gives variables a property, and perhaps a value. -/
def declare (word : String) (property : Variable → Variable)
    (isListed : Variable → Bool) : Builtin := fun arguments => do
  let (options, arguments) ← readOptions "p" arguments
  if arguments.isEmpty || !options.isEmpty then
    listVariables (word ++ " ") ((← orderedVariables).filter fun v => isListed v.2)
  else
    for s in arguments do
      let (name, value) := splitAssignment s
      checkName name
      match value with
      | some value => assign name value false
      | none => pure ()
      putVariable name (some (property ((← held? name).getD {})))
    return 0

/-- Makes variables ones of the function that is being run. -/
def localVariables : Builtin := fun arguments => do
  if (← asks Process.hidden).isEmpty then refuse "not in a function"
  for s in arguments do
    let (name, value) := splitAssignment s
    checkName name
    hide name
    match value with
    | some value => assign name value false
    | none =>
      if (← held? name).isNone then putVariable name (some {})
  return 0

/-- Removes variables or functions. -/
def unset : Builtin := fun arguments => do
  let (options, arguments) ← readOptions "vf" arguments
  let ofFunctions := options.getLast?.any fun o => o.1 = 'f'
  for name in arguments do
    if ofFunctions then
      change fun p => { p with functions := p.functions.filter fun f => f.1 != name }
    else
      checkName name
      if ((← held? name).getD {}).isReadonly then refuse (name ++ ": is read only")
      putVariable name none
  return 0

/-- The characters of a line that is read, each with whether a backslash precedes it, and how many
characters make it up; and whether its end has been met. The number bounds how many there are. -/
def readCharacters (backslashes : Bool) : Nat → List Char → List Mark × Nat × Bool
  | 0, _ => ([], 0, false)
  | _, [] => ([], 0, false)
  | _, '\n' :: _ => ([], 1, true)
  | n + 1, c :: rest =>
    let behind (k : Nat) (m : List Mark) (rest : List Char) :=
      let (ms, count, isWhole) := readCharacters backslashes n rest
      (m ++ ms, count + k, isWhole)
    if c = '\\' && backslashes then
      match rest with
      | [] => ([], 1, false)
      | '\n' :: rest => behind 2 [] rest
      | c :: rest => behind 2 [(c, true)] rest
    else behind 1 (if c = '\x00' then [] else [(c, false)]) rest

/-- The fields of a line, at most so many; the last one is all that is left. -/
def readFields (separators : List Char) : Nat → List Mark → List String
  | 0, _ => []
  | n + 1, line =>
    let separates (m : Mark) : Bool := !m.2 && separators.contains m.1
    let isBlank (m : Mark) : Bool := separates m && isBlankSeparator m.1
    let line := line.dropWhile isBlank
    let field := line.takeWhile fun m => !separates m
    let behind := (line.drop field.length).dropWhile isBlank
    let rest := match behind with
      | m :: rest => if separates m then rest.dropWhile isBlank else m :: rest
      | [] => []
    let text (ms : List Mark) : String := String.ofList (ms.map Prod.fst)
    if line.isEmpty then []
    else if n = 0 then
      if rest.isEmpty then [text field]
      else [text (line.reverse.dropWhile isBlank).reverse]
    else text field :: readFields separators n rest

/-- Reads a line into variables. -/
def readLine : Builtin := fun arguments => do
  let (options, names) ← readOptions "p:r" arguments
  if names.isEmpty then refuse "arg count"
  match ← available 0 with
  | none => return 1
  | some input =>
    let backslashes := !options.any fun o => o.1 = 'r'
    let (line, count, isWhole) := readCharacters backslashes (input.length + 1) input
    leave 0 count
    let fields := readFields (← separators) names.length line
    for (name, i) in names.zipIdx do
      checkName name
      assign name (fields.getD i "") false
    return if isWhole then 0 else 1

end Scriptlet.Shell
