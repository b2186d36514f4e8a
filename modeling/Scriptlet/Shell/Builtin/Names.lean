import Scriptlet.Shell.Builtin.Variables
import Scriptlet.Shell.Reading.Grammar

/-!
# Builtins about names

Aliases, programs, and what the name of a command stands for.
-/

namespace Scriptlet.Shell

def aliasLine (name value : String) : String :=
  name ++ "=" ++ quoted value ++ "\n"

/-- Lists or sets aliases. -/
def changeAliases : Builtin := fun arguments => do
  let aliases ← asks Process.aliases
  if arguments.isEmpty then
    put (String.join ((inTableOrder 39 aliases).map fun (name, value) => aliasLine name value)) 0
  else
    let mut code := 0
    for s in arguments do
      let (name, value) := splitAssignment s
      match value, name with
      | some value, name =>
        change fun p =>
          { p with aliases := (p.aliases.filter fun a => a.1 != name) ++ [(name, value)] }
      | none, name =>
        match (← asks Process.aliases).lookup name with
        | some value => let _ ← put (aliasLine name value) 0
        | none =>
          let _ ← write 2 ("alias: " ++ name ++ " not found\n")
          code := 1
    return code

/-- Removes aliases. -/
def removeAliases : Builtin := fun arguments => do
  let (options, names) ← readOptions "a" arguments
  if !options.isEmpty then
    change fun p => { p with aliases := [] }
    return 0
  let mut code := 0
  for name in names do
    if ((← asks Process.aliases).lookup name).isSome then
      change fun p => { p with aliases := p.aliases.filter fun a => a.1 != name }
    else
      let _ ← write 2 ("unalias: " ++ name ++ " not found\n")
      code := 1
  return code

def builtinNames : List String :=
  specialBuiltins ++
    ["alias", "bg", "cd", "chdir", "command", "echo", "false", "fg", "getopts", "hash", "jobs",
     "kill", "printf", "pwd", "read", "test", "[", "true", "type", "ulimit", "umask", "unalias",
     "wait"]

/-- What the name of a program leads to. -/
inductive Program where
  | found (path : Path) (spelling : String)
  | notFound
  | notPermitted
deriving DecidableEq, Repr

/-- The program that a name leads to, by itself if there is a slash in it, or else in one of the
directories to look in. -/
def findProgramIn (directories name : String) : Act Program := do
  let fs ← sees World.files
  let directory ← asks Process.directory
  let look (spelling : String) : Program :=
    match fs.find directory spelling with
    | .ok (path, .file _ true) => .found path spelling
    | .ok _ => .notPermitted
    | .error .notPermitted => .notPermitted
    | .error _ => .notFound
  if name.toList.contains '/' then return look name
  else if name = "" then return .notFound
  else
    let all := (cutAt (· == ':') directories.toList).map fun d =>
      look (if d.isEmpty then name else String.ofList d ++ "/" ++ name)
    return (all.find? fun p => p matches .found ..).getD .notFound

/-- The program that a name leads to for the shell, which remembers it. -/
def findProgram (name : String) : Act Program := do
  let found ← findProgramIn ((← value? "PATH").getD "") name
  match found with
  | .found _ spelling =>
    if !name.toList.contains '/' && ((← asks Process.remembered).lookup name).isNone then
      change fun p => { p with remembered := p.remembered ++ [(name, spelling)] }
  | _ => pure ()
  return found

/-- What a name stands for, in a few words or as a sentence; nothing if it stands for nothing. -/
def describeName (name : String) (brief : Bool) : Act (Option String) := do
  let p ← asks id
  let sentence (s : String) := if brief then name else name ++ " is " ++ s
  if (Keyword.spellings.lookup name).isSome then return some (sentence "a shell keyword")
  match p.aliases.lookup name with
  | some value =>
    return some (if brief then "alias " ++ name ++ "=" ++ quoted value
      else sentence ("an alias for " ++ value))
  | none => pure ()
  if (p.functions.lookup name).isSome then return some (sentence "a shell function")
  if specialBuiltins.contains name then return some (sentence "a special shell builtin")
  if builtinNames.contains name then return some (sentence "a shell builtin")
  let front := if (p.remembered.lookup name).isSome then "a tracked alias for " else ""
  match ← findProgram name with
  | .found _ spelling => return some (if brief then spelling else sentence (front ++ spelling))
  | _ => return none

/-- Says what names stand for. -/
def type : Builtin := fun arguments => do
  let mut code := 0
  for name in arguments do
    match ← describeName name false with
    | some s => let _ ← put (s ++ "\n") 0
    | none =>
      let _ ← put (name ++ ": not found\n") 0
      code := 127
  return code

/-- Looks programs up, or lists those that are remembered. -/
def hash : Builtin := fun arguments => do
  let (options, names) ← readOptions "r" arguments
  if !options.isEmpty then
    change fun p => { p with remembered := [] }
    return 0
  if names.isEmpty then
    let all := inTableOrder 31 (← asks Process.remembered)
    put (String.join (all.map fun (_, spelling) => spelling ++ "\n")) 0
  else
    let mut code := 0
    for name in names do
      if !builtinNames.contains name && !((← findProgram name) matches .found ..) then
        complain (name ++ ": not found")
        code := 1
    return code

end Scriptlet.Shell
