import Scriptlet.Shell.Condition
import Scriptlet.Shell.Format
import Scriptlet.Shell.Session

/-!
# What builtins share

A builtin takes its arguments and gives its code. What it writes, its options, and the conditions
that it may test are here.
-/

namespace Scriptlet.Shell

/-- A command that a shell runs itself. -/
abbrev Builtin := List String → Act Nat

/-- Writes an output, and gives a code, or that of a failure to write. -/
def put (output : String) (code : Nat) : Act Nat := do
  if output.isEmpty || (← write 1 output) then return code
  else
    complain (((← asks Process.builtin).getD "") ++ ": I/O error")
    return 1

/-- The options in front of arguments, by letter, and the arguments behind them. A letter with a
colon behind it takes a value, from the same argument or the next one. -/
def readOptions (letters : String) (arguments : List String) :
    Act (List (Char × String) × List String) :=
  go arguments (2 * arguments.foldr (fun s n => s.length + 1 + n) 0) []
where
  /-- Reads further options, at most so many, behind those in reverse. -/
  go (arguments : List String) : Nat → List (Char × String) →
      Act (List (Char × String) × List String)
    | 0, before => return (before.reverse, arguments)
    | n + 1, before => do
      match arguments with
      | [] => return (before.reverse, [])
      | "--" :: rest => return (before.reverse, rest)
      | s :: rest =>
        match s.toList with
        | '-' :: c :: more =>
          let known := letters.toList.dropWhile (· != c)
          match known with
          | _ :: ':' :: _ =>
            match more, rest with
            | [], value :: rest => go rest n ((c, value) :: before)
            | [], [] => refuse ("No arg for -" ++ String.singleton c ++ " option")
            | more, rest => go rest n ((c, String.ofList more) :: before)
          | _ :: _ =>
            if c = ':' then refuse ("Illegal option -" ++ String.singleton c)
            let rest := if more.isEmpty then rest else String.ofList ('-' :: more) :: rest
            go rest n ((c, "") :: before)
          | [] => refuse ("Illegal option -" ++ String.singleton c)
        | _ => return (before.reverse, s :: rest)

def withoutOptions (arguments : List String) : Act (List String) := do
  return (← readOptions "" arguments).2

def Report.put (r : Report) : Act Nat := do
  for c in r.complaints do
    complain c
  Shell.put r.output r.code

def test : Builtin := fun arguments => do
  let known := (← sees World.files).knowledge (← asks Process.directory)
  match Condition.holds known arguments with
  | .ok b => return if b then 0 else 1
  | .error message => refuse message

end Scriptlet.Shell
