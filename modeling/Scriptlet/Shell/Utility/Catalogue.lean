import Scriptlet.Shell.Condition
import Scriptlet.Shell.Format
import Scriptlet.Shell.Utility.Awk
import Scriptlet.Shell.Utility.Calculation
import Scriptlet.Shell.Utility.Characters
import Scriptlet.Shell.Utility.Counts
import Scriptlet.Shell.Utility.Dump
import Scriptlet.Shell.Utility.Edit
import Scriptlet.Shell.Utility.Search
import Scriptlet.Shell.Utility.Tree

/-!
# The utilities by name

Small utilities, and the names under which all of them are found.
-/

namespace Scriptlet.Shell.Utility

/-- Writes arguments. Escapes are replaced only if that is asked for. -/
def echo : Utility := fun t =>
  let isOption (s : String) : Bool :=
    match s.toList with
    | '-' :: c :: cs => (c :: cs).all fun c => c = 'n' || c = 'e' || c = 'E'
    | _ => false
  let options := t.arguments.takeWhile isOption
  let letters := options.flatMap fun s => s.toList.tail
  let text := (" ".intercalate (t.arguments.drop options.length)).toList
  let replaces := (letters.filter (· != 'n')).getLast? = some 'e'
  let (text, ends) := if replaces then unescape text.length text else (text, false)
  .ofText (String.ofList text ++ if letters.contains 'n' || ends then "" else "\n")

def printf : Utility := fun t =>
  let r := Shell.printf t.arguments
  { written := (r.complaints.map fun c => (true, "printf: " ++ c ++ "\n")) ++ [(false, r.output)]
    code := min r.code 1 }

def test (arguments : List String) (t : Task) : Done :=
  match Condition.holds (t.files.knowledge t.directory) arguments with
  | .ok b => { code := if b then 0 else 1 }
  | .error message => .ofComplaint ("test: " ++ message) 2

def printenv : Utility := fun t =>
  if t.arguments.isEmpty then
    .ofText (String.join (t.environment.map fun (name, value) => name ++ "=" ++ value ++ "\n"))
  else
    let values := t.arguments.filterMap fun name => t.environment.lookup name
    { written := [(false, String.join (values.map (· ++ "\n")))]
      code := if values.length = t.arguments.length then 0 else 1 }

/-- Writes which programs names lead to. -/
def which : Utility := fun t =>
  let names := t.arguments.filter fun s => s != "-a"
  let directories := cutAt (· == ':') ((t.environment.lookup "PATH").getD "").toList
  let found := names.filterMap fun name =>
    let places := if name.toList.contains '/' then [name]
      else directories.map fun d => String.ofList d ++ "/" ++ name
    places.find? fun place =>
      (t.files.find t.directory place).toOption.any fun n => n.2 matches .file _ true
  { written := [(false, String.join (found.map (· ++ "\n")))]
    code := if found.length = names.length && !names.isEmpty then 0 else 1 }

def id : Utility :=
  withOptions "id" 1 { letters := "ugGnr" } fun _ given _ =>
    if given.isEmpty then .ofText "uid=0(root) gid=0(root) groups=0(root)\n"
    else .ofText (if isGiven given 'n' then "root\n" else "0\n")

def yes : Utility := fun t =>
  { written := [(false, (if t.arguments.isEmpty then "y" else " ".intercalate t.arguments) ++ "\n")]
    isEndless := true }

/-- The utilities by name. -/
def catalogue : List (String × Utility) :=
  [("[", fun t =>
      if t.arguments.getLast? = some "]" then test t.arguments.dropLast t
      else .ofComplaint "[: missing ']'" 2),
   ("awk", awk), ("base64", base64), ("basename", basename), ("cat", cat), ("chmod", chmod),
   ("cp", cp), ("cut", cut), ("dirname", dirname), ("echo", echo), ("egrep", searchLines .extended),
   ("expr", expr), ("false", fun _ => { code := 1 }), ("fgrep", searchLines .plain),
   ("fold", fold), ("grep", searchLines .basic), ("head", head), ("id", id), ("ls", ls),
   ("mkdir", mkdir), ("mv", mv), ("nl", nl), ("od", od), ("paste", paste),
   ("printenv", printenv), ("printf", printf),
   ("pwd", fun t => .ofText (Files.spell t.directory ++ "\n")), ("readlink", readlink),
   ("realpath", realpath), ("rev", rev), ("rm", rm), ("rmdir", rmdir), ("sed", sed), ("seq", seq),
   ("sleep", sleep), ("sort", sort), ("tac", tac), ("tail", tail), ("tee", tee),
   ("test", fun t => test t.arguments t), ("touch", touch), ("tr", tr), ("true", fun _ => {}),
   ("uname", fun _ => .ofText "Linux\n"), ("uniq", uniq), ("wc", wc), ("which", which),
   ("whoami", fun _ => .ofText "root\n"), ("yes", yes)]

def ofName? (name : String) : Option Utility :=
  catalogue.lookup name

end Scriptlet.Shell.Utility
