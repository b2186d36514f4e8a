import Scriptlet.Shell.Utility.Awk.Evaluation
import Scriptlet.Shell.Utility.Awk.Reading

/-!
# Programs over records

The utility that runs a program given as its argument, or in files, over the records of its inputs.
-/

namespace Scriptlet.Shell

namespace Awk

/-- What stands in arguments: assignments, files with programs, and what is left. -/
structure Invocation where
  separator : Option String := none
  assignments : List String := []
  programs : List String := []
  operands : List String := []

/-- What stands in arguments. -/
def Invocation.ofArguments (i : Invocation) : List String → Except String Invocation
  | [] => .ok i
  | "--" :: rest => .ok { i with operands := rest }
  | "-F" :: s :: rest => ofArguments { i with separator := some s } rest
  | "-v" :: s :: rest => ofArguments { i with assignments := i.assignments ++ [s] } rest
  | "-f" :: s :: rest => ofArguments { i with programs := i.programs ++ [s] } rest
  | s :: rest =>
    match s.toList with
    | '-' :: 'F' :: c :: cs =>
      ofArguments { i with separator := some (String.ofList (c :: cs)) } rest
    | '-' :: 'v' :: c :: cs =>
      ofArguments { i with assignments := i.assignments ++ [String.ofList (c :: cs)] } rest
    | '-' :: 'f' :: c :: cs =>
      ofArguments { i with programs := i.programs ++ [String.ofList (c :: cs)] } rest
    | '-' :: c :: _ => .error ("not an option: " ++ String.ofList ['-', c])
    | _ => .ok { i with operands := s :: rest }

def startingGlobals : List (String × Slot) :=
  let text (name s : String) : String × Slot := (name, { value := .text s })
  let number (name : String) (x : Float) : String × Slot := (name, { value := .number x })
  [text "FS" " ", text "OFS" " ", text "RS" "\n", text "ORS" "\n", text "SUBSEP" "\x1c",
   text "CONVFMT" "%.6g", text "OFMT" "%.6g", text "FILENAME" "", number "NR" 0, number "FNR" 0,
   number "RSTART" 0, number "RLENGTH" (-1)]

/-- Runs a program with what its arguments say. -/
def Program.runWith (p : Program) (i : Invocation) (operands : List String) : Run Unit := do
  let arguments := ("awk" :: operands).zipIdx.map fun (s, k) => (toString k, Value.input s)
  putElements (← arrayOf "ARGV") arguments.reverse
  assignVariable "ARGC" (.ofInt arguments.length)
  let environment := (← get).task.environment.map fun (name, s) => (name, Value.input s)
  putElements (← arrayOf "ENVIRON") environment.reverse
  match i.separator with
  | some s =>
    assignVariable "FS" (.text (String.ofList (unescape s.length s.toList).1))
  | none => pure ()
  for s in i.assignments do
    unless ← takeAssignment s do fail ("improper assignment: -v " ++ s)
  p.run

def Machine.done (m : Machine) (complaint : Option String) : Done where
  written := m.written.reverse ++ complaint.toList.map fun s => (true, s ++ "\n")
  code := if complaint.isSome then 2 else m.code
  reads := m.reads
  files := some m.files

def complaintOf (m : Machine) (message : String) : String :=
  let text (name : String) : String :=
    (((m.globals.lookup name).getD {}).value).toText "%.6g"
  if message.startsWith "cannot open" then "awk: " ++ message
  else
    "awk: run time error: " ++ message ++ "\n\tFILENAME=\"" ++ text "FILENAME" ++ "\" FNR=" ++
      text "FNR" ++ " NR=" ++ text "NR"

end Awk

/-- Runs a program over records. -/
def Utility.awk : Utility := fun t =>
  match Awk.Invocation.ofArguments {} t.arguments with
  | .error message => .ofComplaint ("awk: " ++ message) 2
  | .ok i =>
    let source : Except String (String × List String) :=
      match i.programs, i.operands with
      | [], [] => .error "Usage: mawk [Options] [Program] [file ...]"
      | [], text :: operands => .ok (text, operands)
      | names, operands => do
        let texts ← names.mapM fun name =>
          match t.content name with
          | .ok cs => .ok (String.ofList cs)
          | .error message => .error ("awk: cannot open \"" ++ name ++ "\" (" ++ message ++ ")")
        return ("\n".intercalate texts, operands)
    match source with
    | .error message => .ofComplaint message 2
    | .ok (text, operands) =>
      match Awk.Program.ofText text.toList with
      | .error message => .ofComplaint ("awk: line 1: " ++ message) 2
      | .ok p =>
        let m : Awk.Machine := { globals := Awk.startingGlobals, files := t.files, task := t }
        match p.runWith i operands m with
        | .ok _ m => m.done none
        | .error (.failure message) m => m.done (some (Awk.complaintOf m message))
        | .error _ m => m.done (some "awk: line 1: return outside function body")

end Scriptlet.Shell
