import Scriptlet.Shell.Files
import Scriptlet.Shell.Numeral

/-!
# Utilities

Programs that are run by name. A task says what a program is given; it gives back what it writes and
what it changes. The utilities serve the executable only.
-/

namespace Scriptlet.Shell

/-- What a program is given. -/
structure Task where
  arguments : List String
  environment : List (String × String) := []
  /-- What can be read, if anything can. -/
  input : Option (List Char)
  /-- Whether what can be read is a file, whose size is known. -/
  inputIsFile : Bool := false
  files : Files
  directory : Path

/-- What a program leaves. -/
structure Done where
  /-- What it writes, in order, and whether that is a complaint. -/
  written : List (Bool × String) := []
  code : Nat := 0
  /-- Whether it reads what can be read. -/
  reads : Bool := false
  /-- The files, if it changes them. -/
  files : Option Files := none
  /-- Whether it goes on writing the same until it is ended. -/
  isEndless : Bool := false

/-- A program. -/
abbrev Utility := Task → Done

namespace Done

def ofText (s : String) : Done where
  written := [(false, s)]

def ofComplaint (s : String) (code : Nat) : Done where
  written := [(true, s ++ "\n")]
  code

end Done

namespace Task

/-- The content of a file by name, or why there is none. A hyphen stands for what can be read. -/
def content (t : Task) (name : String) : Except String (List Char) :=
  if name = "-" || name = "/dev/stdin" then
    match t.input with
    | some cs => .ok cs
    | none => .error "Bad file descriptor"
  else
    match t.files.find t.directory name with
    | .ok (_, .file s _) => .ok s.toList
    | .ok (_, .empty) => .ok []
    | .ok (_, .directory) => .error "Is a directory"
    | .error fault => .error fault.describe

/-- Whether any of these names stands for what can be read. -/
def reads (names : List String) : Bool :=
  names.any fun n => n = "-" || n = "/dev/stdin"

end Task

/-- An option of a program, and its value. -/
structure Given where
  letter : Char
  value : String := ""
deriving DecidableEq, Repr

/-- What options a program has. -/
structure OptionSet where
  /-- The letters; one with a colon behind it takes a value. -/
  letters : String
  /-- Long names, each with the letter that it stands for. -/
  long : List (String × Char) := []
  /-- Whether options can stand behind other arguments. -/
  anywhere : Bool := true

/-- Whether a letter is an option, and then whether it takes a value. -/
def OptionSet.takesValue? (o : OptionSet) (c : Char) : Option Bool :=
  match if c = ':' then [] else o.letters.toList.dropWhile (· != c) with
  | [] => none
  | _ :: ':' :: _ => some true
  | _ => some false

/-- The options among arguments, and the other arguments. The error is what is wrong. The number
bounds how many options there are. -/
def OptionSet.readWithin (o : OptionSet) : Nat → List String →
    Except String (List Given × List String)
  | 0, rest => .ok ([], rest)
  | _, [] => .ok ([], [])
  | _, "--" :: rest => .ok ([], rest)
  | n + 1, s :: rest => do
    let goOn (given : Given) (rest : List String) : Except String (List Given × List String) := do
      let (others, rest) ← o.readWithin n rest
      return (given :: others, rest)
    match s.toList with
    | '-' :: '-' :: spelling =>
      let name := spelling.takeWhile (· != '=')
      let value? := match spelling.drop name.length with
        | '=' :: value => some (String.ofList value)
        | _ => none
      match o.long.lookup (String.ofList name) with
      | none => throw ("unrecognized option '" ++ s ++ "'")
      | some c =>
        match (o.takesValue? c).getD false, value?, rest with
        | true, none, value :: rest => goOn ⟨c, value⟩ rest
        | true, none, [] => throw ("option '" ++ s ++ "' requires an argument")
        | _, value?, rest => goOn ⟨c, value?.getD ""⟩ rest
    | '-' :: c :: more =>
      match o.takesValue? c, more, rest with
      | none, _, _ => throw ("invalid option -- '" ++ String.singleton c ++ "'")
      | some true, [], value :: rest => goOn ⟨c, value⟩ rest
      | some true, [], [] =>
        throw ("option requires an argument -- '" ++ String.singleton c ++ "'")
      | some true, more, rest => goOn ⟨c, String.ofList more⟩ rest
      | some false, [], rest => goOn ⟨c, ""⟩ rest
      | some false, more, rest => goOn ⟨c, ""⟩ (String.ofList ('-' :: more) :: rest)
    | _ =>
      if o.anywhere then
        let (given, others) ← o.readWithin n rest
        return (given, s :: others)
      else return ([], s :: rest)

def OptionSet.read (o : OptionSet) (arguments : List String) :
    Except String (List Given × List String) :=
  o.readWithin (arguments.foldr (fun s n => s.length + 1 + n) 0) arguments

def isGiven (given : List Given) (c : Char) : Bool :=
  given.any fun g => g.letter = c

def valueOf? (given : List Given) (c : Char) : Option String :=
  (given.reverse.find? fun g => g.letter = c).map Given.value

def usageComplaint (program message : String) (code : Nat) : Done :=
  .ofComplaint (program ++ ": " ++ message ++ "\nTry '" ++ program ++
    " --help' for more information.") code

def withOptions (program : String) (code : Nat) (options : OptionSet)
    (f : Task → List Given → List String → Done) : Utility := fun t =>
  match options.read t.arguments with
  | .ok (given, operands) => f t given operands
  | .error message => usageComplaint program message code

/-- Files by name with their contents, and complaints about those that cannot be read. Without
names, what can be read counts. It can be read once. -/
def contents (program : String) (t : Task) (names : List String) :
    List (String × Except String (List Char)) :=
  let names := if names.isEmpty then ["-"] else names
  names.zipIdx.map fun (name, i) =>
    let t := if Task.reads (names.take i) && t.input.isSome then { t with input := some [] } else t
    (name, (t.content name).mapError fun message =>
      program ++ ": " ++ name ++ ": " ++ message ++ "\n")

/-- Runs a program that does the same with each of the named files, or with what can be read. -/
def eachFile (program : String) (t : Task) (names : List String)
    (f : String → List Char → String) : Done :=
  let written := (contents program t names).map fun (name, content) =>
    match content with
    | .ok cs => (false, f name cs)
    | .error message => (true, message)
  { written
    code := if written.any Prod.fst then 1 else 0
    reads := names.isEmpty || Task.reads names }

/-- Runs a program on all of the named files together, or on what can be read. -/
def allFiles (program : String) (t : Task) (names : List String) (f : List Char → String) : Done :=
  let all := contents program t names
  let complaints := all.filterMap fun (_, content) =>
    match content with
    | .ok _ => none
    | .error message => some (true, message)
  let text := all.flatMap fun (_, content) => content.toOption.getD []
  { written := complaints ++ [(false, f text)]
    code := if complaints.isEmpty then 0 else 1
    reads := names.isEmpty || Task.reads names }

def natural? (s : String) : Option Nat :=
  Numeral.natural10? s

end Scriptlet.Shell
