import Scriptlet.Shell.Utility

/-!
# Working on files

Programs that make, move, list and remove files and directories, and that take the names of files
apart.
-/

namespace Scriptlet.Shell.Utility

/-! ## Names -/

/-- A name without slashes at the end, unless nothing else is left. -/
def withoutSlashes (cs : List Char) : List Char :=
  let body := (cs.reverse.dropWhile (· = '/')).reverse
  if body.isEmpty && !cs.isEmpty then ['/'] else body

def lastStep (s : String) : String :=
  let cs := withoutSlashes s.toList
  if cs = ['/'] then "/"
  else String.ofList (cs.reverse.takeWhile (· != '/')).reverse

def directoryName (s : String) : String :=
  let cs := withoutSlashes s.toList
  if cs = ['/'] then "/"
  else
    match cs.reverse.dropWhile (· != '/') with
    | [] => "."
    | rest => String.ofList (withoutSlashes rest.reverse)

/-- A text without another one at its end, unless it is that text. -/
def withoutEnd (end' s : String) : String :=
  match behind? end'.toList.reverse s.toList.reverse with
  | some (c :: rest) => String.ofList (c :: rest).reverse
  | _ => s

/-- Writes the last steps of names. -/
def basename : Utility :=
  withOptions "basename" 1
    { letters := "as:z", long := [("multiple", 'a'), ("suffix", 's')], anywhere := false }
    fun _ given names =>
      let row (s : String) : String := s ++ "\n"
      match names, isGiven given 'a' || isGiven given 's' with
      | [], _ => usageComplaint "basename" "missing operand" 1
      | names, true =>
        let end' := (valueOf? given 's').getD ""
        .ofText (String.join (names.map fun s => row (withoutEnd end' (lastStep s))))
      | [s], false => .ofText (row (lastStep s))
      | [s, end'], false => .ofText (row (withoutEnd end' (lastStep s)))
      | names, false => usageComplaint "basename" ("extra operand '" ++ names.getD 2 "" ++ "'") 1

def dirname : Utility :=
  withOptions "dirname" 1 { letters := "z" } fun _ _ names =>
    if names.isEmpty then usageComplaint "dirname" "missing operand" 1
    else .ofText (String.join (names.map fun s => directoryName s ++ "\n"))

/-- Writes the paths that names lead to. -/
def realpath : Utility :=
  withOptions "realpath" 1 { letters := "eLmPsqz" } fun t _ names =>
    if names.isEmpty then usageComplaint "realpath" "missing operand" 1
    else
      let written := names.map fun name =>
        match t.files.locate t.directory name with
        | .ok path => (false, Files.spell path ++ "\n")
        | .error fault => (true, "realpath: " ++ name ++ ": " ++ fault.describe ++ "\n")
      { written, code := if written.any Prod.fst then 1 else 0 }

/-- Writes the paths that names lead to, if they are asked for; there are no links to be read. -/
def readlink : Utility :=
  withOptions "readlink" 1 { letters := "femnqsvz" } fun t given names =>
    let follows := isGiven given 'f' || isGiven given 'e' || isGiven given 'm'
    let written := names.filterMap fun name =>
      match t.files.locate t.directory name with
      | .ok path =>
        if follows then some (Files.spell path ++ if isGiven given 'n' then "" else "\n") else none
      | .error _ => none
    { written := written.map (false, ·), code := if written.length = names.length then 0 else 1 }

/-! ## Changes -/

/-- Changes files for each of these names; what is wrong is said about the name. -/
def changeEach (program operand : String) (t : Task) (names : List String)
    (f : Files → String → Except (Option String) Files) : Done :=
  let step (state : Files × List (Bool × String) × Nat) (name : String) :=
    match f state.1 name with
    | .ok files => (files, state.2)
    | .error none => state
    | .error (some message) =>
      (state.1, state.2.1 ++ [(true, program ++ ": " ++ message ++ "\n")], 1)
  if names.isEmpty then usageComplaint program ("missing " ++ operand) 1
  else
    let (files, written, code) := names.foldl step (t.files, [], 0)
    { written, code, files := some files }

def inQuotes (name : String) : String :=
  "'" ++ name ++ "'"

/-- The paths from the root to a directory, which are the ends of its own. -/
def pathsTo : Path → List Path
  | [] => [[]]
  | name :: above => pathsTo above ++ [name :: above]

/-- Makes directories. -/
def mkdir : Utility :=
  withOptions "mkdir" 1
    { letters := "pvm:", long := [("parents", 'p'), ("mode", 'm')] } fun t given names =>
    changeEach "mkdir" "operand" t names fun files name =>
      let fail (fault : FileFault) : Except (Option String) Files :=
        .error (some ("cannot create directory " ++ inQuotes name ++ ": " ++ fault.describe))
      if isGiven given 'p' then
        let steps := (cutAt (· == '/') name.toList).filter fun s => !s.isEmpty
        let base := if name.toList.head? = some '/' then [] else t.directory
        let made : Except FileFault (Files × Path) := steps.foldlM (fun (files, path) step =>
          let path := if step = ['.'] then path else if step = ['.', '.'] then path.tail
            else String.ofList step :: path
          match files.node? path with
          | none => .ok (files.put path .directory, path)
          | some .directory => .ok (files, path)
          | some _ => .error FileFault.notDirectory) (files, base)
        match made with
        | .ok (files, _) => .ok files
        | .error fault => fail fault
      else
        match files.locate t.directory (String.ofList (withoutSlashes name.toList)) with
        | .error fault => fail fault
        | .ok path =>
          if (files.node? path).isSome then fail .isThere
          else if !files.isDirectory path.tail then fail .notFound
          else .ok (files.put path .directory)

/-- Removes directories that are empty. -/
def rmdir : Utility :=
  withOptions "rmdir" 1 { letters := "pv" } fun t _ names =>
    changeEach "rmdir" "operand" t names fun files name =>
      let fail (fault : FileFault) : Except (Option String) Files :=
        .error (some ("failed to remove " ++ inQuotes name ++ ": " ++ fault.describe))
      match files.find t.directory name with
      | .error fault => fail fault
      | .ok (path, .directory) =>
        if (files.names path).isEmpty then .ok (files.erase path) else fail .notEmpty
      | .ok _ => fail .notDirectory

def eraseAll (files : Files) (path : Path) : Files where
  nodes := files.nodes.filter fun n => !path.isSuffixOf n.1

/-- Removes files, and directories with all that is in them if that is asked for. -/
def rm : Utility :=
  withOptions "rm" 1
    { letters := "rRfvid", long := [("recursive", 'r'), ("force", 'f')] } fun t given names =>
    if names.isEmpty && isGiven given 'f' then {}
    else
      changeEach "rm" "operand" t names fun files name =>
        let fail (fault : FileFault) : Except (Option String) Files :=
          .error (some ("cannot remove " ++ inQuotes name ++ ": " ++ fault.describe))
        match files.find t.directory name with
        | .error .notFound => if isGiven given 'f' then .error none else fail .notFound
        | .error fault => fail fault
        | .ok (path, .directory) =>
          if isGiven given 'r' || isGiven given 'R' then .ok (eraseAll files path)
          else fail .isDirectory
        | .ok (path, _) => .ok (files.erase path)

/-- Makes files that are not there yet. -/
def touch : Utility :=
  withOptions "touch" 1 { letters := "acmd:t:r:" } fun t given names =>
    changeEach "touch" "file operand" t names fun files name =>
      let fail (fault : FileFault) : Except (Option String) Files :=
        .error (some ("cannot touch " ++ inQuotes name ++ ": " ++ fault.describe))
      match files.locate t.directory name with
      | .error fault => fail fault
      | .ok path =>
        if (files.node? path).isSome || isGiven given 'c' then .ok files
        else if !files.isDirectory path.tail then fail .notFound
        else .ok (files.put path (.file "" false))

/-- Makes files programs, or no programs. -/
def chmod : Utility := fun t =>
  let operands := t.arguments.filter fun s => !(["-v", "-R", "-f", "--"].contains s)
  match operands with
  | mode :: names =>
    let cs := mode.toList
    let odd (c : Char) : Bool := c.isDigit && c.toNat % 2 = 1
    let makes := if areDigits cs then cs.any odd else cs.contains '+' || cs.contains '='
    let concerns := areDigits cs || cs.contains 'x'
    changeEach "chmod" "operand" t names fun files name =>
      match files.find t.directory name with
      | .error fault =>
        .error (some ("cannot access " ++ inQuotes name ++ ": " ++ fault.describe))
      | .ok (path, .file content isProgram) =>
        .ok (files.put path (.file content (if concerns then makes else isProgram)))
      | .ok _ => .ok files
  | [] => usageComplaint "chmod" "missing operand" 1

/-- Where a file goes that is copied or moved to a name: into it, if that is a directory. -/
def destination (files : Files) (directory : Path) (source target : String) :
    Except FileFault Path := do
  let path ← files.locate directory (String.ofList (withoutSlashes target.toList))
  if files.isDirectory path then return lastStep source :: path
  else if files.isDirectory path.tail then return path
  else throw .notFound

/-- The tree with a copy of a node and all that is in it at another path. -/
def copied (files : Files) (source target : Path) : Files :=
  let inside := files.nodes.filterMap fun (path, node) =>
    if source.isSuffixOf path then
      some (path.take (path.length - source.length) ++ target, node)
    else none
  inside.foldl (fun files (path, node) => files.put path node) files

/-- Copies or moves files to the last one of the names. -/
def transfer (program : String) (letters : String) (moves : Bool) : Utility :=
  withOptions program 1
    { letters, long := [("recursive", 'r'), ("force", 'f')] } fun t given names =>
    match names.getLast? with
    | none => usageComplaint program "missing file operand" 1
    | some target =>
      let sources := names.dropLast
      if sources.isEmpty then
        usageComplaint program ("missing destination file operand after " ++ inQuotes target) 1
      else if sources.length > 1 &&
          !((t.files.find t.directory target).toOption.any fun n => n.2 matches .directory) then
        .ofComplaint (program ++ ": target " ++ inQuotes target ++ ": No such file or directory") 1
      else
        changeEach program "file operand" t sources fun files source =>
          match files.find t.directory source with
          | .error fault =>
            .error (some ("cannot stat " ++ inQuotes source ++ ": " ++ fault.describe))
          | .ok (path, node) =>
            let isWhole := moves || isGiven given 'r' || isGiven given 'R' || isGiven given 'a'
            if (node matches .directory) && !isWhole then
              .error (some ("-r not specified; omitting directory " ++ inQuotes source))
            else
              match destination files t.directory source target with
              | .error fault =>
                let verb := if moves then "cannot move " ++ inQuotes source ++ " to "
                  else "cannot create regular file "
                .error (some (verb ++ inQuotes target ++ ": " ++ fault.describe))
              | .ok goal =>
                if goal = path then
                  .error (some (inQuotes source ++ " and " ++ inQuotes target ++
                    " are the same file"))
                else
                  let files := copied files path goal
                  .ok (if moves then eraseAll files path else files)

def cp : Utility :=
  transfer "cp" "rRafpvn" false

def mv : Utility :=
  transfer "mv" "fvn" true

/-! ## Looking -/

/-- Lists directories and files. -/
def ls : Utility :=
  withOptions "ls" 2
    { letters := "1aAdFlrp", long := [("all", 'a'), ("almost-all", 'A'), ("directory", 'd')] }
    fun t given names =>
      let has (c : Char) : Bool := isGiven given c
      let names := if names.isEmpty then ["."] else names
      let sorted (all : List String) : List String :=
        let all := all.mergeSort fun a b => !comesBefore b.toList a.toList
        if has 'r' then all.reverse else all
      let found := names.map fun name => (name, t.files.find t.directory name)
      let complaints := found.filterMap fun (name, f) =>
        match f with
        | .error fault =>
          some (true, "ls: cannot access " ++ inQuotes name ++ ": " ++ fault.describe ++ "\n")
        | .ok _ => none
      let mark (node : Option Node) : String :=
        match node with
        | some .directory => if has 'F' || has 'p' then "/" else ""
        | some (.file _ true) => if has 'F' then "*" else ""
        | _ => ""
      let isListed (f : Except FileFault (Path × Node)) : Bool :=
        !has 'd' && f.toOption.any fun n => n.2 matches .directory
      let plain := sorted ((found.filter fun (_, f) => f.isOk && !isListed f).map Prod.fst)
      let plainText := String.join (plain.map fun name =>
        name ++ mark ((t.files.find t.directory name).toOption.map Prod.snd) ++ "\n")
      let listed := sorted ((found.filter fun (_, f) => isListed f).map Prod.fst)
      let inside (name : String) : String :=
        match t.files.find t.directory name with
        | .ok (path, _) =>
          let all := (t.files.names path).filter fun n =>
            n.toList.head? != some '.' || has 'a' || has 'A'
          let all := if has 'a' then "." :: ".." :: all else all
          String.join ((sorted all).map fun n =>
            n ++ mark (t.files.node? (n :: path)) ++ "\n")
        | .error _ => ""
      let hasTitles := names.length > 1
      let parts := listed.map fun name =>
        (if hasTitles then name ++ ":\n" else "") ++ inside name
      let text := "\n".intercalate ((if plain.isEmpty then [] else [plainText]) ++ parts)
      { written := complaints ++ [(false, text)], code := if complaints.isEmpty then 0 else 2 }

/-- Writes what can be read, also to files. -/
def tee : Utility :=
  withOptions "tee" 1 { letters := "aip", long := [("append", 'a')] } fun t given names =>
    match t.input with
    | none => .ofComplaint "tee: read error: Bad file descriptor" 1
    | some cs =>
      let text := String.ofList cs
      let streams := names.filterMap fun name =>
        match name with
        | "/dev/stdout" | "/dev/fd/1" => some (false, text)
        | "/dev/stderr" | "/dev/fd/2" => some (true, text)
        | _ => none
      let others := names.filter fun name =>
        !(["/dev/stdout", "/dev/fd/1", "/dev/stderr", "/dev/fd/2"].contains name)
      let done := if others.isEmpty then {} else
        changeEach "tee" "file operand" t others fun files name =>
          let fail (fault : FileFault) : Except (Option String) Files :=
            .error (some (name ++ ": " ++ fault.describe))
          match files.locate t.directory name with
          | .error fault => fail fault
          | .ok path =>
            match files.node? path with
            | some .directory => fail .isDirectory
            | some .empty => .ok files
            | some (.file content isProgram) =>
              .ok (files.put path
                (.file (if isGiven given 'a' then content ++ text else text) isProgram))
            | none =>
              if files.isDirectory path.tail then .ok (files.put path (.file text false))
              else fail .notFound
      { done with written := done.written ++ (false, text) :: streams, reads := true }

end Scriptlet.Shell.Utility
