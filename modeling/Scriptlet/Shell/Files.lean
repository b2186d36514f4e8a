import Scriptlet.Shell.Octets

/-!
# The files that commands see

A tree of directories with files in them, by the names of their paths from the root. It starts with
the directories and devices that every system has; what commands write is added.
-/

namespace Scriptlet.Shell

/-- Why something cannot be done with a file. -/
inductive FileFault where
  | notFound
  | notDirectory
  | isDirectory
  | isThere
  | notPermitted
  | notEmpty
deriving DecidableEq, Repr

def FileFault.describe : FileFault → String
  | notFound => "No such file or directory"
  | notDirectory => "Not a directory"
  | isDirectory => "Is a directory"
  | isThere => "File exists"
  | notPermitted => "Permission denied"
  | notEmpty => "Directory not empty"

/-- What stands under a name. -/
inductive Node where
  | directory
  | file (content : String) (isProgram : Bool)
  /-- The file that is always empty. -/
  | empty
deriving DecidableEq, Repr

/-- The names from the root to a node, innermost first. -/
abbrev Path := List String

/-- A tree of files. -/
structure Files where
  nodes : List (Path × Node)

namespace Files

def programs : List String :=
  ["[", "awk", "base64", "basename", "cat", "chmod", "cp", "cut", "dash", "dirname", "echo",
   "egrep", "env", "expr", "false", "fgrep", "fold", "grep", "head", "id", "ls", "mkdir", "mv",
   "nice", "nl", "nohup", "od", "paste", "printenv", "printf", "pwd", "readlink", "realpath",
   "rev", "rm", "rmdir", "sed", "seq", "setsid", "sh", "sleep", "sort", "tac", "tail", "tee",
   "test", "timeout", "touch", "tr", "true", "uname", "uniq", "wc", "which", "whoami", "xargs",
   "yes"]

/-- The tree before anything has been written. -/
def initial : Files where
  nodes :=
    ([], .directory) :: (["dev", "null"].reverse, .empty) ::
      (["bin", "dev", "etc", "home", "lib", "opt", "proc", "root", "run", "sbin", "srv", "sys",
        "tmp", "usr", "var"].map fun n => ([n], Node.directory)) ++
      (["bin", "lib", "local", "sbin", "share"].map fun n => ([n, "usr"], Node.directory)) ++
      (["lib", "log", "run", "tmp"].map fun n => ([n, "var"], Node.directory)) ++
      (programs.flatMap fun n =>
        [([n, "bin", "usr"], Node.file "" true), ([n, "bin"], Node.file "" true)])

def node? (fs : Files) (path : Path) : Option Node :=
  fs.nodes.lookup path

def isDirectory (fs : Files) (path : Path) : Bool :=
  fs.node? path = some .directory

/-- Follows one step from a directory. Only the last step may lead to what is not there. -/
def follow (fs : Files) (path : Path) (step : List Char) : Except FileFault Path :=
  match fs.node? path with
  | none => .error .notFound
  | some .directory =>
    if step = [] || step = ['.'] then .ok path
    else if step = ['.', '.'] then .ok path.tail
    else .ok (String.ofList step :: path)
  | some _ => .error .notDirectory

/-- The path that a name leads to from a directory. All but its last step is there. -/
def locate (fs : Files) (directory : Path) (name : String) : Except FileFault Path :=
  match name.toList with
  | [] => .error .notFound
  | '/' :: rest => (cutAt (· == '/') rest).foldlM fs.follow []
  | cs => (cutAt (· == '/') cs).foldlM fs.follow directory

def find (fs : Files) (directory : Path) (name : String) : Except FileFault (Path × Node) := do
  let path ← fs.locate directory name
  match fs.node? path with
  | some node => .ok (path, node)
  | none => .error .notFound

def put (fs : Files) (path : Path) (node : Node) : Files where
  nodes := (path, node) :: fs.nodes.filter fun n => n.1 != path

def erase (fs : Files) (path : Path) : Files where
  nodes := fs.nodes.filter fun n => n.1 != path

def names (fs : Files) (path : Path) : List String :=
  let inside := fs.nodes.filterMap fun (p, _) =>
    match p with
    | name :: above => if above = path then some name else none
    | [] => none
  inside.mergeSort fun a b => !comesBefore b.toList a.toList

def spell (path : Path) : String :=
  if path.isEmpty then "/" else String.join (path.reverse.map fun name => "/" ++ name)

end Files

end Scriptlet.Shell
