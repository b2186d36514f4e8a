/-!
# Files

Reading files by name, and why that can fail. A name is followed step by step through directories.
The directory in which names start holds nothing but plain files; beyond it only the directories
next to the root and the empty file are known.
-/

namespace Scriptlet.CommandLine

/-- Why a file has no text. -/
inductive FileError where
  | notFound
  | isDirectory
  | notDirectory
  | nameTooLong
  | notText
  /-- Another reason of the system. -/
  | other (wording : String)
deriving DecidableEq, Repr

def FileError.describe : FileError → String
  | notFound => "No such file or directory (os error 2)"
  | isDirectory => "Is a directory (os error 21)"
  | notDirectory => "Not a directory (os error 20)"
  | nameTooLong => "File name too long (os error 36)"
  | notText => "stream did not contain valid UTF-8"
  | other wording => wording

/-- The files of a directory, by name. -/
abbrev Directory := List (String × List UInt8)

def steps : List Char → List (List Char)
  | [] => [[]]
  | c :: rest =>
    match c == '/', steps rest with
    | true, parts => [] :: parts
    | false, part :: parts => (c :: part) :: parts
    | false, [] => [[c]]

def octetCount (cs : List Char) : Nat :=
  cs.foldr (fun c n => c.utf8Size + n) 0

/-- Where the first steps of a name have led. -/
inductive Place where
  /-- The directory in which names start. -/
  | start
  /-- A directory above that one, other than the root. -/
  | above
  | root
  /-- A directory next to the root. -/
  | top (name : String)
  | file (content : List UInt8)
deriving DecidableEq, Repr

namespace Place

/-- The place that a directory has under a name. -/
def entry (d : Directory) (name : String) : Place → Option Place
  | start => (d.lookup name).map file
  | root =>
    if ["bin", "dev", "etc", "home", "lib", "proc", "root", "tmp", "usr", "var"].contains name then
      some (top name)
    else none
  | top "dev" => if name = "null" then some (file []) else none
  | _ => none

def parent : Place → Place
  | start => above
  | above => above
  | _ => root

/-- Follows one step. Nothing can be below a file, and no name is longer than 255 octets. -/
def follow (d : Directory) (place : Place) (step : List Char) : Except FileError Place :=
  match place with
  | file _ => .error .notDirectory
  | place =>
    if step = [] || step = ['.'] then .ok place
    else if step = ['.', '.'] then .ok place.parent
    else if octetCount step > 255 then .error .nameTooLong
    else
      match place.entry d (String.ofList step) with
      | some next => .ok next
      | none => .error .notFound

end Place

namespace Directory

/-- The content of the file that a name leads to. A name has fewer than 4096 octets. -/
def read (d : Directory) (name : String) : Except FileError (List UInt8) := do
  if name = "" then throw .notFound
  if octetCount name.toList > 4095 then throw .nameTooLong
  let (place, rest) := match name.toList with
    | '/' :: rest => (Place.root, rest)
    | cs => (Place.start, cs)
  match ← (steps rest).foldlM (Place.follow d) place with
  | .file content => pure content
  | _ => throw .isDirectory

end Directory

end Scriptlet.CommandLine
