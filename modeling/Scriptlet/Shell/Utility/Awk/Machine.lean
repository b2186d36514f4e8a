import Scriptlet.Shell.Format
import Scriptlet.Shell.Utility
import Scriptlet.Shell.Utility.Awk.Pattern
import Scriptlet.Shell.Utility.Awk.Value

/-!
# The machine that runs programs over records

What a program that is being run has: variables and arrays, the record with its fields, what is left
of its inputs, and what it has written.
-/

namespace Scriptlet.Shell.Awk

/-- What a variable holds: a value, and the number of an array if it is used as one. -/
structure Slot where
  value : Value := .unset
  array : Option Nat := none
deriving Inhabited

/-- The state of a program. -/
structure Machine where
  globals : List (String × Slot) := []
  /-- The variables of the function that is being run. -/
  locals : List (String × Slot) := []
  /-- The arrays by number; in each, what has been put last stands first. -/
  arrays : List (Nat × List (String × Value)) := []
  record : String := ""
  fields : List Value := []
  /-- What is left of the input that records are read from. -/
  input : Option (List Char) := none
  /-- The index of the argument behind the one that the input is for. -/
  argument : Nat := 1
  /-- Whether an argument has named an input. -/
  hasInput : Bool := false
  /-- What is left of files that are read. -/
  readers : List (String × List Char) := []
  /-- The files that have been opened to be written. -/
  writers : List String := []
  /-- The rules that are between their first and their last record. -/
  between : List Nat := []
  /-- What has been written, in reverse, and whether it is a complaint. -/
  written : List (Bool × String) := []
  files : Files
  task : Task
  code : Nat := 0
  /-- Whether it has read what can be read. -/
  reads : Bool := false

/-- What the program has been given, with the files as they are now. -/
def Machine.currentTask (m : Machine) : Task :=
  { m.task with files := m.files }

/-- What ends a course of statements early. -/
inductive Stop where
  | exit
  | next
  | nextFile
  | leave
  | goOn
  | finish (v : Value)
  | failure (message : String)

/-- What a program does. -/
abbrev Run := EStateM Stop Machine

def fail {α : Type} (message : String) : Run α :=
  throw (.failure message)

/-- Pairs with a value put in for a key: in the place of the one before, or in front. -/
def withKey {α β : Type} [BEq α] (key : α) (b : β) (pairs : List (α × β)) : List (α × β) :=
  if pairs.any fun p => p.1 == key then pairs.map fun p => if p.1 == key then (key, b) else p
  else (key, b) :: pairs

/-! ## Variables -/

def slot (name : String) : Run Slot := do
  let m ← get
  return ((m.locals.lookup name).or (m.globals.lookup name)).getD {}

def putSlot (name : String) (s : Slot) : Run Unit :=
  modify fun m =>
    if (m.locals.lookup name).isSome then { m with locals := withKey name s m.locals }
    else { m with globals := withKey name s m.globals }

/-- The number of the array that a variable holds. -/
def arrayOf (name : String) : Run Nat := do
  let s ← slot name
  match s.array with
  | some k => return k
  | none =>
    let k := (← get).arrays.length
    modify fun m => { m with arrays := (k, []) :: m.arrays }
    putSlot name { s with array := some k }
    return k

def elements (k : Nat) : Run (List (String × Value)) := do
  return ((← get).arrays.lookup k).getD []

def putElements (k : Nat) (all : List (String × Value)) : Run Unit :=
  modify fun m => { m with arrays := withKey k all m.arrays }

def layoutNumber (s : String) : UInt32 :=
  s.toList.foldl (fun h c => (h ^^^ c.toNat.toUInt32) * 16777619) 2166136261

/-- The keys of an array in the order of a table with 64 rows. -/
def keysInOrder (all : List (String × Value)) : List String :=
  let rows := all.map fun (key, _) => ((layoutNumber key % 64).toNat, key)
  (rows.mergeSort fun a b => a.1 ≤ b.1).map Prod.snd

/-! ## Texts of numbers -/

/-- The parts of a format in which percent signs stand in front of directives. The number bounds how
many there are. -/
def formatParts : Nat → List Char → List FormatPart
  | 0, _ => []
  | _, [] => []
  | n + 1, '%' :: rest =>
    let (part, rest) := readDirective rest
    part :: formatParts n rest
  | n + 1, c :: rest => .char c :: formatParts n rest

/-- The text of a number, by a format if it is no integer. -/
def numberText (format : String) (x : Float) : String :=
  let r := Real.ofFloat x
  let isShort (n : Int) : Bool := n.natAbs < Nat.pow 2 63 && Float.ofInt n == x
  match r.truncated?.filter isShort with
  | some n => toString n
  | none =>
    let write (p : FormatPart) : List Char :=
      match p with
      | .char c => [c]
      | .directive d =>
        let number (c : Count) : Nat := match c with
          | .given n => n
          | .argument => 0
        Layout.real ⟨d.flags, number d.width, d.precision.map number⟩ d.conversion r
      | .wrong _ => []
    String.ofList ((formatParts format.length format.toList).flatMap write)

def Value.toText (format : String) : Value → String
  | unset => ""
  | number x => numberText format x
  | text s => s
  | input s => s

/-- A value as a text in the usual format. -/
def textOf (v : Value) : Run String := do
  match v with
  | .number x =>
    let format ← match (← slot "CONVFMT").value with
      | .unset => pure "%.6g"
      | v => pure (v.toText "%.6g")
    return numberText format x
  | v => return v.toText "%.6g"

def textOfVariable (name : String) : Run String := do
  textOf (← slot name).value

/-! ## Records and fields -/

/-- The fields of a text. One blank as the separator stands for all kinds of blanks; any other
character stands for itself. In paragraphs, a line end separates too. -/
def splitFields (separator : String) (byLines : Bool) (text : List Char) : Run (List String) := do
  let blanks (c : Char) : Bool := c = ' ' || c = '\t' || c = '\n'
  match separator.toList with
  | [' '] => return ((cutAt blanks text).filter (!·.isEmpty)).map String.ofList
  | [] => return text.map String.singleton
  | cs =>
    if text.isEmpty then return []
    match cs with
    | [c] => return (cutAt (fun d => d = c || (byLines && d = '\n')) text).map String.ofList
    | cs =>
      match patternOf (if byLines then cs ++ ['|', '\n'] else cs) with
      | .error message => fail message
      | .ok r => return partsBetween r text

def fieldSeparator : Run String :=
  textOfVariable "FS"

def putRecord (s : String) : Run Unit := do
  let byLines := (← textOfVariable "RS") = ""
  let fields ← splitFields (← fieldSeparator) byLines s.toList
  modify fun m => { m with record := s, fields := fields.map Value.input }

/-- Puts fields in the place of those before, and the record that they make up. -/
def putFields (fields : List Value) : Run Unit := do
  let between ← textOfVariable "OFS"
  let texts ← fields.mapM textOf
  modify fun m => { m with fields, record := between.intercalate texts }

/-- The first record of an input by its separator, and what is behind it. -/
def firstRecord (separator : String) (cs : List Char) :
    Run (Option (List Char × List Char)) := do
  match separator.toList with
  | [] =>
    let cs := cs.dropWhile (· = '\n')
    if cs.isEmpty then return none
    let lines := cutAt (· == '\n') cs
    let own := lines.takeWhile (!·.isEmpty)
    let behind := (lines.drop own.length).dropWhile List.isEmpty
    return some (['\n'].intercalate own, ['\n'].intercalate behind)
  | [c] =>
    if cs.isEmpty then return none
    let own := cs.takeWhile (· != c)
    return some (own, cs.drop (own.length + 1))
  | pattern =>
    if cs.isEmpty then return none
    match patternOf pattern with
    | .error message => fail message
    | .ok r =>
      match (r.matchesIn false cs).find? fun m => !m.text.isEmpty with
      | some m => return some (cs.take (cs.length - m.text.length - m.rest.length), m.rest)
      | none =>
        return some (if cs.getLast? = some '\n' then cs.dropLast else cs, [])

/-! ## Places -/

/-- What can be assigned to. -/
inductive Place where
  | named (name : String)
  | field (index : Nat)
  | element (array : Nat) (key : String)

namespace Place

/-- The value in a place. An element that is looked at is there from then on. -/
def value : Place → Run Value
  | named "NF" => do return .number (Float.ofNat (← get).fields.length)
  | named name => do return (← slot name).value
  | field 0 => do return .input (← get).record
  | field k => do return (← get).fields.getD (k - 1) .unset
  | element k key => do
    match (← elements k).lookup key with
    | some v => return v
    | none =>
      putElements k ((key, .unset) :: (← elements k))
      return .unset

/-- Puts a value in a place. -/
def put (v : Value) : Place → Run Unit
  | named "NF" => do
    let count := v.toInt.toNat
    let fields := (← get).fields
    putFields (fields.take count ++ List.replicate (count - fields.length) Value.unset)
  | named name => do
    if (← slot name).array.isSome && ((← elements (← arrayOf name)).length > 0) then
      fail ("type error in arg to assignment of " ++ name)
    putSlot name { (← slot name) with value := v }
  | field 0 => do putRecord (← textOf v)
  | field k => do
    let fields := (← get).fields
    putFields ((fields ++ List.replicate (k - fields.length) Value.unset).set (k - 1) v)
  | element k key => do putElements k (withKey key v (← elements k))

end Place

def assignVariable (name : String) (v : Value) : Run Unit :=
  (Place.named name).put v

/-! ## Inputs -/

/-- Takes over an argument that assigns to a variable; false if it is none. -/
def takeAssignment (argument : String) : Run Bool := do
  let name := argument.toList.takeWhile (· != '=')
  match argument.toList.drop name.length with
  | '=' :: value =>
    if !isName (String.ofList name) then return false
    let (cs, _) := unescape value.length value
    assignVariable (String.ofList name) (.input (String.ofList cs))
    return true
  | _ => return false

/-- Opens the next input that the arguments name; false if there is none. The number bounds how many
arguments there are. -/
def openNext (arguments : Nat) : Nat → Run Bool
  | 0 => return false
  | n + 1 => do
    let k := (← get).argument
    if k ≥ arguments then
      if (← get).hasInput then return false
      modify fun m =>
        { m with hasInput := true, reads := true, input := some (m.task.input.getD []) }
      return true
    modify fun m => { m with argument := k + 1 }
    let name ← textOf (← (Place.element (← arrayOf "ARGV") (toString k)).value)
    if name = "" || (← takeAssignment name) then openNext arguments n
    else
      modify fun m => { m with hasInput := true }
      assignVariable "FILENAME" (.text name)
      assignVariable "FNR" (.number 0)
      match (← get).currentTask.content name with
      | .ok cs =>
        modify fun m => { m with input := some cs, reads := m.reads || Task.reads [name] }
        return true
      | .error message => fail ("cannot open \"" ++ name ++ "\" (" ++ message ++ ")")

/-- The next record of the inputs, if there is one. The number bounds how many inputs there are. -/
def nextRecord : Nat → Run (Option String)
  | 0 => return none
  | n + 1 => do
    let arguments := (← slot "ARGC").value.toInt.toNat
    match (← get).input with
    | none => if ← openNext arguments (arguments + 1) then nextRecord n else return none
    | some cs =>
      match ← firstRecord (← textOfVariable "RS") cs with
      | some (own, rest) =>
        modify fun m => { m with input := some rest }
        for name in ["NR", "FNR"] do
          assignVariable name (.number ((← slot name).value.toNumber + 1))
        return some (String.ofList own)
      | none =>
        modify fun m => { m with input := none }
        nextRecord n

def inputCount : Run Nat := do
  return 2 * (← slot "ARGC").value.toInt.toNat + 4

/-- The next record of a file, if there is one; the outer result is missing if there is no file. -/
def nextRecordOf (name : String) : Run (Option (Option String)) := do
  let m ← get
  let rest? := (m.readers.lookup name).or (m.currentTask.content name).toOption
  match rest? with
  | none => return none
  | some cs =>
    match ← firstRecord (← textOfVariable "RS") cs with
    | some (own, rest) =>
      modify fun m => { m with readers := withKey name rest m.readers }
      return some (some (String.ofList own))
    | none => return some none

/-! ## Outputs -/

def write (s : String) : Run Unit :=
  modify fun m => { m with written := (false, s) :: m.written }

/-- Writes a text to a file. What was in it is lost when it is opened, unless it is to be kept. -/
def writeTo (isAppended : Bool) (name s : String) : Run Unit := do
  if name = "/dev/stdout" || name = "-" then write s
  else if name = "/dev/stderr" then
    modify fun m => { m with written := (true, s) :: m.written }
  else
    let m ← get
    match m.files.locate m.task.directory name with
    | .error fault => fail ("cannot open \"" ++ name ++ "\" (" ++ fault.describe ++ ")")
    | .ok path =>
      match m.files.node? path with
      | some .empty => pure ()
      | some .directory => fail ("cannot open \"" ++ name ++ "\" (Is a directory)")
      | node =>
        let keeps := isAppended || m.writers.contains name
        let (before, isProgram) := match node with
          | some (.file text isProgram) => (if keeps then text else "", isProgram)
          | _ => ("", false)
        set { m with
          writers := name :: m.writers
          files := m.files.put path (.file (before ++ s) isProgram) }

end Scriptlet.Shell.Awk
