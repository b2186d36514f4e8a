import Scriptlet.Shell.Arithmetic
import Scriptlet.Shell.Glob
import Scriptlet.Shell.Session

/-!
# Expanding words

The parts of a word are replaced by pieces. Pieces make up one text, or a pattern, or fields: what
has come from a value outside of quotes is cut at separators, and a field that is a pattern is
replaced by the names of the files that fit it. How the output of a command is taken is a parameter.
-/

namespace Scriptlet.Shell

/-- A piece of an expanded word. -/
inductive Piece where
  | char (c : Char) (quoted : Bool)
  /-- A character at which a field may be cut. -/
  | loose (c : Char)
  /-- A quote. -/
  | quote
  /-- The start of loose characters. -/
  | edge
  /-- The end of a field, even an empty one. -/
  | cut
  /-- The end of a field, unless it is empty. -/
  | softCut
deriving DecidableEq, Repr

namespace Piece

def text (ps : List Piece) : String :=
  String.ofList (ps.filterMap fun
    | char c _ => some c
    | loose c => some c
    | _ => none)

def marks (ps : List Piece) : List Mark :=
  ps.filterMap fun
    | char c quoted => some (c, quoted)
    | loose c => some (c, false)
    | _ => none

def ofValue (quoted : Bool) (s : String) : List Piece :=
  if quoted then s.toList.map (char · true) else edge :: s.toList.map loose

def loosened (ps : List Piece) : List Piece :=
  edge :: ps.map fun
    | char c false => loose c
    | p => p

/-- The pieces for several values, which become fields of their own. -/
def ofValues (quoted : Bool) (values : List String) : List Piece :=
  let all := values.map fun s => s.toList.map fun c => if quoted then char c true else loose c
  edge :: [if quoted then cut else softCut].intercalate all

end Piece

/-! ## Fields -/

/-- What stands before a loose character within the same value. -/
inductive Before where
  | text
  /-- A separator that is a blank. -/
  | blank
  /-- A separator that is no blank, and blanks. -/
  | sign
deriving DecidableEq

def isBlankSeparator (c : Char) : Bool :=
  c = ' ' || c = '\t' || c = '\n'

/-- The fields of pieces, behind the start of one, in reverse, if there is any. The flag tells that
there is a field at the end even if it is empty. -/
def cutFields (separators : List Char) (field : Option (List Mark)) (before : Before)
    (owed : Bool) : List Piece → List (List Mark)
  | [] =>
    match field with
    | some marks => [marks.reverse]
    | none => if owed then [[]] else []
  | p :: rest =>
    let close (fields : List (List Mark)) := (field.getD []).reverse :: fields
    let add (m : List Mark) :=
      cutFields separators (some (m ++ field.getD [])) .text false rest
    let isBlank : Bool := match p with
      | .softCut => true
      | .loose c => separators.contains c && isBlankSeparator c
      | _ => false
    if isBlank then
      match before, field with
      | .text, none => cutFields separators none .text owed rest
      | .text, some _ => close (cutFields separators none .blank false rest)
      | _, _ => cutFields separators field before owed rest
    else
      match p with
      | .char c quoted => add [(c, quoted)]
      | .quote => add []
      | .edge => cutFields separators field .text owed rest
      | .cut => close (cutFields separators none .text true rest)
      | .softCut => cutFields separators field before owed rest
      | .loose c =>
        if !separators.contains c then add [(c, false)]
        else if before = .blank then cutFields separators field .sign owed rest
        else close (cutFields separators none .sign false rest)

/-! ## Tildes -/

def homeOf (user : String) : Act (Option String) := do
  if user = "" then value? "HOME"
  else return if user = "root" then some "/root" else none

/-- Pieces in which a tilde at the start, with the name of a user behind it, is replaced by the
directory of that user. The name ends at a slash, and in an assignment at a colon. -/
def replaceTilde (inAssignment : Bool) (ps : List Piece) : Act (List Piece) := do
  match ps with
  | .char '~' false :: rest =>
    let inName : Piece → Bool
      | .char c false => c != '/' && !(inAssignment && c = ':')
      | _ => false
    let name := rest.takeWhile inName
    let behind := rest.drop name.length
    let ends := match behind with
      | [] | .char _ false :: _ => true
      | _ => false
    match ← if ends then homeOf (Piece.text name) else pure none with
    | some home => return home.toList.map (Piece.char · true) ++ behind
    | none => return ps
  | ps => return ps

/-- Pieces in which tildes at the start and behind colons are replaced. -/
def replaceTildes (ps : List Piece) : Act (List Piece) := do
  let parts ← (cutAt (· == .char ':' false) ps).mapM (replaceTilde true)
  return [Piece.char ':' false].intercalate parts

/-! ## Parameters -/

/-- What a parameter stands for. -/
inductive Worth where
  | none
  | text (s : String)
  /-- All arguments, perhaps as fields of their own. -/
  | all (separate : Bool)

/-- What a parameter stands for now. -/
def worth (name : String) : Act Worth := do
  let p ← asks id
  match name with
  | "$" => return .text (toString p.shell)
  | "?" => return .text (toString p.code)
  | "#" => return .text (toString p.arguments.length)
  | "!" => return if p.lastJob = 0 then .none else .text (toString p.lastJob)
  | "-" => return .text (String.ofList p.options)
  | "0" => return .text p.name
  | "@" => return .all true
  | "*" => return .all false
  | name =>
    match Numeral.natural10? name with
    | some n =>
      match p.arguments[n - 1]? with
      | some s => return if n = 0 then .text p.name else .text s
      | none => return if n = 0 then .text p.name else .none
    | none =>
      match ← value? name with
      | some s => return .text s
      | none => return .none

def joinedArguments : Act String := do
  let between := match ← value? "IFS" with
    | none => " "
    | some s => String.ofList (s.toList.take 1)
  return between.intercalate (← asks Process.arguments)

/-- What words are expanded to. -/
inductive Aim where
  /-- Fields. -/
  | fields
  /-- One text. -/
  | text
deriving DecidableEq

/-- The pieces for what a parameter stands for. -/
def Worth.pieces (aim : Aim) (quoted : Bool) : Worth → Act (List Piece)
  | none => return []
  | text s => return Piece.ofValue quoted s
  | all separate => do
    if aim = .fields && (separate || !quoted) then
      return Piece.ofValues quoted (← asks Process.arguments)
    else return Piece.ofValue quoted (← joinedArguments)

def Worth.length : Worth → Act Nat
  | none => return 0
  | text s => return s.length
  | all _ => do
    let arguments ← asks Process.arguments
    return arguments.foldr (fun s n => s.length + n) 0 + (arguments.length - 1)

def Worth.isMissing (emptyToo : Bool) (w : Worth) : Act Bool := do
  match w with
  | none => return true
  | w => return emptyToo && (← w.length) = 0

/-! ## Parts -/

/-- The value that a variable has in an arithmetic expression. -/
def arithmeticValue (name : String) : Act Int64 := do
  let s := ((← value? name).getD "").toList
  if s.all isSpace then return 0
  match Numeral.int64? 0 s with
  | some n => return n
  | none => refuse ("Illegal number: " ++ String.ofList s)

def calculate (text : String) : Act Int64 := do
  let complaint (e : String) := "arithmetic expression: " ++ e ++ ": \"" ++ text ++ "\""
  match Arithmetic.read text.toList with
  | .error e => refuse (complaint e)
  | .ok e =>
    e.evaluate arithmeticValue (fun name n => assign name (toString n.toInt) false)
      (refuse (complaint "division by zero"))

def missing {α : Type} (name : String) (message : String) : Act α :=
  refuse (name ++ ": " ++ message)

/-- Without the line ends at the end, and without null characters. -/
def outputText (s : String) : String :=
  String.ofList
    ((s.toList.reverse.dropWhile (· = '\n')).filter (· != '\x00')).reverse

/-- The pieces for a value of which a part is cut off. -/
def Worth.cutPieces (aim : Aim) (name : String) (quoted : Bool)
    (f : List (List Char) → List (List Char)) : Act (List Piece) := do
  let cut (values : List String) : List String := (f (values.map String.toList)).map String.ofList
  match ← worth name with
  | none =>
    if ← hasOption 'u' then missing name "parameter not set"
    return []
  | text s => return Piece.ofValue quoted (String.join (cut [s]))
  | all separate => do
    if aim = .fields && (separate || !quoted) then
      return Piece.ofValues quoted (cut (← asks Process.arguments))
    else return Piece.ofValue quoted (String.join (cut [← joinedArguments]))

mutual

/-- The pieces that a part is replaced by. -/
def expandPart (output : Command → Act String) (aim : Aim) : Part → Act (List Piece)
  | .char c quoted => return [.char c quoted]
  | .quote => return [.quote]
  | .parameter name operation quoted => expandParameter output aim name quoted operation
  | .arithmetic expression quoted => do
    let text := Piece.text (← expandParts output .text expression)
    return Piece.ofValue quoted (toString (← calculate text).toInt)
  | .output command quoted => do
    return Piece.ofValue quoted (outputText (← output command))
termination_by structural p => p

def expandParts (output : Command → Act String) (aim : Aim) : List Part → Act (List Piece)
  | [] => return []
  | p :: rest => do
    let here ← expandPart output aim p
    return here ++ (← expandParts output aim rest)
termination_by structural ps => ps

/-- The pieces for a parameter and what is done with its value. -/
def expandParameter (output : Command → Act String) (aim : Aim) (name : String) (quoted : Bool) :
    Operation → Act (List Piece)
  | .value => do
    let w ← worth name
    if (← w.isMissing false) && (← hasOption 'u') then missing name "parameter not set"
    w.pieces aim quoted
  | .length => do
    let w ← worth name
    if (← w.isMissing false) && (← hasOption 'u') then missing name "parameter not set"
    return Piece.ofValue quoted (toString (← w.length))
  | .choose choice emptyToo word => do
    let w ← worth name
    let isMissing ← w.isMissing emptyToo
    match choice, isMissing with
    | .alternative, true => return []
    | .alternative, false | .default, true => do
      let ps ← replaceTilde false (← expandParts output aim word)
      return if quoted then ps else Piece.loosened ps
    | .default, false | .assign, false | .demand, false => w.pieces aim quoted
    | .assign, true => do
      let s := Piece.text (← replaceTilde false (← expandParts output .text word))
      unless isName name do refuse (name ++ ": bad variable name")
      assign name s false
      return Piece.ofValue quoted s
    | .demand, true => do
      if word.isEmpty then
        missing name ("parameter not set" ++ if emptyToo then " or null" else "")
      missing name (Piece.text (← expandParts output .text word))
  | .cutEnd longest pattern => do
    let gs := Glob.ofMarks (Piece.marks (← expandParts output .text pattern))
    Worth.cutPieces aim name quoted fun css => (Glob.cutEnd? longest gs css).getD css
  | .cutStart longest pattern => do
    let gs := Glob.ofMarks (Piece.marks (← expandParts output .text pattern))
    Worth.cutPieces aim name quoted (Glob.cutStart longest gs)
  | .unknown => refuse "Bad substitution"
termination_by structural o => o

end

/-! ## Words -/

/-- A word without all arguments in quotes by themselves, if there are none: they are no field. -/
def withoutArguments : Word → Word
  | .quote :: .parameter "@" .value true :: .quote :: rest => withoutArguments rest
  | p :: rest => p :: withoutArguments rest
  | [] => []

/-- The names of the files that fit a pattern whose steps are given, behind a path whose spelling
is given. -/
def filesWithin (fs : Files) (path : Path) (spelling : List Char) : List (List Mark) → List String
  | [] => []
  | step :: rest =>
    let separator := if rest.isEmpty then [] else ['/']
    let gs := Glob.ofMarks step
    if !gs.any Glob.isWild then
      let name := gs.filterMap fun
        | .char c => some c
        | _ => none
      let spelling := spelling ++ name ++ separator
      match fs.follow path name with
      | .ok path =>
        if rest.isEmpty then
          if (fs.node? path).isSome then [String.ofList spelling] else []
        else filesWithin fs path spelling rest
      | .error _ => []
    else
      let hidden := gs.head? matches some (.char '.')
      let names := (if hidden then [".", ".."] else []) ++ fs.names path
      let fitting := names.filter fun name =>
        (hidden || name.toList.head? != some '.') && Glob.fits gs name.toList
      fitting.flatMap fun name =>
        let spelling := spelling ++ name.toList ++ separator
        if rest.isEmpty then [String.ofList spelling]
        else match fs.follow path name.toList with
          | .ok path => filesWithin fs path spelling rest
          | .error _ => []

def filesFor (marks : List Mark) : Act (List String) := do
  let fs ← sees World.files
  let steps := cutAt (fun m => m.1 == '/') marks
  match steps with
  | [] :: rest => return filesWithin fs [] ['/'] rest
  | steps => return filesWithin fs (← asks Process.directory) [] steps

/-- The fields that one is replaced by: the names of the files that fit it, or itself. -/
def replaceByFiles (marks : List Mark) : Act (List String) := do
  let itself := String.ofList (marks.map Prod.fst)
  if !(Glob.ofMarks marks).any Glob.isWild || (← hasOption 'f') then return [itself]
  match ← filesFor marks with
  | [] => return [itself]
  | names => return names.mergeSort fun a b => !comesBefore b.toList a.toList

def expandFields (output : Command → Act String) (w : Word) : Act (List String) := do
  let w := if (← asks Process.arguments).isEmpty then withoutArguments w else w
  let ps ← replaceTilde false (← expandParts output .fields w)
  let fields := cutFields (← separators) none .text false ps
  return (← fields.mapM replaceByFiles).flatten

def expandText (output : Command → Act String) (w : Word) : Act String := do
  return Piece.text (← replaceTilde false (← expandParts output .text w))

def expandValue (output : Command → Act String) (w : Word) : Act String := do
  return Piece.text (← replaceTildes (← expandParts output .text w))

def expandPattern (output : Command → Act String) (w : Word) : Act (List Glob) := do
  return Glob.ofMarks (Piece.marks (← replaceTilde false (← expandParts output .text w)))

end Scriptlet.Shell
