import Scriptlet.Shell.Utility.Lines
import Scriptlet.Shell.Utility.Regular

/-!
# Searching lines

Lines that match a regular expression, or hold a text, are written, or counted.
-/

namespace Scriptlet.Shell.Utility

/-- What is looked for. -/
structure Wanted where
  pattern : Regular
  ignoresCase : Bool := false
  /-- Whether a match must be a word, or a line. -/
  isWord : Bool := false
  isLine : Bool := false

namespace Wanted

def literally (cs : List Char) : Regular :=
  cs.foldr (fun c r => .sequence (.char c) r) .empty

def standsAlone (m : Regular.Match) (before : Option Char) : Bool :=
  let outer := m.before.getLast?.or before
  !(outer.any Regular.isWordChar || m.rest.head?.any Regular.isWordChar)

/-- The matches in a line that count, each with the text between it and the one in front of it. -/
def matchesOf (w : Wanted) (l : List Char) : List Regular.Match :=
  let r := if w.isLine then Regular.sequence .start (.sequence w.pattern .stop) else w.pattern
  let all := Regular.matchesIn w.ignoresCase r l
  if !w.isWord then all
  else
    let chained := all.foldl (fun (before, kept) (m : Regular.Match) =>
      let last := (m.before ++ m.text).getLast?.or before
      (last, if standsAlone m before then m :: kept else kept)) ((none : Option Char), [])
    chained.2.reverse

def fits (w : Wanted) (l : List Char) : Bool :=
  !(w.matchesOf l).isEmpty

def texts (w : Wanted) (l : List Char) : List (List Char) :=
  ((w.matchesOf l).map Regular.Match.text).filter fun text => !text.isEmpty

/-- An expression that matches what any of several ones does. -/
def anyOf : List Regular → Regular
  | [] => .empty
  | [r] => r
  | r :: rest => .choice r (anyOf rest)

end Wanted

/-- Which notation patterns are in. -/
inductive PatternKind where
  | basic
  | extended
  | plain
deriving DecidableEq, Repr

/-- What options and operands ask for: what is looked for, and in which files. -/
def Wanted.ofOptions (usual : PatternKind) (given : List Given) (operands : List String) :
    Except String (Option (Wanted × List String)) := do
  let kind := given.foldl (fun kind g =>
    match g.letter with
    | 'E' | 'P' => PatternKind.extended
    | 'F' => .plain
    | 'G' => .basic
    | _ => kind) usual
  let asked := (given.filter fun g => g.letter = 'e').map Given.value
  match asked, operands with
  | [], [] => return none
  | asked, operands =>
    let (patterns, files) := if asked.isEmpty then (operands.take 1, operands.drop 1)
      else (asked, operands)
    let all := patterns.flatMap fun s => cutAt (· == '\n') s.toList
    let regulars ← all.mapM fun cs =>
      if kind = .plain then .ok (literally cs)
      else (Regular.ofText (kind = .extended) cs).map Prod.fst
    return some ({ pattern := anyOf regulars
                   ignoresCase := isGiven given 'i' || isGiven given 'y'
                   isWord := isGiven given 'w'
                   isLine := isGiven given 'x' }, files)

/-- Searches files for lines, in a notation. -/
def searchLines (usual : PatternKind) : Utility :=
  withOptions "grep" 2
    { letters := "EFGPe:iyvcnlLqosxwhHm:ab"
      long := [("extended-regexp", 'E'), ("fixed-strings", 'F'), ("basic-regexp", 'G'),
        ("regexp", 'e'), ("ignore-case", 'i'), ("invert-match", 'v'), ("count", 'c'),
        ("line-number", 'n'), ("files-with-matches", 'l'), ("files-without-match", 'L'),
        ("quiet", 'q'), ("silent", 'q'), ("only-matching", 'o'), ("no-messages", 's'),
        ("line-regexp", 'x'), ("word-regexp", 'w'), ("no-filename", 'h'), ("with-filename", 'H'),
        ("max-count", 'm'), ("text", 'a')] }
    fun t given operands =>
      let has (c : Char) : Bool := isGiven given c
      match Wanted.ofOptions usual given operands with
      | .error message => .ofComplaint ("grep: " ++ message) 2
      | .ok none =>
        .ofComplaint ("Usage: grep [OPTION]... PATTERNS [FILE]...\n" ++
          "Try 'grep --help' for more information.") 2
      | .ok (some (w, names)) =>
        let all := contents "grep" t names
        let title (name : String) : String :=
          if (names.length > 1 && !has 'h') || has 'H' then
            (if name = "-" then "(standard input)" else name) ++ ":"
          else ""
        let most := (valueOf? given 'm').bind natural?
        let found (cs : List Char) : List (List Char × Nat) :=
          let fitting := (lines cs).zipIdx.filter fun (l, _) => w.fits l != has 'v'
          match most with
          | some n => fitting.take n
          | none => fitting
        let shown (name : String) (l : List Char) (i : Nat) : String :=
          let front := title name ++ if has 'n' then toString (i + 1) ++ ":" else ""
          if has 'o' then
            if has 'v' then ""
            else String.join ((w.texts l).map fun text =>
              front ++ String.ofList text ++ "\n")
          else front ++ String.ofList l ++ "\n"
        let one (name : String) (cs : List Char) : Bool × String :=
          let matching := found cs
          let isFound := !matching.isEmpty
          let label := if name = "-" then "(standard input)" else name
          let text :=
            if has 'q' then ""
            else if has 'l' then if isFound then label ++ "\n" else ""
            else if has 'L' then if isFound then "" else label ++ "\n"
            else if has 'c' then title name ++ toString matching.length ++ "\n"
            else String.join (matching.map fun (l, i) => shown name l i)
          (isFound, text)
        let results := all.map fun (name, content) =>
          match content with
          | .ok cs =>
            let (isFound, text) := one name cs
            (some isFound, (false, text))
          | .error message => (none, (true, if has 's' then "" else message))
        let isFound := results.any fun r => r.1 = some true
        let hasFailed := results.any fun r => r.1.isNone
        { written := results.map Prod.snd
          code := if hasFailed && !(has 'q' && isFound) then 2 else if isFound then 0 else 1
          reads := names.isEmpty || Task.reads names }

end Scriptlet.Shell.Utility
