import Scriptlet.Shell.Glob
import Scriptlet.Shell.Utility

/-!
# Replacing characters

Sets of characters are written with ranges, classes and repetitions. Characters of one set are
replaced by those that stand at the same places in another one, or are removed, and repeated ones
are left out.
-/

namespace Scriptlet.Shell.Utility

/-- An item of a set of characters. -/
inductive SetItem where
  | char (c : Char)
  | range (first last : Char)
  | named (name : String)
  /-- A character so many times, or as often as there is need. -/
  | repeated (c : Char) (count : Nat)
deriving DecidableEq, Repr

namespace SetItem

/-- The character behind a backslash, and what is behind it. -/
def escaped : List Char → Char × List Char
  | [] => ('\\', [])
  | c :: rest =>
    match c with
    | 'a' => ('\x07', rest)
    | 'b' => ('\x08', rest)
    | 'f' => ('\x0c', rest)
    | 'n' => ('\n', rest)
    | 'r' => ('\r', rest)
    | 't' => ('\t', rest)
    | 'v' => ('\x0b', rest)
    | c =>
      if Numeral.startsWithDigit 8 [c] then
        let three := Numeral.digits 8 0 ((c :: rest).take 3)
        let taken := if three.1 < 256 then 3 else 2
        let (n, left) := Numeral.digits 8 0 ((c :: rest).take taken)
        (octet n, left ++ (c :: rest).drop taken)
      else (c, rest)

/-- The character at the start, which may be escaped, and what is behind it. -/
def char? : List Char → Option (Char × List Char)
  | [] => none
  | '\\' :: rest => some (escaped rest)
  | c :: rest => some (c, rest)

/-- What stands in brackets at the start: a class, a character with those equivalent to it, or a
repetition; and what is behind it. -/
def bracketed? (cs : List Char) : Option (SetItem × List Char) :=
  match cs with
  | '[' :: ':' :: rest =>
    let name := rest.takeWhile Char.isLower
    match rest.drop name.length with
    | ':' :: ']' :: behind =>
      if (Member.classes.lookup (String.ofList name)).isSome then
        some (named (String.ofList name), behind)
      else none
    | _ => none
  | '[' :: '=' :: c :: '=' :: ']' :: rest => some (char c, rest)
  | '[' :: rest =>
    match char? rest with
    | some (c, '*' :: behind) =>
      let digits := behind.takeWhile Char.isDigit
      match behind.drop digits.length with
      | ']' :: behind =>
        let base := if digits.head? = some '0' then 8 else 10
        some (repeated c (Numeral.digits base 0 digits).1, behind)
      | _ => none
    | _ => none
  | _ => none

/-- The items of a set. The number bounds how many there are. -/
def readSet : Nat → List Char → Except String (List SetItem)
  | 0, _ => .ok []
  | _, [] => .ok []
  | n + 1, cs => do
    match bracketed? cs with
    | some (item, rest) => return item :: (← readSet n rest)
    | none =>
      match char? cs with
      | none => return []
      | some (c, rest) =>
        match rest with
        | '-' :: behind =>
          match char? behind with
          | some (last, behind) =>
            if last < c then
              throw ("range-endpoints of '" ++ String.ofList [c, '-', last] ++
                "' are in reverse collating sequence order")
            return range c last :: (← readSet n behind)
          | none => return char c :: (← readSet n rest)
        | rest => return char c :: (← readSet n rest)

/-- All octets, as characters. -/
def allOctets : List Char :=
  (List.range 256).map octet

def characters : SetItem → List Char
  | char c => [c]
  | range first last => allOctets.filter fun c => first ≤ c && c ≤ last
  | named name => allOctets.filter ((Member.classes.lookup name).getD fun _ => false)
  | repeated c count => List.replicate count c

/-- The characters of a set. Where a repetition has no count, it fills the set up to a length. -/
def expand (length : Nat) (items : List SetItem) : List Char :=
  let known := items.foldr (fun i n => i.characters.length + n) 0
  items.flatMap fun
    | repeated c 0 => List.replicate (length - known) c
    | i => i.characters

end SetItem

/-- Pairs of what is replaced and what by. Classes of letters of one case stand for those of the
other one. -/
def replacements (truncates : Bool) (first second : List SetItem) : List (Char × Char) :=
  let isCase (name : String) : Bool := name = "lower" || name = "upper"
  match first, second with
  | [.named a], [.named b] =>
    if isCase a && isCase b then
      (SetItem.named a).characters.map fun c =>
        (c, if a = b then c else if b = "upper" then c.toUpper else c.toLower)
    else []
  | first, second =>
    let from' := SetItem.expand 0 first
    let into := SetItem.expand from'.length second
    let last := into.getLast?
    (from'.zipIdx.filterMap fun (c, i) =>
      match into[i]? with
      | some d => some (c, d)
      | none => if truncates then none else last.map fun d => (c, d)).reverse

/-- The places in a set at which classes of letters of one case start. -/
def caseClasses (items : List SetItem) : List Nat :=
  (items.foldl (fun (places, n) item =>
    let isCase := item matches .named "lower" | .named "upper"
    (if isCase then n :: places else places, n + item.characters.length))
    (([] : List Nat), 0)).1

/-- What is wrong with a set that characters are replaced by, if anything is. -/
def replacementComplaint? (first second : List SetItem) : Option String :=
  let isOther (item : SetItem) : Bool :=
    match item with
    | .named name => name != "lower" && name != "upper"
    | _ => false
  if second.any isOther then
    some ("when translating, the only character classes that may appear in\n" ++
      "string2 are 'upper' and 'lower'")
  else if (caseClasses second).any fun n => !(caseClasses first).contains n then
    some "misaligned [:upper:] and/or [:lower:] construct"
  else none

/-- A text in which runs of each of these characters are one. -/
def withoutRuns (p : Char → Bool) (cs : List Char) : List Char :=
  cs.foldr (fun c rest => if p c && rest.head? = some c then rest else c :: rest) []

/-- Replaces or removes characters. -/
def tr : Utility :=
  withOptions "tr" 1
    { letters := "cCdst"
      long := [("complement", 'c'), ("delete", 'd'), ("squeeze-repeats", 's'),
        ("truncate-set1", 't')]
      anywhere := false }
    fun t given operands =>
      let has (c : Char) : Bool := isGiven given c
      let complement := has 'c' || has 'C'
      let sets := operands.mapM fun s => SetItem.readSet s.length s.toList
      let usage (message : String) : Done := usageComplaint "tr" message 1
      let apply (f : List Char → List Char) : Done :=
        match t.input with
        | some cs => { written := [(false, String.ofList (f cs))], reads := true }
        | none => .ofComplaint "tr: read error: Bad file descriptor" 1
      match sets with
      | .error message => .ofComplaint ("tr: " ++ message) 1
      | .ok sets =>
        match sets with
        | [] => usage "missing operand"
        | first :: others =>
          let plain := SetItem.expand 0 first
          let table : Array Bool := (SetItem.allOctets.map fun c =>
            plain.contains c != complement).toArray
          let isIn (c : Char) : Bool := table.getD c.toNat false
          match others with
          | [] =>
            if has 'd' && !has 's' then apply (·.filter fun c => !isIn c)
            else if has 's' && !has 'd' then apply (withoutRuns isIn)
            else
              usage ("missing operand after '" ++ operands.headD "" ++ "'" ++
                if has 'd' then
                  "\nTwo strings must be given when both deleting and squeezing repeats."
                else "\nTwo strings must be given when translating.")
          | second :: more =>
            if has 'd' && !has 's' then
              usage ("extra operand '" ++ operands.getD 1 "" ++
                "'\nOnly one string may be given when deleting without squeezing repeats.")
            else if !more.isEmpty then usage ("extra operand '" ++ operands.getD 2 "" ++ "'")
            else if has 'd' then
              let squeezed := SetItem.expand 0 second
              apply fun cs => withoutRuns squeezed.contains (cs.filter fun c => !isIn c)
            else
              let first := if complement then (SetItem.allOctets.filter isIn).map .char else first
              let pairs := replacements (has 't') first second
              let table : Array Char := (SetItem.allOctets.map fun c =>
                (pairs.lookup c).getD c).toArray
              let replaced (cs : List Char) := cs.map fun c => table.getD c.toNat c
              match replacementComplaint? first second with
              | some message => .ofComplaint ("tr: " ++ message) 1
              | none =>
                if SetItem.expand 1 second = [] && !has 't' then
                  .ofComplaint "tr: when not truncating set1, string2 must be non-empty" 1
                else if has 's' then
                  let into := SetItem.expand plain.length second
                  apply fun cs => withoutRuns into.contains (replaced cs)
                else apply replaced

end Scriptlet.Shell.Utility
