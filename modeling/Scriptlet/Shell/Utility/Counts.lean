import Scriptlet.Shell.Format
import Scriptlet.Shell.Utility.Lines

/-!
# Counting and ordering

Programs that count what is in a text, that write numbers in turn, and that put lines in order.
-/

namespace Scriptlet.Shell.Utility

/-! ## Counting -/

/-- How many words there are in a text. A word starts with a character that can be printed. -/
def wordCount (cs : List Char) : Nat :=
  (cs.foldl (fun (n, inWord) c =>
    if isSpace c then (n, false)
    else if !inWord && isPrint c then (n + 1, true)
    else (n, inWord)) (0, false)).1

def greatestWidth (cs : List Char) : Nat :=
  (lines cs).foldl (fun n l => max n (l.foldl (fun k c =>
    if c = '\t' then k + 8 - k % 8 else if isPrint c then k + 1 else k) 0)) 0

/-- The counts that options ask for, in order: lines, words, octets and the greatest width. -/
def countsOf (letters : List Char) (cs : List Char) : List Nat :=
  letters.map fun
    | 'l' => cs.count '\n'
    | 'w' => wordCount cs
    | 'L' => greatestWidth cs
    | _ => cs.length

/-- Counts lines, words and octets. -/
def wc : Utility :=
  withOptions "wc" 1
    { letters := "lwcmL"
      long := [("lines", 'l'), ("words", 'w'), ("bytes", 'c'), ("chars", 'm'),
        ("max-line-length", 'L')] }
    fun t given names =>
      let asked := ['l', 'w', 'm', 'c', 'L'].filter fun c => isGiven given c
      let letters := if asked.isEmpty then ['l', 'w', 'c'] else asked
      let all := contents "wc" t names
      let known := all.filterMap fun (name, c) => c.toOption.map fun cs => (name, cs)
      let size := known.foldr (fun (_, cs) n => cs.length + n) 0
      let isSized (name : String) : Bool :=
        if name = "-" then t.inputIsFile
        else (t.files.find t.directory name).toOption.all fun (_, node) => node matches .file _ _
      let width :=
        if all.length = 1 && letters.length = 1 then 1
        else if all.all fun (name, _) => isSized name then (toString size).length else 7
      let row (counts : List Nat) (name : String) : String :=
        " ".intercalate (counts.map fun n => padded width (toString n)) ++
          (if name = "" then "" else " " ++ name) ++ "\n"
      let rows := all.map fun (name, content) =>
        match content with
        | .ok cs => (false, row (countsOf letters cs) (if names.isEmpty then "" else name))
        | .error message => (true, message)
      let total := letters.zipIdx.map fun (_, i) =>
        let column := known.map fun (_, cs) => (countsOf letters cs).getD i 0
        if letters[i]? = some 'L' then column.foldl max 0 else column.foldl (· + ·) 0
      { written := rows ++ if all.length > 1 then [(false, row total "total")] else []
        code := if known.length = all.length then 0 else 1
        reads := names.isEmpty || Task.reads names }

/-! ## Numbers in turn -/

/-- A decimal numeral: an integer, to be divided by a power of ten. -/
structure Decimal where
  digits : Int
  places : Nat
deriving DecidableEq, Repr

namespace Decimal

/-- The number that a text stands for. -/
def ofText? (s : String) : Option Decimal :=
  let (sign, cs) : Int × List Char := match s.toList with
    | '-' :: cs => (-1, cs)
    | '+' :: cs => (1, cs)
    | cs => (1, cs)
  (Real.digits? 10 cs).bind fun (n, places, rest) =>
    match Real.exponent 'e' rest with
    | (e, []) => some ⟨sign * n * Int.pow 10 (e - places).toNat, (places - e).toNat⟩
    | _ => none

def widened (places : Nat) (d : Decimal) : Int :=
  d.digits * Int.pow 10 (places - d.places)

/-- A number with a point in front of the last so many digits. -/
def describe (places : Nat) (n : Int) : String :=
  let ds := Real.paddedDigits (places + 1) n.natAbs
  let whole := ds.take (ds.length - places)
  (if n < 0 then "-" else "") ++
    String.ofList (Real.withPoint false whole (ds.drop (ds.length - places)))

end Decimal

/-- Numbers from one on, by a step, up to another one. The number bounds how many there are. -/
def numbersFrom (step last : Int) : Nat → Int → List Int
  | 0, _ => []
  | n + 1, first =>
    if (step > 0 && first > last) || (step < 0 && first < last) then []
    else first :: numbersFrom step last n (first + step)

/-- Arguments between which those that are negative numbers are no options. -/
def withoutNegative (arguments : List String) : List String × List String :=
  let isNumber (s : String) : Bool := (Decimal.ofText? s).isSome
  let options := arguments.takeWhile fun s => s.toList.head? = some '-' && !isNumber s
  match options.getLast?, arguments.drop options.length with
  | some "-s", value :: rest | some "-f", value :: rest => (options ++ [value], rest)
  | _, rest => (options, rest)

/-- Writes numbers in turn. -/
def seq : Utility := fun t =>
  let (front, operands) := withoutNegative t.arguments
  let run := withOptions "seq" 1
    { letters := "s:wf:"
      long := [("separator", 's'), ("equal-width", 'w'), ("format", 'f')] }
    fun _ given more =>
      let operands := more ++ operands
      match operands.mapM Decimal.ofText? with
      | none =>
        let wrong := (operands.find? fun s => (Decimal.ofText? s).isNone).getD ""
        usageComplaint "seq" ("invalid floating point argument: '" ++ wrong ++ "'") 1
      | some numbers =>
        let bounds? : Option (Decimal × Decimal × Decimal) := match numbers with
          | [last] => some (⟨1, 0⟩, ⟨1, 0⟩, last)
          | [first, last] => some (first, ⟨1, 0⟩, last)
          | [first, step, last] => some (first, step, last)
          | _ => none
        match bounds? with
        | none =>
          if operands.isEmpty then usageComplaint "seq" "missing operand" 1
          else usageComplaint "seq" ("extra operand '" ++ operands.getD 3 "" ++ "'") 1
        | some (first, step, last) =>
          let places := max first.places step.places
          let all := max places last.places
          if step.digits = 0 then
            usageComplaint "seq" ("invalid Zero increment value: '" ++ operands.getD 1 "" ++ "'") 1
          else
            let low := first.widened all
            let by' := step.widened all
            let high := last.widened all
            let room := ((high - low) / by').toNat + 1
            let ns := numbersFrom by' high room low
            let shown := ns.map fun n =>
              Decimal.describe places (n / Int.pow 10 (all - places))
            let width := shown.foldl (fun k s => max k s.length) 0
            let widened (s : String) : String :=
              let zeros := String.ofList (List.replicate (width - s.length) '0')
              if s.toList.head? = some '-' then "-" ++ zeros ++ String.ofList s.toList.tail
              else zeros ++ s
            let texts := if isGiven given 'w' then shown.map widened else shown
            let texts := match valueOf? given 'f' with
              | none => texts
              | some format => texts.map fun s => (printf [format, s]).output
            let separator := (valueOf? given 's').getD "\n"
            if texts.isEmpty then {}
            else .ofText (separator.intercalate texts ++ "\n")
  run { t with arguments := front }

/-! ## Order -/

/-- What lines are compared by: some of their fields, and how. -/
structure SortKey where
  /-- The field and the character that it starts with. -/
  start : Nat × Nat := (1, 1)
  /-- The field and the character that it ends with; character zero is the last one. -/
  stop : Option (Nat × Nat) := none
  letters : List Char := []

namespace SortKey

def readPlace (character : Nat) (cs : List Char) : (Nat × Nat) × List Char :=
  let (field, rest) := Numeral.digits 10 0 cs
  match rest with
  | '.' :: rest =>
    let (c, rest) := Numeral.digits 10 0 rest
    ((field, c), rest)
  | rest => ((field, character), rest)

/-- The key that a text describes. -/
def ofText (s : String) : SortKey :=
  let (start, rest) := readPlace 1 s.toList
  let letters := rest.takeWhile (· != ',')
  match rest.drop letters.length with
  | ',' :: rest =>
    let (stop, more) := readPlace 0 rest
    { start, stop := some stop, letters := letters ++ more }
  | _ => { start, letters }

/-- The fields of a line with what is in front of each, if they are cut at blanks; else without the
separators. -/
def fields (separator : Option Char) (l : List Char) : List (List Char) :=
  match separator with
  | some c => cutAt (· == c) l
  | none =>
    let isBlank (c : Char) : Bool := c = ' ' || c = '\t'
    (l.foldr (fun c (fs : List (List Char)) =>
      match fs with
      | [] => [[c]]
      | f :: others =>
        if !isBlank c && f.head?.any isBlank then [c] :: f :: others else (c :: f) :: others) [])

/-- The part of a line that is compared. -/
def part (separator : Option Char) (k : SortKey) (l : List Char) : List Char :=
  if k.start = (1, 1) && k.stop.isNone then l
  else
    let fs := fields separator l
    let between := separator.toList
    let blanks (f : List Char) : Nat :=
      if k.letters.contains 'b' then (f.takeWhile fun c => c = ' ' || c = '\t').length else 0
    let offset (n : Nat) : Nat :=
      (fs.take n).foldr (fun f k => f.length + between.length + k) 0
    let first := fs.getD (k.start.1 - 1) []
    let low := offset (k.start.1 - 1) + blanks first + (k.start.2 - 1)
    let high := match k.stop with
      | none => l.length
      | some (field, 0) => offset (field - 1) + (fs.getD (field - 1) []).length
      | some (field, c) => offset (field - 1) + blanks (fs.getD (field - 1) []) + c
    (l.take high).drop low

/-- The number at the start of a text, with thirty digits of its fraction. -/
def number (cs : List Char) : Int :=
  let cs := cs.dropWhile fun c => c = ' ' || c = '\t'
  let (sign, cs) : Int × List Char := match cs with
    | '-' :: cs => (-1, cs)
    | cs => (1, cs)
  let (n, rest) := Numeral.digits 10 0 cs
  let fraction := match rest with
    | '.' :: rest => rest.takeWhile Char.isDigit
    | _ => []
  let places := fraction.take 30 ++ List.replicate (30 - fraction.length) '0'
  sign * (Numeral.digits 10 n places).1

/-- How two texts are ordered, by letters that say how. -/
def compare (letters : List Char) (a b : List Char) : Ordering :=
  let has (c : Char) : Bool := letters.contains c
  let simplified (cs : List Char) : List Char :=
    let cs := if has 'b' then cs.dropWhile fun c => c = ' ' || c = '\t' else cs
    let cs := if has 'd' then cs.filter fun c => c.isAlphanum || c = ' ' || c = '\t' else cs
    let cs := if has 'i' then cs.filter isPrint else cs
    if has 'f' then cs.map Char.toUpper else cs
  let order := if has 'n' || has 'g' || has 'h' then Ord.compare (number a) (number b)
    else
      let x := simplified a
      let y := simplified b
      if comesBefore x y then .lt else if comesBefore y x then .gt else .eq
  if has 'r' then order.swap else order

end SortKey

/-- Puts lines in order. -/
def sort : Utility :=
  withOptions "sort" 2
    { letters := "nrufbdigshczk:t:o:"
      long := [("numeric-sort", 'n'), ("reverse", 'r'), ("unique", 'u'), ("ignore-case", 'f'),
        ("ignore-leading-blanks", 'b'), ("stable", 's'), ("key", 'k'), ("field-separator", 't'),
        ("output", 'o'), ("check", 'c'), ("human-numeric-sort", 'h'),
        ("general-numeric-sort", 'g'), ("dictionary-order", 'd')] }
    fun t given names =>
      let general := ['n', 'r', 'f', 'b', 'd', 'i', 'g', 'h'].filter fun c => isGiven given c
      let keys := (given.filter fun g => g.letter = 'k').map fun g => SortKey.ofText g.value
      let keys := (if keys.isEmpty then [{}] else keys).map fun k =>
        if k.letters.isEmpty then { k with letters := general } else k
      let separator := (valueOf? given 't').bind fun s => s.toList.head?
      let byKeys (a b : List Char) : Ordering :=
        keys.foldl (fun order k =>
          if order = .eq then
            SortKey.compare k.letters (k.part separator a) (k.part separator b)
          else order) .eq
      let isUnique := isGiven given 'u'
      let order (a b : List Char) : Ordering :=
        match byKeys a b with
        | .eq =>
          if isUnique || isGiven given 's' then .eq
          else SortKey.compare (general.filter (· = 'r')) a b
        | o => o
      let done := allFiles "sort" t names fun cs =>
        let ls := (lines cs).mergeSort fun a b => order a b != .gt
        let ls := if isUnique then
            ls.foldr (fun l rest =>
              match rest with
              | m :: others => if byKeys l m = .eq then l :: others else l :: m :: others
              | [] => [l]) []
          else ls
        unlines ls
      if isGiven given 'c' then
        let cs := ((contents "sort" t names).map fun c => c.2.toOption.getD []).flatten
        let ls := lines cs
        let wrong := (ls.zip ls.tail).zipIdx.find? fun ((a, b), _) =>
          if isUnique then order a b != .lt else order a b = .gt
        match wrong with
        | none => { reads := done.reads }
        | some ((_, b), i) =>
          { Done.ofComplaint ("sort: " ++ names.headD "-" ++ ":" ++ toString (i + 2) ++
              ": disorder: " ++ String.ofList b) 1 with
            reads := done.reads }
      else
        match valueOf? given 'o', done.code with
        | some name, 0 =>
          match t.files.locate t.directory name with
          | .ok path =>
            let text := String.join (done.written.map Prod.snd)
            { reads := done.reads, files := some (t.files.put path (.file text false)) }
          | .error fault => .ofComplaint ("sort: open failed: " ++ name ++ ": " ++ fault.describe) 2
        | _, 0 => done
        | _, _ =>
          { done with
            code := 2
            written := ((done.written.filter Prod.fst).take 1).map fun (isComplaint, text) =>
              (isComplaint, String.ofList ("sort: cannot read: ".toList ++ text.toList.drop 6)) }

end Scriptlet.Shell.Utility
