import Scriptlet.Shell.Utility

/-!
# Utilities that work line by line

Programs that take a text apart into lines or columns and write some of it, or all of it in another
way.
-/

namespace Scriptlet.Shell.Utility

/-- The lines of a text with their line feeds; the last one may have none. -/
def wholeLines (cs : List Char) : List (List Char) :=
  cs.foldr (fun c ls =>
    match c, ls with
    | '\n', ls => ['\n'] :: ls
    | c, [] => [[c]]
    | c, l :: ls => (c :: l) :: ls) []

def padded (width : Nat) (s : String) : String :=
  String.ofList (List.replicate (width - s.length) ' ') ++ s

def joined (ls : List (List Char)) : String :=
  String.ofList ls.flatten

/-! ## Showing -/

/-- A character as it is shown: with a caret or `M-` where it cannot be printed. -/
def shown (tabs others : Bool) (c : Char) : List Char :=
  let caret (n : Nat) : List Char := ['^', Char.ofNat (if n = 127 then 63 else n + 64)]
  let n := c.toNat
  if c = '\t' then if tabs then ['^', 'I'] else [c]
  else if c = '\n' || !others then [c]
  else if n < 32 || n = 127 then caret n
  else if n < 128 then [c]
  else 'M' :: '-' :: (if n < 160 || n = 255 then caret (n - 128) else [Char.ofNat (n - 128)])

/-- Lines without those that are empty behind an empty one. -/
def squeezed (behindEmpty : Bool) : List (List Char) → List (List Char)
  | [] => []
  | line :: rest =>
    let isEmpty := line = ['\n']
    if isEmpty && behindEmpty then squeezed true rest else line :: squeezed isEmpty rest

/-- Lines with numbers in front, unless they are passed over. -/
def numbered (counts : List Char → Bool) (n : Nat) : List (List Char) → List (List Char)
  | [] => []
  | line :: rest =>
    if counts line then
      ((padded 6 (toString n)).toList ++ '\t' :: line) :: numbered counts (n + 1) rest
    else line :: numbered counts n rest

/-- Writes files one after the other. -/
def cat : Utility :=
  withOptions "cat" 1
    { letters := "benstuvAET"
      long := [("show-all", 'A'), ("number-nonblank", 'b'), ("show-ends", 'E'), ("number", 'n'),
        ("squeeze-blank", 's'), ("show-tabs", 'T'), ("show-nonprinting", 'v')] }
    fun t given names =>
      let has (letters : String) : Bool := letters.toList.any fun c => isGiven given c
      let line (l : List Char) : List Char :=
        l.flatMap fun c =>
          if c = '\n' && has "AEe" then ['$', '\n'] else shown (has "ATt") (has "Avet") c
      if !has "benstvAET" then eachFile "cat" t names fun _ cs => String.ofList cs
      else
        allFiles "cat" t names fun cs =>
          let ls := wholeLines cs
          let ls := if has "s" then squeezed false ls else ls
          let counts (l : List Char) : Bool := if has "b" then l != ['\n'] else has "n"
          joined ((numbered counts 1 ls).map line)

def tac : Utility :=
  withOptions "tac" 1 { letters := "" } fun t _ names =>
    eachFile "tac" t names fun _ cs => joined (wholeLines cs).reverse

def rev : Utility :=
  withOptions "rev" 1 { letters := "" } fun t _ names =>
    eachFile "rev" t names fun _ cs =>
      joined ((wholeLines cs).map fun l =>
        if l.getLast? = some '\n' then l.dropLast.reverse ++ ['\n'] else l.reverse)

/-! ## Starts and ends -/

/-- How much of a text is wanted. -/
structure Extent where
  ofOctets : Bool
  /-- Whether the number is counted from the other end. -/
  fromOther : Bool
  count : Nat

/-- A number that a letter for a multiple may follow. -/
def multiple? (cs : List Char) : Option Nat :=
  let (n, rest) := Numeral.digits 10 0 cs
  if rest.length = cs.length then none
  else
    match String.ofList rest with
    | "" | "c" => some n
    | "b" => some (n * 512)
    | "k" | "K" | "KiB" => some (n * 1024)
    | "kB" | "KB" => some (n * 1000)
    | "m" | "M" | "MiB" => some (n * (1024 * 1024))
    | "MB" => some (n * (1000 * 1000))
    | "G" | "GiB" => some (n * (1024 * 1024 * 1024))
    | _ => none

/-- The extent that options ask for; a sign in front of the number makes it count from the other
end. -/
def Extent.ofOptions (sign : Char) (given : List Given) : Except String Extent :=
  match (given.filter fun g => g.letter = 'n' || g.letter = 'c').getLast? with
  | none => .ok { ofOctets := false, fromOther := false, count := 10 }
  | some g =>
    let ofOctets := g.letter = 'c'
    let cs := g.value.toList
    let digits := if cs.head? = some '-' || cs.head? = some '+' then cs.tail else cs
    match multiple? digits with
    | some count => .ok { ofOctets, fromOther := cs.head? = some sign, count }
    | none =>
      .error ("invalid number of " ++ (if ofOctets then "bytes" else "lines") ++ ": '" ++ g.value ++
        "'")

/-- Arguments in which numbers behind a hyphen stand for numbers of lines. -/
def withoutShortNumbers (arguments : List String) : List String :=
  match arguments with
  | s :: rest =>
    match s.toList with
    | '-' :: c :: cs =>
      if areDigits (c :: cs) then "-n" :: String.ofList (c :: cs) :: rest else s :: rest
    | _ => s :: rest
  | [] => []

/-- The first or the last so many elements of a list, or all but so many at the other end. -/
def Extent.take {α : Type} (e : Extent) (fromEnd : Bool) (as : List α) : List α :=
  match fromEnd, e.fromOther with
  | false, false => as.take e.count
  | false, true => as.take (as.length - e.count)
  | true, false => as.drop (as.length - e.count)
  | true, true => as.drop (e.count - 1)

/-- Runs a program that writes the start or the end of files. With several files their names stand
in front. -/
def withExtent (program : String) (fromEnd : Bool) (sign : Char) : Utility := fun t =>
  let read := withOptions program 1
    { letters := "n:c:qvzf"
      long := [("lines", 'n'), ("bytes", 'c'), ("quiet", 'q'), ("silent", 'q'), ("verbose", 'v')] }
    fun t given names =>
      match Extent.ofOptions sign given with
      | .error message => .ofComplaint (program ++ ": " ++ message) 1
      | .ok e =>
        let hasTitles := (names.length > 1 || isGiven given 'v') && !isGiven given 'q'
        let title (i : Nat) (name : String) : String :=
          if !hasTitles then ""
          else (if i = 0 then "" else "\n") ++
            "==> " ++ (if name = "-" then "standard input" else name) ++ " <==\n"
        let shown := (contents program t names).filter fun c => c.2.isOk
        let order := shown.map Prod.fst
        let done := eachFile program t names fun name cs =>
          title (order.idxOf name) name ++
            if e.ofOctets then String.ofList (e.take fromEnd cs)
            else joined (e.take fromEnd (wholeLines cs))
        { done with
          written := done.written.map fun (isComplaint, text) =>
            if isComplaint then
              let about := text.toList.drop (program.length + 2)
              let name := String.ofList (about.takeWhile (· != ':'))
              (true, program ++ ": cannot open '" ++ name ++ "' for reading" ++
                String.ofList (about.drop name.length))
            else (false, text) }
  read { t with arguments := withoutShortNumbers t.arguments }

def head : Utility :=
  withExtent "head" false '-'

def tail : Utility :=
  withExtent "tail" true '+'

/-! ## Lines that are the same -/

def runs {α β : Type} [BEq β] (key : α → β) : List α → List (List α)
  | [] => []
  | a :: rest =>
    match runs key rest with
    | (b :: same) :: others =>
      if key a == key b then (a :: b :: same) :: others else [a] :: (b :: same) :: others
    | others => [a] :: others

def withoutWords : Nat → List Char → List Char
  | 0, cs => cs
  | n + 1, cs =>
    let isBlank (c : Char) : Bool := c = ' ' || c = '\t'
    withoutWords n ((cs.dropWhile isBlank).dropWhile fun c => !isBlank c)

/-- Writes each line once where it is repeated. -/
def uniq : Utility :=
  withOptions "uniq" 1
    { letters := "cduif:s:w:"
      long := [("count", 'c'), ("repeated", 'd'), ("unique", 'u'), ("ignore-case", 'i'),
        ("skip-fields", 'f'), ("skip-chars", 's'), ("check-chars", 'w')] }
    fun t given names =>
      let number (c : Char) : Nat := ((valueOf? given c).bind natural?).getD 0
      let key (l : List Char) : List Char :=
        let l := (withoutWords (number 'f') l).drop (number 's')
        let l := if isGiven given 'w' then l.take (number 'w') else l
        if isGiven given 'i' then l.map Char.toLower else l
      let wanted (group : List (List Char)) : Bool :=
        (!isGiven given 'd' || group.length > 1) && (!isGiven given 'u' || group.length = 1)
      allFiles "uniq" t (names.take 1) fun cs =>
        String.join (((runs key (lines cs)).filter wanted).map fun group =>
          let count := if isGiven given 'c' then padded 7 (toString group.length) ++ " " else ""
          count ++ String.ofList (group.headD []) ++ "\n")

/-! ## Columns -/

/-- The ranges that a list of numbers and ranges stands for. A range without an end has none. -/
def ranges? (s : String) : Option (List (Nat × Option Nat)) :=
  ((cutAt (fun c => c = ',' || c = ' ') s.toList)).mapM fun cs =>
    match cutAt (· == '-') cs with
    | [a] => (natural? (String.ofList a)).bind fun n => if n = 0 then none else some (n, some n)
    | [[], []] => none
    | [[], b] => (natural? (String.ofList b)).map fun n => (1, some n)
    | [a, []] => (natural? (String.ofList a)).map fun n => (n, none)
    | [a, b] => do
      let m ← natural? (String.ofList a)
      let n ← natural? (String.ofList b)
      if m = 0 || n < m then none else some (m, some n)
    | _ => none

/-- Writes some columns of each line. -/
def cut : Utility :=
  withOptions "cut" 1
    { letters := "b:c:f:d:snzCD:"
      long := [("bytes", 'b'), ("characters", 'c'), ("fields", 'f'), ("delimiter", 'd'),
        ("only-delimited", 's'), ("complement", 'C'), ("output-delimiter", 'D')] }
    fun t given names =>
      let list? := (given.filter fun g => "bcf".toList.contains g.letter).getLast?
      match list? with
      | none => usageComplaint "cut" "you must specify a list of bytes, characters, or fields" 1
      | some g =>
        match ranges? g.value with
        | none => usageComplaint "cut" "invalid field range" 1
        | some ranges =>
          let isIn (n : Nat) : Bool :=
            ranges.any (fun r => r.1 ≤ n && r.2.all (n ≤ ·)) != isGiven given 'C'
          let chosen {α : Type} (as : List α) : List α :=
            as.zipIdx.filterMap fun (a, i) => if isIn (i + 1) then some a else none
          let delimiter := ((valueOf? given 'd').bind fun s => s.toList.head?).getD '\t'
          let line (l : List Char) : Option String :=
            if g.letter = 'f' then
              match cutAt (· == delimiter) l with
              | [whole] => if isGiven given 's' then none else some (String.ofList whole)
              | parts =>
                let between := ((valueOf? given 'D').map String.toList).getD [delimiter]
                some (String.ofList (List.intercalate between (chosen parts)))
            else some (String.ofList (chosen l))
          allFiles "cut" t names fun cs =>
            String.join ((lines cs).filterMap fun l => (line l).map (· ++ "\n"))

/-- The delimiters that a text stands for; none stands for itself. -/
def delimiters : List Char → List (List Char)
  | '\\' :: 'n' :: rest => ['\n'] :: delimiters rest
  | '\\' :: 't' :: rest => ['\t'] :: delimiters rest
  | '\\' :: '0' :: rest => [] :: delimiters rest
  | '\\' :: c :: rest => [c] :: delimiters rest
  | c :: rest => [c] :: delimiters rest
  | [] => []

/-- Texts with delimiters between them, which are used in turn. -/
def delimited (ds : List (List Char)) (texts : List (List Char)) : List Char :=
  texts.zipIdx.flatMap fun (text, i) =>
    if i = 0 then text else ds.getD ((i - 1) % ds.length) [] ++ text

/-- Texts of which the first are handed out where a hyphen stands in turn. -/
def dealt (hyphens : Nat) (i : Nat) (ls : List (List Char)) : List (List Char) :=
  ls.zipIdx.filterMap fun (l, k) => if k % hyphens = i then some l else none

/-- Writes lines of several files side by side. -/
def paste : Utility :=
  withOptions "paste" 1 { letters := "d:s", long := [("delimiters", 'd'), ("serial", 's')] }
    fun t given names =>
      let names := if names.isEmpty then ["-"] else names
      let ds := delimiters ((valueOf? given 'd').getD "\t").toList
      let ds := if ds.isEmpty then [[]] else ds
      let hyphens := (names.filter (· = "-")).length
      let all := contents "paste" t names
      match all.findSome? fun (_, c) => match c with
        | .error message => some message
        | .ok _ => none with
      | some message => { written := [(true, message)], code := 1 }
      | none =>
        let input := lines (t.input.getD [])
        let columns := all.zipIdx.map fun ((name, content), i) =>
          if name = "-" then dealt hyphens ((names.take i).filter (· = "-")).length input
          else lines (content.toOption.getD [])
        let height := columns.foldl (fun n ls => max n ls.length) 0
        let rows := if isGiven given 's' then columns
          else (List.range height).map fun i => columns.map fun ls => ls.getD i []
        { written := [(false, String.join (rows.map fun row =>
            String.ofList (delimited ds row) ++ "\n"))]
          reads := hyphens > 0 }

/-- A line in pieces that are not longer than a width; they end behind blanks, if that is asked for
and can be done. The number bounds how many there are. -/
def folded (width : Nat) (atBlanks : Bool) : Nat → List Char → List (List Char)
  | 0, cs => [cs]
  | n + 1, cs =>
    if cs.length ≤ width then [cs]
    else
      let first := cs.take width
      let upToBlank := (first.reverse.dropWhile (· != ' ')).reverse
      let first := if atBlanks && !upToBlank.isEmpty then upToBlank else first
      first :: folded width atBlanks n (cs.drop first.length)

/-- Breaks lines that are longer than a width. -/
def fold : Utility := fun t =>
  let run := withOptions "fold" 1
    { letters := "bsw:n:", long := [("bytes", 'b'), ("spaces", 's'), ("width", 'w')] }
    fun t given names =>
      let value := (given.filter fun g => g.letter = 'w' || g.letter = 'n').getLast?
      match (value.map Given.value).getD "80" |> natural? with
      | none | some 0 =>
        .ofComplaint ("fold: invalid number of columns: '" ++ (value.map Given.value).getD "" ++
          "'") 1
      | some width =>
        eachFile "fold" t names fun _ cs =>
          String.join ((wholeLines cs).map fun l =>
            let body := if l.getLast? = some '\n' then l.dropLast else l
            let pieces := folded width (isGiven given 's') body.length body
            String.ofList (List.intercalate ['\n'] pieces) ++
              if body.length < l.length then "\n" else "")
  run { t with arguments := withoutShortNumbers t.arguments }

/-- Writes lines with numbers. -/
def nl : Utility :=
  withOptions "nl" 1
    { letters := "b:n:s:v:w:i:"
      long := [("body-numbering", 'b'), ("number-format", 'n'), ("number-separator", 's'),
        ("starting-line-number", 'v'), ("number-width", 'w'), ("line-increment", 'i')] }
    fun t given names =>
      let number (c : Char) (usual : Nat) : Nat := ((valueOf? given c).bind natural?).getD usual
      let width := number 'w' 6
      let separator := (valueOf? given 's').getD "\t"
      let style := (valueOf? given 'b').getD "t"
      let label (n : Nat) : String :=
        let s := toString n
        match (valueOf? given 'n').getD "rn" with
        | "ln" => s ++ String.ofList (List.replicate (width - s.length) ' ')
        | "rz" => String.ofList (List.replicate (width - s.length) '0') ++ s
        | _ => padded width s
      let gap := String.ofList (List.replicate (width + separator.length) ' ')
      let rec go (n : Nat) : List (List Char) → List String
        | [] => []
        | l :: rest =>
          if style = "a" || (style = "t" && !l.isEmpty) then
            (label n ++ separator ++ String.ofList l ++ "\n") :: go (n + number 'i' 1) rest
          else (gap ++ String.ofList l ++ "\n") :: go n rest
      allFiles "nl" t names fun cs => String.join (go (number 'v' 1) (lines cs))

end Scriptlet.Shell.Utility
