import Scriptlet.Shell.Format
import Scriptlet.Shell.Utility.Lines

/-!
# Showing octets

Programs that write the octets of a text as numbers or as other characters.
-/

namespace Scriptlet.Shell.Utility

/-- How octets are shown: as characters, or so many at a time as a number. -/
inductive DumpFormat where
  | characters
  | number (letter : Char) (size : Nat)
deriving DecidableEq, Repr

namespace DumpFormat

/-- The formats that a text describes. The number bounds how many there are. -/
def ofText : Nat → List Char → List DumpFormat
  | 0, _ => []
  | _, [] => []
  | n + 1, 'c' :: rest => characters :: ofText n rest
  | n + 1, letter :: rest =>
    let usual := 4
    match rest with
    | 'C' :: rest => number letter 1 :: ofText n rest
    | 'S' :: rest => number letter 2 :: ofText n rest
    | 'I' :: rest => number letter 4 :: ofText n rest
    | 'L' :: rest => number letter 8 :: ofText n rest
    | rest =>
      let (size, behind) := Numeral.digits 10 0 rest
      number letter (if behind.length = rest.length then usual else size) :: ofText n behind

def size : DumpFormat → Nat
  | characters => 1
  | number _ size => max size 1

/-- A character as it is shown. -/
def character (c : Char) : String :=
  match c with
  | '\x00' => "\\0"
  | '\x07' => "\\a"
  | '\x08' => "\\b"
  | '\x0c' => "\\f"
  | '\n' => "\\n"
  | '\r' => "\\r"
  | '\t' => "\\t"
  | '\x0b' => "\\v"
  | c =>
    if isPrint c then String.singleton c
    else
      String.ofList (List.replicate (3 - (Nat.toDigits 8 c.toNat).length) '0') ++
      Numeral.inBase 8 c.toNat

/-- How many digits numbers of a size have in a base, at most. -/
def width (base size : Nat) : Nat :=
  (Nat.toDigits base (Nat.pow 256 size - 1)).length

def itemWidth : DumpFormat → Nat
  | characters => 4
  | number 'x' size => width 16 size + 1
  | number 'o' size => width 8 size + 1
  | number 'u' size => width 10 size + 1
  | number _ size => width 10 size + 2

/-- So many octets as they are shown, the least significant one first. -/
def item (f : DumpFormat) (cs : List Char) : String :=
  match f with
  | characters => character (cs.headD '\x00')
  | number letter size =>
    let n := cs.foldr (fun c n => n * 256 + c.toNat) 0
    let filled (base : Nat) : String :=
      let ds := Nat.toDigits base n
      String.ofList (List.replicate (width base size - ds.length) '0' ++ ds)
    match letter with
    | 'x' => filled 16
    | 'o' => filled 8
    | 'u' => toString n
    | _ => toString (if n * 2 ≥ Nat.pow 256 size then (n : Int) - Nat.pow 256 size else n)

/-- The items of a row, each with its number, filled up with spaces in front. Spaces that are left
when a whole row has so many items are spread over them. -/
def row (f : DumpFormat) (count spaces : Nat) (items : List (List Char)) : String :=
  String.join (items.zipIdx.map fun (cs, i) =>
    let left (k : Nat) : Nat := spaces * (count - k) / count
    padded (f.itemWidth + (left i - left (i + 1))) (f.item cs))

end DumpFormat

/-- A text in pieces of a length; the number bounds how many there are. -/
def pieces (length : Nat) : Nat → List Char → List (List Char)
  | 0, _ => []
  | _, [] => []
  | n + 1, cs => cs.take length :: pieces length n (cs.drop length)

/-- The place of a row, as a letter says; nothing if places are not shown. -/
def rowPlace (letter : Char) (n : Nat) : String :=
  let filled (width base : Nat) : String :=
    let ds := Nat.toDigits base n
    String.ofList (List.replicate (width - ds.length) '0' ++ ds)
  match letter with
  | 'n' => ""
  | 'd' => filled 7 10
  | 'x' => filled 6 16
  | _ => filled 7 8

/-- Rows of octets with their places. Rows that are the same as the one in front are left out, and
an asterisk stands for them. -/
def dumpRows (letter : Char) (formats : List DumpFormat) (width : Nat) (all : Bool)
    (before : Option (List Char)) (starred : Bool) (place : Nat) : List (List Char) → List String
  | [] => if letter = 'n' then [] else [rowPlace letter place ++ "\n"]
  | r :: rest =>
    let next := place + r.length
    if !all && before = some r && !rest.isEmpty then
      let others := dumpRows letter formats width all before true next rest
      if starred then others else "*\n" :: others
    else
      let front := rowPlace letter place
      let gap := String.ofList (List.replicate front.length ' ')
      let count (f : DumpFormat) : Nat := max 1 (width / f.size)
      let widest := formats.foldl (fun n f => max n (f.itemWidth * count f)) 0
      let texts := formats.zipIdx.map fun (f, i) =>
        let spaces := widest - f.itemWidth * count f
        (if i = 0 then front else gap) ++ f.row (count f) spaces (pieces f.size r.length r) ++ "\n"
      String.join texts :: dumpRows letter formats width all (some r) false next rest

/-- Shows octets. -/
def od : Utility :=
  withOptions "od" 1
    { letters := "A:t:bcdiosxvN:j:w:"
      long := [("address-radix", 'A'), ("format", 't'), ("output-duplicates", 'v'),
        ("read-bytes", 'N'), ("skip-bytes", 'j'), ("width", 'w')] }
    fun t given names =>
      let formats := given.flatMap fun g =>
        match g.letter with
        | 't' => DumpFormat.ofText g.value.length g.value.toList
        | 'b' => [.number 'o' 1]
        | 'c' => [.characters]
        | 'd' => [.number 'u' 2]
        | 'i' => [.number 'd' 4]
        | 'o' => [.number 'o' 2]
        | 's' => [.number 'd' 2]
        | 'x' => [.number 'x' 2]
        | _ => []
      let formats := if formats.isEmpty then [.number 'o' 2] else formats
      let number? (c : Char) : Option Nat := (valueOf? given c).bind natural?
      let letter := (((valueOf? given 'A').getD "o").toList.head?).getD 'o'
      let skipped := (number? 'j').getD 0
      allFiles "od" t names fun cs =>
        let cs := cs.drop skipped
        let cs := match number? 'N' with
          | some n => cs.take n
          | none => cs
        let width := max 1 ((number? 'w').getD 16)
        let rows := pieces width cs.length cs
        String.join (dumpRows letter formats width (isGiven given 'v') none false skipped rows)

/-! ## Base 64 -/

def base64Alphabet : List Char :=
  "ABCDEFGHIJKLMNOPQRSTUVWXYZabcdefghijklmnopqrstuvwxyz0123456789+/".toList

/-- The characters for groups of three octets. -/
def toBase64 : List Char → List Char
  | a :: b :: c :: rest =>
    let n := (a.toNat * 256 + b.toNat) * 256 + c.toNat
    [n / (64 * 64 * 64), n / (64 * 64) % 64, n / 64 % 64, n % 64].map (base64Alphabet.getD · '=') ++
      toBase64 rest
  | [a, b] =>
    let n := (a.toNat * 256 + b.toNat) * 4
    [n / (64 * 64), n / 64 % 64, n % 64].map (base64Alphabet.getD · '=') ++ ['=']
  | [a] =>
    let n := a.toNat * 16
    [n / 64, n % 64].map (base64Alphabet.getD · '=') ++ ['=', '=']
  | [] => []

/-- The octets that groups of four characters stand for. -/
def ofBase64 : List Nat → List Char
  | a :: b :: c :: d :: rest =>
    let n := ((a * 64 + b) * 64 + c) * 64 + d
    octet (n / 65536) :: octet (n / 256) :: octet n :: ofBase64 rest
  | [a, b, c] =>
    let n := (a * 64 + b) * 64 + c
    [octet (n / 1024), octet (n / 4)]
  | [a, b] => [octet ((a * 64 + b) / 16)]
  | _ => []

/-- Writes a text in base 64, or back. -/
def base64 : Utility :=
  withOptions "base64" 1
    { letters := "diw:"
      long := [("decode", 'd'), ("ignore-garbage", 'i'), ("wrap", 'w')] }
    fun t given names =>
      if isGiven given 'd' then
        let code (c : Char) : Option Nat := base64Alphabet.findIdx? (· == c)
        let wrong (cs : List Char) : Bool :=
          let digits := (cs.filter (· != '\n')).takeWhile (· != '=')
          (!isGiven given 'i' && digits.any fun c => (code c).isNone) ||
            (cs.filter (· != '\n')).length % 4 != 0
        let all := ((contents "base64" t names).map fun c => c.2.toOption.getD []).flatten
        let done := allFiles "base64" t names fun cs =>
          let digits := (cs.filter (· != '\n')).takeWhile (· != '=')
          let kept :=
            if isGiven given 'i' then digits else digits.takeWhile fun c => (code c).isSome
          String.ofList (ofBase64 (kept.filterMap code))
        if done.code = 0 && wrong all then
          { done with written := done.written ++ [(true, "base64: invalid input\n")], code := 1 }
        else done
      else
        let width := ((valueOf? given 'w').bind natural?).getD 76
        allFiles "base64" t names fun cs =>
          let digits := toBase64 cs
          if width = 0 then String.ofList digits
          else unlines (pieces width digits.length digits)

end Scriptlet.Shell.Utility
