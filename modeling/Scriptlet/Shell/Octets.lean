import Scriptlet.Text.Utf8

/-!
# Texts of octets

Commands see text as octets. Inside of the shell every character of a text stands for one octet, and
is the character with its number; `octetsOf` and `toOctets` lead there and back.
-/

namespace Scriptlet.Shell

def octetsOf (s : String) : String :=
  String.ofList ((Utf8.encode s.toList).map fun b => Char.ofNat b.toNat)

def toOctets (s : String) : List UInt8 :=
  s.toList.map fun c => UInt8.ofNat c.toNat

/-- The character for an octet. -/
def octet (n : Nat) : Char :=
  Char.ofNat (n % 256)

/-! ## Classes of characters -/

def isNameStart (c : Char) : Bool :=
  c.isAlpha || c = '_'

def isNameChar (c : Char) : Bool :=
  c.isAlphanum || c = '_'

def isName (s : String) : Bool :=
  match s.toList with
  | [] => false
  | c :: cs => isNameStart c && cs.all isNameChar

def isSpace (c : Char) : Bool :=
  c = ' ' || ('\t' ≤ c && c ≤ '\x0d')

def isPrint (c : Char) : Bool :=
  ' ' ≤ c && c ≤ '~'

/-- Whether a character is a sign: it can be printed, but is no letter, digit or space. -/
def isSign (c : Char) : Bool :=
  '!' ≤ c && c ≤ '~' && !c.isAlphanum

def areDigits (cs : List Char) : Bool :=
  !cs.isEmpty && cs.all Char.isDigit

/-! ## Cutting -/

/-- The parts of a list between the elements that satisfy a condition. -/
def cutAt {α : Type} (ends : α → Bool) (as : List α) : List (List α) :=
  as.foldr (fun a parts =>
    match ends a, parts with
    | true, parts => [] :: parts
    | false, part :: parts => (a :: part) :: parts
    | false, [] => [[a]]) [[]]

/-- The lines of a text, each without the line feed that ends it. -/
def lines (cs : List Char) : List (List Char) :=
  match (cutAt (· == '\n') cs).reverse with
  | [] :: rest => rest.reverse
  | parts => parts.reverse

def unlines (ls : List (List Char)) : String :=
  String.ofList (ls.flatMap fun l => l ++ ['\n'])

def behind? : List Char → List Char → Option (List Char)
  | [], cs => some cs
  | _ :: _, [] => none
  | a :: as, c :: cs => if a = c then behind? as cs else none

/-- Whether one text comes before another: the first octet that differs decides. -/
def comesBefore : List Char → List Char → Bool
  | _, [] => false
  | [], _ :: _ => true
  | a :: as, b :: bs => a < b || (a = b && comesBefore as bs)

/-- The number by which names are ordered in a table of a size: of those with the same number, the
older one comes first. -/
def placeInTable (size : Nat) (name : String) : Nat :=
  match name.toList with
  | [] => 0
  | c :: cs => (c.toNat * 16 + (c :: cs).foldr (fun d n => d.toNat + n) 0) % size

def inTableOrder {α : Type} (size : Nat) (entries : List (String × α)) : List (String × α) :=
  entries.mergeSort fun a b => placeInTable size a.1 ≤ placeInTable size b.1

/-! ## Quotes -/

/-- The rest of a text in quotes, from within single or double ones. Single quotes stand in double
ones, all else in single ones. -/
def quotedFrom (double : Bool) : List Char → List Char
  | [] => [if double then '"' else '\'']
  | c :: rest =>
    match double, (c == '\'') with
    | false, true => '\'' :: '"' :: c :: quotedFrom true rest
    | true, false => '"' :: '\'' :: c :: quotedFrom false rest
    | double, _ => c :: quotedFrom double rest

def quoted (s : String) : String :=
  String.ofList ('\'' :: quotedFrom false s.toList)

end Scriptlet.Shell
