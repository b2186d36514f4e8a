import Scriptlet.Shell.Real

/-!
# Escapes and formats

How `echo` and `printf` write their arguments. Backslashes stand in front of escapes; in a format,
percent signs stand in front of directives, each of which writes an argument. A format is used again
while arguments are left.
-/

namespace Scriptlet.Shell

/-- What a builtin writes and how it ends. -/
structure Report where
  output : String := ""
  /-- What is complained about, before anything is written. -/
  complaints : List String := []
  code : Nat := 0
deriving DecidableEq, Repr

/-! ## Escapes -/

/-- The character that a letter stands for behind a backslash. -/
def namedEscape? : Char → Option Char
  | 'a' => some '\x07'
  | 'b' => some '\x08'
  | 'e' => some '\x1b'
  | 'f' => some '\x0c'
  | 'n' => some '\n'
  | 'r' => some '\r'
  | 't' => some '\t'
  | 'v' => some '\x0b'
  | '\\' => some '\\'
  | _ => none

/-- The character for at most three octal digits, and the text behind them. -/
def octal (cs : List Char) : Char × List Char :=
  let (n, rest) := Numeral.digits 8 0 (cs.take 3)
  (octet n, rest ++ cs.drop 3)

/-- The character for what stands behind a backslash, and the text behind it. What is no escape is
left, behind the backslash. -/
def escape (cs : List Char) : Char × List Char :=
  match cs with
  | [] => ('\\', [])
  | c :: rest =>
    match namedEscape? c with
    | some d => (d, rest)
    | none => if Numeral.startsWithDigit 8 cs then octal cs else ('\\', cs)

/-- A text with its escapes replaced, and whether the escape that ends all output is in it. Octal
digits may have a zero in front. The number bounds how many characters there are. -/
def unescape : Nat → List Char → List Char × Bool
  | 0, cs => (cs, false)
  | _, [] => ([], false)
  | n + 1, '\\' :: rest =>
    match rest with
    | 'c' :: _ => ([], true)
    | rest =>
      let (c, rest) := match rest with
        | '0' :: digits => octal digits
        | rest => escape rest
      let (cs, ends) := unescape n rest
      (c :: cs, ends)
  | n + 1, c :: rest =>
    let (cs, ends) := unescape n rest
    (c :: cs, ends)

/-- Arguments with spaces between them and a line end behind them, or without one. -/
def echo (arguments : List String) : String :=
  let (newLine, arguments) := match arguments with
    | "-n" :: rest => (false, rest)
    | arguments => (true, arguments)
  let cs := (" ".intercalate arguments).toList
  let (cs, ends) := unescape cs.length cs
  String.ofList (cs ++ if newLine && !ends then ['\n'] else [])

/-! ## Directives -/

/-- A width or a precision: a number, or the next argument. -/
inductive Count where
  | given (n : Nat)
  | argument
deriving DecidableEq, Repr

/-- A directive of a format. -/
structure Directive where
  flags : List Char
  width : Count
  precision : Option Count
  conversion : Char
deriving DecidableEq, Repr

/-- A part of a format. -/
inductive FormatPart where
  | char (c : Char)
  | directive (d : Directive)
  /-- What is no directive. -/
  | wrong (message : String)
deriving DecidableEq, Repr

/-- A width or a precision at the start, and the text behind it. -/
def readCount : List Char → Count × List Char
  | '*' :: rest => (.argument, rest)
  | cs =>
    let (n, rest) := Numeral.digits 10 0 cs
    (.given n, rest)

/-- The part behind a percent sign, and the text behind it. -/
def readDirective (cs : List Char) : FormatPart × List Char :=
  match cs with
  | '%' :: rest => (.char '%', rest)
  | cs =>
    let isFlag (c : Char) : Bool := c = '#' || c = '-' || c = '+' || c = ' ' || c = '0'
    let flags := cs.takeWhile isFlag
    let (width, rest) := readCount (cs.drop flags.length)
    let (precision, rest) := match rest with
      | '.' :: rest =>
        let (count, rest) := readCount rest
        (some count, rest)
      | rest => (none, rest)
    match rest with
    | [] => (.wrong "missing format character", [])
    | c :: rest' =>
      if "bcsdiouxXaAeEfFgG".toList.contains c then
        (.directive { flags, width, precision, conversion := c }, rest')
      else
        let spelling := cs.take (cs.length - rest'.length)
        (.wrong ("%" ++ String.ofList spelling ++ ": invalid directive"), [])

/-- The parts of a format. The number bounds how many there are. -/
def readFormat : Nat → List Char → List FormatPart
  | 0, _ => []
  | _, [] => []
  | n + 1, '%' :: rest =>
    let (part, rest) := readDirective rest
    part :: readFormat n rest
  | n + 1, '\\' :: rest =>
    let (c, rest) := escape rest
    .char c :: readFormat n rest
  | n + 1, c :: rest => .char c :: readFormat n rest

/-! ## Arguments -/

/-- A value read from an argument, and what is to be complained about. -/
abbrev Value (α : Type) := α × List String

def conversionComplaints (argument : String) (rest : List Char) (inRange : Bool) : List String :=
  if !rest.isEmpty then
    [argument ++ if rest.length = argument.length then ": expected numeric value"
      else ": not completely converted"]
  else if !inRange then [argument ++ ": Numerical result out of range"]
  else []

/-- The number of the character behind a quote at the start. -/
def quotedCharacter? (argument : String) : Option Nat :=
  match argument.toList with
  | '"' :: rest | '\'' :: rest => some ((rest.head?.map Char.toNat).getD 0)
  | _ => none

/-- An argument as an integer between bounds. -/
def integerValue (least greatest : Int) (argument : String) : Value Int :=
  match quotedCharacter? argument with
  | some n => (n, [])
  | none =>
    match Numeral.integer? 0 argument.toList with
    | none => (0, conversionComplaints argument argument.toList true)
    | some (n, rest) =>
      let m := max least (min greatest n)
      (m, conversionComplaints argument rest (m = n))

def signedValue : String → Value Int :=
  integerValue Numeral.least Numeral.greatest

/-- An argument as a natural number of 64 bits; negative ones are counted from the other end. -/
def naturalValue (argument : String) : Value Nat :=
  let bound := Int.pow 2 64
  let (n, complaints) := integerValue (-bound + 1) (bound - 1) argument
  let isOut := complaints.any fun c => c.endsWith "range"
  (if isOut then (bound - 1).toNat else (n % bound).toNat, complaints)

def realValue (argument : String) : Value Real :=
  match quotedCharacter? argument with
  | some n => ({ magnitude := .nearest n 1 }, [])
  | none =>
    match Real.read? argument.toList with
    | none => ({}, conversionComplaints argument argument.toList true)
    | some (r, rest) => (r, conversionComplaints argument rest true)

/-! ## Writing -/

/-- A directive whose width and precision are known. -/
structure Layout where
  flags : List Char
  width : Nat
  precision : Option Nat
deriving DecidableEq, Repr

namespace Layout

def has (l : Layout) (flag : Char) : Bool :=
  l.flags.contains flag

def fill (l : Layout) (cs : List Char) : List Char :=
  let spaces := List.replicate (l.width - cs.length) ' '
  if l.has '-' then cs ++ spaces else spaces ++ cs

/-- A number, of which the sign or what else stands in front is apart, filled up to the width. -/
def fillNumber (l : Layout) (zeros : Bool) (front digits : List Char) : List Char :=
  if zeros && l.has '0' && !l.has '-' then
    front ++ List.replicate (l.width - front.length - digits.length) '0' ++ digits
  else l.fill (front ++ digits)

def sign (l : Layout) (isNegative : Bool) : List Char :=
  if isNegative then ['-'] else if l.has '+' then ['+'] else if l.has ' ' then [' '] else []

/-- The digits of a number, at least as many as the precision asks for. -/
def digits (l : Layout) (base n : Nat) : List Char :=
  let ds := if n = 0 && l.precision = some 0 then [] else Nat.toDigits base n
  List.replicate (l.precision.getD 1 - ds.length) '0' ++ ds

def signed (l : Layout) (n : Int) : List Char :=
  l.fillNumber l.precision.isNone (l.sign (n < 0)) (l.digits 10 n.natAbs)

/-- Writes a natural number. -/
def natural (l : Layout) (conversion : Char) (n : Nat) : List Char :=
  let zeros := l.precision.isNone
  match conversion with
  | 'o' =>
    let ds := l.digits 8 n
    l.fillNumber zeros [] (if l.has '#' && ds.head? != some '0' then '0' :: ds else ds)
  | 'x' => l.fillNumber zeros (if l.has '#' && n != 0 then ['0', 'x'] else []) (l.digits 16 n)
  | 'X' =>
    l.fillNumber zeros (if l.has '#' && n != 0 then ['0', 'X'] else [])
      ((l.digits 16 n).map Char.toUpper)
  | _ => l.fillNumber zeros [] (l.digits 10 n)

def real (l : Layout) (conversion : Char) (r : Real) : List Char :=
  let lower := conversion.toLower
  let ds := Real.describe lower (l.has '#') l.precision r.magnitude
  let isFinite := r.magnitude matches .finite _ _
  let text := l.fillNumber isFinite (l.sign r.isNegative) ds
  if conversion.isUpper then text.map Char.toUpper else text

end Layout

/-- The state of writing a format. -/
structure Writing where
  written : List (List Char) := []
  complaints : List String := []
  left : List String
  /-- Whether nothing more is written. -/
  ends : Bool := false
  code : Nat := 0

namespace Writing

def take (w : Writing) : Option String × Writing :=
  (w.left.head?, { w with left := w.left.tail })

/-- Takes the next argument as a value; a missing one counts as something else. -/
def takeValue {α : Type} (w : Writing) (read : String → Value α) (missing : α) : α × Writing :=
  match w.take with
  | (none, w) => (missing, w)
  | (some s, w) =>
    let (a, complaints) := read s
    let code := if complaints.isEmpty then w.code else 1
    (a, { w with complaints := w.complaints ++ complaints, code })

def takeCount (w : Writing) : Count → Int × Writing
  | .given n => (n, w)
  | .argument => w.takeValue signedValue 0

def write (w : Writing) (cs : List Char) : Writing :=
  { w with written := cs :: w.written }

def fail (w : Writing) (message : String) : Writing :=
  { w with complaints := w.complaints ++ [message], ends := true, code := 2 }

/-- Writes what a directive asks for. -/
def directive (w : Writing) (d : Directive) : Writing :=
  let (width, w) := w.takeCount d.width
  let (precision, w) := match d.precision with
    | none => (none, w)
    | some count =>
      let (n, w) := w.takeCount count
      (if n < 0 then none else some n.toNat, w)
  let flags := if width < 0 then '-' :: d.flags else d.flags
  let l : Layout := { flags, width := width.natAbs, precision }
  let short (cs : List Char) := match precision with
    | some n => cs.take n
    | none => cs
  match d.conversion with
  | 's' =>
    let (s, w) := w.take
    w.write (l.fill (short (s.getD "").toList))
  | 'b' =>
    let (s, w) := w.take
    let cs := (s.getD "").toList
    let (cs, ends) := unescape cs.length cs
    { w.write (l.fill (short cs)) with ends }
  | 'c' =>
    let (s, w) := w.take
    w.write (l.fill [((s.getD "").toList.head?).getD '\x00'])
  | 'd' | 'i' =>
    let (n, w) := w.takeValue signedValue 0
    w.write (l.signed n)
  | 'u' | 'o' | 'x' | 'X' =>
    let (n, w) := w.takeValue naturalValue 0
    w.write (l.natural d.conversion n)
  | c =>
    let (r, w) := w.takeValue realValue {}
    w.write (l.real c r)

def part (w : Writing) (p : FormatPart) : Writing :=
  if w.ends then w
  else
    match p with
    | .char c => w.write [c]
    | .directive d => w.directive d
    | .wrong message => w.fail message

/-- Writes a format again and again while it takes arguments, at most so many times. -/
def format (parts : List FormatPart) : Nat → Writing → Writing
  | 0, w => w
  | n + 1, w =>
    let after := parts.foldl part w
    if after.ends || after.left.isEmpty || after.left.length = w.left.length then after
    else format parts n after

def report (w : Writing) : Report where
  output := String.ofList w.written.reverse.flatten
  complaints := w.complaints
  code := w.code

end Writing

def printf (arguments : List String) : Report :=
  match arguments with
  | [] => { complaints := ["usage: printf format [arg ...]"], code := 2 }
  | format :: arguments =>
    let cs := format.toList
    (Writing.format (readFormat cs.length cs) (arguments.length + 1) { left := arguments }).report

end Scriptlet.Shell
