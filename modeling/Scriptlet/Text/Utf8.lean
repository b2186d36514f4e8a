/-!
# Octets to characters

Reading UTF-8. A text is cut into *pieces*: characters, and ill-formed runs that begin like a
character but cannot be completed to one. A run is as long as possible while some character still
starts with it, so that reading resumes at the earliest octet that may start anew.

* `decode` accepts a text without ill-formed runs, and else says what stood before the first.
* `decodeLossy` writes the replacement character for each ill-formed run.
-/

namespace Scriptlet.Utf8

/-- A part of an octet sequence. -/
inductive Piece where
  /-- A character, complete. -/
  | char (c : Char)
  /-- So many octets that are no character and cannot become one. -/
  | illFormed (octets : Nat)
deriving DecidableEq, Repr

/-- A character whose first octets have been read. -/
structure Pending where
  /-- Octets read. -/
  taken : Nat
  /-- The number they spell so far. -/
  value : Nat
  /-- Octets still missing. -/
  owed : Nat
  /-- The least value that the next octet may have. -/
  low : Nat := 0x80
  /-- The greatest value that the next octet may have. -/
  high : Nat := 0xBF
deriving DecidableEq, Repr

/-- What octet `b` does between two characters. The bounds on the second octet keep out spellings
longer than necessary, surrogates, and numbers above the last character. -/
def start (b : Nat) : List Piece × Option Pending :=
  if b < 0x80 then ([.char (Char.ofNat b)], none)
  else if b < 0xC2 then ([.illFormed 1], none)
  else if b < 0xE0 then ([], some { taken := 1, value := b - 0xC0, owed := 1 })
  else if b = 0xE0 then ([], some { taken := 1, value := 0, owed := 2, low := 0xA0 })
  else if b = 0xED then ([], some { taken := 1, value := 0xD, owed := 2, high := 0x9F })
  else if b < 0xF0 then ([], some { taken := 1, value := b - 0xE0, owed := 2 })
  else if b = 0xF0 then ([], some { taken := 1, value := 0, owed := 3, low := 0x90 })
  else if b < 0xF4 then ([], some { taken := 1, value := b - 0xF0, owed := 3 })
  else if b = 0xF4 then ([], some { taken := 1, value := 4, owed := 3, high := 0x8F })
  else ([.illFormed 1], none)

/-- What octet `b` does after the octets of `pending`, if any. -/
def step (pending : Option Pending) (b : Nat) : List Piece × Option Pending :=
  match pending with
  | none => start b
  | some p =>
    if p.low ≤ b ∧ b ≤ p.high then
      let value := p.value * 0x40 + (b - 0x80)
      if p.owed ≤ 1 then ([.char (Char.ofNat value)], none)
      else ([], some { taken := p.taken + 1, value, owed := p.owed - 1 })
    else
      let (pieces, next) := start b
      (.illFormed p.taken :: pieces, next)

/-- The pieces of an octet sequence that continues the octets of `pending`. -/
def piecesFrom (pending : Option Pending) : List UInt8 → List Piece
  | [] => match pending with
    | none => []
    | some p => [.illFormed p.taken]
  | b :: bs =>
    let (done, next) := step pending b.toNat
    done ++ piecesFrom next bs

/-- The pieces of an octet sequence. -/
def pieces (bs : List UInt8) : List Piece :=
  piecesFrom none bs

/-- The characters before the first ill-formed run, and whether there is no such run. -/
def wellFormedPart : List Piece → List Char × Bool
  | [] => ([], true)
  | .char c :: rest =>
    let (cs, whole) := wellFormedPart rest
    (c :: cs, whole)
  | .illFormed _ :: _ => ([], false)

/-- The text that `bs` spells; if it spells none, the characters before the first octet that is
part of none. -/
def decode (bs : List UInt8) : Except (List Char) (List Char) :=
  match wellFormedPart (pieces bs) with
  | (cs, true) => .ok cs
  | (cs, false) => .error cs

/-- The text that `bs` spells, with the replacement character for each ill-formed run. -/
def decodeLossy (bs : List UInt8) : List Char :=
  (pieces bs).map fun
    | .char c => c
    | .illFormed _ => Char.ofNat 0xFFFD

def encode (cs : List Char) : List UInt8 :=
  cs.flatMap String.utf8EncodeChar

end Scriptlet.Utf8
