import Scriptlet.Text.Utf8
import Scriptlet.Token.Lexeme

/-!
# The cursor

A cursor stands before some remaining text and knows the coordinates of its next octet. It can be
moved by octets (`consume`) or by tokens (`next`), and reports the place of each token it passes.

`Cursor.scan` reads all tokens from a cursor on; it ends with the token for the end of the source or
with the first error. `tokenize` and `tokenizeOctets` are its two entry points.
-/

namespace Scriptlet

/-- Where scanning stands. -/
structure Cursor where
  /-- The text still to come. -/
  rest : List Char
  /-- The line of its first octet. -/
  line : Nat := 0
  /-- The column of its first octet. -/
  column : Nat := 0
deriving DecidableEq, Repr, Inhabited

namespace Cursor

def start (source : List Char) : Cursor :=
  { rest := source }

/-- Line and column behind `text`, when it starts at `line` and `column`. -/
def behind (line column : Nat) : List Char → Nat × Nat
  | [] => (line, column)
  | c :: cs => if c = '\n' then behind (line + 1) 0 cs else behind line (column + c.utf8Size) cs

/-- The cursor behind `text`, with `rest` to come. -/
def pass (cursor : Cursor) (text rest : List Char) : Cursor :=
  let (line, column) := behind cursor.line cursor.column text
  { rest, line, column }

/-- The cursor behind a text that is not a token, with `rest` to come. Its line breaks do not
count: the whole text is taken to lie on the line it starts on. -/
def passUnlined (cursor : Cursor) (text rest : List Char) : Cursor :=
  { cursor with rest, column := cursor.column + octets text }

/-- The cursor behind the blanks it stands before. -/
def skipBlanks (cursor : Cursor) : Cursor :=
  cursor.passUnlined (cursor.rest.takeWhile Lexeme.isBlank) (cursor.rest.dropWhile Lexeme.isBlank)

/-- The octet that is the `k`-th to come, counted from one. -/
def peek (cursor : Cursor) (k : Nat) : Option UInt8 :=
  match k with
  | 0 => none
  | k + 1 => (Utf8.encode cursor.rest)[k]?

/-- The shortest piece at the front of a text that has at least `k` octets, or the whole text if it
has fewer; and what follows the piece. -/
def splitOctets : Nat → List Char → List Char × List Char
  | _, [] => ([], [])
  | 0, cs => ([], cs)
  | k + 1, c :: cs =>
    let (taken, rest) := splitOctets (k + 1 - c.utf8Size) cs
    (c :: taken, rest)

/-- Moves over `k` octets, to the end of the character in which the last of them lies and no
further than the end of the source. Answers what was passed. -/
def consume (cursor : Cursor) (k : Nat) : List Char × Cursor :=
  let (taken, rest) := splitOctets k cursor.rest
  (taken, cursor.pass taken rest)

/-- The token for the end of the source, at a cursor with nothing to come. -/
def endToken (cursor : Cursor) : Token :=
  { kind := .endOfInput, data := "", position := ⟨cursor.line, cursor.column, 0⟩ }

/-- The blanks and the word `in` that come next, if nothing else stands before that word, and what
follows them. -/
def followingIn (rest : List Char) : Option (List Char × List Char) :=
  match Lexeme.first (rest.dropWhile Lexeme.isBlank) with
  | some { shape := .token .inWord, text, rest := after } =>
    some (rest.takeWhile Lexeme.isBlank ++ text, after)
  | _ => none

/-- The token of a lexeme by itself, and the cursor behind it. -/
def takeAlone (cursor : Cursor) (kind : Token.Kind) (text rest : List Char) : Token × Cursor :=
  ({ kind
     data := Lexeme.data kind text
     position := ⟨cursor.line, cursor.column, octets text⟩ },
   cursor.pass text rest)

/-- The token of a lexeme, and the cursor behind it. The word `not` takes a following `in` with
it. -/
def take (cursor : Cursor) (kind : Token.Kind) (text rest : List Char) : Token × Cursor :=
  if kind = .notWord then
    match followingIn rest with
    | some (more, after) =>
      ({ kind := .notIn
         data := "not in"
         position := ⟨cursor.line, cursor.column, octets (text ++ more)⟩ },
       cursor.pass (text ++ more) after)
    | none => cursor.takeAlone kind text rest
  else cursor.takeAlone kind text rest

/-- Reads the token that starts right at the cursor, or the one for the end of the source. Text that
is no token is passed as well. -/
def read (cursor : Cursor) : Except LexError Token × Cursor :=
  match Lexeme.first cursor.rest with
  | none => (.ok cursor.endToken, cursor)
  | some { shape := .token kind, text, rest } =>
    (.ok (cursor.take kind text rest).1, (cursor.take kind text rest).2)
  | some { shape := .openString, text, rest } =>
    (.error (.unterminatedString ⟨cursor.line, cursor.column, octets text⟩),
     cursor.passUnlined text rest)
  | some { shape := .unknown, text, rest } =>
    (.error (.unrecognizedInput (String.ofList text) ⟨cursor.line, cursor.column, octets text⟩),
     cursor.passUnlined text rest)

/-- Reads the next token, past any blanks. At the end of the source this is the token for the end,
over and over. -/
def next (cursor : Cursor) : Except LexError Token × Cursor :=
  cursor.skipBlanks.read

theorem followingIn_length {rest more after : List Char}
    (h : followingIn rest = some (more, after)) : after.length < rest.length := by
  unfold followingIn at h
  split at h
  · rename_i text after' heq
    have hlt := Lexeme.first_rest_length heq
    have hle := (List.dropWhile_sublist (p := Lexeme.isBlank) (l := rest)).length_le
    simp only [Option.some.injEq, Prod.mk.injEq] at h
    obtain ⟨-, rfl⟩ := h
    exact Nat.lt_of_lt_of_le hlt hle
  · simp at h

theorem take_length (cursor : Cursor) (kind : Token.Kind) (text rest : List Char) :
    (cursor.take kind text rest).2.rest.length ≤ rest.length := by
  unfold take
  split
  · split
    · rename_i heq
      exact Nat.le_of_lt (followingIn_length heq)
    · exact Nat.le_refl _
  · exact Nat.le_refl _

theorem read_length {cursor after : Cursor} {token : Token}
    (h : cursor.read = (.ok token, after)) (hkind : token.kind ≠ .endOfInput) :
    after.rest.length < cursor.rest.length := by
  unfold read at h
  split at h
  · simp only [Prod.mk.injEq, Except.ok.injEq] at h
    obtain ⟨rfl, -⟩ := h
    exact absurd rfl hkind
  · rename_i kind text rest heq
    simp only [Prod.mk.injEq] at h
    obtain ⟨-, rfl⟩ := h
    exact Nat.lt_of_le_of_lt (take_length cursor kind text rest) (Lexeme.first_rest_length heq)
  · simp at h
  · simp at h

/-- A cursor that has read a token other than the end has less to come. -/
theorem next_length {cursor after : Cursor} {token : Token}
    (h : cursor.next = (.ok token, after)) (hkind : token.kind ≠ .endOfInput) :
    after.rest.length < cursor.rest.length :=
  Nat.lt_of_lt_of_le (read_length h hkind) (List.dropWhile_sublist Lexeme.isBlank).length_le

/-- All tokens from the cursor on, up to and including the one for the end of the source, and the
error that cut them short, if any. -/
def scan (cursor : Cursor) : List Token × Option LexError :=
  match h : cursor.next with
  | (.error e, _) => ([], some e)
  | (.ok token, after) =>
    if hkind : token.kind = .endOfInput then ([token], none)
    else
      have := next_length h hkind
      let (tokens, error) := after.scan
      (token :: tokens, error)
termination_by cursor.rest.length

end Cursor

/-- The tokens of a source, the last of which stands for its end. -/
def tokenize (source : String) : Except LexError (List Token) :=
  match (Cursor.start source.toList).scan with
  | (tokens, none) => .ok tokens
  | (_, some e) => .error e

/-- The text that a sequence of octets spells. -/
def readSource (octets : List UInt8) : Except LexError String :=
  match Utf8.decode octets with
  | .ok text => .ok (String.ofList text)
  | .error before =>
    let (line, column) := Cursor.behind 0 0 before
    .error (.invalidUtf8 ⟨line, column, 1⟩)

/-- The tokens of a source given as octets. -/
def tokenizeOctets (octets : List UInt8) : Except LexError (List Token) :=
  (readSource octets).bind tokenize

end Scriptlet
