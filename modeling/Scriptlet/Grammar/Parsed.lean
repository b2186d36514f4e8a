import Scriptlet.Grammar.Error
import Scriptlet.Syntax

/-!
# Outcomes of reading

Reading a construct off a list of tokens either succeeds, with the tokens behind the construct, or
fails, with the tokens that had not been taken. `Parsed α bound` says besides that a success leaves
fewer than `bound` tokens: an outcome on `tokens` with `bound = tokens.length` has taken at least
one, and with `bound = tokens.length + 1` possibly none. Readers that call each other terminate for
this reason.
-/

namespace Scriptlet

/-- The outcome of reading an `α`. -/
inductive Parsed (α : Type) (bound : Nat) where
  /-- A success and the tokens behind it. -/
  | ok (value : α) (rest : List Token) (shorter : rest.length < bound)
  /-- A failure and the tokens that had not been taken. -/
  | fail (error : ParseError) (rest : List Token)

namespace Parsed

variable {α β : Type} {m n : Nat}

@[inline]
def andThen (p : Parsed α m)
    (k : (a : α) → (rest : List Token) → rest.length < m → Parsed β n) : Parsed β n :=
  match p with
  | ok a rest h => k a rest h
  | fail e rest => fail e rest

@[inline]
def within (p : Parsed α m) (h : m ≤ n) : Parsed α n :=
  match p with
  | ok a rest h' => ok a rest (Nat.lt_of_lt_of_le h' h)
  | fail e rest => fail e rest

/-- Turns the value of a success into another. -/
@[inline]
def map (f : α → β) (p : Parsed α m) : Parsed β m :=
  match p with
  | ok a rest h => ok (f a) rest h
  | fail e rest => fail e rest

def result (p : Parsed α m) : Except ParseError α :=
  match p with
  | ok a _ _ => .ok a
  | fail e _ => .error e

def rest (p : Parsed α m) : List Token :=
  match p with
  | ok _ rest _ => rest
  | fail _ rest => rest

end Parsed

namespace Grammar

/-! ## Single tokens -/

/-- The kind of the first token. No token is as good as the end of the source. -/
def peekKind (tokens : List Token) : Token.Kind :=
  match tokens with
  | [] => .endOfInput
  | t :: _ => t.kind

/-- The error for a token that does not fit. -/
def unexpected (t : Token) (expected : Expectation) : ParseError :=
  if t.kind = .endOfInput then .unexpectedEndOfInput expected t.position
  else .unexpectedToken t.display expected t.position

def exhausted (expected : Expectation) : ParseError :=
  .unexpectedEndOfInput expected default

def nextToken (expected : Expectation) (tokens : List Token) : Parsed Token tokens.length :=
  match tokens with
  | [] => .fail (exhausted expected) []
  | t :: rest => .ok t rest (Nat.lt_succ_self _)

/-- Takes a token of one kind. A token of another kind is taken too, but is an error. -/
def expect (kind : Token.Kind) (expected : Expectation) (tokens : List Token) :
    Parsed Token tokens.length :=
  match tokens with
  | [] => .fail (exhausted expected) []
  | t :: rest =>
    if t.kind = kind then .ok t rest (Nat.lt_succ_self _)
    else .fail (unexpected t expected) rest

def name (tokens : List Token) : Parsed Variable tokens.length :=
  (expect .name .name tokens).map fun t => ⟨t.data, t.position⟩

/-! ## Line breaks that carry no meaning -/

def skipNewLines (tokens : List Token) : List Token :=
  tokens.dropWhile (·.kind = .newLine)

theorem skipNewLines_length (tokens : List Token) :
    (skipNewLines tokens).length ≤ tokens.length :=
  (List.dropWhile_sublist _).length_le

@[inline]
def afterNewLines {α : Type} (tokens : List Token)
    (p : (us : List Token) → us.length ≤ tokens.length → Parsed α us.length) :
    Parsed α tokens.length :=
  (p (skipNewLines tokens) (skipNewLines_length tokens)).within (skipNewLines_length tokens)

/-! ## Lists with commas -/

/-- Reads elements, at least one, up to and including the token of kind `closing`. A comma stands
between neighbours and nowhere else; line breaks may stand around elements and commas. -/
def elements {α : Type} (closing : Token.Kind) (bound : Nat)
    (element : (us : List Token) → us.length ≤ bound → Parsed α us.length)
    (tokens : List Token) (h : tokens.length ≤ bound) : Parsed (List α) tokens.length :=
  (afterNewLines tokens fun us hus => element us (Nat.le_trans hus h)).andThen fun a us hus =>
  (afterNewLines us fun vs _ => nextToken .elementEnd vs).andThen fun t vs hvs =>
  if t.kind = .comma then
    ((elements closing bound element vs (by omega)).map (a :: ·)).within (by omega)
  else if t.kind = closing then .ok [a] vs (by omega)
  else .fail (unexpected t .elementEnd) vs
termination_by tokens.length

/-- Reads any number of elements, up to and including the token of kind `closing`. -/
def commaSeparated {α : Type} (closing : Token.Kind) (tokens : List Token)
    (element : (us : List Token) → us.length ≤ tokens.length → Parsed α us.length) :
    Parsed (List α) tokens.length :=
  match h : skipNewLines tokens with
  | [] => elements closing tokens.length element tokens (Nat.le_refl _)
  | t :: rest =>
    if t.kind = closing then
      .ok [] rest (by
        have hle := skipNewLines_length tokens
        rw [h] at hle
        exact hle)
    else elements closing tokens.length element tokens (Nat.le_refl _)

end Grammar

end Scriptlet
