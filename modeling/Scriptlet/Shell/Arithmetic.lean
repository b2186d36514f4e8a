import Scriptlet.Shell.Numeral

/-!
# Arithmetic expressions

Expressions over 64-bit integers and variables, with the operators, levels and values that they have
in C. An expression is read as a tree, and the tree is evaluated; operands that do not matter are
not.
-/

namespace Scriptlet.Shell

/-- An operator between two operands whose values are both needed. -/
inductive Calculation where
  | mul | div | rem | add | sub | shiftLeft | shiftRight
  | less | lessEqual | greater | greaterEqual | equal | notEqual
  | and | xor | or
deriving DecidableEq, Repr

/-- An arithmetic expression. -/
inductive Arithmetic where
  | number (n : Int64)
  | value (name : String)
  | negative (e : Arithmetic)
  | not (e : Arithmetic)
  | complement (e : Arithmetic)
  | calculate (operator : Calculation) (left right : Arithmetic)
  | both (left right : Arithmetic)
  | either (left right : Arithmetic)
  | conditional (condition yes no : Arithmetic)
  | assign (name : String) (operator : Option Calculation) (e : Arithmetic)
deriving Repr, Inhabited

namespace Calculation

/-- How tightly an operator binds: the less the tighter. -/
def level : Calculation → Nat
  | mul | div | rem => 0
  | add | sub => 1
  | shiftLeft | shiftRight => 2
  | less | lessEqual | greater | greaterEqual => 3
  | equal | notEqual => 4
  | and => 5
  | xor => 6
  | or => 7

def ofBool (b : Bool) : Int64 :=
  if b then 1 else 0

/-- The value of an operation; a division by zero has none. -/
def result? (operator : Calculation) (a b : Int64) : Option Int64 :=
  match operator with
  | mul => some (a * b)
  | div => if b = 0 || (a = Int64.minValue && b = -1) then none else some (a / b)
  | rem => if b = 0 || (a = Int64.minValue && b = -1) then none else some (a % b)
  | add => some (a + b)
  | sub => some (a - b)
  | shiftLeft => some (a <<< b)
  | shiftRight => some (a >>> b)
  | less => some (ofBool (a < b))
  | lessEqual => some (ofBool (a ≤ b))
  | greater => some (ofBool (b < a))
  | greaterEqual => some (ofBool (b ≤ a))
  | equal => some (ofBool (a == b))
  | notEqual => some (ofBool (a != b))
  | and => some (a &&& b)
  | xor => some (a ^^^ b)
  | or => some (a ||| b)

end Calculation

namespace Arithmetic

/-- A token of an expression. -/
inductive Token where
  | number (n : Int64)
  | name (s : String)
  | calculation (operator : Calculation)
  | assignment (operator : Option Calculation)
  | andAnd | orOr | not | complement | question | colon | opening | closing
  /-- What is nothing in an expression. -/
  | strange
deriving DecidableEq, Repr

/-- Spellings of tokens. Of two that fit, the first is meant. -/
def spellings : List (String × Token) :=
  [("<<=", .assignment (some .shiftLeft)), (">>=", .assignment (some .shiftRight)),
   ("*=", .assignment (some .mul)), ("/=", .assignment (some .div)),
   ("%=", .assignment (some .rem)), ("+=", .assignment (some .add)),
   ("-=", .assignment (some .sub)), ("&=", .assignment (some .and)),
   ("^=", .assignment (some .xor)), ("|=", .assignment (some .or)),
   ("==", .calculation .equal), ("!=", .calculation .notEqual), ("<=", .calculation .lessEqual),
   (">=", .calculation .greaterEqual), ("<<", .calculation .shiftLeft),
   (">>", .calculation .shiftRight), ("&&", .andAnd), ("||", .orOr), ("=", .assignment none),
   ("*", .calculation .mul), ("/", .calculation .div), ("%", .calculation .rem),
   ("+", .calculation .add), ("-", .calculation .sub), ("<", .calculation .less),
   (">", .calculation .greater), ("&", .calculation .and), ("^", .calculation .xor),
   ("|", .calculation .or), ("!", .not), ("~", .complement), ("?", .question), (":", .colon),
   ("(", .opening), (")", .closing)]

/-- The token at the start, and what is behind it. -/
def token (cs : List Char) : Option (Token × List Char) :=
  match cs with
  | [] => none
  | c :: rest =>
    if c.isDigit then
      let (n, rest) := Numeral.readInt64 0 cs
      some (.number n, rest)
    else if isNameStart c then
      let name := cs.takeWhile isNameChar
      some (.name (String.ofList name), cs.drop name.length)
    else
      match spellings.findSome? fun (s, t) => (behind? s.toList cs).map fun rest => (t, rest) with
      | some found => some found
      | none => some (.strange, rest)

def tokens : Nat → List Char → List Token
  | 0, _ => []
  | n + 1, cs =>
    let cs := cs.dropWhile fun c => c = ' ' || c = '\t' || c = '\n'
    match token cs with
    | none => []
    | some (t, rest) => t :: tokens n rest

/-- Reads something off tokens. -/
abbrev Reader := StateT (List Token) (Except String)

def peek? : Reader (Option Token) := do
  return (← get).head?

def takes (t : Token) : Reader Bool := do
  if (← peek?) = some t then
    modify List.tail
    return true
  else return false

/-- The operands and operators of one level and those above, behind a first operand, at most so
many. -/
def operations (operand : Reader Arithmetic) : Nat → Nat → Arithmetic → Reader Arithmetic
  | 0, _, left => pure left
  | n + 1, level, left => do
    match ← peek? with
    | some (.calculation operator) =>
      if operator.level > level then return left
      else
        modify List.tail
        let first ← operand
        let right ← if operator.level = 0 then pure first
          else operations operand n (operator.level - 1) first
        operations operand n level (.calculate operator left right)
    | _ => return left

/-- What is read with nesting. -/
inductive Level where
  /-- An assignment or a conditional expression: a whole. -/
  | whole
  | conditional
  | either
  | both
  | sum
  | operand

/-- An expression of a level, with at most so many levels of nesting. -/
def expression : Nat → Level → Reader Arithmetic
  | 0, _ => throw "expecting primary"
  | n + 1, .whole => do
    match ← get with
    | .name x :: .assignment operator :: rest =>
      set rest
      return .assign x operator (← expression n .whole)
    | _ => expression n .conditional
  | n + 1, .conditional => do
    let condition ← expression n .either
    if ← takes .question then
      let yes ← expression n .whole
      unless ← takes .colon do throw "expecting ':'"
      return .conditional condition yes (← expression n .conditional)
    else return condition
  | n + 1, .either => do
    let left ← expression n .both
    if ← takes .orOr then return .either left (← expression n .either) else return left
  | n + 1, .both => do
    let left ← expression n .sum
    if ← takes .andAnd then return .both left (← expression n .both) else return left
  | n + 1, .sum => do
    operations (expression n .operand) n 7 (← expression n .operand)
  | n + 1, .operand => do
    let t ← peek?
    modify List.tail
    match t with
    | some (.number v) => return .number v
    | some (.name x) => return .value x
    | some (.calculation .add) => expression n .operand
    | some (.calculation .sub) => return .negative (← expression n .operand)
    | some .not => return .not (← expression n .operand)
    | some .complement => return .complement (← expression n .operand)
    | some .opening =>
      let e ← expression n .whole
      unless ← takes .closing do throw "expecting ')'"
      return e
    | _ => throw "expecting primary"

def read (text : List Char) : Except String Arithmetic := do
  let ts := tokens (text.length + 1) text
  let (e, rest) ← (expression (7 * ts.length + 8) .whole).run ts
  if rest.isEmpty then return e else throw "expecting EOF"

/-- The value of an expression, given those of variables and what an assignment does. -/
def evaluate {m : Type → Type} [Monad m] (value : String → m Int64)
    (assign : String → Int64 → m Unit) (divisionByZero : m Int64) : Arithmetic → m Int64
  | .number n => pure n
  | .value x => value x
  | negative e => return -(← evaluate value assign divisionByZero e)
  | not e => return Calculation.ofBool ((← evaluate value assign divisionByZero e) == 0)
  | complement e => return ~~~(← evaluate value assign divisionByZero e)
  | calculate operator left right => do
    let a ← evaluate value assign divisionByZero left
    let b ← evaluate value assign divisionByZero right
    match operator.result? a b with
    | some c => pure c
    | none => divisionByZero
  | both left right => do
    if (← evaluate value assign divisionByZero left) == 0 then return 0
    else return Calculation.ofBool ((← evaluate value assign divisionByZero right) != 0)
  | either left right => do
    if (← evaluate value assign divisionByZero left) != 0 then return 1
    else return Calculation.ofBool ((← evaluate value assign divisionByZero right) != 0)
  | conditional condition yes no => do
    if (← evaluate value assign divisionByZero condition) != 0 then
      evaluate value assign divisionByZero yes
    else evaluate value assign divisionByZero no
  | .assign x operator e => do
    let b ← evaluate value assign divisionByZero e
    let c ← match operator with
      | none => pure b
      | some operator =>
        match operator.result? (← value x) b with
        | some c => pure c
        | none => divisionByZero
    assign x c
    return c

end Arithmetic

end Scriptlet.Shell
