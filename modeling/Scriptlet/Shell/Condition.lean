import Scriptlet.Shell.Files
import Scriptlet.Shell.Numeral

/-!
# Conditions

The language of `test`: operators on texts, integers and files, which can be negated, joined and put
in parentheses. What files are there is a parameter.
-/

namespace Scriptlet.Shell.Condition

/-- A comparison of two operands. -/
inductive Comparison where
  | same | different | before | behind
  | equal | notEqual | greaterEqual | greater | lessEqual | less
  | newer | older | sameFile
deriving DecidableEq, Repr

/-- What a word means in a condition. -/
inductive Operator where
  /-- Something about one operand. -/
  | unary (letter : Char)
  | binary (c : Comparison)
  | not | and | or | opening | closing
deriving DecidableEq, Repr

/-- The spellings of operators that are not of one letter behind a hyphen. -/
def spellings : List (String × Operator) :=
  [("=", .binary .same), ("!=", .binary .different), ("<", .binary .before),
   (">", .binary .behind), ("-eq", .binary .equal), ("-ne", .binary .notEqual),
   ("-ge", .binary .greaterEqual), ("-gt", .binary .greater), ("-le", .binary .lessEqual),
   ("-lt", .binary .less), ("-nt", .binary .newer), ("-ot", .binary .older),
   ("-ef", .binary .sameFile), ("!", .not), ("-a", .and), ("-o", .or), ("(", .opening),
   (")", .closing)]

def operator? (s : String) : Option Operator :=
  match spellings.lookup s with
  | some o => some o
  | none =>
    match s.toList with
    | ['-', c] => if "rwxefdcbpugkstznhLOGS".toList.contains c then some (.unary c) else none
    | _ => none

def isComparison (s : String) : Bool :=
  (operator? s).any fun o => o matches .binary _

/-- The operator that the first word is. An operator on one operand needs that operand, which must
not be compared with another; a parenthesis needs something behind it. -/
def first? : List String → Option Operator
  | [] => none
  | s :: rest =>
    match operator? s, rest with
    | some (.unary _), [] => none
    | some (.unary c), [_] => some (.unary c)
    | some (.unary c), t :: _ :: _ => if isComparison t then none else some (.unary c)
    | some .opening, [] => none
    | o, _ => o

/-- Reads off words. The first one is the one read last. -/
abbrev Reader := StateT (List String) (Except String)

/-- What is known about files. -/
structure Knowledge where
  /-- Whether something holds of a file, by the letter that asks for it. -/
  holds : Char → String → Bool
  isSameFile : String → String → Bool

def integer (s : String) : Except String Int := do
  match Numeral.int64? 10 s.toList with
  | some n => return n.toInt
  | none => throw ("Illegal number: " ++ s)

/-- Whether something holds of an operand. -/
def unary (k : Knowledge) (letter : Char) (s : String) : Except String Bool := do
  match letter with
  | 'z' => return s.isEmpty
  | 'n' => return !s.isEmpty
  | 't' =>
    let _ ← integer s
    return false
  | c => return k.holds c s

/-- Whether a comparison holds. -/
def compare (k : Knowledge) (c : Comparison) (a b : String) : Except String Bool := do
  match c with
  | .same => return a = b
  | .different => return a != b
  | .before => return comesBefore a.toList b.toList
  | .behind => return comesBefore b.toList a.toList
  | .newer | .older => return false
  | .sameFile => return k.isSameFile a b
  | c =>
    let m ← integer a
    let n ← integer b
    return match c with
      | .equal => m = n
      | .notEqual => m != n
      | .greaterEqual => m ≥ n
      | .greater => m > n
      | .lessEqual => m ≤ n
      | _ => m < n

def advance : Reader Unit :=
  modify List.tail

/-- What is read with nesting. -/
inductive Level where
  | either
  | both
  | negation
  | operand

/-- Reads a condition whose first word is the current one, with at most so many levels of nesting.
Its last word becomes the current one. -/
def condition (k : Knowledge) : Nat → Level → Reader Bool
  | 0, _ => throw "argument expected"
  | n + 1, .either => do
    let left ← condition k n .both
    if first? (← get).tail = some .or then
      advance
      advance
      let right ← condition k n .either
      return left || right
    else return left
  | n + 1, .both => do
    let left ← condition k n .negation
    if first? (← get).tail = some .and then
      advance
      advance
      let right ← condition k n .both
      return left && right
    else return left
  | n + 1, .negation => do
    if first? (← get) = some .not then
      if (← get).tail.isEmpty then return true
      advance
      return !(← condition k n .negation)
    else condition k n .operand
  | n + 1, .operand => do
    match ← get with
    | [] => return false
    | s :: rest =>
      match first? (s :: rest), rest with
      | some .opening, _ =>
        advance
        if first? (← get) = some .closing then return false
        let holds ← condition k n .either
        advance
        if first? (← get) = some .closing then return holds
        throw "closing paren expected"
      | some (.unary c), t :: _ =>
        advance
        unary k c t
      | _, o :: behind =>
        match operator? o with
        | some (.binary c) =>
          match behind with
          | [] => throw (o ++ ": argument expected")
          | t :: _ =>
            advance
            advance
            compare k c s t
        | _ => return !s.isEmpty
      | _, [] => return !s.isEmpty

/-- Whether the condition that words make up holds, or what is wrong with it, when no rule for few
words applies. -/
def whole (k : Knowledge) (ws : List String) : Except String Bool := do
  match ← (condition k (4 * ws.length + 8) .either).run ws with
  | (_, s :: _ :: _) =>
    throw (if s.isEmpty then "unexpected operator" else s ++ ": unexpected operator")
  | (b, _) => return b

/-- Whether the condition that words make up holds, or what is wrong with it. How few words are
understood hangs on how many they are. -/
def holds (k : Knowledge) (ws : List String) : Except String Bool := do
  let ofThree (a b c : String) : Except String Bool := do
    match operator? b, a, c with
    | some (.binary o), a, c => compare k o a c
    | _, "(", ")" => whole k [b]
    | _, "!", c => return !(← whole k [b, c])
    | _, a, c => whole k [a, b, c]
  match ws with
  | [] => return false
  | [a, b, c] => ofThree a b c
  | ["!", a, b, c] => return !(← ofThree a b c)
  | ["(", a, b, ")"] => whole k [a, b]
  | ws => whole k ws

end Scriptlet.Shell.Condition

namespace Scriptlet.Shell

/-- What is known about files to conditions, seen from a directory. -/
def Files.knowledge (fs : Files) (directory : Path) : Condition.Knowledge :=
  let node? (name : String) : Option (Path × Node) := (fs.find directory name).toOption
  let holds (letter : Char) (name : String) : Bool :=
    match node? name with
    | none => false
    | some (_, node) =>
      match letter, node with
      | 'e', _ | 'r', _ | 'w', _ | 'O', _ | 'G', _ => true
      | 'f', .file _ _ | 'd', .directory | 'c', .empty => true
      | 's', .file content isProgram => !content.isEmpty || isProgram
      | 's', .directory => true
      | 'x', .directory => true
      | 'x', .file _ isProgram => isProgram
      | _, _ => false
  let isSameFile (a b : String) : Bool :=
    match node? a, node? b with
    | some (p, _), some (q, _) => p = q
    | _, _ => false
  { holds, isSameFile }

end Scriptlet.Shell
