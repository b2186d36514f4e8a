import Scriptlet.Shell.Real
import Scriptlet.Shell.Utility
import Scriptlet.Shell.Utility.Regular

/-!
# Calculating with arguments

Expressions whose operands and operators are arguments of their own: integers and texts, compared,
joined, and matched with regular expressions.
-/

namespace Scriptlet.Shell.Utility

/-- The time that a numeral with a unit names, as a fraction of seconds. -/
def duration? (s : String) : Option (Nat × Nat) :=
  match Real.magnitude? s.toList with
  | some (.finite mantissa exponent, unit) =>
    let seconds? : Option Nat := match unit with
      | [] | ['s'] => some 1
      | ['m'] => some 60
      | ['h'] => some 3600
      | ['d'] => some 86400
      | _ => none
    seconds?.map fun k =>
      let (n, d) := Magnitude.fraction mantissa exponent
      (n * k, d)
  | _ => none

/-- Waits, which takes no time here. -/
def sleep : Utility :=
  withOptions "sleep" 1 { letters := "" } fun _ _ times =>
    let wrong := times.filter fun s => (duration? s).isNone
    let complaints := wrong.map fun s => "sleep: invalid time interval '" ++ s ++ "'"
    if times.isEmpty then usageComplaint "sleep" "missing operand" 1
    else if wrong.isEmpty then {}
    else
      .ofComplaint
        ("\n".intercalate (complaints ++ ["Try 'sleep --help' for more information."])) 1

/-- What goes wrong in an expression. -/
abbrev Calculation := StateT (List String) (Except String)

namespace Calculation

def isNull (s : String) : Bool :=
  match s.toList with
  | [] => true
  | '-' :: cs => !cs.isEmpty && cs.all (· = '0')
  | cs => cs.all (· = '0')

def integer? (s : String) : Option Int :=
  match s.toList with
  | '-' :: cs => if areDigits cs then some (-((Numeral.digits 10 0 cs).1 : Int)) else none
  | cs => if areDigits cs then some (Numeral.digits 10 0 cs).1 else none

/-- Takes the next argument if it is one of these. -/
def takes (operators : List String) : Calculation (Option String) := do
  match ← get with
  | s :: rest =>
    if operators.contains s then
      set rest
      return some s
    else return none
  | [] => return none

/-- What a text matches of a regular expression at its start: a group, if there is one, or else how
long the match is. -/
def matched (text pattern : String) : Calculation String := do
  match Regular.ofText false pattern.toList with
  | .error message => throw message
  | .ok (r, groups) =>
    let here := Regular.matchAt? false r { before := none, rest := text.toList, index := 0 }
    match here, groups with
    | none, 0 => return "0"
    | none, _ => return ""
    | some p, 0 => return toString p.index
    | some p, _ => return String.ofList ((p.groups.lookup 1).getD [])

/-- The value of an operator on integers. -/
def operate (operator a b : String) : Calculation String := do
  match integer? a, integer? b with
  | some m, some n =>
    match operator with
    | "+" => return toString (m + n)
    | "-" => return toString (m - n)
    | "*" => return toString (m * n)
    | operator =>
      if n = 0 then throw "division by zero"
      return toString (if operator = "/" then m.tdiv n else m.tmod n)
  | _, _ => throw "non-integer argument"

/-- Whether a comparison holds: of integers, if both operands are, or else of texts. -/
def compare (operator a b : String) : Bool :=
  let order : Ordering := match integer? a, integer? b with
    | some m, some n => Ord.compare m n
    | _, _ =>
      if comesBefore a.toList b.toList then .lt
      else if comesBefore b.toList a.toList then .gt else .eq
  match operator with
  | "<" => order = .lt
  | "<=" => order != .gt
  | "=" | "==" => order = .eq
  | "!=" => order != .eq
  | ">=" => order != .lt
  | _ => order = .gt

/-- The operators from those that bind least to those that bind most. -/
def levels : List (List String) :=
  [["|"], ["&"], ["<", "<=", "=", "==", "!=", ">=", ">"], ["+", "-"], ["*", "/", "%"], [":"]]

/-- The value of two operands. -/
def apply (operator a b : String) : Calculation String := do
  match operator with
  | "|" => return if !isNull a then a else if !isNull b then b else "0"
  | "&" => return if isNull a || isNull b then "0" else a
  | ":" => matched a b
  | operator =>
    if ["+", "-", "*", "/", "%"].contains operator then operate operator a b
    else return if compare operator a b then "1" else "0"

mutual

/-- The value of an expression whose operators are those of some levels, of which the last argument
is known. The number bounds how many steps there are. -/
def value (last : String) : Nat → List (List String) → Calculation String
  | 0, _ => throw "syntax error"
  | n + 1, operators :: levels => do
    let first ← value last n levels
    valueBehind last n operators levels first
  | n + 1, [] => do
    match ← get with
    | [] => throw "missing operand"
    | "(" :: rest =>
      set rest
      let v ← value last n levels
      match ← get with
      | ")" :: rest =>
        set rest
        return v
      | [] => throw ("syntax error: expecting ')' after '" ++ last ++ "'")
      | s :: _ => throw ("syntax error: expecting ')' instead of '" ++ s ++ "'")
    | ")" :: _ => throw "syntax error: unexpected ')'"
    | "+" :: s :: rest =>
      set rest
      return s
    | "length" :: s :: rest =>
      set (s :: rest)
      return toString (← value last n []).length
    | "match" :: s :: rest =>
      set (s :: rest)
      let text ← value last n []
      matched text (← value last n [])
    | "substr" :: s :: rest =>
      set (s :: rest)
      let text ← value last n []
      let first := (integer? (← value last n [])).getD 0
      let count := (integer? (← value last n [])).getD 0
      if first ≤ 0 || count ≤ 0 then return ""
      return String.ofList ((text.toList.drop (first.toNat - 1)).take count.toNat)
    | "index" :: s :: rest =>
      set (s :: rest)
      let text ← value last n []
      let letters := (← value last n []).toList
      match text.toList.findIdx? letters.contains with
      | some i => return toString (i + 1)
      | none => return "0"
    | s :: rest =>
      set rest
      return s
termination_by structural n => n

/-- The value of what has been read and what operators of a level stand behind it. -/
def valueBehind (last : String) :
    Nat → List String → List (List String) → String → Calculation String
  | 0, _, _, _ => throw "syntax error"
  | n + 1, operators, levels, first => do
    match ← takes operators with
    | none => return first
    | some operator =>
      if (← get).isEmpty then throw ("syntax error: missing argument after '" ++ operator ++ "'")
      let second ← value last n levels
      valueBehind last n operators levels (← apply operator first second)
termination_by structural n => n

end

end Calculation

/-- Writes the value of an expression. -/
def expr : Utility := fun t =>
  let arguments := match t.arguments with
    | "--" :: rest => rest
    | arguments => arguments
  if arguments.isEmpty then usageComplaint "expr" "missing operand" 2
  else
    let room := 8 * arguments.length + 16
    let last := (arguments.getLast?).getD ""
    match (Calculation.value last room Calculation.levels).run arguments with
    | .error message => .ofComplaint ("expr: " ++ message) 2
    | .ok (v, []) =>
      { written := [(false, v ++ "\n")], code := if Calculation.isNull v then 1 else 0 }
    | .ok (_, s :: _) =>
      .ofComplaint ("expr: syntax error: unexpected argument '" ++ s ++ "'") 2

end Scriptlet.Shell.Utility
