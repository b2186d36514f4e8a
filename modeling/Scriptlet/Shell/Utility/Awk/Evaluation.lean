import Scriptlet.Shell.Utility.Awk.Machine
import Scriptlet.Shell.Utility.Awk.Program

/-!
# Running programs over records

What expressions are worth and what statements do. A function is called by an action that is a
parameter.
-/

namespace Scriptlet.Shell.Awk

/-- Calls a function with what its parameters hold. -/
abbrev Caller := String → List Slot → Run Value

/-! ## Operators -/

/-- The remainder of a division that is rounded towards zero. -/
def remainderOf (a b : Float) : Float :=
  let x := Real.ofFloat a
  let y := Real.ofFloat b
  match x.magnitude, y.magnitude with
  | .finite m e, .finite n f =>
    if n = 0 then 0.0 / 0.0
    else
      let least := min e f
      let r := (m * Nat.pow 2 (e - least).toNat) % (n * Nat.pow 2 (f - least).toNat)
      let (p, q) := Magnitude.fraction r least
      ({ isNegative := x.isNegative, magnitude := .nearest p q } : Real).toFloat
  | .finite .., .infinite => a
  | _, _ => 0.0 / 0.0

/-- The number that an operator makes out of two. -/
def Arithmetic.apply (operator : Arithmetic) (a b : Float) : Run Float := do
  match operator with
  | .add => return a + b
  | .subtract => return a - b
  | .multiply => return a * b
  | .divide => return a / b
  | .remainder => return remainderOf a b
  | .power => return Float.pow a b

def Comparison.accepts : Comparison → Ordering → Bool
  | less, o => o = .lt
  | atMost, o => o != .gt
  | same, o => o = .eq
  | other, o => o != .eq
  | greater, o => o = .gt
  | atLeast, o => o != .lt

/-- Compares two values: as numbers if both count as such, and else as texts. -/
def Comparison.holds (c : Comparison) (a b : Value) : Run Bool := do
  if a.isNumeric && b.isNumeric then
    let (x, y) := (a.toNumber, b.toNumber)
    match c with
    | .less => return x < y
    | .atMost => return x ≤ y
    | .same => return x == y
    | .other => return x != y
    | .greater => return x > y
    | .atLeast => return x ≥ y
  else
    let x := (← textOf a).toList
    let y := (← textOf b).toList
    return c.accepts (if comesBefore x y then .lt else if comesBefore y x then .gt else .eq)

def keyOf (subscripts : List Value) : Run String := do
  let texts ← subscripts.mapM textOf
  return (← textOfVariable "SUBSEP").intercalate texts

/-! ## Texts -/

/-- Values in a format. -/
def formatted (format : String) (values : List Value) : Run String := do
  let cs := format.toList
  let step : List Char × List Value → FormatPart → Run (List Char × List Value) :=
    fun (written, left) part => do
      let taken : List Value → Run (Value × List Value)
        | v :: left => return (v, left)
        | [] => fail ("not enough arguments passed to sprintf(\"" ++ format ++ "\")")
      let count (c : Count) (left : List Value) : Run (Int × List Value) := do
        match c with
        | .given n => return (n, left)
        | .argument =>
          let (v, left) ← taken left
          return (v.toInt, left)
      match part with
      | .char c => return (c :: written, left)
      | .wrong _ => fail ("bad conversion in format \"" ++ format ++ "\"")
      | .directive d =>
        let (width, left) ← count d.width left
        let (precision, left) ← match d.precision with
          | none => pure (none, left)
          | some c =>
            let (n, left) ← count c left
            pure (if n < 0 then none else some n.toNat, left)
        let (v, left) ← taken left
        let flags := if width < 0 then '-' :: d.flags else d.flags
        let l : Layout := { flags, width := width.natAbs, precision }
        let short (cs : List Char) := match precision with
          | some n => cs.take n
          | none => cs
        let n := Numeral.clamp v.toInt
        let own ← match d.conversion with
          | 's' => pure (l.fill (short (← textOf v).toList))
          | 'c' => pure (l.fill (match v with
            | .number x => [octet (Value.toInt (.number x)).toNat]
            | v => [(v.toText "").toList.headD '\x00']))
          | 'd' | 'i' => pure (l.signed n.toInt)
          | 'u' | 'o' | 'x' | 'X' => pure (l.natural d.conversion n.toUInt64.toNat)
          | 'b' => fail ("bad conversion in format \"" ++ format ++ "\"")
          | c => pure (l.real c (Real.ofFloat v.toNumber))
        return (own.reverse ++ written, left)
  let (written, _) ← (formatParts cs.length cs).foldlM step ([], values)
  return String.ofList written.reverse

/-- What stands in the place of a match: an ampersand is the match itself, unless a backslash is in
front of it. -/
def replacement (match' : List Char) : List Char → List Char
  | '\\' :: '&' :: rest => '&' :: replacement match' rest
  | '\\' :: '\\' :: rest => '\\' :: replacement match' rest
  | '&' :: rest => match' ++ replacement match' rest
  | c :: rest => c :: replacement match' rest
  | [] => []

/-- A text with matches replaced: the first, or all; and how many are. -/
def replaced (isGlobal : Bool) (r : Regular) (new cs : List Char) : Nat × List Char :=
  let all := r.matchesIn false cs
  let all := if isGlobal then all else all.take 1
  let front := all.map fun m => m.before ++ replacement m.text new
  (all.length, front.flatten ++ (all.getLast?.map Regular.Match.rest).getD cs)

/-- The part of a text from a place on, of a length. -/
def part (cs : List Char) (start : Float) (length : Option Float) : List Char :=
  let round (x : Float) : Int :=
    let r := Real.ofFloat x
    match r.magnitude with
    | .finite mantissa exponent =>
      let (n, d) := Magnitude.fraction mantissa exponent
      (if r.isNegative then -1 else 1) * roundedQuotient n d
    | _ => if r.isNegative then -Int.pow 2 53 else Int.pow 2 53
  let first := round start
  let last : Int := match length with
    | none => cs.length + 1
    | some n => min (cs.length + 1) (first + round n)
  (cs.take (last - 1).toNat).drop (first - 1).toNat

/-- Puts texts into an array, under the numbers from one on. -/
def putAll (array : String) (values : List String) : Run Unit := do
  let all := values.zipIdx.map fun (s, i) => (toString (i + 1), Value.input s)
  putElements (← arrayOf array) all.reverse

/-! ## Expressions -/

/-- What a parameter holds when an expression of a value is handed over: a variable without a value
may turn out to be an array. -/
def slotOf (e : Expression) (value : Run Value) : Run Slot := do
  match e, ← value with
  | .named name, .unset => return { array := some (← arrayOf name) }
  | _, v => return { value := v }

/-- The regular expression that an expression of a value stands for. -/
def regularOf (e : Expression) (value : Run Value) : Run Regular := do
  match e with
  | .pattern r => return r
  | _ =>
    match patternOf (← textOf (← value)).toList with
    | .ok r => return r
    | .error message => fail ("regular expression compile failed (" ++ message ++ ")")

mutual

/-- The value of an expression. -/
def evaluate (call : Caller) : Expression → Run Value
  | .number x => return .number x
  | .text s => return .text s
  | .pattern r => do
    return .ofBool (r.matchesIn false (← get).record.toList |>.isEmpty |> not)
  | .named name => (Place.named name).value
  | .field index => do
    let n := (← evaluate call index).toInt
    if n < 0 then fail ("negative field index $" ++ toString n)
    (Place.field n.toNat).value
  | .element name subscripts => do
    let key ← keyOf (← evaluateAll call subscripts)
    (Place.element (← arrayOf name) key).value
  | .isElement subscripts name => do
    let key ← keyOf (← evaluateAll call subscripts)
    return .ofBool ((← elements (← arrayOf name)).lookup key).isSome
  | .assign operator target value => do
    let v ← evaluate call value
    let place ← placeOf call target
    let v ← match operator with
      | none => pure v
      | some o => do pure (.number (← o.apply (← place.value).toNumber v.toNumber))
    place.put v
    return v
  | .change isBefore amount target => do
    let place ← placeOf call target
    let before := (← place.value).toNumber
    place.put (.number (before + amount))
    return .number (if isBefore then before + amount else before)
  | .negative e => do return .number (-(← evaluate call e).toNumber)
  | .positive e => do return .number (← evaluate call e).toNumber
  | .not e => do return .ofBool !(← evaluate call e).holds
  | .arithmetic o a b => do
    let x ← evaluate call a
    let y ← evaluate call b
    return .number (← o.apply x.toNumber y.toNumber)
  | .comparison c a b => do
    let x ← evaluate call a
    let y ← evaluate call b
    return .ofBool (← c.holds x y)
  | .join a b => do
    let x ← textOf (← evaluate call a)
    let y ← textOf (← evaluate call b)
    return .text (x ++ y)
  | .matching isNegated e pattern => do
    let s ← textOf (← evaluate call e)
    let r ← regularOf pattern (evaluate call pattern)
    return .ofBool ((r.search false [] none s.toList).isSome != isNegated)
  | .and a b => do
    if (← evaluate call a).holds then return .ofBool (← evaluate call b).holds
    else return .ofBool false
  | .or a b => do
    if (← evaluate call a).holds then return .ofBool true
    else return .ofBool (← evaluate call b).holds
  | .choice c a b => do
    if (← evaluate call c).holds then evaluate call a else evaluate call b
  | .call name arguments => do call name (← slotsOf call arguments)
  | .builtin name arguments => builtin call name arguments
  | .readLine target file => do
    let place ← match target with
      | some e => some <$> placeOf call e
      | none => pure none
    let take (s : String) : Run Value := do
      match place with
      | some p => p.put (.input s)
      | none => putRecord s
      return .number 1
    match file with
    | none =>
      match ← nextRecord (← inputCount) with
      | some s => take s
      | none => return .number 0
    | some e =>
      match ← nextRecordOf (← textOf (← evaluate call e)) with
      | some (some s) => take s
      | some none => return .number 0
      | none => return .number (-1)
  | .group es => do
    let values ← evaluateAll call es
    return values.getLast?.getD .unset
termination_by structural e => e

def evaluateAll (call : Caller) : List Expression → Run (List Value)
  | [] => return []
  | e :: es => do
    let v ← evaluate call e
    return v :: (← evaluateAll call es)
termination_by structural es => es

def slotsOf (call : Caller) : List Expression → Run (List Slot)
  | [] => return []
  | e :: es => do
    let own ← slotOf e (evaluate call e)
    return own :: (← slotsOf call es)
termination_by structural es => es

/-- The place that an expression stands for. -/
def placeOf (call : Caller) : Expression → Run Place
  | .named name => return .named name
  | .field index => do
    let n := (← evaluate call index).toInt
    if n < 0 then fail ("negative field index $" ++ toString n)
    return .field n.toNat
  | .element name subscripts => do
    let key ← keyOf (← evaluateAll call subscripts)
    return .element (← arrayOf name) key
  | .group [e] => placeOf call e
  | _ => fail "assignment to what is no variable"
termination_by structural e => e

/-- The value of a function that there is in every program. -/
def builtin (call : Caller) (name : String) : List Expression → Run Value
  | [] => do
    match name with
    | "length" => return .ofInt (← get).record.length
    | "rand" => return .number 0.5
    | "srand" => return .number 0
    | "fflush" => return .number 0
    | _ => fail ("wrong number of arguments in call to " ++ name)
  | [e] => do
    let number (f : Float → Float) : Run Value := do
      return .number (f (← evaluate call e).toNumber)
    let text (f : Char → Char) : Run Value := do
      return .text (String.ofList ((← textOf (← evaluate call e)).toList.map f))
    match name with
    | "length" =>
      match ← slotOf e (evaluate call e) with
      | { value := .unset, array := some k } => return .ofInt (← elements k).length
      | s => return .ofInt (← textOf s.value).length
    | "int" => number fun x => if x < 0 then x.ceil else x.floor
    | "sin" => number Float.sin
    | "cos" => number Float.cos
    | "exp" => number Float.exp
    | "log" => number Float.log
    | "sqrt" => number Float.sqrt
    | "tolower" => text Char.toLower
    | "toupper" => text Char.toUpper
    | "srand" => number fun _ => 0
    | "sprintf" => return .text (← formatted (← textOf (← evaluate call e)) [])
    | "fflush" =>
      let _ ← evaluate call e
      return .number 0
    | "close" =>
      let file ← textOf (← evaluate call e)
      let m ← get
      let isOpen := m.writers.contains file || (m.readers.lookup file).isSome
      set { m with
        writers := m.writers.filter (· != file)
        readers := m.readers.filter fun r => r.1 != file }
      return .number (if isOpen then 0 else -1)
    | _ => fail ("wrong number of arguments in call to " ++ name)
  | [a, b] => do
    match name with
    | "index" =>
      let s := (← textOf (← evaluate call a)).toList
      let t := (← textOf (← evaluate call b)).toList
      let found := (List.range (s.length + 1)).find? fun i => (behind? t (s.drop i)).isSome
      return .ofInt ((found.map fun i => (i : Int) + 1).getD 0)
    | "substr" =>
      let s := (← textOf (← evaluate call a)).toList
      return .text (String.ofList (part s (← evaluate call b).toNumber none))
    | "atan2" =>
      let y ← evaluate call a
      return .number (Float.atan2 y.toNumber (← evaluate call b).toNumber)
    | "split" =>
      let s ← textOf (← evaluate call a)
      match b with
      | .named array =>
        let fields ← splitFields (← fieldSeparator) false s.toList
        putAll array fields
        return .ofInt fields.length
      | _ => fail "split needs an array"
    | "match" =>
      let s := (← textOf (← evaluate call a)).toList
      let r ← regularOf b (evaluate call b)
      let (start, length) : Int × Int := match r.search false [] none s with
        | some m => (m.before.length + 1, m.text.length)
        | none => (0, -1)
      assignVariable "RSTART" (.ofInt start)
      assignVariable "RLENGTH" (.ofInt length)
      return .ofInt start
    | "sub" | "gsub" =>
      let r ← regularOf a (evaluate call a)
      let new := (← textOf (← evaluate call b)).toList
      let (count, cs) := replaced (name = "gsub") r new (← get).record.toList
      if count > 0 then putRecord (String.ofList cs)
      return .ofInt count
    | "sprintf" =>
      let format ← textOf (← evaluate call a)
      return .text (← formatted format [← evaluate call b])
    | _ => fail ("wrong number of arguments in call to " ++ name)
  | a :: b :: c :: rest => do
    match name, rest with
    | "substr", [] =>
      let s := (← textOf (← evaluate call a)).toList
      let start := (← evaluate call b).toNumber
      return .text (String.ofList (part s start (some (← evaluate call c).toNumber)))
    | "split", [] =>
      let s ← textOf (← evaluate call a)
      match b with
      | .named array =>
        let fields ← match c with
          | .pattern r => pure (partsBetween r s.toList)
          | _ => do splitFields (← textOf (← evaluate call c)) false s.toList
        putAll array fields
        return .ofInt fields.length
      | _ => fail "split needs an array"
    | "sub", [] | "gsub", [] =>
      let r ← regularOf a (evaluate call a)
      let new := (← textOf (← evaluate call b)).toList
      if c.isTarget then
        let place ← placeOf call c
        let (count, cs) := replaced (name = "gsub") r new (← textOf (← place.value)).toList
        if count > 0 then place.put (.text (String.ofList cs))
        return .ofInt count
      else
        let s ← textOf (← evaluate call c)
        return .ofInt (replaced (name = "gsub") r new s.toList).1
    | "sprintf", rest =>
      let format ← textOf (← evaluate call a)
      let x ← evaluate call b
      let y ← evaluate call c
      return .text (← formatted format (x :: y :: (← evaluateAll call rest)))
    | _, _ => fail ("wrong number of arguments in call to " ++ name)
termination_by structural es => es

end

/-! ## Statements -/

/-- Runs an action; true if it has been stopped in a way that is expected here. -/
def isStopped (expected : Stop → Bool) (action : Run Unit) : Run Bool := fun m =>
  match action m with
  | .ok _ m => .ok false m
  | .error stop m => if expected stop then .ok true m else .error stop m

/-- Runs a body while a condition holds, at most so many times. -/
def repeatWhile (condition : Run Bool) (body : Run Unit) : Nat → Run Unit
  | 0 => return ()
  | n + 1 => do
    if ← condition then
      body
      repeatWhile condition body n

/-- How often a loop runs at most. -/
def rounds : Nat := Nat.pow 2 40

def round (body : Run Unit) : Run Unit := do
  let _ ← isStopped (· matches .goOn) body

def loop (action : Run Unit) : Run Unit := do
  let _ ← isStopped (· matches .leave) action

/-- The text that a statement prints. -/
def printedText (call : Caller) (es : List Expression) : Run String := do
  let end' ← textOfVariable "ORS"
  if es.isEmpty then return (← get).record ++ end'
  let text (v : Value) : Run String := do
    match v with
    | .number x => return numberText (← textOfVariable "OFMT") x
    | v => textOf v
  let texts ← (← evaluateAll call es).mapM text
  return (← textOfVariable "OFS").intercalate texts ++ end'

def Destination.write (call : Caller) (s : String) : Destination → Run Unit
  | output => Awk.write s
  | file isAppended name => do writeTo isAppended (← textOf (← evaluate call name)) s

/-- Does what a statement says. -/
def execute (call : Caller) : Statement → Run Unit
  | .expression e => do let _ ← evaluate call e
  | .print es destination => do
    let s ← printedText call es
    destination.write call s
  | .printf es destination => do
    match ← evaluateAll call es with
    | [] => fail "no arguments in call to printf"
    | format :: values =>
      let s ← formatted (← textOf format) values
      destination.write call s
  | .choice c yes no => do
    if (← evaluate call c).holds then execute call yes else execute call no
  | .loop c body =>
    loop (repeatWhile (do return (← evaluate call c).holds) (round (execute call body)) rounds)
  | .loopAfter body c =>
    loop do
      round (execute call body)
      repeatWhile (do return (← evaluate call c).holds) (round (execute call body)) rounds
  | .each name array body =>
    loop do
      for key in keysInOrder (← elements (← arrayOf array)) do
        assignVariable name (.input key)
        round (execute call body)
  | .round body behind => do
    round (execute call body)
    execute call behind
  | .sequence first second => do
    execute call first
    execute call second
  | .nothing => return ()
  | .next => throw .next
  | .nextFile => throw .nextFile
  | .exit code => do
    match code with
    | some e =>
      let n := (← evaluate call e).toInt
      modify fun m => { m with code := (n % 256).toNat }
    | none => pure ()
    throw .exit
  | .leave => throw .leave
  | .goOn => throw .goOn
  | .finish value => do
    match value with
    | some e => throw (.finish (← evaluate call e))
    | none => throw (.finish .unset)
  | .delete name subscripts => do
    let k ← arrayOf name
    if subscripts.isEmpty then putElements k []
    else
      let key ← keyOf (← evaluateAll call subscripts)
      putElements k ((← elements k).filter fun e => e.1 != key)

/-- Calls a function. The number bounds how many calls there are within one another. -/
def callFunction (p : Program) : Nat → Caller
  | 0, _, _ => fail "function calls are nested too deep"
  | n + 1, name, slots => do
    match p.functions.lookup name with
    | none => fail ("function " ++ name ++ " never defined")
    | some f =>
      let before := (← get).locals
      let locals := f.parameters.zipIdx.map fun (s, i) => (s, slots.getD i {})
      modify fun m => { m with locals }
      let body : Run Value := fun m =>
        match execute (callFunction p n) f.body m with
        | .ok _ m => .ok .unset m
        | .error (.finish v) m => .ok v m
        | .error stop m => .error stop m
      let v ← body
      modify fun m => { m with locals := before }
      return v

/-- How many calls there can be within one another. -/
def callDepth : Nat := 2000

/-! ## Programs -/

/-- Whether a rule is for the record. -/
def applies (call : Caller) (k : Nat) : Condition → Run Bool
  | .atStart | .atEnd => return false
  | .always => return true
  | .when e => do return (← evaluate call e).holds
  | .between first last => do
    let inside := (← get).between.contains k
    if !inside && !(← evaluate call first).holds then return false
    let ends := (← evaluate call last).holds
    modify fun m =>
      let others := m.between.filter (· != k)
      { m with between := if ends then others else k :: others }
    return true

/-- Follows the rules for each record that is left, at most so many times. -/
def followRules (call : Caller) (rules : List (Condition × Statement)) : Nat → Run Unit
  | 0 => return ()
  | n + 1 => do
    match ← nextRecord (← inputCount) with
    | none => return ()
    | some s =>
      putRecord s
      let all : Run Unit := do
        for ((condition, body), k) in rules.zipIdx do
          if ← applies call k condition then execute call body
      if ← isStopped (· matches .nextFile) (do
          let _ ← isStopped (· matches .next) all) then
        modify fun m => { m with input := none }
      followRules call rules n

/-- Runs a program: what is to be done at the start, for the records, and at the end, which is done
also if the program is ended before. -/
def Program.run (p : Program) : Run Unit := do
  let call := callFunction p callDepth
  let stage (isWanted : Condition → Bool) : Run Unit := do
    for (c, body) in p.rules do
      if isWanted c then execute call body
  let readsRecords := p.rules.any fun r => !(r.1 matches .atStart)
  let _ ← isStopped (· matches .exit) do
    stage (· matches .atStart)
    if readsRecords then followRules call p.rules rounds
  let _ ← isStopped (· matches .exit) (stage (· matches .atEnd))

end Scriptlet.Shell.Awk
