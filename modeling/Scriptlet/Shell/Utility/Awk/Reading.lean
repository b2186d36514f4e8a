import Scriptlet.Shell.Utility.Awk.Pattern
import Scriptlet.Shell.Utility.Awk.Program
import Scriptlet.Shell.Utility.Awk.Token

/-!
# Reading programs over records

The grammar of programs, level by level. The number that a reader takes bounds how deep it goes.
-/

namespace Scriptlet.Shell.Awk

/-- How a part of a program is read off tokens. -/
abbrev Reader := StateT (List Token) (Except String)

namespace Reader

/-- Gives up at the next token. -/
def wrong {α : Type} : Reader α := do
  let near := match (← get).head? with
    | some (.name s) | some (.called s) | some (.keyword s) | some (.builtin s)
    | some (.sign s) => s
    | some .lineEnd => "end of line"
    | some _ => "operand"
    | none => "end of file"
  throw ("syntax error at or near " ++ near)

def sign? : Reader (Option String) := do
  match ← get with
  | .sign s :: _ => return some s
  | _ => return none

/-- Takes one of these signs, if it stands next. -/
def takeAny (signs : List String) : Reader (Option String) := do
  match ← get with
  | .sign s :: rest =>
    if signs.contains s then
      set rest
      return some s
    else return none
  | _ => return none

def take (s : String) : Reader Bool := do
  return (← takeAny [s]).isSome

/-- Takes a keyword if it stands next. -/
def takeKeyword (s : String) : Reader Bool := do
  match ← get with
  | .keyword t :: rest =>
    if s = t then
      set rest
      return true
    else return false
  | _ => return false

def must (s : String) : Reader Unit := do
  unless ← take s do wrong

def takeLines : Reader Unit :=
  modify fun ts => ts.dropWhile fun t => t matches .lineEnd

def takeEnds : Reader Unit :=
  modify fun ts => ts.dropWhile fun t =>
    match t with
    | .lineEnd => true
    | .sign s => s = ";"
    | _ => false

def name : Reader String := do
  match ← get with
  | .name s :: rest =>
    set rest
    return s
  | _ => wrong

/-- Whether an operand that is joined to one in front can start with a token. -/
def startsOperand : Token → Bool
  | .number _ | .text _ | .pattern _ | .name _ | .called _ | .builtin _ => true
  | .sign s => s = "$" || s = "(" || s = "++" || s = "--"
  | _ => false

/-- The arithmetic that a sign stands for. -/
def arithmetic? : String → Option Arithmetic
  | "+" => some .add
  | "-" => some .subtract
  | "*" => some .multiply
  | "/" => some .divide
  | "%" => some .remainder
  | "^" => some .power
  | _ => none

/-- The comparison that a sign stands for. -/
def comparison? : String → Option Comparison
  | "<" => some .less
  | "<=" => some .atMost
  | "==" => some .same
  | "!=" => some .other
  | ">" => some .greater
  | ">=" => some .atLeast
  | _ => none

/-- Operands with one of these signs between them, from the left, given how one is read. The number
bounds how many there are. -/
def operands (signs : List String) (operand : Reader Expression)
    (build : String → Expression → Expression → Expression) : Nat → Expression → Reader Expression
  | 0, e => return e
  | n + 1, e => do
    match ← takeAny signs with
    | none => return e
    | some s => operands signs operand build n (build s e (← operand))

mutual

/-- An expression. In a statement that prints, a sign for a greater number stands in front of a
destination. -/
def expression (inPrint : Bool) : Nat → Reader Expression
  | 0 => wrong
  | n + 1 => do
    let e ← disjunction inPrint n
    if e.isTarget then
      match ← takeAny ["=", "+=", "-=", "*=", "/=", "%=", "^="] with
      | some s =>
        let operator := if s = "=" then none else arithmetic? (String.ofList (s.toList.take 1))
        return .assign operator e (← expression inPrint n)
      | none => choice inPrint n e
    else choice inPrint n e
termination_by structural n => n

/-- The rest of a choice behind its condition, if it is one. -/
def choice (inPrint : Bool) : Nat → Expression → Reader Expression
  | 0, e => return e
  | n + 1, e => do
    if ← take "?" then
      let a ← expression inPrint n
      must ":"
      return .choice e a (← expression inPrint n)
    else return e
termination_by structural n => n

/-- Conjunctions one of which holds. -/
def disjunction (inPrint : Bool) : Nat → Reader Expression
  | 0 => wrong
  | n + 1 => do
    let operand : Reader Expression := do
      takeLines
      conjunction inPrint n
    operands ["||"] operand (fun _ a b => .or a b) n (← conjunction inPrint n)
termination_by structural n => n

/-- Conditions all of which hold. -/
def conjunction (inPrint : Bool) : Nat → Reader Expression
  | 0 => wrong
  | n + 1 => do
    let operand : Reader Expression := do
      takeLines
      membership inPrint n
    operands ["&&"] operand (fun _ a b => .and a b) n (← membership inPrint n)
termination_by structural n => n

def membership (inPrint : Bool) : Nat → Reader Expression
  | 0 => wrong
  | n + 1 => do
    let e ← matching inPrint n
    inArrays inPrint n e
termination_by structural n => n

/-- The rest of a look for keys behind them, if it is one. -/
def inArrays (inPrint : Bool) : Nat → Expression → Reader Expression
  | 0, e => return e
  | n + 1, e => do
    if ← takeKeyword "in" then
      let keys := match e with
        | .group es => es
        | e => [e]
      inArrays inPrint n (.isElement keys (← name))
    else return e
termination_by structural n => n

def matching (inPrint : Bool) : Nat → Reader Expression
  | 0 => wrong
  | n + 1 => do
    operands ["~", "!~"] (comparing inPrint n) (fun s a b => .matching (s = "!~") a b) n
      (← comparing inPrint n)
termination_by structural n => n

/-- A comparison. -/
def comparing (inPrint : Bool) : Nat → Reader Expression
  | 0 => wrong
  | n + 1 => do
    let e ← joining inPrint n
    let signs := ["<", "<=", "==", "!=", ">="] ++ if inPrint then [] else [">"]
    match ← takeAny signs with
    | none => return e
    | some s => return .comparison ((comparison? s).getD .same) e (← joining inPrint n)
termination_by structural n => n

def joining (inPrint : Bool) : Nat → Reader Expression
  | 0 => wrong
  | n + 1 => do
    let first ← adding inPrint n
    joinOthers inPrint n first
termination_by structural n => n

/-- Further operands behind one. -/
def joinOthers (inPrint : Bool) : Nat → Expression → Reader Expression
  | 0, e => return e
  | n + 1, e => do
    match ← get with
    | t :: _ =>
      if startsOperand t then joinOthers inPrint n (.join e (← adding inPrint n)) else return e
    | [] => return e
termination_by structural n => n

def adding (inPrint : Bool) : Nat → Reader Expression
  | 0 => wrong
  | n + 1 => do
    operands ["+", "-"] (multiplying inPrint n)
      (fun s a b => .arithmetic ((arithmetic? s).getD .add) a b) n (← multiplying inPrint n)
termination_by structural n => n

def multiplying (inPrint : Bool) : Nat → Reader Expression
  | 0 => wrong
  | n + 1 => do
    operands ["*", "/", "%"] (signed inPrint n)
      (fun s a b => .arithmetic ((arithmetic? s).getD .multiply) a b) n (← signed inPrint n)
termination_by structural n => n

/-- An operand behind signs. -/
def signed (inPrint : Bool) : Nat → Reader Expression
  | 0 => wrong
  | n + 1 => do
    match ← takeAny ["!", "-", "+"] with
    | some "!" => return .not (← signed inPrint n)
    | some "-" => return .negative (← signed inPrint n)
    | some _ => return .positive (← signed inPrint n)
    | none => raising inPrint n
termination_by structural n => n

def raising (inPrint : Bool) : Nat → Reader Expression
  | 0 => wrong
  | n + 1 => do
    let base ← changing inPrint n
    if ← take "^" then return .arithmetic .power base (← exponent inPrint n) else return base
termination_by structural n => n

/-- The exponent of a power. -/
def exponent (inPrint : Bool) : Nat → Reader Expression
  | 0 => wrong
  | n + 1 => do
    match ← takeAny ["-", "+", "!"] with
    | some "-" => return .negative (← exponent inPrint n)
    | some "+" => return .positive (← exponent inPrint n)
    | some _ => return .not (← exponent inPrint n)
    | none => raising inPrint n
termination_by structural n => n

/-- A target that is changed by one, or another operand. -/
def changing (inPrint : Bool) : Nat → Reader Expression
  | 0 => wrong
  | n + 1 => do
    match ← takeAny ["++", "--"] with
    | some s =>
      let target ← operand inPrint n
      if target.isTarget then return .change true (if s = "++" then 1 else -1) target else wrong
    | none =>
      let e ← operand inPrint n
      if e.isTarget then
        match ← takeAny ["++", "--"] with
        | some s => return .change false (if s = "++" then 1 else -1) e
        | none => return e
      else return e
termination_by structural n => n

/-- Expressions with commas between them, up to a closing sign. -/
def listUpTo (close : String) : Nat → Reader (List Expression)
  | 0 => wrong
  | n + 1 => do
    takeLines
    if ← take close then return []
    let e ← expression false n
    takeLines
    if ← take "," then return e :: (← listUpTo close n)
    must close
    return [e]
termination_by structural n => n

/-- An operand without operators. -/
def operand (inPrint : Bool) : Nat → Reader Expression
  | 0 => wrong
  | n + 1 => do
    match ← get with
    | .number x :: rest =>
      set rest
      return .number x
    | .text s :: rest =>
      set rest
      return .text s
    | .pattern cs :: rest =>
      set rest
      return .pattern (← patternOf cs)
    | .sign "$" :: rest =>
      set rest
      match ← takeAny ["++", "--", "-"] with
      | some "-" => return .field (.negative (← operand inPrint n))
      | some s => return .field (.change true (if s = "++" then 1 else -1) (← operand inPrint n))
      | none => return .field (← operand inPrint n)
    | .sign "(" :: rest =>
      set rest
      return .group (← listUpTo ")" n)
    | .sign "-" :: rest =>
      set rest
      return .negative (← operand inPrint n)
    | .name s :: .sign "[" :: rest =>
      set rest
      return .element s (← listUpTo "]" n)
    | .name s :: rest =>
      set rest
      return .named s
    | .called s :: .sign "(" :: rest =>
      set rest
      return .call s (← listUpTo ")" n)
    | .builtin s :: .sign "(" :: rest =>
      set rest
      return .builtin s (← listUpTo ")" n)
    | .builtin "length" :: rest =>
      set rest
      return .builtin "length" []
    | .keyword "getline" :: rest =>
      set rest
      let target ← match rest with
        | .name _ :: _ | .sign "$" :: _ => some <$> operand inPrint n
        | _ => pure none
      if ← take "<" then return .readLine target (some (← operand inPrint n))
      else return .readLine target none
    | _ => wrong
termination_by structural n => n

end

/-- The expressions that are printed. -/
def printed (n : Nat) : Reader (List Expression) := do
  match ← get with
  | [] | .lineEnd :: _ => return []
  | .sign s :: _ =>
    if [";", "\x7d", ">", ">>"].contains s then return []
  | _ => pure ()
  match ← others n with
  | [.group es] => return es
  | es => return es
where
  /-- Further expressions, at most so many. -/
  others : Nat → Reader (List Expression)
    | 0 => wrong
    | k + 1 => do
      let e ← expression true n
      if ← take "," then
        takeLines
        return e :: (← others k)
      else return [e]

def destination (n : Nat) : Reader Destination := do
  match ← takeAny [">", ">>"] with
  | some s => return .file (s = ">>") (← expression true n)
  | none => return .output

def isAtEnd : Reader Bool := do
  match ← get with
  | [] | .lineEnd :: _ => return true
  | .sign s :: _ => return s = ";" || s = "\x7d"
  | _ => return false

/-- A statement without others in it. -/
def simple (n : Nat) : Reader Statement := do
  let optional : Reader (Option Expression) := do
    if ← isAtEnd then return none else some <$> expression false n
  match ← get with
  | .keyword word :: rest =>
    match word with
    | "print" =>
      set rest
      let es ← printed n
      return .print es (← destination n)
    | "printf" =>
      set rest
      let es ← printed n
      return .printf es (← destination n)
    | "next" =>
      set rest
      return .next
    | "nextfile" =>
      set rest
      return .nextFile
    | "exit" =>
      set rest
      return .exit (← optional)
    | "return" =>
      set rest
      return .finish (← optional)
    | "break" =>
      set rest
      return .leave
    | "continue" =>
      set rest
      return .goOn
    | "delete" =>
      set rest
      let array ← name
      if ← take "[" then return .delete array (← listUpTo "]" n) else return .delete array []
    | _ => return .expression (← expression false n)
  | _ => return .expression (← expression false n)

def mustEnd : Reader Unit := do
  unless ← isAtEnd do wrong
  match ← get with
  | .sign s :: _ => if s = ";" then takeEnds
  | _ => takeEnds

/-- Whether `else` stands next, behind what ends a statement; it is taken then. -/
def takeElse : Reader Bool := do
  let before ← get
  takeEnds
  if ← takeKeyword "else" then return true
  set before
  return false

mutual

/-- A statement. -/
def statement : Nat → Reader Statement
  | 0 => wrong
  | n + 1 => do
    let condition : Reader Expression := do
      must "("
      let e ← expression false n
      must ")"
      return e
    match ← get with
    | .sign "\x7b" :: rest =>
      set rest
      takeEnds
      block n
    | .sign ";" :: rest =>
      set rest
      return .nothing
    | .keyword "if" :: rest =>
      set rest
      let e ← condition
      takeLines
      let yes ← statement n
      if ← takeElse then
        takeLines
        return .choice e yes (← statement n)
      else return .choice e yes .nothing
    | .keyword "while" :: rest =>
      set rest
      let e ← condition
      if ← take ";" then return .loop e .nothing
      takeLines
      return .loop e (← statement n)
    | .keyword "do" :: rest =>
      set rest
      takeLines
      let body ← statement n
      takeEnds
      unless ← takeKeyword "while" do wrong
      let e ← condition
      mustEnd
      return .loopAfter body e
    | .keyword "for" :: .sign "(" :: .name s :: .keyword "in" :: .name array :: .sign ")" :: rest =>
      set rest
      takeLines
      return .each s array (← statement n)
    | .keyword "for" :: .sign "(" :: rest =>
      set rest
      let part (close : String) : Reader Statement := do
        if ← take close then return .nothing
        let s ← simple n
        must close
        return s
      let first ← part ";"
      takeLines
      let e ← if ← take ";" then pure (Expression.number 1) else do
        let e ← expression false n
        must ";"
        pure e
      takeLines
      let behind ← part ")"
      if ← take ";" then return .sequence first (.loop e (.round .nothing behind))
      takeLines
      return .sequence first (.loop e (.round (← statement n) behind))
    | _ =>
      let s ← simple n
      mustEnd
      return s
termination_by structural n => n

/-- The statements of a block up to the closing brace. -/
def block : Nat → Reader Statement
  | 0 => wrong
  | n + 1 => do
    if ← take "\x7d" then return .nothing
    let first ← statement n
    takeEnds
    return .sequence first (← block n)
termination_by structural n => n

end

/-- The names of parameters up to the closing parenthesis. The number bounds how many there are. -/
def parameters : Nat → Reader (List String)
  | 0 => wrong
  | n + 1 => do
    takeLines
    if ← take ")" then return []
    let s ← name
    takeLines
    if ← take "," then return s :: (← parameters n)
    must ")"
    return [s]

def action (n : Nat) : Reader Statement := do
  if ← take "\x7b" then
    takeEnds
    block n
  else return .print [] .output

/-- The rules and functions of a program. -/
def program : Nat → Reader Program
  | 0 => wrong
  | n + 1 => do
    takeEnds
    let rule (c : Condition) (s : Statement) : Reader Program := do
      let p ← program n
      return { p with rules := (c, s) :: p.rules }
    match ← get with
    | [] => return {}
    | .keyword "BEGIN" :: rest =>
      set rest
      unless (← sign?) = some "\x7b" do wrong
      rule .atStart (← action n)
    | .keyword "END" :: rest =>
      set rest
      unless (← sign?) = some "\x7b" do wrong
      rule .atEnd (← action n)
    | .keyword "function" :: .name s :: .sign "(" :: rest
    | .keyword "function" :: .called s :: .sign "(" :: rest =>
      set rest
      let parameters ← parameters n
      takeLines
      must "\x7b"
      takeEnds
      let body ← block n
      let p ← program n
      return { p with functions := (s, { parameters, body }) :: p.functions }
    | .sign "\x7b" :: _ => rule .always (← action n)
    | _ =>
      let first ← expression false n
      if ← take "," then
        takeLines
        let last ← expression false n
        rule (.between first last) (← action n)
      else rule (.when first) (← action n)

end Reader

def Program.ofText (cs : List Char) : Except String Program := do
  let tokens ← Token.ofText cs
  let (p, _) ← (Reader.program (20 * tokens.length + 20)).run tokens
  return p

end Scriptlet.Shell.Awk
