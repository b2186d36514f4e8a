import Scriptlet.Grammar.Level
import Scriptlet.Grammar.Parsed
import Scriptlet.Syntax.Render
import Scriptlet.Text.Decimal

/-!
# Reading programs

From tokens to trees, by recursive descent: the binary operators level by level, below them the
prefix operators, then the primaries with their chains of members. Statements, blocks and
definitions are built on expressions, and expressions may hold blocks again.

Every reader is total. It calls others on fewer tokens, or on the same tokens but further down the
order just given.
-/

namespace Scriptlet.Grammar

/-! ## Looking ahead -/

/-- Whether the `depth` open parentheses are closed before the tokens end, and a brace follows. -/
def braceFollows : Nat → List Token → Bool
  | _, [] => false
  | depth, t :: rest =>
    match t.kind with
    | .leftParen => braceFollows (depth + 1) rest
    | .rightParen => if depth ≤ 1 then peekKind rest = .leftBrace else braceFollows (depth - 1) rest
    | .endOfInput => false
    | _ => braceFollows depth rest

/-- Whether the tokens start a function definition: a name, parentheses and a brace. Without the
brace they start a call. -/
def startsDefinition : List Token → Bool
  | n :: p :: rest => n.kind = .name && p.kind = .leftParen && braceFollows 1 rest
  | _ => false

/-- Whether a `return` before these tokens is one without a value. -/
def returnsNothing (tokens : List Token) : Bool :=
  match peekKind tokens with
  | .newLine | .comment | .rightBrace | .endOfInput => true
  | _ => false

/-- Whether a statement may end before these tokens. -/
def endsStatement (closing : Token.Kind) (tokens : List Token) : Bool :=
  match peekKind tokens with
  | .newLine | .comment | .endOfInput => true
  | kind => kind = closing

/-- What is missing behind a statement that does not end. -/
def missingEnd (closing : Token.Kind) : Expectation :=
  if closing = .rightBrace then .statementEndInBlock else .statementEnd

/-- Reads a parameter of a function definition. What is no name is not taken. -/
def parameter (tokens : List Token) : Parsed Variable tokens.length :=
  match tokens with
  | [] => name []
  | t :: rest =>
    if t.kind = .name ∨ t.kind = .endOfInput then name (t :: rest)
    else .fail (.invalidParameter t.display t.position) (t :: rest)

/-- Reads the names of a loop: one for the item, or one for the index and one for the item. -/
def loopNames (tokens : List Token) : Parsed (Option Variable × Variable) tokens.length :=
  (name tokens).andThen fun first us h =>
  match us with
  | [] => .ok (none, first) [] (by omega)
  | t :: rest =>
    if t.kind = .comma then
      ((name rest).map fun item => (some first, item)).within
        (by simp only [List.length_cons] at h; omega)
    else .ok (none, first) (t :: rest) (by omega)

/-! ## The readers -/

mutual

def expression (tokens : List Token) : Parsed Expr tokens.length :=
  binary .membership tokens
termination_by 32 * tokens.length + 14
decreasing_by all_goals (simp [Level.looseness])

/-- Reads operands of a level with operators of that level between them. -/
def binary (level : Level) (tokens : List Token) : Parsed Expr tokens.length :=
  (operand level tokens).andThen fun left rest h =>
  (chain level left rest).within h
termination_by 32 * tokens.length + 2 * level.looseness + 5
decreasing_by all_goals (have hl := level.looseness_le; omega)

/-- Reads an operand of a level. -/
def operand (level : Level) (tokens : List Token) : Parsed Expr tokens.length :=
  match h : level.tighter with
  | some tighter =>
    have := Level.looseness_of_tighter h
    binary tighter tokens
  | none => unary tokens
termination_by 32 * tokens.length + 2 * level.looseness + 4
decreasing_by all_goals omega

/-- Reads the operators of a level that follow the expression `left`, with their right operands. -/
def chain (level : Level) (left : Expr) (tokens : List Token) :
    Parsed Expr (tokens.length + 1) :=
  match tokens with
  | [] => .ok left [] (Nat.lt_succ_self _)
  | t :: rest =>
    match Operator.ofKind t.kind with
    | none => .ok left (t :: rest) (Nat.lt_succ_self _)
    | some operator =>
      if operator.level = level then
        (operand level rest).andThen fun right us h =>
        (chain level (.binary left operator right t.position) us).within
          (by simp only [List.length_cons]; omega)
      else .ok left (t :: rest) (Nat.lt_succ_self _)
termination_by 32 * tokens.length
decreasing_by all_goals (have hl := level.looseness_le; simp only [List.length_cons]; omega)

/-- Reads a prefix operator and its operand, or a primary with its members. -/
def unary (tokens : List Token) : Parsed Expr tokens.length :=
  match tokens with
  | [] => .fail (exhausted .expression) []
  | t :: rest =>
    if t.kind = .minus then
      ((unary rest).map fun e =>
        .binary (.literal (.int 0) t.position) .sub e t.position).within (Nat.le_succ _)
    else if t.kind = .notWord then
      ((unary rest).map fun e =>
        .binary e .equal (.literal (.bool false) t.position) t.position).within (Nat.le_succ _)
    else
      (primary t rest).andThen fun node us h =>
      (postfixes node us).within (by simp only [List.length_cons]; omega)
termination_by 32 * tokens.length + 3
decreasing_by all_goals (simp only [List.length_cons]; omega)

/-- Reads the primary whose first token is `t`. -/
def primary (t : Token) (tokens : List Token) : Parsed Expr (tokens.length + 1) :=
  match t.kind with
  | .integer =>
    match Decimal.readInt64? t.data with
    | some n => .ok (.literal (.int n) t.position) tokens (Nat.lt_succ_self _)
    | none => .fail (.literalTooLarge t.data t.position) tokens
  | .string => .ok (.literal (.string t.data) t.position) tokens (Nat.lt_succ_self _)
  | .trueWord => .ok (.literal (.bool true) t.position) tokens (Nat.lt_succ_self _)
  | .falseWord => .ok (.literal (.bool false) t.position) tokens (Nat.lt_succ_self _)
  | .name =>
    if peekKind tokens = .leftParen then
      ((call t tokens).map Expr.call).within (Nat.le_succ _)
    else .ok (.var ⟨t.data, t.position⟩) tokens (Nat.lt_succ_self _)
  | .leftParen =>
    (afterNewLines tokens fun us _ => expression us).andThen fun e us h =>
    (afterNewLines us fun vs _ => expect .rightParen .closeParen vs).andThen fun _ vs h' =>
    .ok e vs (by omega)
  | .leftBracket =>
    ((commaSeparated .rightBracket tokens fun us _ => expression us).map fun values =>
      .list values t.position).within (Nat.le_succ _)
  | .leftBrace => ((block t.position tokens).map Expr.block).within (Nat.le_succ _)
  | _ => .fail (unexpected t .expression) tokens
termination_by 32 * tokens.length + 20
decreasing_by all_goals omega

/-- Reads the arguments of a call whose name is the token `t`. -/
def call (t : Token) (tokens : List Token) : Parsed Call tokens.length :=
  (expect .leftParen .openParen tokens).andThen fun _ us h =>
  ((commaSeparated .rightParen us fun vs _ => expression vs).map fun arguments =>
    ⟨t.data, arguments, t.position⟩).within (by omega)
termination_by 32 * tokens.length
decreasing_by all_goals omega

/-- Reads the members that follow the expression `node`. -/
def postfixes (node : Expr) (tokens : List Token) : Parsed Expr (tokens.length + 1) :=
  match tokens with
  | [] => .ok node [] (Nat.lt_succ_self _)
  | t :: rest =>
    if t.kind = .dot then
      (expect .name .memberName rest).andThen fun n us h =>
      if peekKind us = .leftParen then
        (call n us).andThen fun c vs h' =>
        (postfixes (.field node (.call c) node.position) vs).within
          (by simp only [List.length_cons]; omega)
      else
        (postfixes (.field node (.name ⟨n.data, n.position⟩) node.position) us).within
          (by simp only [List.length_cons]; omega)
    else if t.kind = .leftBracket then
      (afterNewLines rest fun us _ => expression us).andThen fun key us h =>
      (afterNewLines us fun vs _ => expect .rightBracket .closeBracket vs).andThen fun _ vs h' =>
      (postfixes (.field node (.index key) node.position) vs).within
        (by simp only [List.length_cons]; omega)
    else .ok node (t :: rest) (Nat.lt_succ_self _)
termination_by 32 * tokens.length
decreasing_by all_goals (simp only [List.length_cons]; omega)

/-- Reads statements up to, but not including, a token of kind `closing` or the end. Line breaks and
comments are statements. Any other statement is followed by one of these or by the end, unless it
ends in a brace itself. -/
def statements (closing : Token.Kind) (tokens : List Token) :
    Parsed (List Statement) (tokens.length + 1) :=
  match tokens with
  | [] => .ok [] [] (Nat.lt_succ_self _)
  | t :: rest =>
    if t.kind = closing ∨ t.kind = .endOfInput then .ok [] (t :: rest) (Nat.lt_succ_self _)
    else if t.kind = .newLine then
      ((statements closing rest).map (.newLine t.position :: ·)).within (Nat.le_succ _)
    else if t.kind = .comment then
      ((statements closing rest).map (.comment ⟨t.data, t.position⟩ :: ·)).within (Nat.le_succ _)
    else
      (statement t rest).andThen fun s us h =>
      if s.endsInBlock || endsStatement closing us then
        ((statements closing us).map (s :: ·)).within (by simp only [List.length_cons]; omega)
      else .fail (unexpected (us.headD t) (missingEnd closing)) us
termination_by 32 * tokens.length + 17
decreasing_by all_goals (simp only [List.length_cons]; omega)

/-- Reads the statement, other than a line break or a comment, whose first token is `t`. -/
def statement (t : Token) (tokens : List Token) : Parsed Statement (tokens.length + 1) :=
  match t.kind with
  | .ifWord => (conditional t.position tokens).within (Nat.le_succ _)
  | .forWord => (loop t.position tokens).within (Nat.le_succ _)
  | .returnWord =>
    if returnsNothing tokens then .ok (.exit none t.position) tokens (Nat.lt_succ_self _)
    else ((expression tokens).map fun e => .exit (some e) t.position).within (Nat.le_succ _)
  | .breakWord => .ok (.stop t.position) tokens (Nat.lt_succ_self _)
  | .continueWord => .ok (.skip t.position) tokens (Nat.lt_succ_self _)
  | _ =>
    if startsDefinition (t :: tokens) then
      ((definition t tokens).map Statement.function).within (Nat.le_succ _)
    else assignmentOrExpression (t :: tokens)
termination_by 32 * tokens.length + 48
decreasing_by all_goals (try simp only [List.length_cons]); omega

/-- Reads a conditional behind its `if`, which stands at `position`. -/
def conditional (position : Position) (tokens : List Token) : Parsed Statement tokens.length :=
  (expression tokens).andThen fun condition us h =>
  (body us).andThen fun thenBlock vs h' =>
  match vs with
  | [] => .ok (.conditional condition thenBlock none position) [] (by omega)
  | t :: rest =>
    if t.kind = .elseWord then
      (otherwise rest).andThen fun elseBlock ws h'' =>
      .ok (.conditional condition thenBlock (some elseBlock) position) ws
        (by simp only [List.length_cons] at h'; omega)
    else .ok (.conditional condition thenBlock none position) (t :: rest) (by omega)
termination_by 32 * tokens.length + 15
decreasing_by all_goals (try simp only [List.length_cons] at *); omega

/-- Reads the branch behind an `else`: a block, or another conditional. -/
def otherwise (tokens : List Token) : Parsed Block tokens.length :=
  (nextToken .branch tokens).andThen fun t us h =>
  if t.kind = .ifWord then
    ((conditional t.position us).map fun nested => ⟨[nested], t.position⟩).within (by omega)
  else if t.kind = .leftBrace then (block t.position us).within (by omega)
  else .fail (unexpected t .branch) us
termination_by 32 * tokens.length
decreasing_by all_goals omega

/-- Reads a loop behind its `for`, which stands at `position`. -/
def loop (position : Position) (tokens : List Token) : Parsed Statement tokens.length :=
  (loopNames tokens).andThen fun names us h =>
  (expect .inWord .inWord us).andThen fun _ vs h' =>
  (expression vs).andThen fun iterable ws h'' =>
  ((body ws).map fun b => .loop names.1 names.2 iterable b position).within (by omega)
termination_by 32 * tokens.length
decreasing_by all_goals omega

/-- Reads a function definition whose name is the token `t`. -/
def definition (t : Token) (tokens : List Token) : Parsed Function tokens.length :=
  (expect .leftParen .openParen tokens).andThen fun _ us h =>
  (commaSeparated .rightParen us fun vs _ => parameter vs).andThen fun parameters vs h' =>
  ((body vs).map fun b => ⟨t.data, parameters, b, t.position⟩).within (by omega)
termination_by 32 * tokens.length
decreasing_by all_goals omega

/-- Reads an expression, and if an equals sign follows, what is assigned to it. -/
def assignmentOrExpression (tokens : List Token) : Parsed Statement tokens.length :=
  (expression tokens).andThen fun e us h =>
  match us with
  | [] => .ok (.expression e) [] (by omega)
  | t :: rest =>
    if t.kind = .assign then
      if e.isPlace then
        ((expression rest).map fun value => .assign e value e.position).within
          (by simp only [List.length_cons] at h; omega)
      else .fail (.invalidAssignmentTarget e.render e.position) rest
    else .ok (.expression e) (t :: rest) (by omega)
termination_by 32 * tokens.length + 15
decreasing_by all_goals (try simp only [List.length_cons] at *); omega

def body (tokens : List Token) : Parsed Block tokens.length :=
  (expect .leftBrace .openBrace tokens).andThen fun t us h =>
  (block t.position us).within (by omega)
termination_by 32 * tokens.length
decreasing_by all_goals omega

/-- Reads a block behind its opening brace, which stands at `position`. -/
def block (position : Position) (tokens : List Token) : Parsed Block tokens.length :=
  (statements .rightBrace tokens).andThen fun ss us h =>
  match us with
  | [] => .fail (.unterminatedBlock position) []
  | t :: rest =>
    if t.kind = .rightBrace then
      .ok ⟨ss, position⟩ rest (by simp only [List.length_cons] at h; omega)
    else .fail (.unterminatedBlock position) (t :: rest)
termination_by 32 * tokens.length + 19
decreasing_by all_goals omega

end

end Scriptlet.Grammar
