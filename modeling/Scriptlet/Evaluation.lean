import Scriptlet.Machine
import Scriptlet.Value.Operation

/-!
# Evaluating trees

What the nodes of a tree do to a machine. The evaluation of a node is defined by recursion on the
node; a call leads to the body of a function, which is no part of the node, so what calls do is a
parameter.

A statement hands on how it ended: by falling through, or by one of the statements that leave a
loop or a call.
-/

namespace Scriptlet

/-- How statements end. -/
inductive Flow where
  /-- By falling through. -/
  | normal
  /-- By the statement `return`, on the way to the call. -/
  | returned (value : Value)
  /-- By the statement `break` there, on the way to the loop. -/
  | broke (position : Position)
  /-- By the statement `continue` there, on the way to the loop. -/
  | continued (position : Position)

/-- The value of statements that end in this way with no call or loop around them. -/
def Flow.value : Flow → Except RuntimeError Value
  | normal => .ok .nil
  | returned value => .ok value
  | broke position => .error (.structural .breakOutsideLoop position)
  | continued position => .error (.structural .continueOutsideLoop position)

/-- What calls do. The last argument is the position of the call. -/
structure Calls where
  /-- Calls a function that was found in the frame behind so many others, if in one. -/
  user (f : Function) (link : Option Nat) (arguments : List Value) (site : Position) : Eval Value
  /-- Calls a native function. -/
  native (n : Native) (arguments : List Value) (site : Position) : Eval Value

namespace Calls

def value (calls : Calls) (name : String) (callee : Value) (link : Option Nat)
    (arguments : List Value) (site : Position) : Eval Value :=
  match callee with
  | .function f => calls.user f link arguments site
  | .native n => calls.native n arguments site
  | callee => throw (callee.typeError (.call name) site)

/-- Calls what a name stands for: the native function of that name, or else a value. -/
def named (calls : Calls) (name : String) (arguments : List Value) (site : Position) :
    Eval Value := do
  match ← Exec.observe fun m => m.natives.find? name with
  | some n => calls.native n arguments site
  | none =>
    match ← Exec.observe fun m => m.stack.resolve name with
    | some (link, callee) => calls.value name callee link arguments site
    | none => throw (.undefined name site)

/-- Calls a member of an object: an entry that can be called, or else what the name stands for. -/
def method (calls : Calls) (object : Value) (name : String) (arguments : List Value)
    (site : Position) : Eval Value :=
  match object.method? name with
  | some callee => calls.value name callee none arguments site
  | none => calls.named name arguments site

end Calls

def evalVariable (v : Variable) : Eval Value := do
  match ← Exec.observe fun m => m.lookup v.name with
  | some value => pure value
  | none =>
    match ← Exec.observe fun m => m.natives.find? v.name with
    | some n => pure (.native n)
    | none => throw (.undefined v.name v.position)

/-- The value of a name whose members are asked for: nothing, if it stands for nothing. -/
def evalOwner (v : Variable) : Eval Value :=
  Exec.observe fun m => (m.lookup v.name).getD .nil

def Expr.asVariable? : Expr → Option Variable
  | .var v => some v
  | _ => none

/-- Executes the body of a loop for each pair of an index and an item. -/
def runLoop (index : Option Variable) (item : Variable) (body : Eval Flow) :
    List (Value × Value) → Eval Flow
  | [] => pure .normal
  | (key, value) :: rest => do
    Exec.record (.iteration value)
    if let some v := index then
      Exec.update fun m => m.assign v.name key
    Exec.update fun m => m.assign item.name value
    match ← body with
    | .broke _ => pure .normal
    | .returned result => pure (.returned result)
    | .normal => runLoop index item body rest
    | .continued _ => runLoop index item body rest

mutual

/-- The value of an expression. -/
def evalExpr (calls : Calls) : Expr → Eval Value
  | .var v => evalVariable v
  | .literal value _ => pure value.value
  | .binary left operator right position => do
    let a ← evalExpr calls left
    let b ← evalExpr calls right
    Exec.ofOutcome (operator.apply a b position)
  | .list values _ => do
    let items ← evalExprs calls values
    pure (.list items)
  | .block ⟨statements, _⟩ => do
    let entries ← evalEntries calls {} statements
    pure (.map entries)
  | .call ⟨name, arguments, site⟩ => do
    let values ← evalExprs calls arguments
    calls.named name values site
  | .field object member position => do
    let value ← match object.asVariable? with
      | some v => evalOwner v
      | none => evalExpr calls object
    evalMember calls value position member

/-- The values of expressions, from left to right. -/
def evalExprs (calls : Calls) : List Expr → Eval (List Value)
  | [] => pure []
  | e :: es => do
    let v ← evalExpr calls e
    let vs ← evalExprs calls es
    pure (v :: vs)

/-- The value of a member of an object; the position is that of the object. -/
def evalMember (calls : Calls) (object : Value) (position : Position) : Member → Eval Value
  | .name v => Exec.ofOutcome (object.readName v.name position)
  | .index key => do
    let k ← evalExpr calls key
    Exec.ofOutcome (object.readIndex k position)
  | .call ⟨name, arguments, site⟩ => do
    let values ← evalExprs calls arguments
    calls.method object name values site

/-- The mapping that a block in the place of an expression spells, added to `entries`. -/
def evalEntries (calls : Calls) (entries : Mapping Value) :
    List Statement → Eval (Mapping Value)
  | [] => pure entries
  | .assign (.var key) value _ :: rest => do
    let v ← evalExpr calls value
    evalEntries calls (entries.insert key.name v) rest
  | .newLine _ :: rest => evalEntries calls entries rest
  | .comment _ :: rest => evalEntries calls entries rest
  | s :: _ => throw (.structural .notAnEntry s.position)

/-- Executes a statement. -/
def execute (calls : Calls) : Statement → Eval Flow
  | .assign target value _ => do
    let v ← evalExpr calls value
    evalAssign calls v target
    pure .normal
  | .function f => do
    Exec.update fun m => m.assign f.name (.function f)
    pure .normal
  | .conditional condition ⟨body, _⟩ none _ => do
    let v ← evalExpr calls condition
    if ← Exec.ofOutcome (v.asBool .condition condition.position) then evalStatements calls body
    else pure .normal
  | .conditional condition ⟨body, _⟩ (some ⟨otherwise, _⟩) _ => do
    let v ← evalExpr calls condition
    if ← Exec.ofOutcome (v.asBool .condition condition.position) then evalStatements calls body
    else evalStatements calls otherwise
  | .loop index item iterable ⟨body, _⟩ _ => do
    let v ← evalExpr calls iterable
    match v.pairs? with
    | some pairs => runLoop index item (evalStatements calls body) pairs
    | none => throw (v.typeError .loop iterable.position)
  | .exit none _ => pure (.returned .nil)
  | .exit (some value) _ => do
    let v ← evalExpr calls value
    pure (.returned v)
  | .stop position => pure (.broke position)
  | .skip position => pure (.continued position)
  | .expression e => do
    let _ ← evalExpr calls e
    pure .normal
  | .newLine _ => pure .normal
  | .comment _ => pure .normal

/-- Executes statements up to the first that does not fall through. -/
def evalStatements (calls : Calls) : List Statement → Eval Flow
  | [] => pure .normal
  | s :: rest => do
    Exec.record (.statement s.position.line)
    match ← execute calls s with
    | .normal => evalStatements calls rest
    | flow => pure flow

/-- Stores a value in a place. To store in a member, the object is read, changed, and stored in its
own place. -/
def evalAssign (calls : Calls) (value : Value) : Expr → Eval Unit
  | .var v => Exec.update fun m => m.assign v.name value
  | .field object member position => do
    let old ← evalPlace calls object
    let new ← evalWrite calls old value position member
    evalAssign calls new object
  | e => throw (.structural (.notAPlace e.render) e.position)

/-- The value in a place, or nothing if nothing is there yet. -/
def evalPlace (calls : Calls) : Expr → Eval Value
  | .var v => evalOwner v
  | .field object member position => do
    let value ← evalPlace calls object
    if value.isNil then pure .nil
    else evalMember calls value position member
  | e => throw (.structural (.notThrough e.render) e.position)

/-- The object with another value for a member; the position is that of the object. -/
def evalWrite (calls : Calls) (object value : Value) (position : Position) :
    Member → Eval Value
  | .name v => Exec.ofOutcome (object.write (.string v.name) value position)
  | .index key => do
    let k ← evalExpr calls key
    Exec.ofOutcome (object.write k value position)
  | .call c => throw (.structural (.callTarget c.render) c.position)

end

/-- Executes one statement, and records that. -/
def evalStatement (calls : Calls) (s : Statement) : Eval Flow := do
  Exec.record (.statement s.position.line)
  execute calls s

end Scriptlet
