import Scriptlet.Mapping
import Scriptlet.Evaluation.Error
import Scriptlet.Syntax.Equality
import Scriptlet.Syntax.Render

/-!
# Values

What programs compute with. A value owns its elements, so no two values share anything that could
change.

Native functions are those not written in the language. The built-in ones are enumerated; those
supplied by a host are a label that the host understands, together with the values it attached.
Two native functions with the same name count as equal, and so do two functions defined at the same
place with the same text.
-/

namespace Scriptlet

/-- The native functions that are always there. -/
inductive Builtin where
  | echo
  | echoln
  | len
  | typeOf
  | str
  | regexMatch
  | regexMapMatch
  | regexMapValue
  | sh
deriving DecidableEq, Repr, Inhabited

namespace Builtin

def all : List Builtin :=
  [echo, echoln, len, typeOf, str, regexMatch, regexMapMatch, regexMapValue, sh]

/-- The name under which programs call one. -/
def name : Builtin → String
  | echo => "echo"
  | echoln => "echoln"
  | len => "len"
  | typeOf => "typeof"
  | str => "str"
  | regexMatch => "regexMatch"
  | regexMapMatch => "regexMapMatch"
  | regexMapValue => "regexMapValue"
  | sh => "sh"

def arity : Builtin → Arity
  | echo | echoln => .any
  | len | typeOf | str | sh => .exactly 1
  | regexMatch | regexMapMatch | regexMapValue => .exactly 2

def ofName? (name : String) : Option Builtin :=
  all.find? fun b => b.name = name

theorem mem_all (b : Builtin) : b ∈ all := by
  cases b <;> simp [all]

@[simp]
theorem ofName?_name (b : Builtin) : ofName? b.name = some b := by
  cases b <;> rfl

end Builtin

mutual

/-- A value. -/
inductive Value where
  /-- The absence of a value. -/
  | nil
  | bool (b : Bool)
  | int (n : Int64)
  | string (s : String)
  | list (items : List Value)
  | map (entries : Mapping Value)
  | function (f : Function)
  | native (n : Native)

/-- A native function. -/
inductive Native where
  | builtin (b : Builtin)
  /-- A function of the host: what the host knows it by, and the values attached to it. -/
  | host (name : String) (arity : Arity) (label : String) (attached : List Value)

end

instance : Inhabited Value := ⟨.nil⟩

/-- The name under which a native function is known. -/
def Native.name : Native → String
  | .builtin b => b.name
  | .host name _ _ _ => name

/-- How many arguments a native function takes. -/
def Native.arity : Native → Arity
  | .builtin b => b.arity
  | .host _ arity _ _ => arity

def Literal.value : Literal → Value
  | .bool b => .bool b
  | .int n => .int n
  | .string s => .string s

namespace Value

/-- The type of a value. -/
def kind : Value → ValueKind
  | nil => .nil
  | bool _ => .bool
  | int _ => .int
  | string _ => .string
  | list _ => .list
  | map _ => .map
  | function _ => .function
  | native _ => .native

def isNil : Value → Bool
  | nil => true
  | _ => false

def isCallable : Value → Bool
  | function _ => true
  | native _ => true
  | _ => false

/-- The error for trying an operation on this value alone. -/
def typeError (v : Value) (operation : Operation) (position : Position) : RuntimeError :=
  .type operation (.one v.kind) position

/-- The truth value; nothing else is taken for one. -/
def asBool (v : Value) (operation : Operation) (position : Position) :
    Except RuntimeError Bool :=
  match v with
  | bool b => .ok b
  | _ => .error (v.typeError operation position)

/-- The text; nothing else is taken for one. -/
def asString (v : Value) (operation : Operation) (position : Position) :
    Except RuntimeError String :=
  match v with
  | string s => .ok s
  | _ => .error (v.typeError operation position)

/-- The elements of a collection with their indices: numbers from zero for a list, keys for a
mapping. -/
def pairs? : Value → Option (List (Value × Value))
  | list items => some (items.zipIdx.map fun p => (int (Int64.ofNat p.2), p.1))
  | map entries => some (entries.entries.map fun e => (string e.1, e.2))
  | _ => none

/-! ## Text -/

/-- The text of an element, given the text of the value alone: strings are quoted. -/
def quotedIn (v : Value) (text : String) : String :=
  match v with
  | string s => "'" ++ s ++ "'"
  | _ => text

mutual

/-- The text of a value. -/
def display : Value → String
  | nil => "nil"
  | bool true => "true"
  | bool false => "false"
  | int n => toString n.toInt
  | string s => s
  | list items => "[" ++ separated ", " (displayItems items) ++ "]"
  | map ⟨entries⟩ => "\x7b" ++ separated ", " (displayEntries entries) ++ "\x7d"
  | function f => "<function " ++ f.signature ++ ">"
  | native n => "<native " ++ n.name ++ ">"

def displayItems : List Value → List String
  | [] => []
  | v :: vs => v.quotedIn v.display :: displayItems vs

def displayEntries : List (String × Value) → List String
  | [] => []
  | (k, v) :: rest => (k ++ " = " ++ v.quotedIn v.display) :: displayEntries rest

end

/-! ## Equality -/

mutual

/-- Whether two values are equal, element by element. -/
def equal : Value → Value → Bool
  | nil, nil => true
  | bool a, bool b => a == b
  | int a, int b => a == b
  | string a, string b => a == b
  | list vs, list ws => equalItems vs ws
  | map ⟨es⟩, map ⟨fs⟩ => equalEntries es fs
  | function f, function g => f == g
  | native m, native n => m.name == n.name
  | _, _ => false

/-- Whether two lists have equal elements in the same order. -/
def equalItems : List Value → List Value → Bool
  | [], [] => true
  | v :: vs, w :: ws => v.equal w && equalItems vs ws
  | _, _ => false

/-- Whether two lists of entries have equal keys and values in the same order. -/
def equalEntries : List (String × Value) → List (String × Value) → Bool
  | [], [] => true
  | (k, v) :: es, (l, w) :: fs => k == l && v.equal w && equalEntries es fs
  | _, _ => false

end

instance : BEq Value := ⟨equal⟩

end Value

end Scriptlet
