import Scriptlet.Evaluation

/-!
# What functions of the host do

A function of the host acts on the interpreter through a fixed set of operations. What it does is
a tree of these: each operation is followed by what the function does with the answer.
-/

namespace Scriptlet

/-- What can be run. -/
inductive Runnable where
  | source (text : String)
  /-- The source that octets spell. -/
  | octets (octets : List UInt8)
  | program (program : Program)
  | statement (s : Statement)

/-- What a function of the host does. -/
inductive Action where
  /-- Returns or fails. -/
  | finish (outcome : Except RuntimeError Value)
  | pushScope (next : Action)
  | popScope (next : Action)
  /-- Binds a name in the innermost scope. -/
  | assign (name : String) (value : Value) (next : Action)
  /-- Asks what a name stands for. -/
  | lookup (name : String) (next : Option Value → Action)
  /-- Asks for the number of scopes. -/
  | scopeDepth (next : Nat → Action)
  /-- Asks for the position of its call. -/
  | callSite (next : Position → Action)
  /-- Asks whether debug mode is on. -/
  | isDebug (next : Bool → Action)
  | run (work : Runnable) (next : Except Failure Value → Action)
  /-- Executes statements and asks how they end. -/
  | flow (statements : List Statement) (next : Except RuntimeError Flow → Action)
  /-- Asks for the value of an expression. -/
  | evaluate (e : Expr) (next : Except RuntimeError Value → Action)
  /-- Calls what a name stands for. -/
  | call (name : String) (arguments : List Value) (site : Position)
      (next : Except RuntimeError Value → Action)
  /-- Adds a native function. -/
  | register (n : Native) (next : Except RuntimeError Unit → Action)

instance : Inhabited Action := ⟨.finish (.ok .nil)⟩

end Scriptlet
