import Scriptlet.Evaluation.Call

/-!
# The interpreter

What a host can do with a machine between runs. Every operation takes the machine from one state to
the next, also when it fails.
-/

namespace Scriptlet

namespace Environment

/-- Runs a source. Its value is that of the first `return` outside of all functions, or nothing. -/
def run (env : Environment) (source : String) : Exec Failure Value :=
  env.runSource env.calls source

/-- Runs the source that octets spell. -/
def runOctets (env : Environment) (octets : List UInt8) : Exec Failure Value :=
  env.runRead env.calls (parseOctets octets)

def runTree (env : Environment) (program : Program) : Eval Value := do
  env.announce
  runProgram env.calls program

/-- Runs one statement, which for an expression gives its value. -/
def runSingle (env : Environment) (s : Statement) : Eval Value := do
  env.announce
  runStatement env.calls s

/-- Executes statements and tells how they end. -/
def flow (env : Environment) (statements : List Statement) : Eval Flow :=
  evalStatements env.calls statements

/-- The value of an expression. -/
def evaluate (env : Environment) (e : Expr) : Eval Value :=
  evalExpr env.calls e

def call (env : Environment) (name : String) (arguments : List Value) (site : Position) :
    Eval Value :=
  env.calls.named name arguments site

end Environment

end Scriptlet
