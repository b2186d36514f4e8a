import Scriptlet.Interpreter

/-!
# Scripts

Running a source from start to end. A source that is no program is a failure. So is an error while
it runs, if debug mode is on by then; otherwise the error is reported in the log, and the script has
no value.
-/

namespace Scriptlet

/-- Reports an error in the log unless debug mode is on. -/
def Environment.reporting (env : Environment) (steps : Eval Value) : Exec Failure Value := do
  match ← steps.attempt with
  | .ok v => pure v
  | .error e =>
    if ← Exec.observe env.isDebug then throw (.runtime e)
    else
      Exec.record (.failed e)
      pure .nil

def Environment.runScript (env : Environment) (source : String) : Exec Failure Value := do
  let program ← Exec.ofOutcome ((parse source).mapError .parse)
  env.reporting (env.runTree program)

/-- The outcome of a script, and what it showed. -/
def Environment.script (env : Environment) (source : String) :
    Except Failure Value × List Event :=
  let (outcome, m) := (env.runScript source).on (.initial {})
  (outcome, m.events)

end Scriptlet
