import Scriptlet.CommandLine.Arguments
import Scriptlet.CommandLine.File
import Scriptlet.Script

/-!
# The command line

What a request on the command line leads to: what is written to the two output streams, and the exit
code. Code 1 means that there is no script or that it fails, code 2 that the arguments make no
sense.
-/

namespace Scriptlet.CommandLine

/-- What a run of the program leaves. -/
structure Report where
  code : Nat := 0
  stdout : String := ""
  /-- The lines of the log, which go to the error stream before anything else. -/
  log : List String := []
  stderr : String := ""
deriving DecidableEq, Repr, Inhabited

def versionText : String :=
  "quip 0.1.0\n"

def usageText : String :=
  "Usage: quip [OPTIONS] <CONTENTS>\n"

def settings (switches : List Switch) : Settings :=
  { debug := switches.contains .debug }

def logLevel (switches : List Switch) : LogLevel :=
  if switches.contains .verbose then .debug else .warn

/-- The report on a script that has been run. -/
def reportOn (switches : List Switch) (outcome : Except Failure Value) (events : List Event) :
    Report :=
  let printed := printedText events
  let log := logLines (logLevel switches) events
  match outcome with
  | .ok v =>
    { stdout := if switches.contains .pipeMode then printed ++ v.display ++ "\n" else printed, log }
  | .error e => { code := 1, stdout := printed, log, stderr := e.message ++ "\n" }

def reportUnreadable (name : String) (e : FileError) : Report :=
  { code := 1,
    stderr := "Failed to read the script '" ++ name ++ "': " ++ e.describe ++ "\n" }

def textOf (octets : List UInt8) : Except FileError String :=
  match Utf8.decode octets with
  | .ok cs => .ok (String.ofList cs)
  | .error _ => .error .notText

def runScript (env : Environment) (switches : List Switch) (source : String) : Report :=
  let (outcome, events) := { env with settings := settings switches }.script source
  reportOn switches outcome events

/-- The report on a request, given what the file that it names holds. -/
def respond (env : Environment) (content : String → Except FileError (List UInt8)) :
    Request → Report
  | .help => { stdout := usageText }
  | .version => { stdout := versionText }
  | .misuse => { code := 2, stderr := usageText }
  | .run switches contents =>
    if switches.contains .file then
      match (content contents).bind textOf with
      | .ok source => runScript env switches source
      | .error e => reportUnreadable contents e
    else runScript env switches contents

def runIn (env : Environment) (d : Directory) (arguments : List String) : Report :=
  respond env d.read (.ofArguments arguments)

end Scriptlet.CommandLine
