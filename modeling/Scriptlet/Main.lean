import Scriptlet.CommandLine
import Scriptlet.Host.Stock
import Scriptlet.Pattern.Matching
import Scriptlet.Shell

/-!
# The program

Reads the file of the script, if there is one, and writes the report.
-/

namespace Scriptlet.CommandLine

def surroundings : Environment :=
  { compile := Pattern.compile, shell := Shell.run, behaviour := Stock.behaviour }

/-- The reason for which the system cannot read a file. -/
def FileError.ofSystem : IO.Error → FileError
  | .noFileOrDirectory .. => .notFound
  | .inappropriateType .. => .isDirectory
  | e => .other (toString e)

/-- The content of the file that a request names, if it names one. -/
def fileOf (request : Request) : IO (Except FileError (List UInt8)) := do
  match request with
  | .run switches contents =>
    if switches.contains .file then
      try
        let bytes ← IO.FS.readBinFile contents
        return .ok bytes.toList
      catch e => return .error (.ofSystem e)
    else return .ok []
  | _ => return .ok []

end Scriptlet.CommandLine

/-- Runs the program on its arguments. -/
def main (arguments : List String) : IO UInt32 := do
  let request := Scriptlet.CommandLine.Request.ofArguments arguments
  let content ← Scriptlet.CommandLine.fileOf request
  let report := Scriptlet.CommandLine.respond Scriptlet.CommandLine.surroundings
    (fun _ => content) request
  IO.print report.stdout
  for line in report.log do
    IO.eprintln line
  IO.eprint report.stderr
  return report.code.toUInt32
