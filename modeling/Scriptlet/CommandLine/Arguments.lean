/-!
# Arguments of the command line

Arguments that start with a hyphen are options, up to an argument that consists of two hyphens. Two
hyphens start the long name of an option; one hyphen starts a row of short names. No option takes a
value, and none may be given twice. The one other argument is the script, or the name of its file.

Arguments are looked at from left to right. The first that is wrong decides, and so does the first
that asks for the version or for help.
-/

namespace Scriptlet.CommandLine

/-- The options that turn something on. -/
inductive Switch where
  /-- The script is in a file. -/
  | file
  /-- The value of the script is printed. -/
  | pipeMode
  | debug
  | verbose
deriving DecidableEq, Repr

/-- An option. -/
inductive Flag where
  | switch (s : Switch)
  | help
  | version
deriving DecidableEq, Repr

/-- The option with a short name. -/
def Flag.ofLetter? : Char → Option Flag
  | 'f' => some (.switch .file)
  | 'p' => some (.switch .pipeMode)
  | 'd' => some (.switch .debug)
  | 'v' => some (.switch .verbose)
  | 'h' => some .help
  | 'V' => some .version
  | _ => none

/-- The option with a long name. -/
def Flag.ofWord? : String → Option Flag
  | "file" => some (.switch .file)
  | "pipe-mode" => some (.switch .pipeMode)
  | "debug" => some (.switch .debug)
  | "verbose" => some (.switch .verbose)
  | "help" => some .help
  | "version" => some .version
  | _ => none

/-- What the arguments say so far. -/
structure Arguments where
  switches : List Switch := []
  contents : Option String := none
deriving Repr, Inhabited

/-- What the arguments ask for. -/
inductive Request where
  /-- To run a script, which is given or whose file is named. -/
  | run (switches : List Switch) (contents : String)
  | help
  | version
  /-- The arguments make no sense. -/
  | misuse
deriving DecidableEq, Repr

namespace Arguments

def take (a : Arguments) : Flag → Except Request Arguments
  | .help => .error .help
  | .version => .error .version
  | .switch s =>
    if a.switches.contains s then .error .misuse
    else .ok { a with switches := s :: a.switches }

def takeContents (a : Arguments) (argument : String) : Except Request Arguments :=
  match a.contents with
  | none => .ok { a with contents := some argument }
  | some _ => .error .misuse

def take? (a : Arguments) (f : Option Flag) : Except Request Arguments :=
  match f with
  | some f => a.take f
  | none => .error .misuse

/-- Takes one argument of which it is not clear that it is no option. -/
def takeArgument (a : Arguments) (argument : String) : Except Request Arguments :=
  match argument.toList with
  | '-' :: '-' :: name => a.take? (Flag.ofWord? (String.ofList name))
  | '-' :: c :: letters => (c :: letters).foldlM (fun a c => a.take? (Flag.ofLetter? c)) a
  | _ => a.takeContents argument

def finish (a : Arguments) : Request :=
  match a.contents with
  | some contents => .run a.switches contents
  | none => .misuse

/-- Reads arguments; there may have been two hyphens alone before. -/
def read (plain : Bool) (a : Arguments) : List String → Request
  | [] => a.finish
  | argument :: rest =>
    if !plain && argument = "--" then read true a rest
    else
      match if plain then a.takeContents argument else a.takeArgument argument with
      | .ok a => read plain a rest
      | .error request => request

end Arguments

def Request.ofArguments (arguments : List String) : Request :=
  Arguments.read false {} arguments

end Scriptlet.CommandLine
