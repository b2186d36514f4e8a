import Scriptlet.Shell.Outcome
import Scriptlet.Text.Quoted
import Scriptlet.Value

/-!
# Events

What a run shows while it goes on: the text that it prints, and the events of its log. Log events
have a level, which says how much they matter.
-/

namespace Scriptlet

/-- How much a log event matters, from most to least. -/
inductive LogLevel where
  | error
  | warn
  | debug
  | trace
deriving DecidableEq, Repr, Inhabited

namespace LogLevel

def all : List LogLevel :=
  [error, warn, debug, trace]

def rank : LogLevel → Nat
  | error => 0
  | warn => 1
  | debug => 2
  | trace => 3

def name : LogLevel → String
  | error => "ERROR"
  | warn => "WARN"
  | debug => "DEBUG"
  | trace => "TRACE"

/-- Whether a log that is kept down to level `least` shows events of this level. -/
def shownAt (level least : LogLevel) : Bool :=
  level.rank ≤ least.rank

end LogLevel

/-- What a run shows. Depths are numbers of scopes after the change. -/
inductive Event where
  | printed (text : String)
  /-- A failure that is reported instead of returned. -/
  | failed (error : RuntimeError)
  /-- The global scope or the lowest scope of a call was to be popped. -/
  | popRefused (depth : Nat)
  | commandFailed (command : String) (status : Shell.Status)
  | pushed (depth : Nat)
  | popped (depth : Nat)
  /-- A call is opened. -/
  | entered (depth : Nat)
  /-- A call is closed. -/
  | left (depth : Nat)
  /-- A native function is added. -/
  | registered (name : String)
  /-- A call ends in the statement `return`. -/
  | returned (value : Value)
  /-- A source is about to be run in debug mode. -/
  | debugMode
  | commandStarted (command : String)
  /-- A statement on this line is about to be executed. -/
  | statement (line : Nat)
  /-- The body of a loop is about to be executed for an item. -/
  | iteration (item : Value)

namespace Event

/-- The level of a log event; printed text is not part of the log. -/
def level? : Event → Option LogLevel
  | printed _ => none
  | failed _ => some .error
  | popRefused _ => some .warn
  | commandFailed _ _ => some .warn
  | statement _ => some .trace
  | iteration _ => some .trace
  | _ => some .debug

/-- The wording of an event. -/
def describe : Event → String
  | printed text => text
  | failed error => error.message
  | popRefused depth =>
    "refusing to pop the global scope or call frame depth=" ++ toString depth
  | commandFailed command status =>
    "shell command failed command=" ++ Quoted.encode command ++ " status=" ++ status.describe
  | pushed depth => "pushed scope depth=" ++ toString depth
  | popped depth => "popped scope depth=" ++ toString depth
  | entered depth => "entered call frame depth=" ++ toString depth
  | left depth => "left call frame depth=" ++ toString depth
  | registered name => "registered native function name=" ++ Quoted.encode name
  | returned value => "returned value=" ++ value.display
  | debugMode => "debug mode on"
  | commandStarted command => "running shell command command=" ++ Quoted.encode command
  | statement line => "statement line=" ++ toString line
  | iteration item => "loop iteration item=" ++ item.display

/-- The text that an event adds to the output. -/
def output : Event → String
  | printed text => text
  | _ => ""

/-- The line that an event adds to a log that is kept down to level `least`. -/
def logLine? (least : LogLevel) (e : Event) : Option String :=
  (e.level?.filter fun level => level.shownAt least).map fun level =>
    level.name ++ " " ++ e.describe

end Event

def printedText (events : List Event) : String :=
  String.join (events.map Event.output)

/-- The log of a run down to level `least`, from its events. -/
def logLines (least : LogLevel) (events : List Event) : List String :=
  events.filterMap (Event.logLine? least)

end Scriptlet
