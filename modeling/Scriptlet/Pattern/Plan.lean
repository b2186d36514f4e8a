import Scriptlet.Pattern.Row
import Std.Data.HashMap

/-!
# Plans of automata

What an automaton over octets consists of, in the order in which its states are made, and how large
it grows. States are numbered as they are made.

States of a set of characters that lead on alike are made once, as far as they are remembered. A
memory has so many places only, and where a state is put depends on how it leads on, and so on the
numbers of other states. That is why the size of an automaton is not just the sum of the sizes of
its parts.
-/

namespace Scriptlet.Pattern

/-! ## Sizes -/

/-- The room of a state, in octets. -/
def stateRoom : Nat := 32

/-- The room of leading on by one of several ranges of octets. -/
def rangeRoom : Nat := 8

/-- The room of leading on at once to one of several states. -/
def branchRoom : Nat := 4

/-- How large an automaton is. -/
structure Size where
  /-- How many states there are. -/
  states : Nat := 0
  /-- The room that states take to lead on in several ways. -/
  links : Nat := 0
deriving DecidableEq, Repr, Inhabited

namespace Size

def add (a b : Size) : Size :=
  ⟨a.states + b.states, a.links + b.links⟩

def room (s : Size) : Nat :=
  stateRoom * s.states + s.links

/-- The size of a state that leads on at once to one of several states. -/
def fork (ways : Nat) : Size :=
  ⟨1, branchRoom * ways⟩

end Size

/-- How much room an automaton may take. -/
def maxRoom : Nat := 10 * Nat.pow 2 20

/-! ## States that are remembered -/

/-- States that are remembered by how they lead on. Each way to lead on has a place, which it shares
with others; the state that is put there last is the one that stays. -/
structure Memory where
  /-- How many places there are. -/
  places : Nat
  /-- What stands at the places, with the numbers of the states. -/
  kept : Std.HashMap Nat (List Nat × Nat) := {}

namespace Memory

/-- A number of 64 bits into which numbers are mixed, one after the other. -/
def digest (key : List Nat) : UInt64 :=
  key.foldl (fun h n => (h ^^^ n.toUInt64) * 0x100000001B3) 0xCBF29CE484222325

def place (m : Memory) (key : List Nat) : Nat :=
  (digest key).toNat % m.places

/-- The state that leads on in this way, if it is remembered. -/
def find? (m : Memory) (key : List Nat) : Option Nat :=
  match m.kept[m.place key]? with
  | some (key', state) => if key' = key then some state else none
  | none => none

def keep (m : Memory) (key : List Nat) (state : Nat) : Memory :=
  let place := m.place key
  { m with kept := m.kept.insert place (key, state) }

end Memory

/-- An automaton in the making. -/
structure Making where
  size : Size
  memory : Memory

/-- The state that leads on in a way, which takes so much room. It is made unless it is
remembered. -/
def Making.state (m : Making) (key : List Nat) (links : Nat) : Nat × Making :=
  match m.memory.find? key with
  | some state => (state, m)
  | none =>
    match m with
    | ⟨⟨states, room⟩, memory⟩ =>
      (states, ⟨⟨states + 1, room + links⟩, memory.keep key states⟩)

/-! ## Sets of characters -/

/-- How many states are remembered when the rows of a set are read forwards. -/
def forwardPlaces : Nat := 10000

/-- How many states are remembered when the rows of a set are read backwards. -/
def backwardPlaces : Nat := 1000

/-- The state that reads rows, of at most so many ranges, and ends in the state `stop`. It comes
behind all states to which it leads. -/
def forwardState (stop : Nat) : Nat → List Row → Making → Nat × Making
  | 0, _, m => (stop, m)
  | n + 1, rows, m =>
    let groups := grouped rows
    let (key, m) := groups.foldl (fun (key, m) g =>
      let (next, m) := if g.2 = [[]] then (stop, m) else forwardState stop n g.2 m
      (next :: g.1.2 :: g.1.1 :: key, m)) ([], m)
    m.state key.reverse (rangeRoom * groups.length)

/-- The size of an automaton behind which the rows of a set are put, to be read forwards. There is
one state in which all rows end. -/
def growForward (rows : List Row) (size : Size) : Size :=
  (forwardState size.states 4 rows ⟨size.add ⟨1, 0⟩, { places := forwardPlaces }⟩).2.size

/-- The states that read a row backwards and end in the state `stop`. -/
def backwardStates (stop : Nat) (row : Row) (m : Making) : Making :=
  (row.foldl (fun (next, m) r => m.state [next, r.1, r.2] 0) (stop, m)).2

/-- The size of an automaton behind which the rows of a set are put, to be read backwards. There are
a state that leads on to all rows and one in which they end. -/
def growBackward (rows : List Row) (size : Size) : Size :=
  let stop := size.states + 1
  let start := size.add ((Size.fork rows.length).add ⟨1, 0⟩)
  (rows.foldl (fun m row => backwardStates stop row m)
    ⟨start, { places := backwardPlaces }⟩).size

/-! ## Plans -/

/-- What an automaton consists of. -/
inductive Plan where
  /-- Some states. -/
  | fixed (size : Size)
  /-- A set of characters that is read forwards. -/
  | forward (rows : List Row)
  /-- A set of characters that is read backwards. -/
  | backward (rows : List Row)
  | sequence (parts : List Plan)
  /-- The same several times over. -/
  | times (n : Nat) (p : Plan)
deriving Inhabited

/-- Grows so many times, but not beyond what an automaton may take. -/
def growTimes (grow : Size → Size) : Nat → Size → Size
  | 0, size => size
  | n + 1, size => if maxRoom < size.room then size else growTimes grow n (grow size)

mutual

/-- The size of an automaton behind which a plan is carried out. Beyond the room that an automaton
may take it need not be exact. -/
def Plan.grow : Plan → Size → Size
  | .fixed more, size => size.add more
  | .forward rows, size => growForward rows size
  | .backward rows, size => growBackward rows size
  | .sequence parts, size => growAll parts size
  | .times n p, size => growTimes p.grow n size

/-- The size of an automaton behind which plans are carried out. -/
def growAll : List Plan → Size → Size
  | [], size => size
  | p :: ps, size => growAll ps (p.grow size)

end

/-- Whether an automaton with this plan takes no more room than it may. -/
def Plan.fits (p : Plan) : Bool :=
  (p.grow {}).room ≤ maxRoom

end Scriptlet.Pattern
