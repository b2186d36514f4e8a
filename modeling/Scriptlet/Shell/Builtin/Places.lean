import Scriptlet.Shell.Builtin.Basic

/-!
# Builtins about places

The directory of a process, and the permissions of what it puts there.
-/

namespace Scriptlet.Shell

/-- Where a name of a directory may lead to: behind one of the directories to look in, unless it
says where it starts. The flag tells whether the path is written. -/
def directoryChoices (name : String) : Act (List (String × Bool)) := do
  let start := (cutAt (· == '/') name.toList).headD []
  if start = [] || start = ['.'] || start = ['.', '.'] then return [(name, false)]
  match ← value? "CDPATH" with
  | none => return [(name, false)]
  | some places =>
    let choices := (cutAt (· == ':') places.toList).map fun place =>
      if place.isEmpty then (name, false) else (String.ofList place ++ "/" ++ name, true)
    return choices ++ [(name, false)]

/-- Goes to a directory. -/
def changeDirectory : Builtin := fun arguments => do
  let (_, arguments) ← readOptions "LP" arguments
  let name ← match arguments with
    | [] => pure ((← value? "HOME").getD "")
    | "-" :: _ => pure ((← value? "OLDPWD").getD "")
    | name :: _ => pure name
  let directory ← asks Process.directory
  let fs ← sees World.files
  let found := (← directoryChoices name).findSome? fun (choice, shows) =>
    match fs.find directory (if choice.isEmpty then "." else choice) with
    | .ok (path, .directory) => some (path, shows)
    | _ => none
  match found with
  | some (path, shows) =>
    assign "OLDPWD" (Files.spell directory) true
    change fun p => { p with directory := path }
    assign "PWD" (Files.spell path) true
    if shows || arguments.head? = some "-" then put (Files.spell path ++ "\n") 0 else return 0
  | none => refuse ("can't cd to " ++ name)

def printDirectory : Builtin := fun arguments => do
  let _ ← readOptions "LP" arguments
  put (Files.spell (← asks Process.directory) ++ "\n") 0

/-- The permissions that a mask leaves, for one kind of user. -/
def permissions (bits : Nat) : String :=
  String.ofList ([(4, 'r'), (2, 'w'), (1, 'x')].filterMap fun (bit, c) =>
    if bits / bit % 2 = 0 then some c else none)

/-- The permissions that a letter stands for, given the ones that there are for all three kinds of
users. -/
def namedPermissions? (all : Nat) : Char → Option Nat
  | 'r' => some 4
  | 'w' => some 2
  | 'x' => some 1
  | 's' => some 0
  | 'X' => some (if all &&& 0o111 = 0 then 0 else 1)
  | 'u' => some (all / 64 % 8)
  | 'g' => some (all / 8 % 8)
  | 'o' => some (all % 8)
  | _ => none

/-- The permissions that are left of some by a clause such as `u+r-w`, which reads the ones that
there were at first. -/
def changedPermissions? (first now : Nat) (clause : List Char) : Option Nat :=
  let isUser (c : Char) : Bool := c = 'a' || c = 'u' || c = 'g' || c = 'o'
  let users := clause.takeWhile isUser
  let unit : Char → Nat
    | 'u' => 0o100
    | 'g' => 0o010
    | 'o' => 0o001
    | _ => 0o111
  let units := if users.isEmpty then 0o111 else users.foldl (fun n c => n ||| unit c) 0
  let without (all taken : Nat) : Nat := all - (all &&& taken)
  let step : Option (Bool × Nat) → Char → Option (Option (Bool × Nat))
    | state, '+' => some (some (true, (state.map Prod.snd).getD now))
    | state, '-' => some (some (false, (state.map Prod.snd).getD now))
    | state, '=' => some (some (true, without ((state.map Prod.snd).getD now) (units * 7)))
    | some (adds, now), c => (namedPermissions? first c).map fun n =>
      some (adds, if adds then now ||| (n * units) else without now (n * units))
    | none, _ => none
  ((clause.dropWhile isUser).foldlM step none).map fun state => (state.map Prod.snd).getD now

/-- The permissions that are left of some by clauses between commas. The last clause may be
empty. -/
def permissionsAfter? (first : Nat) (s : String) : Option Nat :=
  let clauses := cutAt (· == ',') s.toList
  let clauses := if clauses.getLast? = some [] then clauses.dropLast else clauses
  let isWhole (clause : List Char) : Bool := clause.any fun c => c = '+' || c = '-' || c = '='
  if clauses.dropLast.all isWhole && clauses.getLast? != some [] then
    clauses.foldlM (changedPermissions? first) first
  else none

/-- Shows or sets the mask of permissions. -/
def mask : Builtin := fun arguments => do
  let (options, arguments) ← readOptions "S" arguments
  let m ← asks Process.mask
  match arguments with
  | [] =>
    let octal := Numeral.inBase 8 m
    let plain := String.ofList (List.replicate (4 - octal.length) '0') ++ octal
    let long := "u=" ++ permissions (m / 64) ++ ",g=" ++ permissions (m / 8 % 8) ++ ",o=" ++
      permissions (m % 8)
    put ((if options.isEmpty then plain else long) ++ "\n") 0
  | s :: _ =>
    if s.toList.head?.any Char.isDigit then
      match Numeral.digits 8 0 s.toList with
      | (n, []) => setMask n
      | _ => refuse ("Illegal number: " ++ s)
    else match permissionsAfter? (511 - m) s with
      | some all => setMask (511 - all)
      | none => refuse ("Illegal mode: " ++ s)
where
  /-- Sets the mask. -/
  setMask (n : Nat) : Act Nat := do
    change fun p => { p with mask := n % 512 }
    return 0

end Scriptlet.Shell
