import Scriptlet.Shell.Subprocess

/-!
# Redirections

What descriptors are made to lead to while a command is run.
-/

namespace Scriptlet.Shell

/-- A redirection whose words have been expanded. -/
inductive Target where
  | file (descriptor : Nat) (access : Access) (name : String)
  | copy (descriptor : Nat) (source : Option Nat)
  | document (descriptor : Nat) (text : String)

def Target.descriptor : Target → Nat
  | file n _ _ => n
  | copy n _ => n
  | document n _ => n

/-- Expands the words of a redirection. -/
def expandRedirection (output : Command → Act String) : Redirection → Act Target
  | .file n access name => return .file n access (← expandText output name)
  | .copy n source => do
    let s ← expandText output source
    match s.toList with
    | ['-'] => return .copy n none
    | [c] =>
      if c.isDigit then return .copy n (some (c.toNat - 48))
      else refuse "Syntax error: Bad fd number"
    | _ => refuse "Syntax error: Bad fd number"
  | .document n number => do
    let text := ((← asks Process.documents).lookup number).getD []
    return .document n (Piece.text (← expandParts output .text text))

/-- Opens a file for an access, or says why it cannot be opened. -/
def openFile (access : Access) (name : String) : Act (Except String Nat) := do
  let p ← asks id
  let fs ← sees World.files
  let descriptor? : Option Nat := match name with
    | "/dev/stdin" => some 0
    | "/dev/stdout" => some 1
    | "/dev/stderr" => some 2
    | name => (behind? "/dev/fd/".toList name.toList).bind fun cs =>
      Numeral.natural10? (String.ofList cs)
  let verb := if access = .read then "cannot open " else "cannot create "
  let fail (reason : String) : Except String Nat := .error (verb ++ name ++ ": " ++ reason)
  let missing := if access = .read then "No such file" else "Directory nonexistent"
  match descriptor?.bind fun n => p.descriptors.lookup n with
  | some d => return .ok d
  | none =>
    match fs.locate p.directory name with
    | .error _ => return fail missing
    | .ok path =>
      let create : Act (Except String Nat) := do
        let content := match access, fs.node? path with
          | .append, some (.file s _) | .both, some (.file s _) => s
          | _, _ => ""
        changeWorld fun w => { w with files := w.files.put path (.file content false) }
        return .ok (← addDescription (.file path 0 access))
      match access, fs.node? path with
      | _, some .empty => return .ok (← addDescription .empty)
      | .read, none => return fail missing
      | .read, some .directory => return .ok (← addDescription .empty)
      | .read, _ => return .ok (← addDescription (.file path 0 .read))
      | _, some .directory => return fail "Is a directory"
      | .write, some _ =>
        if ← hasOption 'C' then return fail "File exists" else create
      | _, none => if fs.isDirectory path.tail then create else return fail missing
      | _, _ => create

/-- Leads a descriptor where a redirection says, or says why that cannot be done. -/
def Target.apply (t : Target) : Act (Option String) := do
  match t with
  | file n access name =>
    match ← openFile access name with
    | .ok d =>
      lead n (some d)
      return none
    | .error message => return some message
  | copy n none =>
    lead n none
    return none
  | copy n (some source) =>
    match (← asks Process.descriptors).lookup source with
    | some d =>
      lead n (some d)
      return none
    | none => return some (toString source ++ ": Bad file descriptor")
  | document n text =>
    lead n (some (← addDescription (.stream text.toList)))
    return none

/-- Leads descriptors where redirections say; false, with a complaint, if that cannot be done. -/
def applyTargets : List Target → Act Bool
  | [] => return true
  | t :: rest => do
    match ← t.apply with
    | none => applyTargets rest
    | some message =>
      complain message
      return false

/-- Runs an action with descriptors led elsewhere meanwhile. -/
def withDescriptors {α : Type} (ns : List Nat) (action : Act α) : Act α := do
  let before ← asks Process.descriptors
  afterwards action do
    for n in ns do
      lead n (before.lookup n)

end Scriptlet.Shell
