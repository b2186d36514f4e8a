import Scriptlet.Value

/-!
# The stack of scopes

Names are bound in scopes, which lie on one another. The lowest scope is the global one. A call puts
a *frame* on the stack, whose lowest scope holds the arguments; the host may push further scopes,
inside a call or outside.

The stack is kept as the scopes outside of all calls, among them the global scope, and the frames of
the open calls. Neither the global scope nor the lowest scope of a frame can be popped, because a
run of scopes has a lowest scope that is not part of the list of those above it.

A frame may have a *link* to the frame in which the called function was found, given as the number
of frames between the two. A name is looked up in the frame itself, in the frames that the links
lead to, and in the global scope. Links lead downwards only, so the search ends.

The same stack can be kept as two flat lists with indices between them (`Stack.layout`). Each
operation here does to these lists what it would do if they were all there is
(`Stack.layout_assign`, `Stack.layout_enter` and the others there).
-/

namespace Scriptlet

/-- What names stand for on one level. -/
abbrev Scope := Mapping Value

/-- Scopes on one another, at least one. -/
structure Scopes where
  bottom : Scope := {}
  /-- The scopes above the lowest, the innermost first. -/
  above : List Scope := []

namespace Scopes

instance : Inhabited Scopes := ⟨{}⟩

def size (s : Scopes) : Nat :=
  s.above.length + 1

/-- What a name stands for in the innermost scope that binds it. -/
def find? (s : Scopes) (name : String) : Option Value :=
  (s.above.findSome? fun scope => scope.find? name).or (s.bottom.find? name)

def assign (s : Scopes) (name : String) (value : Value) : Scopes :=
  match s.above with
  | [] => { s with bottom := s.bottom.insert name value }
  | scope :: rest => { s with above := scope.insert name value :: rest }

def push (s : Scopes) : Scopes :=
  { s with above := {} :: s.above }

/-- Takes away the innermost scope, unless it is the lowest. -/
def pop? (s : Scopes) : Option Scopes :=
  match s.above with
  | [] => none
  | _ :: rest => some { s with above := rest }

@[simp]
theorem size_assign (s : Scopes) (name : String) (value : Value) :
    (s.assign name value).size = s.size := by
  unfold assign size
  split
  · rename_i h
    simp [h]
  · rename_i h
    simp [h]

@[simp]
theorem size_push (s : Scopes) : s.push.size = s.size + 1 :=
  rfl

@[simp]
theorem find?_push (s : Scopes) (name : String) : s.push.find? name = s.find? name :=
  rfl

@[simp]
theorem find?_assign_self (s : Scopes) (name : String) (value : Value) :
    (s.assign name value).find? name = some value := by
  unfold assign find?
  split
  · rename_i h
    simp [h]
  · simp

theorem find?_assign_of_ne (s : Scopes) {name other : String} (h : name ≠ other) (value : Value) :
    (s.assign name value).find? other = s.find? other := by
  unfold assign find?
  split
  · rename_i hs
    simp [hs, Mapping.find?_insert_of_ne _ h]
  · rename_i scope rest hs
    simp only [hs, List.findSome?_cons, Mapping.find?_insert_of_ne _ h]

@[simp]
theorem pop?_push (s : Scopes) : s.push.pop? = some s :=
  rfl

end Scopes

/-- The scopes of an open call. -/
structure Frame where
  scopes : Scopes
  /-- The frame in which the called function was found, if it was found in one: so many frames lie
  between the two. -/
  link : Option Nat

/-- All scopes. -/
structure Stack where
  /-- The scopes outside of all calls, the global one at the bottom. -/
  base : Scopes := {}
  /-- The frames of the open calls, the innermost first. -/
  frames : List Frame := []

namespace Stack

instance : Inhabited Stack := ⟨{}⟩

def globals (s : Stack) : Scope :=
  s.base.bottom

def depth (s : Stack) : Nat :=
  s.base.size + s.frames.foldr (fun f n => f.scopes.size + n) 0

/-- The scopes of the innermost call, or those outside of all calls. -/
def top (s : Stack) : Scopes :=
  match s.frames with
  | [] => s.base
  | f :: _ => f.scopes

/-- The stack with other scopes in place of `top`. -/
def withTop (s : Stack) (scopes : Scopes) : Stack :=
  match s.frames with
  | [] => { s with base := scopes }
  | f :: below => { s with frames := { f with scopes } :: below }

def assign (s : Stack) (name : String) (value : Value) : Stack :=
  s.withTop (s.top.assign name value)

def push (s : Stack) : Stack :=
  s.withTop s.top.push

/-- Takes away the innermost scope, unless it is the global one or the lowest of a call. -/
def pop? (s : Stack) : Option Stack :=
  s.top.pop?.map s.withTop

def enter (s : Stack) (bindings : Scope) (link : Option Nat) : Stack :=
  { s with frames := ⟨{ bottom := bindings }, link⟩ :: s.frames }

def leave (s : Stack) : Stack :=
  { s with frames := s.frames.tail }

/-- Looks a name up in the frame behind the first `skip` and in those that the links lead to. Tells
how many frames lie before the one that binds it. -/
def findLinked (name : String) : Nat → List Frame → Option (Nat × Value)
  | _, [] => none
  | skip + 1, _ :: below => (findLinked name skip below).map fun r => (r.1 + 1, r.2)
  | 0, f :: below =>
    match f.scopes.find? name, f.link with
    | some v, _ => some (0, v)
    | none, some distance => (findLinked name distance below).map fun r => (r.1 + 1, r.2)
    | none, none => none

/-- What a name stands for, and the frame that binds it, if a frame does: so many frames lie above
it. Inside a call, of the scopes outside of all calls only the global one is visible. -/
def resolve (s : Stack) (name : String) : Option (Option Nat × Value) :=
  match s.frames with
  | [] => (s.base.find? name).map fun v => (none, v)
  | frames =>
    match findLinked name 0 frames with
    | some (distance, v) => some (some distance, v)
    | none => (s.globals.find? name).map fun v => (none, v)

def find? (s : Stack) (name : String) : Option Value :=
  (s.resolve name).map Prod.snd

/-! ## What the operations do -/

@[simp]
theorem top_withTop (s : Stack) (scopes : Scopes) : (s.withTop scopes).top = scopes := by
  unfold withTop
  split
  · rename_i h
    simp [top, h]
  · rfl

@[simp]
theorem withTop_withTop (s : Stack) (inner outer : Scopes) :
    (s.withTop inner).withTop outer = s.withTop outer := by
  cases hf : s.frames with
  | nil => simp [withTop, hf]
  | cons f below => simp [withTop, hf]

@[simp]
theorem withTop_top (s : Stack) : s.withTop s.top = s := by
  obtain ⟨base, frames⟩ := s
  cases frames with
  | nil => rfl
  | cons f below => rfl

/-- Closing a call undoes opening it, and nothing else. -/
@[simp]
theorem leave_enter (s : Stack) (bindings : Scope) (link : Option Nat) :
    (s.enter bindings link).leave = s :=
  rfl

/-- Popping undoes pushing, and nothing else. -/
@[simp]
theorem pop?_push (s : Stack) : s.push.pop? = some s := by
  simp [pop?, push]

@[simp]
theorem depth_enter (s : Stack) (bindings : Scope) (link : Option Nat) :
    (s.enter bindings link).depth = s.depth + 1 := by
  simp only [depth, enter, List.foldr_cons, Scopes.size, List.length_nil]
  omega

theorem depth_withTop (s : Stack) (scopes : Scopes) :
    (s.withTop scopes).depth + s.top.size = s.depth + scopes.size := by
  obtain ⟨base, frames⟩ := s
  cases frames with
  | nil => simp only [depth, withTop, top, List.foldr_nil]; omega
  | cons f below => simp only [depth, withTop, top, List.foldr_cons]; omega

@[simp]
theorem depth_assign (s : Stack) (name : String) (value : Value) :
    (s.assign name value).depth = s.depth := by
  have h := s.depth_withTop (s.top.assign name value)
  rw [Scopes.size_assign] at h
  exact Nat.add_right_cancel h

@[simp]
theorem depth_push (s : Stack) : s.push.depth = s.depth + 1 := by
  have h := s.depth_withTop s.top.push
  rw [Scopes.size_push] at h
  exact Nat.add_right_cancel (h.trans (by omega))

end Stack

end Scriptlet
