import Scriptlet.Proofs.Evaluation.Assignment
import Scriptlet.Proofs.Evaluation.Untouched
import Scriptlet.Proofs.Machine.Innermost
import Scriptlet.Proofs.Values.Update

/-!
# Assignments as updates

An assignment to a path of names and literal indexes updates what the root of the path stands for
(`Value.updateAt`) and binds the root to the outcome. If the update makes no sense, the assignment
fails and binds nothing. The path is read where its root is visible, but the root is bound in the
innermost scope, so what it stands for further out stays the same (`execute_assign_updates`).

Evaluating such a path does not change the machine, and what comes of it depends on the value of the
root only (`Expr.follow`). The assignment goes through the path from the last member to the root, so
that is an induction on the path.
-/

namespace Scriptlet

/-! ## Paths and their keys -/

/-- The path leads on from a root by the keys that its names and literal indexes spell. -/
inductive Expr.Leads : Expr → String → List Value → Prop
  | root (v : Variable) : Leads (.var v) v.name []
  | name {object : Expr} {root : String} {keys : List Value} (leads : Leads object root keys)
    (v : Variable) (position : Position) :
    Leads (.field object (.name v) position) root (keys ++ [.string v.name])
  | index {object : Expr} {root : String} {keys : List Value} (leads : Leads object root keys)
    (key : Literal) (place position : Position) :
    Leads (.field object (.index (.literal key place)) position) root (keys ++ [key.value])

/-- What reading a path gives if its root stands for this. -/
def Expr.follow (value : Value) : Expr → Except RuntimeError Value
  | .field object (.name v) position => do
    let o ← object.follow value
    o.readName v.name position
  | .field object (.index (.literal key _)) position => do
    let o ← object.follow value
    o.readIndex key.value position
  | _ => .ok value

variable {calls : Calls} {path object : Expr} {root : String} {keys : List Value}

theorem Except.bind_eq_ok_iff {ε α β : Type} {outcome : Except ε α} {f : α → Except ε β} {b : β} :
    (outcome >>= f) = .ok b ↔ ∃ a, outcome = .ok a ∧ f a = .ok b := by
  cases outcome with
  | ok a =>
    constructor
    · intro h
      exact ⟨a, rfl, h⟩
    · rintro ⟨_, heq, h⟩
      cases heq
      exact h
  | error e =>
    constructor
    · intro h
      cases h
    · rintro ⟨_, heq, _⟩
      cases heq

/-- Following a path gives the part to which its keys lead. -/
theorem Expr.Leads.follow_eq_ok_iff (h : path.Leads root keys) {value u : Value} :
    path.follow value = .ok u ↔ value.readAt keys = some u := by
  induction h generalizing u with
  | root v => simp [follow]
  | name leads v position ih =>
    rw [follow, Except.bind_eq_ok_iff, Value.readAt_append, Option.bind_eq_some_iff]
    refine exists_congr fun o => ?_
    rw [ih, Value.readName_eq_ok_iff, Value.readAt_singleton]
  | index leads key place position ih =>
    rw [follow, Except.bind_eq_ok_iff, Value.readAt_append, Option.bind_eq_some_iff]
    refine exists_congr fun o => ?_
    rw [ih, Value.readIndex_eq_ok_iff, Value.readAt_singleton]

/-! ## Reading -/

/-- What the root of a path stands for: nothing, if it is not bound. -/
def Machine.owner (m : Machine) (root : String) : Value :=
  (m.lookup root).getD .nil

theorem Exec.on_ofOutcome_bind {ε α β : Type} (outcome : Except ε α) (f : α → Except ε β)
    (m : Machine) :
    (Exec.ofOutcome outcome >>= fun a => Exec.ofOutcome (f a)).on m = (outcome >>= f, m) := by
  cases outcome <;> rfl

/-- To evaluate a member, the path to its object is followed first. -/
theorem Expr.Leads.on_evalField {m : Machine} (h : object.Leads root keys)
    (hobject : keys ≠ [] → (evalExpr calls object).on m = (object.follow (m.owner root), m))
    (member : Member) (position : Position) :
    (evalExpr calls (.field object member position)).on m =
      (Exec.ofOutcome (object.follow (m.owner root)) >>= fun o =>
        evalMember calls o position member).on m := by
  rw [evalExpr]
  cases h with
  | root v => rfl
  | name _ _ _ | index _ _ _ _ =>
    have hsame := hobject (by simp)
    simp only [asVariable?, Exec.on_bind, hsame, Exec.on_ofOutcome]

/-- Evaluating a path that leads to a member follows it, and leaves the machine as it is. -/
theorem Expr.Leads.on_evalExpr (h : path.Leads root keys) (hkeys : keys ≠ []) (m : Machine) :
    (evalExpr calls path).on m = (path.follow (m.owner root), m) := by
  induction h with
  | root v => exact absurd rfl hkeys
  | name leads v position ih =>
    rw [leads.on_evalField ih, follow]
    simp only [evalMember, Exec.on_ofOutcome_bind]
  | index leads key place position ih =>
    rw [leads.on_evalField ih, follow]
    simp only [evalMember, evalExpr, pure_bind, Exec.on_ofOutcome_bind]

/-- The value in a place is what following the path to it gives. Members of nothing are not looked
for, but they are nothing. -/
theorem Expr.Leads.on_evalPlace (h : path.Leads root keys) (m : Machine) :
    (evalPlace calls path).on m = (path.follow (m.owner root), m) := by
  induction h with
  | root v =>
    rw [evalPlace]
    rfl
  | @name object root _ _ v position ih =>
    have hmember : ∀ o : Value,
        (if o.isNil then pure .nil else evalMember calls o position (.name v)).on m =
          (o.readName v.name position, m) := by
      intro o
      cases o <;> simp [Value.isNil, evalMember, Value.readName]
    rw [evalPlace, Exec.on_bind, ih, follow]
    cases object.follow (m.owner root) with
    | ok o => exact hmember o
    | error e => rfl
  | @index object root _ _ key place position ih =>
    have hmember : ∀ o : Value,
        (if o.isNil then pure .nil
          else evalMember calls o position (.index (.literal key place))).on m =
            (o.readIndex key.value position, m) := by
      intro o
      cases o <;> simp [Value.isNil, evalMember, evalExpr, Value.readIndex]
    rw [evalPlace, Exec.on_bind, ih, follow]
    cases object.follow (m.owner root) with
    | ok o => exact hmember o
    | error e => rfl

/-! ## Storing -/

/-- Storing in the path binds the root to the updated value, or fails and changes nothing. -/
def Expr.Updates (calls : Calls) (path : Expr) (root : String) (keys : List Value) : Prop :=
  ∀ (v : Value) (m : Machine),
    match (m.owner root).updateAt keys v with
    | some new => (evalAssign calls v path).on m = (.ok (), m.assign root new)
    | none => ∃ e, (evalAssign calls v path).on m = (.error e, m)

/-- To store in a member is to store the changed object in the path to it. -/
theorem Expr.Updates.member {member : Member} {position : Position} {key : Value}
    (h : object.Updates calls root keys) (leads : object.Leads root keys)
    (hwrite : ∀ o v m, (evalWrite calls o v position member).on m = (o.write key v position, m)) :
    (Expr.field object member position).Updates calls root (keys ++ [key]) := by
  intro v m
  rw [evalAssign, Exec.on_bind, leads.on_evalPlace, Value.updateAt_append]
  cases hfollow : object.follow (m.owner root) with
  | error e =>
    have hnone : (m.owner root).readAt keys = none := by
      refine Option.eq_none_iff_forall_ne_some.mpr fun o ho => ?_
      rw [leads.follow_eq_ok_iff.mpr ho] at hfollow
      cases hfollow
    rw [hnone]
    exact ⟨e, rfl⟩
  | ok o =>
    rw [leads.follow_eq_ok_iff.mp hfollow, Option.bind_some, Value.updateAt_singleton]
    simp only [Exec.on_bind, hwrite]
    cases hwritten : o.write key v position with
    | error e =>
      have hnone : o.put? key v = none := by
        refine Option.eq_none_iff_forall_ne_some.mpr fun new hnew => ?_
        rw [Value.write_eq_ok_iff.mpr hnew] at hwritten
        cases hwritten
      rw [hnone]
      exact ⟨e, rfl⟩
    | ok new =>
      rw [Value.write_eq_ok_iff.mp hwritten]
      exact h new m

theorem Expr.Leads.updates (h : path.Leads root keys) (calls : Calls) :
    path.Updates calls root keys := by
  induction h with
  | root v =>
    intro u m
    rw [Value.updateAt_nil, evalAssign]
    rfl
  | name leads v position ih =>
    refine ih.member leads ?_
    intro o u m
    rw [evalWrite, Exec.on_ofOutcome]
  | index leads key place position ih =>
    refine ih.member leads ?_
    intro o u m
    rw [evalWrite, evalExpr, pure_bind, Exec.on_ofOutcome]

/-! ## Behind an update -/

/-- A path that leaves the updated one at another key of the same kind can be followed as before,
with the same outcome. -/
theorem Expr.Leads.follow_updateAt {value new v key other : Value} {front rest later : List Value}
    (hnew : value.updateAt (front ++ key :: rest) v = some new) (hne : key ≠ other)
    (hkind : key.kind = other.kind) (h : path.Leads root keys)
    (hkeys : keys = front ++ other :: later) : path.follow new = path.follow value := by
  obtain ⟨before, after, u, hbefore, hafter, hu, hu'⟩ :=
    Value.at?_eq_of_updateAt hnew hne hkind
  induction h generalizing later with
  | root v => simp at hkeys
  | name leads v position ih =>
    rcases later.eq_nil_or_concat with rfl | ⟨init, last, rfl⟩
    · obtain ⟨rfl, hlast⟩ := List.append_inj' hkeys rfl
      cases hlast
      rw [follow, follow, leads.follow_eq_ok_iff.mpr hbefore, leads.follow_eq_ok_iff.mpr hafter]
      exact (Value.readName_eq_ok_iff.mpr hu').trans (Value.readName_eq_ok_iff.mpr hu).symm
    · rw [List.concat_eq_append, ← List.cons_append, ← List.append_assoc] at hkeys
      obtain ⟨hfront, -⟩ := List.append_inj' hkeys rfl
      rw [follow, follow, ih hfront]
  | index leads key place position ih =>
    rcases later.eq_nil_or_concat with rfl | ⟨init, last, rfl⟩
    · obtain ⟨rfl, hlast⟩ := List.append_inj' hkeys rfl
      cases hlast
      rw [follow, follow, leads.follow_eq_ok_iff.mpr hbefore, leads.follow_eq_ok_iff.mpr hafter]
      exact (Value.readIndex_eq_ok_iff.mpr hu').trans (Value.readIndex_eq_ok_iff.mpr hu).symm
    · rw [List.concat_eq_append, ← List.cons_append, ← List.append_assoc] at hkeys
      obtain ⟨hfront, -⟩ := List.append_inj' hkeys rfl
      rw [follow, follow, ih hfront]

/-- A path is its root alone or leads to a member. -/
theorem Expr.Leads.root_or_member (h : path.Leads root keys) :
    (∃ x : Variable, path = .var x ∧ root = x.name ∧ keys = []) ∨ keys ≠ [] := by
  cases h with
  | root x => exact .inl ⟨x, rfl, rfl, rfl⟩
  | name _ _ _ => exact .inr (by simp)
  | index _ _ _ _ => exact .inr (by simp)

theorem on_evalExpr_root {x : Variable} {m : Machine} {u : Value}
    (h : m.lookup x.name = some u) : (evalExpr calls (.var x)).on m = (.ok u, m) := by
  rw [evalExpr, evalVariable, Exec.on_bind, Exec.on_observe, h]
  rfl

/-- Evaluating a path gives a list if the keys lead to one. The path may be the root alone, which
then has to be bound. -/
theorem Expr.Leads.on_evalExpr_list (h : path.Leads root keys) {m : Machine}
    {items : List Value} :
    (evalExpr calls path).on m = (.ok (.list items), m) ↔
      (m.owner root).readAt keys = some (.list items) := by
  rcases h.root_or_member with ⟨x, rfl, rfl, rfl⟩ | hkeys
  · rw [Machine.owner, Value.readAt_nil]
    cases hfound : m.lookup x.name with
    | some u =>
      rw [on_evalExpr_root hfound]
      simp
    | none =>
      -- A name that is not bound may still stand for a native function, but not for a list.
      rw [evalExpr, evalVariable, Exec.on_bind, Exec.on_observe, hfound]
      show ((Exec.observe fun m => m.natives.find? x.name) >>= _).on m = _ ↔ _
      rw [Exec.on_bind, Exec.on_observe]
      cases m.natives.find? x.name with
      | some n => simp
      | none => simp
  · rw [h.on_evalExpr hkeys, ← h.follow_eq_ok_iff]
    simp

/-- What a machine is like behind an assignment of `v` to the path from a root by these keys, by
which what the root stands for has become `new`. -/
structure Machine.Updated (calls : Calls) (root : String) (keys : List Value) (v new : Value)
    (m m' : Machine) : Prop where
  /-- The innermost scope binds the root, and the other scopes are as before. -/
  bound : m'.stack =
    m.stack.withTop (m.stack.top.withInnermost (m.stack.top.innermost.insert root new))
  /-- Nothing but the stack is changed. -/
  rest : m' = { m with stack := m'.stack }
  /-- The root stands for the updated value. -/
  found : m'.lookup root = some new
  /-- Other names stand for what they stood for before. -/
  others : ∀ name, root ≠ name → m'.lookup name = m.lookup name
  /-- Where there is a scope below the innermost, popping uncovers what was bound there before. -/
  popped : m'.stack.pop? = m.stack.pop?
  /-- The path leads to the assigned value. -/
  read : ∀ path : Expr, path.Leads root keys → (evalExpr calls path).on m' = (.ok v, m')
  /-- Lists on the way keep their length. -/
  lists : ∀ (path : Expr) (front rest : List Value) (key : Value) (items : List Value),
    keys = front ++ key :: rest → path.Leads root front →
      (evalExpr calls path).on m = (.ok (.list items), m) →
        ∃ others : List Value, (evalExpr calls path).on m' = (.ok (.list others), m') ∧
          others.length = items.length
  /-- A path that leaves the assigned one at another key of the same kind reads as before. -/
  apart : ∀ (path : Expr) (front rest later : List Value) (key other : Value),
    keys = front ++ key :: rest → path.Leads root (front ++ other :: later) → key ≠ other →
      key.kind = other.kind →
        ∃ outcome, (evalExpr calls path).on m = (outcome, m) ∧
          (evalExpr calls path).on m' = (outcome, m')

theorem Machine.owner_assign_self (m : Machine) (root : String) (v : Value) :
    (m.assign root v).owner root = v := by
  show ((m.stack.assign root v).find? root).getD .nil = v
  rw [Stack.find?_assign_self]
  rfl

theorem Machine.updated_assign {m : Machine} {v new : Value}
    (hnew : (m.owner root).updateAt keys v = some new) :
    Machine.Updated calls root keys v new m (m.assign root new) where
  bound := congrArg m.stack.withTop (m.stack.top.assign_eq_withInnermost root new)
  rest := rfl
  found := m.stack.find?_assign_self root new
  others _ hne := m.stack.find?_assign_of_ne hne new
  popped := m.stack.pop?_assign root new
  read path hpath := by
    have hread := Value.readAt_updateAt hnew
    rcases hpath.root_or_member with ⟨x, rfl, rfl, rfl⟩ | hkeys
    · obtain rfl : new = v := Option.some.inj hread
      exact on_evalExpr_root (m.stack.find?_assign_self x.name new)
    · rw [hpath.on_evalExpr hkeys, owner_assign_self, hpath.follow_eq_ok_iff.mpr hread]
  lists path front rest key items hkeys hpath hlist := by
    subst hkeys
    rw [hpath.on_evalExpr_list] at hlist
    obtain ⟨others, hothers, hlength⟩ := Value.length_of_updateAt hnew hlist
    refine ⟨others, ?_, hlength⟩
    rw [hpath.on_evalExpr_list, owner_assign_self]
    exact hothers
  apart path front rest later key other hkeys hpath hne hkind := by
    subst hkeys
    refine ⟨path.follow (m.owner root), hpath.on_evalExpr (by simp) m, ?_⟩
    rw [hpath.on_evalExpr (by simp), owner_assign_self,
      hpath.follow_updateAt hnew hne hkind rfl]

/-- Let the right-hand side of an assignment to a path evaluate to `v`. If the update of what the
root of the path then stands for makes no sense, the assignment fails and leaves the machine as the
right-hand side does. Otherwise it binds the root to the updated value in the innermost scope and
changes nothing else, so that the path leads to `v`, lists on the way keep their length, and paths
that leave this one at another key of the same kind read as before. The right-hand side itself
changes no binding on a machine without functions of the host. -/
theorem execute_assign_updates (env : Environment) (nesting left : Nat) {path value : Expr}
    {position : Position} {root : String} {keys : List Value} {v : Value} {m m₁ : Machine}
    (hpath : path.Leads root keys)
    (hvalue : (evalExpr (env.callsWithin nesting left) value).on m = (.ok v, m₁)) :
    let steps := execute (env.callsWithin nesting left) (.assign path value position)
    (m.HostFree → m.Untouched m₁) ∧
    ((m₁.owner root).updateAt keys v = none → ∃ e, steps.on m = (.error e, m₁)) ∧
    ∀ new, (m₁.owner root).updateAt keys v = some new →
      ∃ m', steps.on m = (.ok .normal, m') ∧
        Machine.Updated (env.callsWithin nesting left) root keys v new m₁ m' := by
  intro steps
  have hstore := hpath.updates (env.callsWithin nesting left) v m₁
  have hsteps : steps.on m =
      (evalAssign (env.callsWithin nesting left) v path >>= fun _ => pure .normal).on m₁ := by
    show (execute _ _).on m = _
    rw [execute, Exec.on_bind_ok hvalue]
  refine ⟨?_, ?_, ?_⟩
  · intro hfree
    have huntouched := (env.callsWithin_quiet nesting left).expr value m hfree
    rwa [hvalue] at huntouched
  · intro hnone
    rw [hnone] at hstore
    obtain ⟨e, he⟩ := hstore
    exact ⟨e, by rw [hsteps, Exec.on_bind_error he]⟩
  · intro new hnew
    rw [hnew] at hstore
    refine ⟨m₁.assign root new, ?_, Machine.updated_assign hnew⟩
    rw [hsteps, Exec.on_bind_ok hstore]
    rfl

/-- An assignment in an inner scope to an element of a list that an outer scope binds. -/
theorem execute_assign_updates_of_outer :
    let path : Expr :=
      .field (.field (.var ⟨"r", {}⟩) (.name ⟨"a", {}⟩) {}) (.index (.literal (.int 0) {})) {}
    let m := (Machine.initial ⟨[("r", .map ⟨[("a", .list [.int 1, .int 2])]⟩)]⟩).push
    let calls := Environment.bare.callsWithin 0 0
    ∃ m', (execute calls (.assign path (.literal (.int 5) {}) {})).on m = (.ok .normal, m') ∧
      Machine.Updated calls "r" [.string "a", .int 0] (.int 5)
        (.map ⟨[("a", .list [.int 5, .int 2])]⟩) m m' := by
  intro path m calls
  have hpath : path.Leads "r" [.string "a", .int 0] :=
    .index (.name (.root ⟨"r", {}⟩) ⟨"a", {}⟩ {}) (.int 0) {} {}
  have hvalue : (evalExpr calls (.literal (.int 5) {})).on m = (.ok (.int 5), m) := rfl
  exact (execute_assign_updates .bare 0 0 hpath hvalue).2.2 _ rfl

end Scriptlet
