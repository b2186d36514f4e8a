import Scriptlet.Evaluation
import Scriptlet.Proofs.Calls.Sight

/-!
# What an assignment evaluates

To store in a member, an assignment reads the object, changes it, and stores it in the object's own
place, which may be a member again. Each of these rounds starts from the root anew and evaluates the
index expressions on its way. So the index expression of a member is evaluated in the round that
writes the member and in all rounds before it, which read it, and the key that is written need not
be one of those that were read. Only the index expression of the last member is evaluated once
(`execute_assign_evaluates`).
-/

namespace Scriptlet

/-! ## Paths -/

/-- Whether an expression is a variable or leads on from one by names and indexes. -/
def Expr.isPath : Expr → Bool
  | .var _ => true
  | .field object (.name _) _ => object.isPath
  | .field object (.index _) _ => object.isPath
  | _ => false

theorem Expr.isPath_object {object : Expr} {member : Member} {position : Position}
    (h : (Expr.field object member position).isPath = true) : object.isPath = true := by
  cases member with
  | name _ | index _ => exact h
  | call _ => cases h

/-- The variable from which a path leads on. -/
def Expr.root? : Expr → Option Variable
  | .var v => some v
  | .field object _ _ => object.root?
  | _ => none

/-- The object of which a path leads to a member. -/
def Expr.owner : Expr → Expr
  | .field object _ _ => object
  | e => e

def Member.indexes : Member → List Expr
  | .index key => [key]
  | _ => []

/-- The index expressions of a path, from left to right. -/
def Expr.indexes : Expr → List Expr
  | .field object member _ => object.indexes ++ member.indexes
  | _ => []

/-- The index expressions that an assignment evaluates, one after another: those of the path to the
member, and then those that an assignment to the object evaluates. -/
def Expr.writeIndexes : Expr → List Expr
  | .field object member _ => object.indexes ++ member.indexes ++ object.writeIndexes
  | _ => []

theorem Expr.writeIndexes_eq_nil_iff (path : Expr) :
    path.writeIndexes = [] ↔ path.indexes = [] := by
  induction path using writeIndexes.induct with
  | case1 object member position ih =>
    rw [writeIndexes, indexes, List.append_eq_nil_iff, ih]
    simp +contextual
  | case2 path h =>
    cases path with
    | field object member position => exact absurd rfl (h object member position)
    | _ => simp [writeIndexes, indexes]

/-- Each index expression comes once if and only if none is needed to reach the object. -/
theorem Expr.writeIndexes_eq_indexes_iff (path : Expr) :
    path.writeIndexes = path.indexes ↔ path.owner.indexes = [] := by
  cases path with
  | field object member position =>
    rw [writeIndexes, indexes, owner, List.append_right_eq_self, writeIndexes_eq_nil_iff]
  | _ => simp [writeIndexes, indexes, owner]

/-! ## Rounds -/

/-- On this machine, the keys lead from the root of a path to a value: the index expressions of the
path have these keys, up to an object that is not there, if there is one. -/
inductive Expr.Reads (m : Machine) : Expr → List Expr → List Value → Value → Prop
  | root {v : Variable} : Reads m (.var v) [] [] ((m.lookup v.name).getD .nil)
  | absent {object : Expr} {member : Member} {position : Position} {es : List Expr}
    {ks : List Value} (reads : Reads m object es ks .nil) :
    Reads m (.field object member position) es ks .nil
  | name {object : Expr} {v : Variable} {position : Position} {es : List Expr} {ks : List Value}
    {o u : Value} (reads : Reads m object es ks o) (there : o.isNil = false)
    (read : o.readName v.name position = .ok u) : Reads m (.field object (.name v) position) es ks u
  | index {object key : Expr} {position : Position} {es : List Expr} {ks : List Value}
    {o k u : Value} (reads : Reads m object es ks o) (there : o.isNil = false)
    (read : o.readIndex k position = .ok u) :
    Reads m (.field object (.index key) position) (es ++ [key]) (ks ++ [k]) u

/-- What a round of an assignment evaluates, and the object that it changes. -/
structure Round where
  indexes : List Expr
  keys : List Value
  object : Value

/-- The rounds of an assignment, and the machines on which they start and end. In each, the index
expressions are evaluated, and the object is read and written with the keys that they have. -/
inductive Expr.Rounds (calls : Calls) : Expr → Value → Machine → List Round → Machine → Prop
  | root {v : Variable} {value : Value} {m : Machine} :
    Rounds calls (.var v) value m [] (m.assign v.name value)
  | name {object : Expr} {v : Variable} {position : Position} {es : List Expr} {ks : List Value}
    {o value new : Value} {m m₁ m' : Machine} {rounds : List Round}
    (evaluated : (evalExprs calls es).on m = (.ok ks, m₁)) (reads : object.Reads m es ks o)
    (write : o.write (.string v.name) value position = .ok new)
    (rest : Rounds calls object new m₁ rounds m') :
    Rounds calls (.field object (.name v) position) value m (⟨es, ks, o⟩ :: rounds) m'
  | index {object key : Expr} {position : Position} {es : List Expr} {ks : List Value}
    {o k value new : Value} {m m₁ m' : Machine} {rounds : List Round}
    (evaluated : (evalExprs calls (es ++ [key])).on m = (.ok (ks ++ [k]), m₁))
    (reads : object.Reads m es ks o) (write : o.write k value position = .ok new)
    (rest : Rounds calls object new m₁ rounds m') :
    Rounds calls (.field object (.index key) position) value m
      (⟨es ++ [key], ks ++ [k], o⟩ :: rounds) m'

/-! ## Steps that do not fail -/

namespace Exec

variable {ε α β : Type}

theorem of_on_bind_ok {x : Exec ε α} {f : α → Exec ε β} {m m' : Machine} {b : β}
    (h : (x >>= f).on m = (.ok b, m')) :
    ∃ a m₁, x.on m = (.ok a, m₁) ∧ (f a).on m₁ = (.ok b, m') := by
  rw [on_bind] at h
  generalize x.on m = r at h ⊢
  obtain ⟨o, m₁⟩ := r
  cases o with
  | ok a => exact ⟨a, m₁, rfl, h⟩
  | error e => cases h

end Exec

variable {calls : Calls} {m m₁ m' : Machine}

theorem on_evalExprs_cons {e : Expr} {es : List Expr} {v : Value} {vs : List Value}
    (h : (evalExpr calls e).on m = (.ok v, m₁)) (hs : (evalExprs calls es).on m₁ = (.ok vs, m')) :
    (evalExprs calls (e :: es)).on m = (.ok (v :: vs), m') := by
  rw [evalExprs, Exec.on_bind_ok h, Exec.on_bind_ok hs]
  rfl

theorem on_evalExprs_append {es es' : List Expr} {vs vs' : List Value}
    (h : (evalExprs calls es).on m = (.ok vs, m₁))
    (h' : (evalExprs calls es').on m₁ = (.ok vs', m')) :
    (evalExprs calls (es ++ es')).on m = (.ok (vs ++ vs'), m') := by
  induction es generalizing m vs with
  | nil =>
    rw [evalExprs] at h
    cases h
    exact h'
  | cons e es ih =>
    rw [evalExprs] at h
    obtain ⟨v, m₂, hv, h⟩ := Exec.of_on_bind_ok h
    obtain ⟨us, m₃, hus, h⟩ := Exec.of_on_bind_ok h
    cases h
    exact on_evalExprs_cons hv (ih hus)

theorem on_evalExprs_singleton {e : Expr} {v : Value}
    (h : (evalExpr calls e).on m = (.ok v, m')) :
    (evalExprs calls [e]).on m = (.ok [v], m') :=
  on_evalExprs_cons h (by rw [evalExprs]; rfl)

/-! ## Reading -/

/-- Reading a path evaluates its index expressions from left to right, up to an object that is not
there. -/
theorem reads_of_on_evalPlace :
    ∀ {path : Expr} {m m' : Machine} {u : Value}, path.isPath = true →
      (evalPlace calls path).on m = (.ok u, m') →
      ∃ es ks, (evalExprs calls es).on m = (.ok ks, m') ∧ path.Reads m es ks u ∧
        (u.isNil = false → es = path.indexes)
  | .var v, m, m', u, _, h => by
    rw [evalPlace, evalOwner, Exec.on_observe] at h
    cases h
    exact ⟨[], [], by rw [evalExprs]; rfl, .root, fun _ => rfl⟩
  | .field object member position, m, m', u, hpath, h => by
    rw [evalPlace] at h
    obtain ⟨o, m₁, ho, h⟩ := Exec.of_on_bind_ok h
    obtain ⟨es, ks, hes, hreads, hall⟩ := reads_of_on_evalPlace (Expr.isPath_object hpath) ho
    cases hnil : o.isNil with
    | true =>
      -- Nothing is evaluated behind an object that is not there.
      rw [hnil] at h
      cases h
      obtain rfl : o = .nil := by cases o <;> first | rfl | cases hnil
      exact ⟨es, ks, hes, .absent hreads, nofun⟩
    | false =>
      rw [hnil, if_neg Bool.false_ne_true] at h
      cases member with
      | name v =>
        rw [evalMember, Exec.on_ofOutcome] at h
        obtain ⟨hread, rfl⟩ := Prod.mk.inj h
        refine ⟨es, ks, hes, .name hreads hnil hread, fun _ => ?_⟩
        simp [hall hnil, Expr.indexes, Member.indexes]
      | index key =>
        rw [evalMember] at h
        obtain ⟨k, m₂, hk, h⟩ := Exec.of_on_bind_ok h
        obtain ⟨hread, rfl⟩ := Prod.mk.inj h
        refine ⟨es ++ [key], ks ++ [k], on_evalExprs_append hes (on_evalExprs_singleton hk),
          .index hreads hnil hread, fun _ => ?_⟩
        rw [hall hnil, Expr.indexes, Member.indexes]
      | call c => cases hpath

/-! ## Writing -/

/-- Storing in a path takes rounds, of which each evaluates the index expressions of the path to a
member from left to right. -/
theorem rounds_of_on_evalAssign :
    ∀ {path : Expr} {value : Value} {m m' : Machine} {u : Unit}, path.isPath = true →
      (evalAssign calls value path).on m = (.ok u, m') →
      ∃ rounds, path.Rounds calls value m rounds m' ∧
        ((∀ round ∈ rounds, round.object.isNil = false) →
          rounds.flatMap Round.indexes = path.writeIndexes)
  | .var v, value, m, m', u, _, h => by
    rw [evalAssign, Exec.on_update] at h
    cases h
    exact ⟨[], .root, fun _ => rfl⟩
  | .field object member position, value, m, m', u, hpath, h => by
    rw [evalAssign] at h
    obtain ⟨o, m₁, ho, h⟩ := Exec.of_on_bind_ok h
    obtain ⟨new, m₂, hnew, h⟩ := Exec.of_on_bind_ok h
    obtain ⟨es, ks, hes, hreads, hall⟩ := reads_of_on_evalPlace (Expr.isPath_object hpath) ho
    obtain ⟨rounds, hrounds, hrest⟩ := rounds_of_on_evalAssign (Expr.isPath_object hpath) h
    cases member with
    | name v =>
      rw [evalWrite, Exec.on_ofOutcome] at hnew
      obtain ⟨hwrite, rfl⟩ := Prod.mk.inj hnew
      refine ⟨⟨es, ks, o⟩ :: rounds, .name hes hreads hwrite hrounds, fun hthere => ?_⟩
      obtain ⟨ho, hthere⟩ := List.forall_mem_cons.mp hthere
      simp [hrest hthere, hall ho, Expr.writeIndexes, Member.indexes]
    | index key =>
      rw [evalWrite] at hnew
      obtain ⟨k, m₃, hk, hnew⟩ := Exec.of_on_bind_ok hnew
      obtain ⟨hwrite, rfl⟩ := Prod.mk.inj hnew
      have hboth := on_evalExprs_append hes (on_evalExprs_singleton hk)
      refine ⟨⟨es ++ [key], ks ++ [k], o⟩ :: rounds, .index hboth hreads hwrite hrounds,
        fun hthere => ?_⟩
      obtain ⟨ho, hthere⟩ := List.forall_mem_cons.mp hthere
      rw [List.flatMap_cons, hrest hthere, hall ho, Expr.writeIndexes, Member.indexes]
    | call c => cases hpath

/-- Rounds do nothing but evaluate their index expressions, one after another, and bind the root. -/
theorem Expr.Rounds.evaluates {path : Expr} {value : Value} {rounds : List Round}
    (h : path.Rounds calls value m rounds m') :
    ∃ m₁ root new, (evalExprs calls (rounds.flatMap Round.indexes)).on m =
        (.ok (rounds.flatMap Round.keys), m₁) ∧
      path.root? = some root ∧ m' = m₁.assign root.name new := by
  induction h with
  | root => exact ⟨_, _, _, by rw [List.flatMap_nil, evalExprs]; rfl, rfl, rfl⟩
  | name evaluated _ _ _ ih | index evaluated _ _ _ ih =>
    obtain ⟨m₁, root, new, hrest, hroot, hlast⟩ := ih
    exact ⟨m₁, root, new, on_evalExprs_append evaluated hrest, hroot, hlast⟩

/-- An assignment that does not fail evaluates the value first, and then goes through rounds, from
the last member to the first. In a round the index expressions of the path up to the member are
evaluated from left to right, and with these keys the object is read and written, as it stands in
the machine at the start of the round. So all that the assignment shows, and all that it does but
for binding the root, is the evaluation of the value and of these index expressions in this order.
If the objects are there already, the index expressions of all rounds are `writeIndexes`. These are
the index expressions of the path, each once, if and only if the last member is the only one with an
index. -/
theorem execute_assign_evaluates (calls : Calls) {path value : Expr} {position : Position}
    {flow : Flow} (hpath : path.isPath = true)
    (h : (execute calls (.assign path value position)).on m = (.ok flow, m')) :
    ∃ v rounds m₁ m₂ root new, (evalExpr calls value).on m = (.ok v, m₁) ∧
      path.Rounds calls v m₁ rounds m' ∧
      (evalExprs calls (value :: rounds.flatMap Round.indexes)).on m =
        (.ok (v :: rounds.flatMap Round.keys), m₂) ∧
      path.root? = some root ∧ m' = m₂.assign root.name new ∧ m'.events = m₂.events ∧
      ((∀ round ∈ rounds, round.object.isNil = false) →
        rounds.flatMap Round.indexes = path.writeIndexes) ∧
      (path.writeIndexes = path.indexes ↔ path.owner.indexes = []) := by
  rw [execute] at h
  obtain ⟨v, m₁, hv, h⟩ := Exec.of_on_bind_ok h
  obtain ⟨u, m₀, hassign, h⟩ := Exec.of_on_bind_ok h
  cases h
  obtain ⟨rounds, hrounds, hall⟩ := rounds_of_on_evalAssign hpath hassign
  obtain ⟨m₂, root, new, hkeys, hroot, hlast⟩ := hrounds.evaluates
  exact ⟨v, rounds, m₁, m₂, root, new, hv, hrounds, on_evalExprs_cons hv hkeys, hroot, hlast,
    by rw [hlast]; rfl, hall, path.writeIndexes_eq_indexes_iff⟩

/-- The index expression of a member that is not the last is evaluated twice, which shows if it
prints. -/
theorem execute_assign_evaluates_of_nested :
    let say : Function := ⟨"say", [⟨"x", {}⟩],
      ⟨[.expression (.call ⟨"echo", [.var ⟨"x", {}⟩], {}⟩), .exit (some (.var ⟨"x", {}⟩)) {}], {}⟩,
      {}⟩
    let said (text : String) : Expr := .call ⟨"say", [.literal (.string text) {}], {}⟩
    let object : Expr := .field (.var ⟨"m", {}⟩) (.index (said "a")) {}
    let path : Expr := .field object (.index (said "b")) {}
    let m := Machine.initial
      ⟨[("m", .map ⟨[("a", .map ⟨[("b", .int 1)]⟩)]⟩), ("say", .function say)]⟩
    let m' := ((execute Environment.bare.calls (.assign path (.literal (.int 2) {}) {})).on m).2
    path.isPath = true ∧
      (execute Environment.bare.calls (.assign path (.literal (.int 2) {}) {})).on m =
        (.ok .normal, m') ∧
      m'.output = "aba" ∧
      path.writeIndexes = [said "a", said "b", said "a"] ∧
      ∃ m₁ rounds, path.Rounds Environment.bare.calls (.int 2) m₁ rounds m' := by
  intro say said object path m m'
  have hpath : path.isPath = true := rfl
  have hrun : (execute Environment.bare.calls (.assign path (.literal (.int 2) {}) {})).on m =
      (.ok .normal, m') := Prod.ext rfl rfl
  obtain ⟨v, rounds, m₁, m₂, root, new, hv, hrounds, -⟩ :=
    execute_assign_evaluates Environment.bare.calls hpath hrun
  obtain rfl : v = .int 2 := by cases hv; rfl
  exact ⟨hpath, hrun, by decide +kernel, rfl, m₁, rounds, hrounds⟩

end Scriptlet
