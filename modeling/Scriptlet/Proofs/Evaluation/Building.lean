import Mathlib.Logic.Function.Basic
import Scriptlet.Interpreter
import Scriptlet.Proofs.Evaluation.Heredity
import Scriptlet.Proofs.Evaluation.Update
import Scriptlet.Proofs.Values.Canonical
import Scriptlet.Proofs.Values.Collections

/-!
# Building mappings

A program builds a mapping step by step: it binds a name to a block that spells the entries, stores
values in members of it, takes the union with another mapping or the difference from one. What such
steps leave under each key is said here without the mapping, by the last value that was written
there (`associationBehind?`). The mapping that the name then stands for has just these entries, in
the order of their keys, whatever the order of the steps. So steps that leave equal values under all
keys build equal mappings (`built_mappings_canonical`).

The invariant of the steps is that the name stands for nothing or for a mapping in which the same is
found as in the association (`Machine.Holds`), while all values that are known are canonical. The
values that are written are those of any expressions. Where these call functions of the host, the
functions must leave the name alone.
-/

namespace Scriptlet

/-! ## Associations -/

/-- What is under each key. -/
abbrev Association := String → Option Value

namespace Association

def empty : Association :=
  fun _ => none

/-- The association with the value under the key, and otherwise as before. -/
def write (f : Association) (key : String) (v : Value) : Association :=
  Function.update f key (some v)

/-- What the second association has under a key counts, and otherwise what the first one has. -/
def union (f g : Association) : Association :=
  fun key => (g key).or (f key)

/-- What the first association has under a key, unless the second has an equal value there. -/
def difference (f g : Association) : Association :=
  fun key => (f key).filter fun v => !(g key).any fun w => w == v

end Association

/-- What comes of two associations by an operator, if it is the union or the difference. -/
def Operator.combine? : Operator → Option (Association → Association → Association)
  | .add => some Association.union
  | .sub => some Association.difference
  | _ => none

/-- What is under the keys of a mapping; nothing else is an association. -/
def Value.association? : Value → Option Association
  | .map entries => some entries.find?
  | _ => none

/-! ## What steps associate -/

section Steps

variable (calls : Calls)

/-- The value of an expression, unless it fails. -/
def Expr.value? (e : Expr) (m : Machine) : Option Value :=
  ((evalExpr calls e).on m).1.toOption

/-- The machine behind an expression. -/
def Expr.behind (e : Expr) (m : Machine) : Machine :=
  ((evalExpr calls e).on m).2

/-- What the entries of a block write, one after another. -/
def entriesAssociation? (f : Association) : List Statement → Machine → Option Association
  | [], _ => some f
  | .assign (.var key) e _ :: rest, m => do
    let v ← e.value? calls m
    entriesAssociation? (f.write key.name v) rest (e.behind calls m)
  | .newLine _ :: rest, m => entriesAssociation? f rest m
  | .comment _ :: rest, m => entriesAssociation? f rest m
  | _ :: _, _ => none

/-- What an expression associates, if its value is a mapping, where `f` is what the mapping has that
`root` stands for. -/
def Expr.association? (root : String) (f : Association) : Expr → Machine → Option Association
  | .var v, m =>
    if v.name = root then if (m.owner root).isNil then none else some f
    else ((Expr.var v).value? calls m).bind Value.association?
  | .block ⟨statements, _⟩, m => entriesAssociation? calls .empty statements m
  | .binary left o right _, m => do
    let combine ← o.combine?
    let g ← left.association? root f m
    let h ← right.association? root f (left.behind calls m)
    some (combine g h)
  | e, m => (e.value? calls m).bind Value.association?

/-- What a step leaves of the association `f`: an assignment of a mapping, or an assignment to a
member. -/
def Statement.association? (root : String) (f : Association) :
    Statement → Machine → Option Association
  | .assign (.var v) e _, m => if v.name = root then e.association? calls root f m else none
  | .assign (.field (.var v) (.name key) _) e _, m =>
    if v.name = root then (e.value? calls m).map (f.write key.name) else none
  | .assign (.field (.var v) (.index key) _) e _, m =>
    if v.name = root then do
      let u ← e.value? calls m
      match ← key.value? calls (e.behind calls m) with
      | .string key => some (f.write key u)
      | _ => none
    else none
  | .newLine _, _ => some f
  | .comment _, _ => some f
  | _, _ => none

/-- What a sequence of steps leaves. -/
def associationBehind? (root : String) (f : Association) :
    List Statement → Machine → Option Association
  | [], _ => some f
  | s :: rest, m => do
    let m := m.record (.statement s.position.line)
    let g ← s.association? calls root f m
    associationBehind? root g rest ((execute calls s).on m).2

end Steps

/-- The expression of an entry in a block that spells a mapping. -/
def Statement.entry? : Statement → Option Expr
  | .assign (.var _) e _ => some e
  | _ => none

/-- The expressions of a mapping that are evaluated on their own. -/
def Expr.operands : Expr → List Expr
  | .var _ => []
  | .block ⟨statements, _⟩ => statements.filterMap Statement.entry?
  | .binary left _ right _ => left.operands ++ right.operands
  | e => [e]

/-- The expressions of a step that are evaluated on their own. -/
def Statement.operands : Statement → List Expr
  | .assign (.var _) e _ => e.operands
  | .assign (.field (.var _) (.index key) _) e _ => [e, key]
  | .assign _ e _ => [e]
  | _ => []

/-! ## What is found -/

theorem Mapping.find?_insert_eq_write (m : Mapping Value) (key : String) (v : Value) :
    (m.insert key v).find? = Association.write m.find? key v := by
  funext other
  by_cases hkey : other = key
  · rw [hkey, m.find?_insert_self]
    exact (Function.update_self key (some v) m.find?).symm
  · rw [m.find?_insert_of_ne (Ne.symm hkey)]
    exact (Function.update_of_ne hkey (some v) m.find?).symm

theorem Operator.apply_of_combine? {o : Operator}
    {combine : Association → Association → Association} (ho : o.combine? = some combine)
    {a b : Mapping Value} (ha : a.Ordered) (hb : b.Ordered) (position : Position) :
    ∃ entries, o.apply (.map a) (.map b) position = .ok (.map entries) ∧
      entries.find? = combine a.find? b.find? := by
  cases o with
  | add =>
    cases ho
    exact ⟨a.union b, Value.add_map_gives a b position, funext (hb.find?_union a)⟩
  | sub =>
    cases ho
    exact ⟨Value.withoutEntries a b, Value.sub_map_gives a b position,
      funext (Value.find?_withoutEntries ha b)⟩
  | _ => cases ho

theorem Value.association?_eq_some_iff {v : Value} {f : Association} :
    v.association? = some f ↔ ∃ entries, v = .map entries ∧ entries.find? = f := by
  cases v <;> simp [association?]

/-- The name stands for a mapping in which this is found. -/
def Machine.Maps (m : Machine) (root : String) (f : Association) : Prop :=
  ∃ entries, m.lookup root = some (.map entries) ∧ entries.find? = f

/-- The name stands for nothing yet, or for a mapping in which this is found. -/
def Machine.Holds (m : Machine) (root : String) (f : Association) : Prop :=
  m.owner root = .nil ∧ f = .empty ∨ m.Maps root f

theorem Machine.maps_assign (m : Machine) (root : String) (entries : Mapping Value) :
    (m.assign root (.map entries)).Maps root entries.find? :=
  ⟨entries, m.stack.find?_assign_self root _, rfl⟩

namespace Machine.Holds

variable {m n : Machine} {root : String} {f : Association}

theorem congr (h : m.Holds root f) (hsame : n.lookup root = m.lookup root) : n.Holds root f := by
  rwa [Holds, Maps, owner, hsame]

/-- Storing under a key gives a mapping in any case. -/
theorem write (h : m.Holds root f) (key : String) (v : Value) (place : Position) :
    ∃ entries, (m.owner root).write (.string key) v place = .ok (.map entries) ∧
      entries.find? = f.write key v := by
  rcases h with ⟨hnil, rfl⟩ | ⟨entries, hentries, rfl⟩
  · rw [hnil]
    exact ⟨_, rfl, Mapping.find?_insert_eq_write _ key v⟩
  · rw [owner, hentries]
    exact ⟨_, rfl, entries.find?_insert_eq_write key v⟩

end Machine.Holds

variable {calls : Calls} {P : Value → Prop} {root : String} {es : List Expr}

theorem Expr.value?_eq_some_iff {e : Expr} {m : Machine} {v : Value} :
    e.value? calls m = some v ↔ (evalExpr calls e).on m = (.ok v, e.behind calls m) := by
  unfold value? behind
  rcases (evalExpr calls e).on m with ⟨_ | u, n⟩ <;> simp [Except.toOption]

theorem Expr.value?_of_on {e : Expr} {m n : Machine} {v : Value}
    (h : (evalExpr calls e).on m = (.ok v, n)) :
    e.value? calls m = some v ∧ e.behind calls m = n := by
  rw [value?, behind, h]
  exact ⟨rfl, rfl⟩

/-- Calls that keep a property which makes values canonical, while the expressions leave alone what
the name stands for. -/
structure Sparing (calls : Calls) (P : Value → Prop) (root : String) (es : List Expr) : Prop where
  keep : calls.Keep P
  canonical : ∀ {v}, P v → v.Canonical
  lookup : ∀ {e m}, e ∈ es → m.All P → (e.behind calls m).lookup root = m.lookup root

theorem on_evalVariable_snd (v : Variable) (m : Machine) : ((evalVariable v).on m).2 = m := by
  unfold evalVariable
  rw [Exec.on_bind_ok (Exec.on_observe _ m)]
  cases m.lookup v.name with
  | some u => rfl
  | none =>
    dsimp only
    rw [Exec.on_bind_ok (Exec.on_observe _ m)]
    cases m.natives.find? v.name <;> rfl

namespace Sparing

section

variable (h : Sparing calls P root es)
include h

theorem behind_all {m : Machine} (e : Expr) (hm : m.All P) : (e.behind calls m).All P :=
  (h.keep.evalExpr_keeps e m hm).1

theorem value {m : Machine} {e : Expr} {v : Value} (hm : m.All P)
    (hv : e.value? calls m = some v) : P v :=
  (h.keep.evalExpr_keeps e m hm).2 v (congrArg Prod.fst (Expr.value?_eq_some_iff.mp hv))

theorem ordered {entries : Mapping Value} (hentries : P (.map entries)) : entries.Ordered :=
  (Value.canonical_map.mp (h.canonical hentries)).1

theorem on_evalEntries {statements : List Statement}
    (hes : ∀ e ∈ statements.filterMap Statement.entry?, e ∈ es) {m : Machine} (hm : m.All P)
    {entries : Mapping Value} {f g : Association} (hentries : entries.find? = f)
    (hg : entriesAssociation? calls f statements m = some g) :
    ∃ built n, (evalEntries calls entries statements).on m = (.ok built, n) ∧ built.find? = g ∧
      n.lookup root = m.lookup root := by
  induction statements generalizing m entries f with
  | nil =>
    rw [entriesAssociation?] at hg
    cases hg
    rw [evalEntries]
    exact ⟨entries, m, rfl, hentries, rfl⟩
  | cons s rest ih =>
    cases s with
    | newLine _ | comment _ =>
      rw [entriesAssociation?] at hg
      rw [evalEntries]
      exact ih hes hm hentries hg
    | assign target e position =>
      cases target with
      | var key =>
        obtain ⟨he, hrest⟩ := List.forall_mem_cons.mp hes
        rw [entriesAssociation?] at hg
        obtain ⟨v, hv, hg⟩ := Option.bind_eq_some_iff.mp hg
        have hfound : (entries.insert key.name v).find? = f.write key.name v := by
          rw [entries.find?_insert_eq_write, hentries]
        obtain ⟨built, n, hbuilt, hfound, hsame⟩ := ih hrest (h.behind_all e hm) hfound hg
        refine ⟨built, n, ?_, hfound, hsame.trans (h.lookup he hm)⟩
        rw [evalEntries, Exec.on_bind_ok (Expr.value?_eq_some_iff.mp hv), hbuilt]
      | _ => simp [entriesAssociation?] at hg
    | _ => simp [entriesAssociation?] at hg

end

/-- The value of an expression is the mapping that it associates. -/
theorem value?_eq_some (h : Sparing calls P root es) {f : Association} :
    ∀ {e : Expr} {m : Machine} {g : Association}, (∀ o ∈ e.operands, o ∈ es) → m.All P →
      m.Holds root f → e.association? calls root f m = some g →
      ∃ entries, e.value? calls m = some (.map entries) ∧ entries.find? = g ∧
        (e.behind calls m).lookup root = m.lookup root
  | .var v, m, g, _, _, hf, hg => by
    have hsame : ((Expr.var v).behind calls m).lookup root = m.lookup root := by
      rw [Expr.behind, evalExpr, on_evalVariable_snd]
    rw [Expr.association?] at hg
    split at hg
    · rename_i hname
      rcases hf with ⟨hnil, -⟩ | ⟨entries, hentries, hfound⟩
      · rw [hnil] at hg
        cases hg
      · rw [Machine.owner, hentries] at hg
        cases hg
        have hon : (evalExpr calls (.var v)).on m = (.ok (.map entries), m) :=
          on_evalExpr_root (hname ▸ hentries)
        exact ⟨entries, (Expr.value?_of_on hon).1, hfound, hsame⟩
    · obtain ⟨u, hu, hassociation⟩ := Option.bind_eq_some_iff.mp hg
      obtain ⟨entries, rfl, hfound⟩ := Value.association?_eq_some_iff.mp hassociation
      exact ⟨entries, hu, hfound, hsame⟩
  | .block ⟨statements, position⟩, m, g, hes, hm, hf, hg => by
    obtain ⟨built, n, hbuilt, hfound, hsame⟩ :=
      h.on_evalEntries hes hm (funext Mapping.find?_empty) hg
    have hon : (evalExpr calls (.block ⟨statements, position⟩)).on m = (.ok (.map built), n) := by
      rw [evalExpr, Exec.on_bind_ok hbuilt]
      rfl
    obtain ⟨hvalue, hbehind⟩ := Expr.value?_of_on hon
    exact ⟨built, hvalue, hfound, hbehind ▸ hsame⟩
  | .binary left o right position, m, g, hes, hm, hf, hg => by
    rw [Expr.association?] at hg
    obtain ⟨combine, ho, hg⟩ := Option.bind_eq_some_iff.mp hg
    obtain ⟨g₁, hg₁, hg⟩ := Option.bind_eq_some_iff.mp hg
    obtain ⟨g₂, hg₂, hg⟩ := Option.bind_eq_some_iff.mp hg
    cases hg
    obtain ⟨hleft, hright⟩ := List.forall_mem_append.mp hes
    have hm' := h.behind_all left hm
    obtain ⟨a, ha, rfl, hsame⟩ := h.value?_eq_some hleft hm hf hg₁
    obtain ⟨b, hb, rfl, hsame'⟩ := h.value?_eq_some hright hm' (hf.congr hsame) hg₂
    obtain ⟨entries, hentries, hfound⟩ := Operator.apply_of_combine? ho
      (h.ordered (h.value hm ha)) (h.ordered (h.value hm' hb)) position
    have hon : (evalExpr calls (.binary left o right position)).on m =
        (.ok (.map entries), right.behind calls (left.behind calls m)) := by
      rw [evalExpr, Exec.on_bind_ok (Expr.value?_eq_some_iff.mp ha),
        Exec.on_bind_ok (Expr.value?_eq_some_iff.mp hb), hentries]
      rfl
    obtain ⟨hvalue, hbehind⟩ := Expr.value?_of_on hon
    exact ⟨entries, hvalue, hfound, hbehind ▸ hsame'.trans hsame⟩
  | .literal .., m, g, hes, hm, hf, hg | .list .., m, g, hes, hm, hf, hg
  | .call _, m, g, hes, hm, hf, hg | .field .., m, g, hes, hm, hf, hg => by
    obtain ⟨v, hv, hassociation⟩ := Option.bind_eq_some_iff.mp hg
    obtain ⟨entries, rfl, hfound⟩ := Value.association?_eq_some_iff.mp hassociation
    exact ⟨entries, hv, hfound, h.lookup (hes _ List.mem_cons_self) hm⟩

/-- An assignment to a member, whose key is `key` on the machine behind the value. -/
theorem on_execute_member {v : Variable} (h : Sparing calls P v.name es) {m n : Machine}
    {f : Association} {e : Expr} {u : Value} {key : String} (member : Member)
    (place : Position) {position : Position} (he : e ∈ es) (hm : m.All P)
    (hf : m.Holds v.name f) (hu : e.value? calls m = some u)
    (hkey : ∀ object, (evalWrite calls object u place member).on (e.behind calls m) =
      (object.write (.string key) u place, n)) :
    ∃ n, (execute calls (.assign (.field (.var v) member place) e position)).on m =
      (.ok .normal, n) ∧ n.Maps v.name (f.write key u) := by
  obtain ⟨entries, hentries, hfound⟩ := (hf.congr (h.lookup he hm)).write key u place
  have hplace : (evalPlace calls (.var v)).on (e.behind calls m) =
      (.ok ((e.behind calls m).owner v.name), e.behind calls m) := by
    rw [evalPlace]
    rfl
  refine ⟨n.assign v.name (.map entries), ?_, hfound ▸ n.maps_assign v.name entries⟩
  rw [execute, Exec.on_bind_ok (Expr.value?_eq_some_iff.mp hu), evalAssign, bind_assoc,
    Exec.on_bind_ok hplace, bind_assoc, Exec.on_bind_ok ((hkey _).trans (by rw [hentries])),
    evalAssign]
  rfl

/-- A statement leads to what it associates, if it is a step; otherwise it does nothing. -/
theorem on_execute (h : Sparing calls P root es) {s : Statement} {m : Machine} {f g : Association}
    (hes : ∀ o ∈ s.operands, o ∈ es) (hm : m.All P) (hf : m.Holds root f)
    (hg : s.association? calls root f m = some g) :
    ∃ n, (execute calls s).on m = (.ok .normal, n) ∧
      (s.isTrivia = true ∧ n = m ∧ g = f ∨ n.Maps root g) := by
  unfold Statement.association? at hg
  split at hg
  case h_1 v e position =>
    obtain ⟨rfl, hstep⟩ := Option.ite_none_right_eq_some.mp hg
    obtain ⟨entries, hvalue, rfl, -⟩ := h.value?_eq_some hes hm hf hstep
    refine ⟨(e.behind calls m).assign v.name (.map entries), ?_, .inr (Machine.maps_assign ..)⟩
    rw [execute, Exec.on_bind_ok (Expr.value?_eq_some_iff.mp hvalue), evalAssign]
    rfl
  case h_2 v key place e position =>
    obtain ⟨rfl, hstep⟩ := Option.ite_none_right_eq_some.mp hg
    obtain ⟨u, hu, rfl⟩ := Option.map_eq_some_iff.mp hstep
    obtain ⟨n, hn, hmaps⟩ := h.on_execute_member (.name key) place
      (hes e List.mem_cons_self) hm hf hu fun object => by
        rw [evalWrite]
        rfl
    exact ⟨n, hn, .inr hmaps⟩
  case h_3 v key place e position =>
    obtain ⟨rfl, hstep⟩ := Option.ite_none_right_eq_some.mp hg
    obtain ⟨u, hu, hstep⟩ := Option.bind_eq_some_iff.mp hstep
    obtain ⟨k, hk, hstep⟩ := Option.bind_eq_some_iff.mp hstep
    split at hstep
    case h_1 key' =>
      cases hstep
      obtain ⟨n, hn, hmaps⟩ := h.on_execute_member (.index key) place
        (hes e List.mem_cons_self) hm hf hu fun object => by
          rw [evalWrite, Exec.on_bind_ok (Expr.value?_eq_some_iff.mp hk)]
          rfl
      exact ⟨n, hn, .inr hmaps⟩
    case h_2 => cases hstep
  case h_4 | h_5 =>
    cases hg
    exact ⟨m, by rw [execute]; rfl, .inl ⟨rfl, rfl, rfl⟩⟩
  case h_6 => cases hg

/-- Steps lead to what they associate: by induction on the steps. -/
theorem on_evalStatements (h : Sparing calls P root es) {ss : List Statement} {m : Machine}
    {f g : Association} (hes : ∀ s ∈ ss, ∀ o ∈ s.operands, o ∈ es) (hm : m.All P)
    (hf : m.Holds root f) (hg : associationBehind? calls root f ss m = some g) :
    ∃ n, (evalStatements calls ss).on m = (.ok .normal, n) ∧ n.Holds root g ∧
      (m.Maps root f ∨ (∃ s ∈ ss, s.isTrivia = false) → n.Maps root g) := by
  induction ss generalizing m f with
  | nil =>
    rw [associationBehind?] at hg
    cases hg
    rw [evalStatements]
    exact ⟨m, rfl, hf, fun hmaps => hmaps.resolve_right (by simp)⟩
  | cons s rest ih =>
    obtain ⟨hs, hrest⟩ := List.forall_mem_cons.mp hes
    rw [associationBehind?] at hg
    obtain ⟨f', hf', hg⟩ := Option.bind_eq_some_iff.mp hg
    have hm' : (m.record (.statement s.position.line)).All P := hm.record _
    obtain ⟨k, hk, hstep⟩ := h.on_execute hs hm' (hf.congr rfl) hf'
    have hall := (h.keep.execute_keeps s _ hm').1
    rw [hk] at hg hall
    have hholds : k.Holds root f' := by
      rcases hstep with ⟨-, rfl, rfl⟩ | hmaps
      · exact hf.congr rfl
      · exact .inr hmaps
    obtain ⟨n, hn, hg, hmaps⟩ := ih hrest hall hholds hg
    refine ⟨n, ?_, hg, fun hwritten => hmaps ?_⟩
    · rw [evalStatements, Exec.on_bind_ok (Exec.on_record _ m), Exec.on_bind_ok hk]
      exact hn
    · -- The mapping was there before, or this step or a later one makes it.
      rcases hstep with ⟨htrivia, rfl, rfl⟩ | hmaps
      · refine hwritten.imp id fun ⟨t, ht, hstep⟩ => ⟨t, ?_, hstep⟩
        refine (List.mem_cons.mp ht).resolve_left fun heq => ?_
        rw [heq, htrivia] at hstep
        cases hstep
      · exact .inl hmaps

end Sparing

/-! ## Canonical values in runs -/

theorem Machine.hostFree_iff {m : Machine} : m.HostFree ↔ m.All (·.Within .builtin) := by
  constructor
  · exact fun h => ⟨h.bound, fun hn => Value.within_native.mpr (h.natives hn)⟩
  · exact fun h => ⟨fun hn => Value.within_native.mp (h.natives hn),
      ⟨h.bound.base.bottom, h.bound.base.above⟩,
      fun f hf => ⟨(h.bound.frames f hf).bottom, (h.bound.frames f hf).above⟩⟩

theorem Machine.All.canonical_initial {globals : Scope}
    (h : ∀ e ∈ globals.entries, e.2.Canonical) : (Machine.initial globals).All Value.Canonical := by
  refine ⟨⟨⟨h, fun _ hs => nomatch hs⟩, fun _ hf => nomatch hf⟩, fun hn => ?_⟩
  obtain ⟨b, rfl⟩ := isBuiltin_of_find?_builtins hn
  exact Value.canonical_builtin

namespace Environment

variable {env : Environment}

theorem keep_canonical (henv : env.Offers Value.Canonical) : env.calls.Keep Value.Canonical :=
  env.callsWithin_keep ⟨Value.hereditary_canonical, fun _ => Value.canonical_function⟩ henv _ _

/-- Without functions of the host, nothing needs to be known about what they bring in. -/
theorem keep_plain (env : Environment) :
    env.calls.Keep fun v => v.Within .builtin ∧ v.Canonical := by
  have hlasting : Value.Lasting fun v => v.Within .builtin ∧ v.Canonical :=
    ⟨Value.hereditary_within.and Value.hereditary_canonical, fun f => by simp [Vocabulary.plain]⟩
  refine env.callsWithin_keep hlasting (fun hn _ => ?_) _ _
  obtain ⟨b, hb⟩ := Value.within_native.mp hn.1
  cases hb

/-- Whatever a program does, and however it ends, all mappings that the machine knows are
ordered. -/
theorem flow_canonical {m : Machine} (hm : m.All Value.Canonical)
    (hhost : m.HostFree ∨ env.Offers Value.Canonical) (statements : List Statement) :
    ((env.flow statements).on m).2.All Value.Canonical := by
  rcases hhost with hfree | henv
  · have hall := (Machine.hostFree_iff.mp hfree).and hm
    exact (env.keep_plain.evalStatements_keeps statements m hall).1.mono fun _ hv => hv.2
  · exact ((keep_canonical henv).evalStatements_keeps statements m hm).1

end Environment

/-! ## Building -/

/-- On `m`, the statements build a mapping that the name stands for, starting from the association
`f₀` and ending with `f`. At least one of them is a step. Functions of the host may take part if
they bring in canonical values only, as all values are at the start, and leave the name alone. -/
structure Building (env : Environment) (root : String) (m : Machine) (f₀ : Association)
    (ss : List Statement) (f : Association) : Prop where
  canonical : m.All Value.Canonical
  start : m.Holds root f₀
  step : ∃ s ∈ ss, s.isTrivia = false
  leaves : associationBehind? env.calls root f₀ ss m = some f
  host : m.HostFree ∨ env.Offers Value.Canonical ∧
    ∀ s ∈ ss, ∀ e ∈ s.operands, ∀ n : Machine, n.All Value.Canonical →
      (e.behind env.calls n).lookup root = n.lookup root

/-- A loop over what the name stands for has a round for each of these pairs, in this order. -/
def Machine.LoopsOver (m : Machine) (name : String) (pairs : List (Value × Value)) : Prop :=
  ∀ (calls : Calls) (index : Option Variable) (item : Variable) (body : List Statement)
    (p q r : Position),
    (execute calls (.loop index item (.var ⟨name, p⟩) ⟨body, q⟩ r)).on m =
      (runLoop index item (evalStatements calls body) pairs).on m

/-- The name stands for the mapping of these entries, which come from the association: one for each
key that has a value there, in the order of the octets of the keys. -/
structure Machine.Builds (m : Machine) (root : String) (f : Association) (entries : Mapping Value) :
    Prop where
  lookup : m.lookup root = some (.map entries)
  octets : entries.keys.Pairwise fun k l => Utf8.encode k.toList < Utf8.encode l.toList
  last : ∀ key v, (key, v) ∈ entries.entries ↔ f key = some v
  loops : m.LoopsOver root (entries.entries.map fun e => (.string e.1, e.2))

theorem Machine.loopsOver {m : Machine} {name : String} {v : Value} {pairs : List (Value × Value)}
    (hv : m.lookup name = some v) (hpairs : v.pairs? = some pairs) : m.LoopsOver name pairs := by
  intro calls index item body p q r
  have hiterable : (evalExpr calls (.var ⟨name, p⟩)).on m = (.ok v, m) := on_evalExpr_root hv
  rw [execute, Exec.on_bind_ok hiterable, hpairs]

theorem Machine.Builds.find?_eq {m : Machine} {root : String} {f : Association}
    {entries : Mapping Value} (h : m.Builds root f entries) (hordered : entries.Ordered)
    (key : String) : entries.find? key = f key :=
  Option.ext fun v => hordered.find?_eq_some_iff.trans (h.last key v)

theorem Building.sparing {env : Environment} {root : String} {m : Machine} {f₀ f : Association}
    {ss : List Statement} (h : Building env root m f₀ ss f) :
    ∃ P, Sparing env.calls P root (ss.flatMap Statement.operands) ∧ m.All P := by
  rcases h.host with hfree | ⟨henv, hspare⟩
  · refine ⟨_, ⟨env.keep_plain, fun hv => hv.2, fun {e k} _ hk => ?_⟩,
      (Machine.hostFree_iff.mp hfree).and h.canonical⟩
    have hfree' : k.HostFree := Machine.hostFree_iff.mpr (hk.mono fun _ hv => hv.1)
    exact (evalExpr_untouched env _ _ e hfree').lookup root
  · refine ⟨_, ⟨Environment.keep_canonical henv, id, fun {e k} he hk => ?_⟩, h.canonical⟩
    obtain ⟨s, hs, he⟩ := List.mem_flatMap.mp he
    exact hspare s hs e he k hk

/-- The steps do not fail, and build what they associate. -/
theorem Building.builds {env : Environment} {root : String} {m : Machine} {f₀ f : Association}
    {ss : List Statement} (h : Building env root m f₀ ss f) :
    ∃ n entries, (env.flow ss).on m = (.ok .normal, n) ∧ n.All Value.Canonical ∧
      n.Builds root f entries ∧ entries.Ordered := by
  obtain ⟨P, hsparing, hm⟩ := h.sparing
  obtain ⟨n, hn, -, hmaps⟩ := hsparing.on_evalStatements
    (fun s hs e he => List.mem_flatMap.mpr ⟨s, hs, he⟩) hm h.start h.leaves
  have hcanonical : n.All Value.Canonical := by
    have hall := Environment.flow_canonical h.canonical (h.host.imp_right And.left) ss
    rwa [Environment.flow, hn] at hall
  obtain ⟨entries, hentries, rfl⟩ := hmaps (.inr h.step)
  have hordered := (Value.canonical_map.mp (hcanonical.lookup hentries)).1
  exact ⟨n, entries, hn, hcanonical, ⟨hentries, hordered.octets,
    fun key v => hordered.find?_eq_some_iff.symm, Machine.loopsOver hentries rfl⟩, hordered⟩

/-- Runs keep all mappings ordered, at any depth and whatever they do. What a sequence of steps
builds, moreover, depends on what it leaves under each key only. The mapping has its entries in the
order of the octets of their keys, one entry for each key, with the value that was written last. Two
sequences that leave equal values under all keys build mappings that are equal, have the same text,
and are gone through by loops in the same order, whatever the order of the steps. -/
theorem built_mappings_canonical {env env' : Environment} {root root' : String} {m m' : Machine}
    {f₀ f f₀' f' : Association} {ss ss' : List Statement} (h : Building env root m f₀ ss f)
    (h' : Building env' root' m' f₀' ss' f') (hsame : ∀ key, (f key == f' key) = true) :
    (∀ (k : Machine) (statements : List Statement), k.All Value.Canonical →
      k.HostFree ∨ env.Offers Value.Canonical →
      ((env.flow statements).on k).2.All Value.Canonical) ∧
    ∃ n n' entries entries', (env.flow ss).on m = (.ok .normal, n) ∧
      (env'.flow ss').on m' = (.ok .normal, n') ∧ n.All Value.Canonical ∧ n'.All Value.Canonical ∧
      n.Builds root f entries ∧ n'.Builds root' f' entries' ∧
      (Value.map entries == Value.map entries') = true ∧
      (Value.map entries).display = (Value.map entries').display ∧
      List.Forall₂ (fun e e' => e.1 = e'.1 ∧ (e.2 == e'.2) = true) entries.entries
        entries'.entries := by
  refine ⟨fun k statements hk hhost => Environment.flow_canonical hk hhost statements, ?_⟩
  obtain ⟨n, entries, hn, hall, hbuilds, hordered⟩ := h.builds
  obtain ⟨n', entries', hn', hall', hbuilds', hordered'⟩ := h'.builds
  have hentries := hordered.forall₂_entries hordered' fun key => by
    rw [hbuilds.find?_eq hordered, hbuilds'.find?_eq hordered']
    exact Value.rel_of_beq (hsame key)
  have heq : (Value.map entries == Value.map entries') = true := Value.map_beq_map_iff.mpr hentries
  exact ⟨n, n', entries, entries', hn, hn', hall, hall', hbuilds, hbuilds', heq,
    Value.equal_display _ heq, hentries⟩

/-- Two ways to build a mapping with a key that is no name: one writes it behind the others and then
takes another away, and the other writes it first, and twice. -/
theorem built_mappings_canonical_of_three_keys :
    let m : Expr := .var ⟨"m", {}⟩
    let int (n : Int64) : Expr := .literal (.int n) {}
    let entry (name : String) (e : Expr) : Statement := .assign (.var ⟨name, {}⟩) e {}
    let member (key : String) : Expr := .field m (.index (.literal (.string key) {})) {}
    let ss : List Statement :=
      [.assign m (.block ⟨[entry "z" (int 1), entry "a" (int 2), entry "z" (int 3)], {}⟩) {},
        .newLine {}, .assign (member "é") (int 4) {},
        .assign (.field m (.name ⟨"b", {}⟩) {}) (int 5) {},
        .assign m (.binary m .sub (.block ⟨[entry "b" (int 5), entry "a" (int 0)], {}⟩) {}) {}]
    let ss' : List Statement :=
      [.assign (member "é") (int 0) {}, .assign (member "é") (int 4) {},
        .assign m (.binary m .add (.block ⟨[entry "z" (int 3), entry "a" (int 2)], {}⟩) {}) {}]
    let start := Machine.initial {}
    let built : Mapping Value := ⟨[("a", .int 2), ("z", .int 3), ("é", .int 4)]⟩
    ∃ n n' entries', (Environment.bare.flow ss).on start = (.ok .normal, n) ∧
      (Environment.bare.flow ss').on start = (.ok .normal, n') ∧
      n.lookup "m" = some (.map built) ∧ n'.lookup "m" = some (.map entries') ∧
      (Value.map built == Value.map entries') = true ∧
      built.keys.Pairwise fun k l => Utf8.encode k.toList < Utf8.encode l.toList := by
  intro m int entry member ss ss' start built
  let f : Association := (((((Association.empty.write "z" (.int 1)).write "a" (.int 2)).write "z"
    (.int 3)).write "é" (.int 4)).write "b" (.int 5)).difference
      ((Association.empty.write "b" (.int 5)).write "a" (.int 0))
  let f' : Association := ((Association.empty.write "é" (.int 0)).write "é" (.int 4)).union
      ((Association.empty.write "z" (.int 3)).write "a" (.int 2))
  have hstart : start.All Value.Canonical := .canonical_initial (by simp)
  have hfree : start.HostFree := .initial (by simp)
  have h : Building .bare "m" start .empty ss f :=
    ⟨hstart, .inl ⟨rfl, rfl⟩, ⟨_, List.mem_cons_self, rfl⟩, rfl, .inl hfree⟩
  have h' : Building .bare "m" start .empty ss' f' :=
    ⟨hstart, .inl ⟨rfl, rfl⟩, ⟨_, List.mem_cons_self, rfl⟩, rfl, .inl hfree⟩
  have hsame : ∀ key, (f key == f' key) = true := by
    intro key
    by_cases hkey : key ∈ ["a", "b", "z", "é"]
    · simp only [List.mem_cons, List.not_mem_nil, or_false] at hkey
      rcases hkey with rfl | rfl | rfl | rfl <;> rfl
    · simp only [List.mem_cons, List.not_mem_nil, or_false, not_or] at hkey
      simp [f, f', Association.write, Association.difference, Association.union, Association.empty,
        hkey]
  obtain ⟨-, n, n', entries, entries', hn, hn', -, -, hbuilds, hbuilds', heq, -⟩ :=
    built_mappings_canonical h h' hsame
  have hrun : (Environment.bare.flow ss).on start =
      (.ok .normal, ((Environment.bare.flow ss).on start).2) := Prod.ext rfl rfl
  obtain rfl : entries = built := by
    have hlookup := hbuilds.lookup
    cases hn.symm.trans hrun
    cases hlookup
    rfl
  exact ⟨n, n', entries', hn, hn', hbuilds.lookup, hbuilds'.lookup, heq, hbuilds.octets⟩

end Scriptlet
