import Scriptlet.Proofs.Evaluation.Outcomes
import Scriptlet.Proofs.Evaluation.Update
import Scriptlet.Proofs.Mapping.Order

/-!
# Loops that copy what they go through

A loop takes the elements of its collection before the first round, and each round binds the item
anew. So a program that starts with an empty collection and stores each item as it comes ends with
the collection it went through, and so it does if the statements around the one that stores bind
other names anew: the name of the collection, of the item, of the index (`loops_copy`).

The rounds keep this invariant: the copy holds what the rounds so far have stored
(`Exec.Settles.rounds`). Whatever else is bound must leave the copy alone, and what the storing
statement reads (`Statement.Rebinds`). The values that are bound come from any expressions that
change nothing themselves (`Calm`). If one of these fails, the program ends with its error.
-/

namespace Scriptlet

/-! ## Expressions that change nothing -/

/-- A class of machines on which these expressions change nothing but what has happened. Values of
the vocabulary may be bound without leaving the class, and nothing else is bound there. -/
structure Calm (calls : Calls) (es : List Expr) (w : Vocabulary) (good : Machine → Prop) :
    Prop where
  expr : ∀ {m e}, good m → e ∈ es → m.Untouched ((evalExpr calls e).on m).2
  value : ∀ {m e v}, good m → e ∈ es → ((evalExpr calls e).on m).1 = .ok v → v.Within w
  assign : ∀ {m v} (name : String), good m → v.Within w → good (m.assign name v)
  events : ∀ {m} (events : List Event), good m → good { m with trace := events }
  lookup : ∀ {m name v}, good m → m.lookup name = some v → v.Within w

/-- Expressions that change nothing on any machine. -/
theorem Calm.of_untouched {calls : Calls} {es : List Expr}
    (h : ∀ e ∈ es, ∀ m : Machine, m.Untouched ((evalExpr calls e).on m).2) :
    Calm calls es .full fun _ => True where
  expr _ he := h _ he _
  value _ _ _ := Value.within_full _
  assign _ _ _ := trivial
  events _ _ := trivial
  lookup _ _ := Value.within_full _

/-- Without functions of the host, no expression changes anything. -/
theorem Calm.of_hostFree (env : Environment) (nesting left : Nat) (es : List Expr) :
    Calm (env.callsWithin nesting left) es .builtin Machine.HostFree where
  expr hm _ := (env.callsWithin_quiet nesting left).expr _ _ hm
  value hm _ hv := (env.callsWithin_quiet nesting left).expr_within _ _ hm _ hv
  assign name hm hv := hm.assign name hv
  events _ hm := ⟨hm.natives, hm.base, hm.frames⟩
  lookup hm h := by
    obtain ⟨r, hr, rfl⟩ := Option.map_eq_some_iff.mp h
    exact hm.resolve hr

/-! ## Steps that fail by expressions only -/

/-- The steps fall through and lead to a machine with `Q`, unless one of the expressions fails and
they end with its error. -/
def Exec.Settles (calls : Calls) (es : List Expr) (x : Eval Flow) (m : Machine)
    (Q : Machine → Prop) : Prop :=
  (∃ n, x.on m = (.ok .normal, n) ∧ Q n) ∨
    ∃ e ∈ es, ∃ n error, ((evalExpr calls e).on n).1 = .error error ∧ (x.on m).1 = .error error

namespace Exec.Settles

variable {calls : Calls} {es : List Expr} {x : Eval Flow} {f : Flow → Eval Flow} {m : Machine}
variable {P Q : Machine → Prop} {s : Statement} {rest : List Statement}

theorem mono (h : Settles calls es x m P) (hPQ : ∀ n, P n → Q n) : Settles calls es x m Q := by
  rcases h with ⟨n, hn, hP⟩ | hfails
  · exact .inl ⟨n, hn, hPQ n hP⟩
  · exact .inr hfails

/-- Steps that lead to further ones. -/
theorem after {α : Type} {y : Eval α} {g : α → Eval Flow} {a : α} {n : Machine}
    (hy : y.on m = (.ok a, n)) (hg : Settles calls es (g a) n Q) :
    Settles calls es (y >>= g) m Q := by
  rwa [Settles, on_bind_ok hy]

theorem bind (hx : Settles calls es x m P) (hf : ∀ n, P n → Settles calls es (f .normal) n Q) :
    Settles calls es (x >>= f) m Q := by
  rcases hx with ⟨n, hn, hP⟩ | ⟨e, he, n, error, hfails, herror⟩
  · exact .after hn (hf n hP)
  · have hend : x.on m = (.error error, (x.on m).2) := Prod.ext herror rfl
    exact .inr ⟨e, he, n, error, hfails, by rw [on_bind_error hend]⟩

theorem nil (h : Q m) : Settles calls es (evalStatements calls []) m Q := by
  rw [evalStatements]
  exact .inl ⟨m, rfl, h⟩

theorem cons (hs : Settles calls es (execute calls s) (m.record (.statement s.position.line)) P)
    (hrest : ∀ n, P n → Settles calls es (evalStatements calls rest) n Q) :
    Settles calls es (evalStatements calls (s :: rest)) m Q := by
  rw [evalStatements]
  exact .after (on_record _ m) (hs.bind hrest)

/-- Steps whose end is known. -/
theorem of_ends {n : Machine} (h : x.Ends m (.ok .normal) n)
    (hQ : ∀ events, Q { n with trace := events }) : Settles calls es x m Q := by
  obtain ⟨houtcome, events, hn⟩ := h.on
  exact .inl ⟨_, Prod.ext houtcome hn, hQ events⟩

end Exec.Settles

/-! ## Statements that bind other names anew -/

/-- A statement that does nothing, or binds a name other than these anew, to the value of one of the
expressions. -/
inductive Statement.Rebinds (spared : List String) (es : List Expr) : Statement → Prop
  | trivia {s : Statement} (h : s.isTrivia) : Rebinds spared es s
  | assign {v : Variable} {e : Expr} {p : Position} (hname : v.name ∉ spared) (he : e ∈ es) :
    Rebinds spared es (.assign (.var v) e p)

namespace Calm

variable {calls : Calls} {es : List Expr} {w : Vocabulary} {good : Machine → Prop}
variable (h : Calm calls es w good) {m : Machine}
include h

theorem settles_rebind {s : Statement} {spared : List String} (hs : s.Rebinds spared es)
    (hm : good m) :
    Exec.Settles calls es (execute calls s) m fun n =>
      good n ∧ ∀ name ∈ spared, n.lookup name = m.lookup name := by
  cases hs with
  | trivia htrivia =>
    refine .inl ⟨m, ?_, hm, fun _ _ => rfl⟩
    cases s with
    | newLine _ | comment _ =>
      rw [execute]
      rfl
    | _ => cases htrivia
  | @assign v e p hname he =>
    have huntouched := h.expr hm he
    have hvalue := fun u => h.value (v := u) hm he
    rw [execute]
    cases hend : (evalExpr calls e).on m with
    | mk o n =>
      rw [hend] at huntouched hvalue
      cases o with
      | error error =>
        exact .inr ⟨e, he, m, error, congrArg Prod.fst hend, by rw [Exec.on_bind_error hend]⟩
      | ok u =>
        refine .inl ⟨n.assign v.name u, ?_, ?_, fun name hspared => ?_⟩
        · rw [Exec.on_bind_ok hend, evalAssign]
          rfl
        · obtain ⟨events, rfl⟩ := huntouched
          exact h.assign v.name (h.events _ hm) (hvalue u rfl)
        · have hne : v.name ≠ name := fun heq => hname (heq ▸ hspared)
          exact (n.stack.find?_assign_of_ne hne u).trans (huntouched.lookup name)

/-- What comes behind such statements starts with the spared names as they were. -/
theorem settles_rebinds {ss rest : List Statement} (spared : List String) {Q : Machine → Prop}
    (hss : ∀ s ∈ ss, s.Rebinds spared es) (hm : good m)
    (hrest : ∀ n, good n → (∀ name ∈ spared, n.lookup name = m.lookup name) →
      Exec.Settles calls es (evalStatements calls rest) n Q) :
    Exec.Settles calls es (evalStatements calls (ss ++ rest)) m Q := by
  induction ss generalizing m with
  | nil => exact hrest m hm fun _ _ => rfl
  | cons s ss ih =>
    obtain ⟨hs, hss⟩ := List.forall_mem_cons.mp hss
    refine .cons (h.settles_rebind hs (h.events _ hm)) fun n hn => ?_
    refine ih hss hn.1 fun n' hn' hspared => hrest n' hn' fun name hname => ?_
    exact (hspared name hname).trans (hn.2 name hname)

theorem settles_behind {ss : List Statement} (spared : List String)
    (hss : ∀ s ∈ ss, s.Rebinds spared es) (hm : good m) :
    Exec.Settles calls es (evalStatements calls ss) m fun n =>
      good n ∧ ∀ name ∈ spared, n.lookup name = m.lookup name := by
  have hends := h.settles_rebinds spared hss hm
    (Q := fun n => good n ∧ ∀ name ∈ spared, n.lookup name = m.lookup name)
    fun n hn hkept => .nil ⟨hn, hkept⟩
  rwa [List.append_nil] at hends

/-- The body of a loop in which one statement binds `copy` anew, and the others leave it alone.
Before it they also leave alone what it reads. -/
theorem settles_body {before after : List Statement} {collect : Statement} {copy : String}
    {reads : List String} {v : Value} (hbefore : ∀ s ∈ before, s.Rebinds (copy :: reads) es)
    (hafter : ∀ s ∈ after, s.Rebinds [copy] es) (hm : good m) (hv : v.Within w)
    (hcollect : ∀ n : Machine, (∀ name ∈ copy :: reads, n.lookup name = m.lookup name) →
      (execute calls collect).Ends n (.ok .normal) (n.assign copy v)) :
    Exec.Settles calls es (evalStatements calls (before ++ collect :: after)) m fun n =>
      good n ∧ n.lookup copy = some v := by
  refine h.settles_rebinds (copy :: reads) hbefore hm fun n hn hspared => ?_
  have hcollected : Exec.Settles calls es (execute calls collect)
      (n.record (.statement collect.position.line))
      fun n' => good n' ∧ n'.lookup copy = some v :=
    .of_ends (hcollect (n.record _) hspared) fun events =>
      ⟨h.events events (h.assign copy (h.events _ hn) hv), n.stack.find?_assign_self copy v⟩
  refine .cons hcollected fun n' hn' => (h.settles_behind _ hafter hn'.1).mono fun n'' hn'' => ?_
  exact ⟨hn''.1, (hn''.2 copy List.mem_cons_self).trans hn'.2⟩

end Calm

/-! ## Rounds -/

namespace Machine

variable (m : Machine) (index : Option Variable) {item : Variable} (pair : Value × Value)

theorem lookup_inRound_item : (m.inRound index item pair).lookup item.name = some pair.2 :=
  Stack.find?_assign_self _ _ _

theorem lookup_inRound_index {v : Variable} (hne : item.name ≠ v.name) :
    (m.inRound (some v) item pair).lookup v.name = some pair.1 :=
  (Stack.find?_assign_of_ne _ hne _).trans (Stack.find?_assign_self _ _ _)

/-- A round leaves names alone that are neither the item's nor the index's. -/
theorem lookup_inRound_of_ne {name : String} (hitem : item.name ≠ name)
    (hindex : ∀ v ∈ index, v.name ≠ name) :
    (m.inRound index item pair).lookup name = m.lookup name := by
  refine (Stack.find?_assign_of_ne _ hitem _).trans ?_
  cases index with
  | none => rfl
  | some v => exact Stack.find?_assign_of_ne _ (hindex v rfl) _

end Machine

/-- What holds behind the rounds of a loop, if each round leads from what holds before it to what
holds behind it. -/
theorem Exec.Settles.rounds {calls : Calls} {es : List Expr} {α : Type}
    {I : α → Machine → Prop} {step : α → Value × Value → α} {index : Option Variable}
    {item : Variable} {body : Eval Flow} {pairs : List (Value × Value)}
    (hbody : ∀ a m, ∀ pair ∈ pairs, I a m →
      Exec.Settles calls es body (m.inRound index item pair) (I (step a pair)))
    {a : α} {m : Machine} (ha : I a m) :
    Exec.Settles calls es (runLoop index item body pairs) m (I (pairs.foldl step a)) := by
  induction pairs generalizing m a with
  | nil => exact .inl ⟨m, rfl, ha⟩
  | cons pair rest ih =>
    have hround := (hbody a m pair List.mem_cons_self ha).bind
      (f := Flow.goOn (runLoop index item body rest)) fun n hn =>
        ih (fun a m pair hpair => hbody a m pair (List.mem_cons_of_mem _ hpair)) hn
    rwa [Exec.Settles, ← on_runLoop_cons] at hround

/-! ## Copies -/

/-- The program `copy = init`, and then a loop over what `xs` stands for with this body. Its parts
stand anywhere, and there may be line breaks and comments between and behind the two statements. -/
def copying (p : Nat → Position) (copy xs : String) (init : Expr) (index : Option Variable)
    (item : Variable) (body between behind : List Statement) : Program :=
  .assign (.var ⟨copy, p 0⟩) init (p 1) ::
    (between ++ .loop index item (.var ⟨xs, p 2⟩) ⟨body, p 3⟩ (p 4) :: behind)

/-- The statement `copy = copy + [e]`. -/
def Statement.append (p : Nat → Position) (copy : String) (e : Expr) : Statement :=
  .assign (.var ⟨copy, p 6⟩) (.binary (.var ⟨copy, p 7⟩) .add (.list [e] (p 8)) (p 9)) (p 10)

/-- The statement `copy[key] = item`. -/
def Statement.store (p : Nat → Position) (copy key item : String) : Statement :=
  .assign (.field (.var ⟨copy, p 6⟩) (.index (.var ⟨key, p 7⟩)) (p 8)) (.var ⟨item, p 9⟩) (p 10)

/-- The elements of a list, each with its number before it. -/
def numbered (items : List Value) : List Value :=
  items.zipIdx.map fun p => .list [.int (Int64.ofNat p.2), p.1]

namespace Calm

variable {calls : Calls} {es : List Expr} {w : Vocabulary} {good : Machine → Prop}
variable (h : Calm calls es w good) {m : Machine}
variable {p : Nat → Position} {copy xs : String} {init : Expr} {index : Option Variable}
variable {item : Variable} {body between behind : List Statement}
include h

theorem announced (env : Environment) (hm : good m) : good (env.announced m) := by
  unfold Environment.announced
  split
  · exact h.events _ hm
  · exact hm

theorem inRound (hm : good m) (index : Option Variable) (item : Variable) {pair : Value × Value}
    (hpair : pair.1.Within w ∧ pair.2.Within w) : good (m.inRound index item pair) := by
  refine h.assign item.name ?_ hpair.2
  cases index with
  | none => exact h.events _ hm
  | some v => exact h.assign v.name (h.events _ hm) hpair.1

theorem settles_copying {α : Type} (acc : α → Value) (step : α → Value × Value → α) {a : α}
    {v : Value} {pairs : List (Value × Value)} (hm : good m) (hxs : m.lookup xs = some v)
    (hpairs : v.pairs? = some pairs) (hne : copy ≠ xs)
    (hinit : ∀ n, (evalExpr calls init).Ends n (.ok (acc a)) n) (ha : (acc a).Within w)
    (hbetween : ∀ s ∈ between, s.isTrivia) (hbehind : ∀ s ∈ behind, s.isTrivia)
    (hround : ∀ a n, ∀ pair ∈ pairs, good n ∧ n.lookup copy = some (acc a) →
      Exec.Settles calls es (evalStatements calls body) (n.inRound index item pair) fun n' =>
        good n' ∧ n'.lookup copy = some (acc (step a pair))) :
    Exec.Settles calls es
      (evalStatements calls (copying p copy xs init index item body between behind)) m fun n =>
        n.lookup copy = some (acc (pairs.foldl step a)) := by
  refine .cons (P := fun n => good n ∧ n.lookup xs = some v ∧ n.lookup copy = some (acc a)) ?_ ?_
  · refine .of_ends (.assignName (hinit _)) fun events => ⟨?_, ?_, ?_⟩
    · exact h.events events (h.assign copy (h.events _ hm) ha)
    · exact (m.stack.find?_assign_of_ne hne _).trans hxs
    · exact m.stack.find?_assign_self copy (acc a)
  rintro n ⟨hn, hv, hcopy⟩
  refine h.settles_rebinds [xs, copy] (fun s hs => .trivia (hbetween s hs)) hn ?_
  intro n' hn' hkept
  have hv' : n'.lookup xs = some v := (hkept xs (by simp)).trans hv
  have hcopy' : n'.lookup copy = some (acc a) := (hkept copy (by simp)).trans hcopy
  refine .cons (P := fun n => good n ∧ n.lookup copy = some (acc (pairs.foldl step a))) ?_ ?_
  · have hrounds := Exec.Settles.rounds (m := n'.record (.statement (p 4).line))
      (I := fun a n => good n ∧ n.lookup copy = some (acc a)) hround ⟨h.events _ hn', hcopy'⟩
    have hiterable : (evalExpr calls (.var ⟨xs, p 2⟩)).on (n'.record (.statement (p 4).line)) =
        (.ok v, n'.record (.statement (p 4).line)) := on_evalExpr_root hv'
    rw [execute]
    refine .after hiterable ?_
    rw [hpairs]
    exact hrounds
  · intro n'' hn''
    have hrest := h.settles_behind [copy] (fun s hs => .trivia (hbehind s hs)) hn''.1
    exact hrest.mono fun k hk => (hk.2 copy List.mem_cons_self).trans hn''.2

/-- A loop that appends a value to a list in each round. Before that, the body leaves alone what the
value is read from. -/
theorem settles_appending {f : Value × Value → Value} {e : Expr} {reads : List String} {v : Value}
    {pairs : List (Value × Value)} {before after : List Statement} (hm : good m)
    (hxs : m.lookup xs = some v) (hpairs : v.pairs? = some pairs) (hw : ∀ pair ∈ pairs,
      pair.1.Within w ∧ pair.2.Within w) (hf : ∀ pair ∈ pairs, (f pair).Within w)
    (he : ∀ n k : Machine, ∀ pair,
      (∀ name ∈ reads, n.lookup name = (k.inRound index item pair).lookup name) →
      (evalExpr calls e).Ends n (.ok (f pair)) n)
    (hne : copy ≠ xs) (hitem : item.name ≠ copy) (hindex : ∀ i ∈ index, i.name ≠ copy)
    (hbefore : ∀ s ∈ before, s.Rebinds (copy :: reads) es)
    (hafter : ∀ s ∈ after, s.Rebinds [copy] es)
    (hbetween : ∀ s ∈ between, s.isTrivia) (hbehind : ∀ s ∈ behind, s.isTrivia) :
    Exec.Settles calls es (evalStatements calls (copying p copy xs (.list [] (p 5)) index item
      (before ++ .append p copy e :: after) between behind)) m fun n =>
        n.lookup copy = some (.list (pairs.map f)) := by
  refine .mono (h.settles_copying Value.list (fun a pair => a ++ [f pair]) (a := []) hm hxs hpairs
    hne (fun n => .list .noValues) (by simp) hbetween hbehind ?_) ?_
  · rintro a n pair hpair ⟨hn, hcopy⟩
    refine h.settles_body hbefore hafter (h.inRound hn index item (hw pair hpair)) ?_ ?_
    · have ha : ∀ u ∈ a, u.Within w := Value.within_list.mp (h.lookup hn hcopy)
      rw [Value.within_list]
      intro u hu
      rcases List.mem_append.mp hu with hu | hu
      · exact ha u hu
      · exact List.mem_singleton.mp hu ▸ hf pair hpair
    · intro k hk
      have hround := n.lookup_inRound_of_ne index pair hitem hindex
      have hcopyHere : k.lookup copy = some (.list a) :=
        (hk copy List.mem_cons_self).trans (hround.trans hcopy)
      have hvalue := he k n pair fun name hname => hk name (List.mem_cons_of_mem _ hname)
      have hadd : ∀ q, Operator.add.apply (.list a) (.list [f pair]) q =
          .ok (.list (a ++ [f pair])) := fun _ => rfl
      exact .assignName <| hadd _ ▸ .binary (.var hcopyHere) (.list (.values hvalue .noValues))
  · intro n hn
    rw [hn, List.foldl_append_eq_append, List.nil_append, ← List.flatMap_def,
      ← List.map_eq_flatMap]

/-- A loop that appends the item in each round. -/
theorem settles_list {items : List Value} {before after : List Statement} (hm : good m)
    (hxs : m.lookup xs = some (.list items)) (hne : copy ≠ xs) (hitem : item.name ≠ copy)
    (hindex : ∀ i ∈ index, i.name ≠ copy)
    (hbefore : ∀ s ∈ before, s.Rebinds [copy, item.name] es)
    (hafter : ∀ s ∈ after, s.Rebinds [copy] es)
    (hbetween : ∀ s ∈ between, s.isTrivia) (hbehind : ∀ s ∈ behind, s.isTrivia) :
    Exec.Settles calls es (evalStatements calls (copying p copy xs (.list [] (p 5)) index item
      (before ++ .append p copy (.var ⟨item.name, p 11⟩) :: after) between behind)) m fun n =>
        n.lookup copy = some (.list items) := by
  have hwithin := Value.hereditary_within.pairs? (h.lookup hm hxs) rfl
  have hvalue : ∀ n k : Machine, ∀ pair,
      (∀ name ∈ [item.name], n.lookup name = (k.inRound index item pair).lookup name) →
      (evalExpr calls (.var ⟨item.name, p 11⟩)).Ends n (.ok pair.2) n := fun n k pair hk =>
    .var ((hk _ (by simp)).trans (k.lookup_inRound_item index pair))
  have hall := h.settles_appending (p := p) (f := Prod.snd) hm hxs rfl hwithin
    (fun pair hpair => (hwithin pair hpair).2) hvalue hne hitem hindex hbefore hafter hbetween
    hbehind
  have hitems : items.zipIdx.map (Prod.snd ∘ fun p => (Value.int (Int64.ofNat p.2), p.1)) =
      items := List.zipIdx_map_fst 0 items
  rwa [List.map_map, hitems] at hall

/-- A loop that appends the index together with the item in each round. -/
theorem settles_numbered {i : Variable} {items : List Value} {before after : List Statement}
    (hm : good m) (hxs : m.lookup xs = some (.list items)) (hne : copy ≠ xs)
    (hitem : item.name ≠ copy) (hindex : i.name ≠ copy) (hapart : item.name ≠ i.name)
    (hbefore : ∀ s ∈ before, s.Rebinds [copy, i.name, item.name] es)
    (hafter : ∀ s ∈ after, s.Rebinds [copy] es)
    (hbetween : ∀ s ∈ between, s.isTrivia) (hbehind : ∀ s ∈ behind, s.isTrivia) :
    Exec.Settles calls es (evalStatements calls (copying p copy xs (.list [] (p 5)) (some i) item
      (before ++ .append p copy (.list [.var ⟨i.name, p 11⟩, .var ⟨item.name, p 12⟩] (p 13)) ::
        after) between behind)) m fun n => n.lookup copy = some (.list (numbered items)) := by
  have hwithin := Value.hereditary_within.pairs? (h.lookup hm hxs) rfl
  have hvalue : ∀ n k : Machine, ∀ pair, (∀ name ∈ [i.name, item.name],
      n.lookup name = (k.inRound (some i) item pair).lookup name) →
      (evalExpr calls (.list [.var ⟨i.name, p 11⟩, .var ⟨item.name, p 12⟩] (p 13))).Ends n
        (.ok (.list [pair.1, pair.2])) n := by
    intro n k pair hk
    have hi : (evalExpr calls (.var ⟨i.name, p 11⟩)).Ends n (.ok pair.1) n :=
      .var ((hk _ (by simp)).trans (k.lookup_inRound_index pair hapart))
    have hv : (evalExpr calls (.var ⟨item.name, p 12⟩)).Ends n (.ok pair.2) n :=
      .var ((hk _ (by simp)).trans (k.lookup_inRound_item (some i) pair))
    exact .list (.values hi (.values hv .noValues))
  have hall := h.settles_appending (p := p) (f := fun pair => .list [pair.1, pair.2]) hm hxs rfl
    hwithin (fun pair hpair => by simpa using hwithin pair hpair) hvalue hne hitem
    (by simpa using hindex) hbefore hafter hbetween hbehind
  rwa [List.map_map] at hall

/-- A loop over a mapping that stores each value under its key. -/
theorem settles_storing {key : Variable} {entries : Mapping Value} {before after : List Statement}
    (hm : good m) (hxs : m.lookup xs = some (.map entries)) (hordered : entries.Ordered)
    (hne : copy ≠ xs) (hitem : item.name ≠ copy) (hkey : key.name ≠ copy)
    (hapart : item.name ≠ key.name)
    (hbefore : ∀ s ∈ before, s.Rebinds [copy, key.name, item.name] es)
    (hafter : ∀ s ∈ after, s.Rebinds [copy] es)
    (hbetween : ∀ s ∈ between, s.isTrivia) (hbehind : ∀ s ∈ behind, s.isTrivia) :
    Exec.Settles calls es (evalStatements calls (copying p copy xs (.block ⟨[], p 5⟩) (some key)
      item (before ++ .store p copy key.name item.name :: after) between behind)) m fun n =>
        n.lookup copy = some (.map entries) := by
  have hwithin : ∀ e ∈ entries.entries, e.2.Within w := Value.within_map.mp (h.lookup hm hxs)
  -- The indices are keys, and the text of a key is the key itself.
  refine .mono (h.settles_copying Value.map
    (fun a pair => a.insert pair.1.display pair.2) (a := {}) hm hxs rfl
    hne (fun n => .noEntries) (by simp) hbetween hbehind ?_) ?_
  · rintro a n _ hpair ⟨hn, hcopy⟩
    obtain ⟨e, he, rfl⟩ := List.mem_map.mp hpair
    have ha : ∀ e ∈ a.entries, e.2.Within w := Value.within_map.mp (h.lookup hn hcopy)
    refine h.settles_body hbefore hafter
      (h.inRound hn (some key) item ⟨by simp, hwithin e he⟩) ?_ ?_
    · rw [Value.within_map]
      intro e' he'
      rcases Mapping.mem_insert he' with rfl | he'
      · exact hwithin e he
      · exact ha e' he'
    · intro k hk
      have hcopyHere : k.lookup copy = some (.map a) :=
        (hk copy (by simp)).trans <| (n.lookup_inRound_of_ne (some key) _ hitem
          (by simpa using hkey)).trans hcopy
      have hkeyHere : k.lookup key.name = some (.string e.1) :=
        (hk _ (by simp)).trans (n.lookup_inRound_index _ hapart)
      have hitemHere : k.lookup item.name = some e.2 :=
        (hk _ (by simp)).trans (n.lookup_inRound_item _ _)
      exact .assignIndex (.var hitemHere) hcopyHere (.var hkeyHere) rfl
  · intro n hn
    rw [hn, List.foldl_map]
    exact congrArg (some ∘ Value.map) hordered.empty_union

end Calm

/-- Running the program leaves the name bound to this value, unless one of the expressions fails and
the program ends with its error. -/
def Environment.Leaves (env : Environment) (es : List Expr) (program : Program) (m : Machine)
    (name : String) (v : Value) : Prop :=
  let r := (env.runTree program).on m
  (r.1 = .ok .nil ∧ r.2.lookup name = some v) ∨
    ∃ e ∈ es, ∃ n error, ((evalExpr env.calls e).on n).1 = .error error ∧ r.1 = .error error

theorem Exec.Settles.leaves {env : Environment} {es : List Expr} {program : Program} {m : Machine}
    {name : String} {v : Value}
    (h : Exec.Settles env.calls es (evalStatements env.calls program) (env.announced m) fun n =>
      n.lookup name = some v) : env.Leaves es program m name v := by
  have hrun : (env.runTree program).on m = (runProgram env.calls program).on (env.announced m) :=
    Exec.on_bind_ok (env.on_announce m) _
  rw [Environment.Leaves, hrun]
  rcases h with ⟨n, hn, hv⟩ | ⟨e, he, n, error, hfails, herror⟩
  · rw [runProgram, Exec.on_bind_ok hn]
    exact .inl ⟨rfl, hv⟩
  · have hend : (evalStatements env.calls program).on (env.announced m) =
      (.error error, ((evalStatements env.calls program).on (env.announced m)).2) :=
      Prod.ext herror rfl
    rw [runProgram, Exec.on_bind_error hend]
    exact .inr ⟨e, he, n, error, hfails, rfl⟩

/-- A loop goes through the elements of a collection as it is when the loop starts, each once and in
their order, whatever the body binds anew meanwhile: the items of a list, the items with their
numbers, and the entries of a mapping, whose keys are in order as in every mapping that a program
builds. -/
theorem loops_copy (env : Environment) {es : List Expr} {m : Machine}
    (hcalm : m.HostFree ∨ ∀ e ∈ es, ∀ n : Machine, n.Untouched ((evalExpr env.calls e).on n).2)
    (copy xs : String) (index item : Variable) (before after between behind : List Statement)
    (p : Nat → Position) (hcopy : copy ∉ [xs, index.name, item.name])
    (hapart : item.name ≠ index.name) (hafter : ∀ s ∈ after, s.Rebinds [copy] es)
    (hbetween : ∀ s ∈ between, s.isTrivia) (hbehind : ∀ s ∈ behind, s.isTrivia) :
    (∀ items, m.lookup xs = some (.list items) →
      (∀ number : Option Variable, (∀ v ∈ number, v.name ≠ copy) →
        (∀ s ∈ before, s.Rebinds [copy, item.name] es) →
        env.Leaves es (copying p copy xs (.list [] (p 5)) number item
          (before ++ .append p copy (.var ⟨item.name, p 11⟩) :: after) between behind) m copy
          (.list items)) ∧
      ((∀ s ∈ before, s.Rebinds [copy, index.name, item.name] es) →
        env.Leaves es (copying p copy xs (.list [] (p 5)) (some index) item
          (before ++ .append p copy (.list [.var ⟨index.name, p 11⟩, .var ⟨item.name, p 12⟩]
            (p 13)) :: after) between behind) m copy (.list (numbered items)))) ∧
    ∀ entries : Mapping Value, m.lookup xs = some (.map entries) → entries.Ordered →
      (∀ s ∈ before, s.Rebinds [copy, index.name, item.name] es) →
        env.Leaves es (copying p copy xs (.block ⟨[], p 5⟩) (some index) item
          (before ++ .store p copy index.name item.name :: after) between behind) m copy
          (.map entries) := by
  have hgood : ∃ w good, Calm env.calls es w good ∧ good (env.announced m) := by
    rcases hcalm with hfree | hstill
    · have h : Calm env.calls es .builtin Machine.HostFree :=
        .of_hostFree env env.hostNesting env.settings.maxCallDepth es
      exact ⟨_, _, h, h.announced env hfree⟩
    · exact ⟨_, _, .of_untouched hstill, trivial⟩
  obtain ⟨w, good, h, hm⟩ := hgood
  obtain ⟨hne, hindex, hitem⟩ : copy ≠ xs ∧ copy ≠ index.name ∧ copy ≠ item.name := by
    simpa using hcopy
  have hlookup : ∀ v, m.lookup xs = some v → (env.announced m).lookup xs = some v := by
    intro v hv
    unfold Environment.announced
    split <;> exact hv
  refine ⟨fun items hitems => ⟨fun number hnumber hbefore => ?_, fun hbefore => ?_⟩,
    fun entries hentries hordered hbefore => ?_⟩
  · exact (h.settles_list hm (hlookup _ hitems) hne hitem.symm hnumber hbefore hafter hbetween
      hbehind).leaves
  · exact (h.settles_numbered hm (hlookup _ hitems) hne hitem.symm hindex.symm hapart hbefore hafter
      hbetween hbehind).leaves
  · exact (h.settles_storing hm (hlookup _ hentries) hordered hne hitem.symm hindex.symm hapart
      hbefore hafter hbetween hbehind).leaves

/-- Without expressions that can fail, the program ends well. -/
theorem Environment.Leaves.of_literals {env : Environment} {es : List Expr} {program : Program}
    {m : Machine} {name : String} {v : Value} (h : env.Leaves es program m name v)
    (hes : ∀ e ∈ es, ∃ u p, e = .literal u p) :
    let r := (env.runTree program).on m
    r.1 = .ok .nil ∧ r.2.lookup name = some v := by
  rcases h with h | ⟨e, he, n, error, hfails, -⟩
  · exact h
  · obtain ⟨u, p, rfl⟩ := hes e he
    rw [evalExpr] at hfails
    cases hfails

set_option maxRecDepth 2000 in
/-- The loop counts, although its body binds what it goes through, the number and the item anew. -/
theorem loops_copy_of_two :
    let source :=
      "copy = []\nfor i, x in xs \x7b\nxs = 0\ncopy = copy + [[i, x]]\ni = 0\nx = 0\n\x7d\n"
    let m := Machine.initial ⟨[("xs", .list [.bool true, .string "b"])]⟩
    ∃ program, parse source = .ok program ∧
      ((Environment.bare.runTree program).on m).1 = .ok .nil ∧
      ((Environment.bare.runTree program).on m).2.lookup "copy" =
        some (.list [.list [.int 0, .bool true], .list [.int 1, .string "b"]]) := by
  intro source m
  let p (k : Nat) : Position :=
    [⟨0, 0, 4⟩, ⟨0, 0, 4⟩, ⟨1, 12, 2⟩, ⟨1, 15, 1⟩, ⟨1, 0, 3⟩, ⟨0, 7, 1⟩, ⟨3, 0, 4⟩, ⟨3, 7, 4⟩,
      ⟨3, 14, 1⟩, ⟨3, 12, 1⟩, ⟨3, 0, 4⟩, ⟨3, 16, 1⟩, ⟨3, 19, 1⟩, ⟨3, 15, 1⟩].getD k {}
  let zero (p : Position) : Expr := .literal (.int 0) p
  let before : List Statement :=
    [.newLine ⟨1, 16, 1⟩, .assign (.var ⟨"xs", ⟨2, 0, 2⟩⟩) (zero ⟨2, 5, 1⟩) ⟨2, 0, 2⟩,
      .newLine ⟨2, 6, 1⟩]
  let after : List Statement :=
    [.newLine ⟨3, 22, 1⟩, .assign (.var ⟨"i", ⟨4, 0, 1⟩⟩) (zero ⟨4, 4, 1⟩) ⟨4, 0, 1⟩,
      .newLine ⟨4, 5, 1⟩, .assign (.var ⟨"x", ⟨5, 0, 1⟩⟩) (zero ⟨5, 4, 1⟩) ⟨5, 0, 1⟩,
      .newLine ⟨5, 5, 1⟩]
  let es := [zero ⟨2, 5, 1⟩, zero ⟨4, 4, 1⟩, zero ⟨5, 4, 1⟩]
  have hbefore : ∀ s ∈ before, s.Rebinds ["copy", "i", "x"] es := by
    simp only [before, List.forall_mem_cons]
    exact ⟨.trivia rfl, .assign (by simp) (by simp [es]), .trivia rfl, List.forall_mem_nil _⟩
  have hafter : ∀ s ∈ after, s.Rebinds ["copy"] es := by
    simp only [after, List.forall_mem_cons]
    exact ⟨.trivia rfl, .assign (by simp) (by simp [es]), .trivia rfl,
      .assign (by simp) (by simp [es]), .trivia rfl, List.forall_mem_nil _⟩
  have hcopies := loops_copy .bare (m := m) (.inl (.initial (by simp))) "copy" "xs"
    ⟨"i", ⟨1, 4, 1⟩⟩ ⟨"x", ⟨1, 7, 1⟩⟩ before after [.newLine ⟨0, 9, 1⟩] [.newLine ⟨6, 1, 1⟩] p
    (by simp) (by simp) hafter (List.forall_mem_singleton.mpr rfl)
    (List.forall_mem_singleton.mpr rfl)
  have hnumbered := (hcopies.1 _ rfl).2 hbefore
  refine ⟨_, ?_, hnumbered.of_literals (by simp [es, zero])⟩
  rw [show source = String.ofList _ from rfl, parse, tokenize, String.toList_ofList]
  with_unfolding_all rfl

end Scriptlet
