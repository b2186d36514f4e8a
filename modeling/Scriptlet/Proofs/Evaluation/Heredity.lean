import Scriptlet.Evaluation.Call
import Scriptlet.Proofs.Machine.Bindings
import Scriptlet.Proofs.Values.Heredity

/-!
# What runs do with properties that values hand on

If all values that a machine knows have a hereditary property, that stays so in every run
(`Calls.Keep.evalStatements_keeps` and its companions): a run makes values by operations, which hand
the property on, and otherwise by literals and definitions of functions. That is an induction on
trees, and for calls another on the calls that may still be opened (`Environment.callsWithin_keep`).

Functions of the host could bring in values of their own, so these must have the property, too
(`Environment.Offers`).
-/

namespace Scriptlet

/-- All values that are bound have the property, and so have the registered native functions. -/
structure Machine.All (P : Value → Prop) (m : Machine) : Prop where
  bound : m.stack.All P
  natives : ∀ {name n}, m.natives.find? name = some n → P (.native n)

/-- The value with which statements end, if they end in the statement `return`, has the property. -/
def Flow.All (P : Value → Prop) : Flow → Prop
  | .returned value => P value
  | _ => True

/-- On machines on which all values have the property, the steps keep it so, whether they fail or
not, and hand on only what satisfies `Q`. -/
def Exec.Keeps {ε α : Type} (P : Value → Prop) (Q : α → Prop) (x : Exec ε α) : Prop :=
  ∀ m : Machine, m.All P → (x.on m).2.All P ∧ ∀ a, (x.on m).1 = .ok a → Q a

/-- A property that values hand on, and that does not depend on functions of the language. -/
structure Value.Lasting (P : Value → Prop) : Prop extends Value.Hereditary P where
  function : ∀ f, P (.function f)

/-- Calls keep the property, and their values have it, if their arguments have it. -/
structure Calls.Keep (P : Value → Prop) (calls : Calls) : Prop where
  lasting : Value.Lasting P
  user : ∀ (f : Function) (link : Option Nat) {arguments : List Value} (site : Position),
    (∀ a ∈ arguments, P a) → Exec.Keeps P P (calls.user f link arguments site)
  native : ∀ {n : Native} {arguments : List Value} (site : Position), P (.native n) →
    (∀ a ∈ arguments, P a) → Exec.Keeps P P (calls.native n arguments site)

variable {P : Value → Prop} {m : Machine}

theorem Flow.All.value {flow : Flow} (hflow : flow.All P) (hnil : P .nil) {v : Value}
    (hv : flow.value = .ok v) : P v := by
  cases flow with
  | normal =>
    cases hv
    exact hnil
  | returned u =>
    cases hv
    exact hflow
  | broke _ => cases hv
  | continued _ => cases hv

namespace Machine.All

theorem mono {Q : Value → Prop} (h : m.All P) (hPQ : ∀ v, P v → Q v) : m.All Q :=
  ⟨h.bound.mono hPQ, fun hn => hPQ _ (h.natives hn)⟩

theorem and {Q : Value → Prop} (h : m.All P) (h' : m.All Q) : m.All fun v => P v ∧ Q v :=
  ⟨h.bound.and h'.bound, fun hn => ⟨h.natives hn, h'.natives hn⟩⟩

theorem lookup (h : m.All P) {name : String} {v : Value} (hv : m.lookup name = some v) : P v := by
  obtain ⟨r, hr, rfl⟩ := Option.map_eq_some_iff.mp hv
  exact h.bound.resolve hr

theorem assign (h : m.All P) (name : String) {v : Value} (hv : P v) : (m.assign name v).All P :=
  ⟨h.bound.assign name hv, h.natives⟩

theorem record (h : m.All P) (e : Event) : (m.record e).All P :=
  ⟨h.bound, h.natives⟩

theorem push (h : m.All P) : m.push.All P :=
  ⟨h.bound.push, h.natives⟩

theorem pop (h : m.All P) : m.pop.All P := by
  unfold Machine.pop
  split
  · rename_i hpop
    exact ⟨h.bound.pop hpop, h.natives⟩
  · exact h.record _

theorem register {m' : Machine} (h : m.All P) {n : Native} (hn : P (.native n))
    (hr : m.register n = .ok m') : m'.All P := by
  unfold Machine.register at hr
  split at hr
  · cases hr
  · cases hr
    refine ⟨h.bound, fun {name n'} hfound => ?_⟩
    change (m.natives.insert n.name n).find? name = some n' at hfound
    by_cases hname : n.name = name
    · rw [← hname, Mapping.find?_insert_self] at hfound
      cases hfound
      exact hn
    · rw [Mapping.find?_insert_of_ne m.natives hname] at hfound
      exact h.natives hfound

end Machine.All

/-! ## Steps -/

namespace Exec.Keeps

variable {ε ε' α β : Type} {Q : α → Prop} {R : β → Prop} {x : Exec ε α}

theorem pure {a : α} (h : Q a) : Keeps P Q (Pure.pure a : Exec ε α) := by
  intro m hm
  rw [on_pure]
  refine ⟨hm, fun b hb => ?_⟩
  cases hb
  exact h

theorem throw {e : ε} : Keeps P Q (MonadExcept.throw e : Exec ε α) := by
  intro m hm
  rw [on_throw]
  exact ⟨hm, fun _ hb => nomatch hb⟩

theorem bind {f : α → Exec ε β} (hx : Keeps P Q x) (hf : ∀ a, Q a → Keeps P R (f a)) :
    Keeps P R (x >>= f) := by
  intro m hm
  obtain ⟨hall, hvalue⟩ := hx m hm
  cases hend : x.on m with
  | mk o n =>
    rw [hend] at hall hvalue
    cases o with
    | ok a =>
      rw [on_bind_ok hend]
      exact hf a (hvalue a rfl) n hall
    | error e =>
      rw [on_bind_error hend]
      exact ⟨hall, fun _ hb => nomatch hb⟩

theorem ofOutcome {o : Except ε α} (h : ∀ a, o = .ok a → Q a) : Keeps P Q (Exec.ofOutcome o) :=
  fun _ hm => ⟨hm, h⟩

theorem observe {f : Machine → α} (h : ∀ m : Machine, m.All P → Q (f m)) :
    Keeps P Q (Exec.observe f : Exec ε α) := by
  intro m hm
  rw [on_observe]
  refine ⟨hm, fun b hb => ?_⟩
  cases hb
  exact h m hm

theorem update {f : Machine → Machine} (h : ∀ m : Machine, m.All P → (f m).All P) :
    Keeps P (fun _ => True) (Exec.update f : Exec ε Unit) :=
  fun m hm => ⟨h m hm, fun _ _ => trivial⟩

theorem record (e : Event) : Keeps P (fun _ => True) (Exec.record e : Exec ε Unit) :=
  .update fun _ hm => hm.record e

theorem assign (name : String) {v : Value} (hv : P v) :
    Keeps P (fun _ => True) (Exec.update fun m => m.assign name v : Exec ε Unit) :=
  .update fun _ hm => hm.assign name hv

theorem attempt (h : Keeps P Q x) :
    Keeps P (fun o => ∀ a, o = .ok a → Q a) (x.attempt : Exec ε' (Except ε α)) := by
  intro m hm
  obtain ⟨hall, hvalue⟩ := h m hm
  rw [on_attempt]
  refine ⟨hall, fun o ho => ?_⟩
  cases ho
  exact hvalue

theorem mapError {f : ε → ε'} (h : Keeps P Q x) : Keeps P Q (x.mapError f) := by
  intro m hm
  obtain ⟨hall, hvalue⟩ := h m hm
  refine ⟨hall, fun a ha => hvalue a ?_⟩
  change (x.on m).1.mapError f = .ok a at ha
  cases ho : (x.on m).1 with
  | ok b =>
    rw [ho] at ha
    cases ha
    rfl
  | error e =>
    rw [ho] at ha
    cases ha

theorem within {bindings : Scope} {link : Option Nat} (hb : ∀ e ∈ bindings.entries, P e.2)
    (h : Keeps P Q x) : Keeps P Q (Exec.within bindings link x) := by
  intro m hm
  obtain ⟨hall, hvalue⟩ := h (m.enter bindings link) ⟨hm.bound.enter link hb, hm.natives⟩
  exact ⟨⟨hall.bound.leave, hall.natives⟩, hvalue⟩

theorem calledFrom {site : Position} (h : Keeps P Q x) : Keeps P Q (Exec.calledFrom site x) := by
  intro m hm
  obtain ⟨hall, hvalue⟩ := h { m with callSite := site } ⟨hm.bound, hm.natives⟩
  exact ⟨⟨hall.bound, hall.natives⟩, hvalue⟩

end Exec.Keeps

/-! ## Trees -/

theorem evalVariable_keeps (v : Variable) : Exec.Keeps P P (evalVariable v) := by
  refine .bind (Q := fun o => ∀ u, o = some u → P u) (.observe fun m hm u => hm.lookup) ?_
  intro o ho
  cases o with
  | some u => exact .pure (ho u rfl)
  | none =>
    refine .bind (Q := fun o => ∀ n, o = some n → P (.native n))
      (.observe fun m hm n => hm.natives) fun o ho => ?_
    cases o with
    | some n => exact .pure (ho n rfl)
    | none => exact .throw

namespace Calls.Keep

variable {calls : Calls}

theorem value (hcalls : calls.Keep P) {name : String} {callee : Value} {link : Option Nat}
    {arguments : List Value} {site : Position} (hc : P callee) (ha : ∀ a ∈ arguments, P a) :
    Exec.Keeps P P (calls.value name callee link arguments site) := by
  cases callee with
  | function f => exact hcalls.user f link site ha
  | native n => exact hcalls.native site hc ha
  | _ => exact .throw

theorem named (hcalls : calls.Keep P) {name : String} {arguments : List Value} {site : Position}
    (ha : ∀ a ∈ arguments, P a) : Exec.Keeps P P (calls.named name arguments site) := by
  refine .bind (Q := fun o => ∀ n, o = some n → P (.native n))
    (.observe fun m hm n => hm.natives) fun o ho => ?_
  cases o with
  | some n => exact hcalls.native site (ho n rfl) ha
  | none =>
    refine .bind (Q := fun o => ∀ r, o = some r → P r.2)
      (.observe fun m hm r => hm.bound.resolve) fun o ho => ?_
    cases o with
    | some r => exact hcalls.value (ho r rfl) ha
    | none => exact .throw

theorem method (hcalls : calls.Keep P) {object : Value} {name : String} {arguments : List Value}
    {site : Position} (ho : P object) (ha : ∀ a ∈ arguments, P a) :
    Exec.Keeps P P (calls.method object name arguments site) := by
  unfold Calls.method
  split
  · rename_i hfound
    exact hcalls.value (hcalls.lasting.method? ho hfound) ha
  · exact hcalls.named ha

theorem evalOwner_keeps (h : Value.Hereditary P) (v : Variable) : Exec.Keeps P P (evalOwner v) := by
  refine .observe fun m hm => ?_
  cases hv : m.lookup v.name with
  | none => exact h.nil
  | some u => exact hm.lookup hv

theorem runLoop_keeps {index : Option Variable} {item : Variable} {body : Eval Flow}
    (hbody : Exec.Keeps P (Flow.All P) body) {pairs : List (Value × Value)}
    (hpairs : ∀ p ∈ pairs, P p.1 ∧ P p.2) :
    Exec.Keeps P (Flow.All P) (runLoop index item body pairs) := by
  induction pairs with
  | nil => exact .pure trivial
  | cons pair rest ih =>
    obtain ⟨key, value⟩ := pair
    have hrest := ih fun p hm => hpairs p (List.mem_cons_of_mem _ hm)
    obtain ⟨hkey, hvalue⟩ := hpairs (key, value) List.mem_cons_self
    rw [runLoop]
    refine .bind (.record _) fun _ _ => ?_
    -- An index is assigned first; from there on the rounds are the same with and without one.
    rcases index with _ | v
    case' some => refine .bind (.assign v.name hkey) fun _ _ => ?_
    all_goals
      refine .bind (.assign item.name hvalue) fun _ _ => .bind hbody fun flow hflow => ?_
      cases flow with
      | normal => exact hrest
      | returned result => exact .pure hflow
      | broke _ => exact .pure trivial
      | continued _ => exact hrest

mutual

theorem evalExpr_keeps (hcalls : calls.Keep P) : ∀ e : Expr, Exec.Keeps P P (evalExpr calls e)
  | .var v => by
    rw [evalExpr]
    exact evalVariable_keeps v
  | .literal value _ => by
    rw [evalExpr]
    exact .pure (hcalls.lasting.literal value)
  | .binary left o right position => by
    rw [evalExpr]
    refine .bind (hcalls.evalExpr_keeps left) fun a ha => ?_
    refine .bind (hcalls.evalExpr_keeps right) fun b hb => ?_
    exact .ofOutcome fun v => hcalls.lasting.apply ha hb
  | .list values _ => by
    rw [evalExpr]
    exact .bind (hcalls.evalExprs_keeps values) fun vs hvs => .pure (hcalls.lasting.list.mpr hvs)
  | .block ⟨statements, _⟩ => by
    rw [evalExpr]
    exact .bind (hcalls.evalEntries_keeps hcalls.lasting.empty statements) fun entries he =>
      .pure he
  | .call ⟨name, arguments, site⟩ => by
    rw [evalExpr]
    exact .bind (hcalls.evalExprs_keeps arguments) fun vs hvs => hcalls.named hvs
  | .field object member position => by
    rw [evalExpr]
    cases hv : object.asVariable? with
    | some v =>
      exact .bind (evalOwner_keeps hcalls.lasting.toHereditary v) fun u hu =>
        hcalls.evalMember_keeps position hu member
    | none =>
      exact .bind (hcalls.evalExpr_keeps object) fun u hu =>
        hcalls.evalMember_keeps position hu member

theorem evalExprs_keeps (hcalls : calls.Keep P) :
    ∀ es : List Expr, Exec.Keeps P (fun vs => ∀ v ∈ vs, P v) (evalExprs calls es)
  | [] => by
    rw [evalExprs]
    exact .pure (List.forall_mem_nil P)
  | e :: es => by
    rw [evalExprs]
    refine .bind (hcalls.evalExpr_keeps e) fun v hv => ?_
    exact .bind (hcalls.evalExprs_keeps es) fun vs hvs =>
      .pure (List.forall_mem_cons.mpr ⟨hv, hvs⟩)

theorem evalMember_keeps (hcalls : calls.Keep P) {object : Value} (position : Position)
    (ho : P object) :
    ∀ member : Member, Exec.Keeps P P (evalMember calls object position member)
  | .name v => by
    rw [evalMember]
    exact .ofOutcome fun u => hcalls.lasting.readName ho
  | .index key => by
    rw [evalMember]
    exact .bind (hcalls.evalExpr_keeps key) fun k _ =>
      .ofOutcome fun u => hcalls.lasting.readIndex ho
  | .call ⟨name, arguments, site⟩ => by
    rw [evalMember]
    exact .bind (hcalls.evalExprs_keeps arguments) fun vs hvs => hcalls.method ho hvs

theorem evalEntries_keeps (hcalls : calls.Keep P) {entries : Mapping Value}
    (he : P (.map entries)) :
    ∀ statements : List Statement,
      Exec.Keeps P (fun m => P (.map m)) (evalEntries calls entries statements)
  | [] => by
    rw [evalEntries]
    exact .pure he
  | .assign target value position :: rest => by
    cases target with
    | var key =>
      rw [evalEntries]
      exact .bind (hcalls.evalExpr_keeps value) fun v hv =>
        hcalls.evalEntries_keeps (hcalls.lasting.insert _ he hv) rest
    | _ =>
      simp only [evalEntries]
      exact .throw
  | .newLine _ :: rest | .comment _ :: rest => by
    rw [evalEntries]
    exact hcalls.evalEntries_keeps he rest
  | .function _ :: _ | .conditional .. :: _ | .loop .. :: _ | .exit .. :: _ | .stop _ :: _
  | .skip _ :: _ | .expression _ :: _ => by
    simp only [evalEntries]
    exact .throw

theorem execute_keeps (hcalls : calls.Keep P) :
    ∀ s : Statement, Exec.Keeps P (Flow.All P) (execute calls s)
  | .assign target value position => by
    rw [execute]
    refine .bind (hcalls.evalExpr_keeps value) fun v hv => ?_
    exact .bind (hcalls.evalAssign_keeps hv target) fun _ _ => .pure trivial
  | .function f => by
    rw [execute]
    exact .bind (.assign f.name (hcalls.lasting.function f)) fun _ _ => .pure trivial
  | .conditional condition ⟨body, _⟩ none _ => by
    rw [execute]
    refine .bind (hcalls.evalExpr_keeps condition) fun v hv => ?_
    refine .bind (Q := fun _ => True) (.ofOutcome fun _ _ => trivial) fun b _ => ?_
    cases b with
    | true => exact hcalls.evalStatements_keeps body
    | false => exact .pure trivial
  | .conditional condition ⟨body, _⟩ (some ⟨otherwise, _⟩) _ => by
    rw [execute]
    refine .bind (hcalls.evalExpr_keeps condition) fun v hv => ?_
    refine .bind (Q := fun _ => True) (.ofOutcome fun _ _ => trivial) fun b _ => ?_
    cases b with
    | true => exact hcalls.evalStatements_keeps body
    | false => exact hcalls.evalStatements_keeps otherwise
  | .loop index item iterable ⟨body, _⟩ _ => by
    rw [execute]
    refine .bind (hcalls.evalExpr_keeps iterable) fun v hv => ?_
    cases hp : v.pairs? with
    | some pairs =>
      exact runLoop_keeps (hcalls.evalStatements_keeps body) (hcalls.lasting.pairs? hv hp)
    | none => exact .throw
  | .exit none _ => by
    rw [execute]
    exact .pure hcalls.lasting.nil
  | .exit (some value) _ => by
    rw [execute]
    exact .bind (hcalls.evalExpr_keeps value) fun v hv => .pure hv
  | .stop _ | .skip _ | .newLine _ | .comment _ => by
    rw [execute]
    exact .pure trivial
  | .expression e => by
    rw [execute]
    exact .bind (hcalls.evalExpr_keeps e) fun _ _ => .pure trivial

theorem evalAssign_keeps (hcalls : calls.Keep P) {value : Value} (hv : P value) :
    ∀ e : Expr, Exec.Keeps P (fun _ => True) (evalAssign calls value e)
  | .var v => by
    rw [evalAssign]
    exact .assign v.name hv
  | .field object member position => by
    rw [evalAssign]
    refine .bind (hcalls.evalPlace_keeps object) fun old hold => ?_
    refine .bind (hcalls.evalWrite_keeps position hold hv member) fun new hnew => ?_
    exact hcalls.evalAssign_keeps hnew object
  | .literal .. | .binary .. | .list .. | .block _ | .call _ => by
    simp only [evalAssign]
    exact .throw

theorem evalPlace_keeps (hcalls : calls.Keep P) : ∀ e : Expr, Exec.Keeps P P (evalPlace calls e)
  | .var v => by
    rw [evalPlace]
    exact evalOwner_keeps hcalls.lasting.toHereditary v
  | .field object member position => by
    rw [evalPlace]
    refine .bind (hcalls.evalPlace_keeps object) fun v hv => ?_
    cases v.isNil with
    | true => exact .pure hcalls.lasting.nil
    | false => exact hcalls.evalMember_keeps position hv member
  | .literal .. | .binary .. | .list .. | .block _ | .call _ => by
    simp only [evalPlace]
    exact .throw

theorem evalWrite_keeps (hcalls : calls.Keep P) {object value : Value} (position : Position)
    (ho : P object) (hv : P value) :
    ∀ member : Member, Exec.Keeps P P (evalWrite calls object value position member)
  | .name v => by
    rw [evalWrite]
    exact .ofOutcome fun u => hcalls.lasting.write ho hv
  | .index key => by
    rw [evalWrite]
    exact .bind (hcalls.evalExpr_keeps key) fun k _ =>
      .ofOutcome fun u => hcalls.lasting.write ho hv
  | .call _ => by
    rw [evalWrite]
    exact .throw

theorem evalStatements_keeps (hcalls : calls.Keep P) :
    ∀ ss : List Statement, Exec.Keeps P (Flow.All P) (evalStatements calls ss)
  | [] => by
    rw [evalStatements]
    exact .pure trivial
  | s :: rest => by
    rw [evalStatements]
    refine .bind (.record _) fun _ _ => .bind (hcalls.execute_keeps s) fun flow hflow => ?_
    cases flow with
    | normal => exact hcalls.evalStatements_keeps rest
    | returned _ => exact .pure hflow
    | broke _ => exact .pure hflow
    | continued _ => exact .pure hflow

end

end Calls.Keep

/-! ## Calls -/

namespace Builtin

variable {env : Environment} {site : Position}

theorem runCommand_keeps (h : Value.Hereditary P) (command : Value) :
    Exec.Keeps P P (runCommand env command site) := by
  unfold runCommand
  refine .bind (Q := fun _ => True) (.ofOutcome fun _ _ => trivial) fun text _ => ?_
  refine .bind (.record _) fun _ _ => ?_
  split
  · exact .throw
  · split
    · exact .pure (h.string _)
    · exact .bind (.record _) fun _ _ => .pure (h.string _)

theorem call_keeps (h : Value.Hereditary P) (b : Builtin) {arguments : List Value}
    (ha : ∀ a ∈ arguments, P a) : Exec.Keeps P P (b.call env arguments site) := by
  have hprint : ∀ text, Exec.Keeps P P (print text) := fun text =>
    .bind (.record _) fun _ _ => .pure h.nil
  have hbool : ∀ {α : Type} {o : Except RuntimeError α} {f : α → Bool} {v : Value},
      (o.map fun a => .bool (f a)) = .ok v → P v := by
    intro α o f v hv
    cases o <;> cases hv
    exact h.bool _
  unfold call
  split
  · exact hprint _
  · exact hprint _
  · exact .ofOutcome fun u => h.length
  · exact .pure (h.string _)
  · exact .pure (h.string _)
  · exact .ofOutcome fun u => hbool
  · exact .ofOutcome fun u => hbool
  · rename_i patterns text
    refine .ofOutcome fun u hu => ?_
    cases hfound : searchMap env .regexMapValue patterns text site with
    | error e => simp [hfound, Except.map] at hu
    | ok found =>
      simp only [hfound, Except.map, Except.ok.injEq] at hu
      subst hu
      cases found with
      | none => exact h.nil
      | some v => exact h.searchMap (ha patterns (by simp)) hfound
  · exact runCommand_keeps h _
  · exact .throw

end Builtin

/-- The values that the function of the host brings in have the property, as long as those that it
is given have it. -/
def Action.Brings (P : Value → Prop) : Action → Prop
  | finish outcome => ∀ v, outcome = .ok v → P v
  | pushScope next | popScope next => next.Brings P
  | assign _ v next => P v ∧ next.Brings P
  | lookup _ next => ∀ found, (∀ v, found = some v → P v) → (next found).Brings P
  | scopeDepth next => ∀ depth, (next depth).Brings P
  | callSite next => ∀ site, (next site).Brings P
  | isDebug next => ∀ debug, (next debug).Brings P
  | run _ next => ∀ outcome, (∀ v, outcome = .ok v → P v) → (next outcome).Brings P
  | flow _ next => ∀ outcome, (∀ v, outcome = .ok (.returned v) → P v) → (next outcome).Brings P
  | evaluate _ next => ∀ outcome, (∀ v, outcome = .ok v → P v) → (next outcome).Brings P
  | call _ arguments _ next => (∀ a ∈ arguments, P a) ∧
      ∀ outcome, (∀ v, outcome = .ok v → P v) → (next outcome).Brings P
  | register n next => P (.native n) ∧ ∀ outcome, (next outcome).Brings P

/-- Functions of the host that have the property bring in values that have it, too. -/
def Environment.Offers (P : Value → Prop) (env : Environment) : Prop :=
  ∀ {name label : String} {arity : Arity} {attached arguments : List Value},
    P (.native (.host name arity label attached)) → (∀ a ∈ arguments, P a) →
    (env.behaviour { name, label, attached, arguments }).Brings P

namespace Environment

variable {env : Environment} {calls : Calls}

theorem announce_keeps {ε : Type} : Exec.Keeps P (fun _ => True) (env.announce : Exec ε Unit) := by
  refine .bind (Q := fun _ => True) (.observe fun _ _ => trivial) fun debug _ => ?_
  cases debug with
  | true => exact .record _
  | false => exact .pure trivial

theorem runRead_keeps (hcalls : calls.Keep P) (read : Except ParseError Program) :
    Exec.Keeps P P (env.runRead calls read) := by
  refine .bind announce_keeps fun _ _ => ?_
  refine .bind (Q := fun _ => True) (.ofOutcome fun _ _ => trivial) fun program _ => ?_
  refine .mapError (.bind (hcalls.evalStatements_keeps program) fun flow hflow => ?_)
  exact .ofOutcome fun v => hflow.value hcalls.lasting.nil

theorem runGiven_keeps (hcalls : calls.Keep P) (work : Runnable) :
    Exec.Keeps P P (env.runGiven calls work) := by
  cases work with
  | source | octets | program => exact runRead_keeps hcalls _
  | statement s =>
    refine .bind announce_keeps fun _ _ => .mapError ?_
    unfold runStatement
    split
    · exact hcalls.evalExpr_keeps _
    · refine .bind (.bind (Q := fun _ => True) (.record _) fun _ _ => hcalls.execute_keeps _)
        fun flow hflow => ?_
      exact .ofOutcome fun v => hflow.value hcalls.lasting.nil

theorem perform_keeps (hcalls : calls.Keep P) {action : Action} (ha : action.Brings P) :
    Exec.Keeps P P (env.perform calls action) := by
  induction action with
  | finish outcome => exact .ofOutcome ha
  | pushScope next ih => exact .bind (.update fun _ hm => hm.push) fun _ _ => ih ha
  | popScope next ih => exact .bind (.update fun _ hm => hm.pop) fun _ _ => ih ha
  | assign name v next ih => exact .bind (.assign name ha.1) fun _ _ => ih ha.2
  | lookup name next ih =>
    exact .bind (.observe fun m hm v => hm.lookup) fun found hfound => ih found (ha found hfound)
  | scopeDepth next ih | callSite next ih | isDebug next ih =>
    exact .bind (Q := fun _ => True) (.observe fun _ _ => trivial) fun a _ => ih a (ha a)
  | run work next ih =>
    exact .bind (runGiven_keeps hcalls work).attempt fun o ho => ih o (ha o ho)
  | flow statements next ih =>
    refine .bind (hcalls.evalStatements_keeps statements).attempt fun o ho => ih o (ha o ?_)
    exact fun v hv => ho (.returned v) hv
  | evaluate e next ih =>
    exact .bind (hcalls.evalExpr_keeps e).attempt fun o ho => ih o (ha o ho)
  | call name arguments site next ih =>
    exact .bind (hcalls.named ha.1).attempt fun o ho => ih o (ha.2 o ho)
  | register n next ih =>
    have hregister : Exec.Keeps P (fun _ => True) (Exec.register n) := by
      intro m hm
      refine ⟨?_, fun _ _ => trivial⟩
      unfold Exec.register
      rw [Exec.on_ofFunction]
      cases hr : m.register n with
      | ok m' => exact hm.register ha.1 hr
      | error e => exact hm
    exact .bind hregister.attempt fun o _ => ih o (ha.2 o)

theorem callNative_keeps (h : Value.Hereditary P) {host : HostCall → Eval Value}
    (hhost : ∀ {name label : String} {arity : Arity} {attached arguments : List Value},
      P (.native (.host name arity label attached)) → (∀ a ∈ arguments, P a) →
      Exec.Keeps P P (host { name, label, attached, arguments }))
    {n : Native} {arguments : List Value} {site : Position} (hn : P (.native n))
    (ha : ∀ a ∈ arguments, P a) : Exec.Keeps P P (env.callNative host n arguments site) := by
  unfold callNative
  split
  · refine .calledFrom ?_
    cases n with
    | builtin b => exact b.call_keeps h ha
    | host name arity label attached => exact hhost hn ha
  · exact .throw

end Environment

theorem Function.bind_all {f : Function} {arguments : List Value} (ha : ∀ a ∈ arguments, P a) :
    ∀ e ∈ (f.bind arguments).entries, P e.2 :=
  fun _ he => ha _ (List.of_mem_zip (Mapping.mem_ofList he)).2

/-- Calls of functions keep the property if those of native functions do: by induction on the number
of calls that may still be opened. -/
theorem callUser_keep (h : Value.Lasting P) {limit : Nat} {native : Nat → NativeCalls}
    (hnative : ∀ left {n : Native} {arguments : List Value} (site : Position), P (.native n) →
      (∀ a ∈ arguments, P a) → Exec.Keeps P P (native left n arguments site)) (left : Nat) :
    Calls.Keep P { user := callUser limit native left, native := native left } := by
  have hcheck : ∀ {f : Function} {arguments : List Value} {site : Position},
      Exec.Keeps P (fun _ => True) (f.checkCall limit arguments site) := by
    intro f arguments site
    unfold Function.checkCall
    split
    · refine .bind (Q := fun _ => True) (.observe fun _ _ => trivial) fun opened _ => ?_
      split
      · exact .pure trivial
      · exact .throw
    · exact .throw
  induction left with
  | zero =>
    refine ⟨h, fun f link arguments site ha => ?_, fun site => hnative 0 site⟩
    show Exec.Keeps P P (callUser limit native 0 f link arguments site)
    rw [callUser]
    exact .bind hcheck fun _ _ => .throw
  | succ left ih =>
    refine ⟨h, fun f link arguments site ha => ?_, fun site => hnative (left + 1) site⟩
    show Exec.Keeps P P (callUser limit native (left + 1) f link arguments site)
    rw [callUser]
    refine .bind hcheck fun _ _ => .bind (.within (Function.bind_all ha)
      (ih.evalStatements_keeps f.body.statements)) fun flow hflow => ?_
    refine .bind (Q := fun _ => True) ?_ fun _ _ => .ofOutcome fun v => hflow.value h.nil
    cases flow with
    | returned v => exact .record _
    | _ => exact .pure trivial

/-- Calls keep the property: by induction on how deep functions of the host may still be nested. -/
theorem Environment.callsWithin_keep (h : Value.Lasting P) {env : Environment}
    (henv : env.Offers P) (nesting left : Nat) : (env.callsWithin nesting left).Keep P := by
  have hnative : ∀ nesting left {n : Native} {arguments : List Value} (site : Position),
      P (.native n) → (∀ a ∈ arguments, P a) →
      Exec.Keeps P P (env.nativeCalls nesting left n arguments site) := by
    intro nesting
    induction nesting with
    | zero =>
      intro left n arguments site hn ha
      unfold nativeCalls
      refine callNative_keeps h.toHereditary (fun _ _ => ?_) hn ha
      exact .bind (Q := fun _ => True) (.observe fun _ _ => trivial) fun _ _ => .throw
    | succ nesting ih =>
      intro left n arguments site hn ha
      unfold nativeCalls
      refine callNative_keeps h.toHereditary (fun hhost hargs => ?_) hn ha
      exact perform_keeps (callUser_keep h ih left) (henv hhost hargs)
  exact callUser_keep h (hnative nesting) left

end Scriptlet
