import Scriptlet.Proofs.Evaluation.Innocence
import Scriptlet.Proofs.Evaluation.Remainder
import Scriptlet.Proofs.Places.Calls

/-!
# Runs that fail because of a statement outside of a loop

If a run on a fresh machine fails because a `break` or a `continue` is outside of a loop, then this
statement is a stray of the program (`Environment.run_fails_by_strays`). So a program without strays
never fails in this way.

The error arises where a call or the run itself ends, from the statement by which the body ends.
That statement is a stray of the body (`evalStatements_leavesBy`), and a loop around the call has no
part in this: to the loop, the call is an expression that fails. What has to be shown besides is
that the body is one of the program, since functions are values that are stored, passed on and
called elsewhere. So machines are considered that are alike to themselves where only the functions
of the program correspond, each to itself (`Defined`). Steps take such machines to such machines, as
alike trees are evaluated alike.
-/

namespace Scriptlet

/-! ## Steps with a few statements to blame -/

/-- On machines that are alike to themselves, if the steps fail because of a statement outside of a
loop, it is one of these. -/
def Exec.Blames {α : Type} (P : Correspondence) (exits : List Statement) (x : Eval α) : Prop :=
  ∀ m, m.Like P m → ∀ e s, (x.on m).1 = .error e → e.stray? = some s → s ∈ exits

variable {P : Correspondence} {exits : List Statement}

namespace Exec.Blames

variable {α β : Type} {x : Eval α} {f : α → Eval β} {R : α → α → Prop} {Q : α → Prop}

theorem ofOutcome {o : Except RuntimeError α} (h : Innocent o) :
    Blames P exits (Exec.ofOutcome o) := by
  intro m hm e s he hs
  rw [h e he] at hs
  cases hs

theorem pure {a : α} : Blames P exits (Pure.pure a : Eval α) := by
  intro m hm e s he
  cases he

theorem throw {e : RuntimeError} (h : e.stray? = none) :
    Blames P exits (MonadExcept.throw e : Eval α) :=
  ofOutcome (.error h)

theorem observe (f : Machine → α) : Blames P exits (Exec.observe f : Eval α) := by
  intro m hm e s he
  cases he

theorem update (f : Machine → Machine) : Blames P exits (Exec.update f : Eval Unit) := by
  intro m hm e s he
  cases he

theorem record (e : Event) : Blames P exits (Exec.record e : Eval Unit) :=
  update _

/-- Further steps may rely on the value before them being alike to itself, and on what else is
known of it. -/
theorem bind_of (hsimilar : Exec.Similar P R x x) (hx : Blames P exits x) (hvalue : x.Yields Q)
    (hf : ∀ a, R a a → Q a → Blames P exits (f a)) : Blames P exits (x >>= f) := by
  intro m hm e s he hs
  have hsame := hsimilar m m hm
  have hcause := hx m hm e s
  have hq := hvalue m
  rw [on_bind] at he
  generalize x.on m = r at he hsame hcause hq
  obtain ⟨o, m'⟩ := r
  obtain ⟨hagree, hm'⟩ := hsame
  cases o with
  | error cause =>
    cases he
    exact hcause rfl hs
  | ok a =>
    cases hagree with
    | ok ha => exact hf a ha (hq a rfl) m' hm' e s he hs

theorem bind (hsimilar : Exec.Similar P R x x) (hx : Blames P exits x)
    (hf : ∀ a, R a a → Blames P exits (f a)) : Blames P exits (x >>= f) :=
  bind_of (Q := fun _ => True) hsimilar hx (fun _ _ _ => trivial) fun a ha _ => hf a ha

theorem within {bindings : Scope} (hb : bindings.Like P bindings) (link : Option Nat)
    (hx : Blames P exits x) : Blames P exits (Exec.within bindings link x) := by
  intro m hm
  exact hx (m.enter bindings link) (hm.enter hb link)

theorem calledFrom (site : Position) (hx : Blames P exits x) :
    Blames P exits (Exec.calledFrom site x) := by
  intro m hm
  exact hx { m with callSite := site } (hm.calledFrom site site)

end Exec.Blames

/-- What calls do on machines that are alike to themselves. -/
structure Calls.Blame (P : Correspondence) (exits : List Statement) (calls : Calls) : Prop where
  like : calls.Like P calls
  user : ∀ {f : Function} {vs : List Value} (link : Option Nat) (site : Position),
    f.Like P f → List.Forall₂ (Value.Like P) vs vs → Exec.Blames P exits (calls.user f link vs site)
  native : ∀ {vs : List Value} (b : Builtin) (site : Position),
    List.Forall₂ (Value.Like P) vs vs → Exec.Blames P exits (calls.native (.builtin b) vs site)

/-! ## Names -/

theorem evalVariable_blames (v : Variable) : Exec.Blames P exits (evalVariable v) := by
  unfold evalVariable
  refine .bind (.observe fun m m' hm => hm.stack.find? v.name) (.observe _) fun o _ => ?_
  cases o with
  | some value => exact .pure
  | none =>
    refine .bind (.observe fun m m' hm => hm.findNative v.name) (.observe _) fun o _ => ?_
    cases o with
    | some n => exact .pure
    | none => exact .throw rfl

namespace Calls.Blame

variable {calls : Calls} {vs : List Value} (hcalls : calls.Blame P exits)
include hcalls

theorem value {callee : Value} (name : String) (link : Option Nat) (site : Position)
    (hcallee : callee.Like P callee) (hvs : List.Forall₂ (Value.Like P) vs vs) :
    Exec.Blames P exits (calls.value name callee link vs site) := by
  cases hcallee with
  | function hf => exact hcalls.user link site hf hvs
  | builtin b => exact hcalls.native b site hvs
  | _ => exact .throw rfl

theorem named (name : String) (site : Position) (hvs : List.Forall₂ (Value.Like P) vs vs) :
    Exec.Blames P exits (calls.named name vs site) := by
  unfold Calls.named
  refine .bind (.observe fun m m' hm => hm.findNative name) (.observe _) fun o ho => ?_
  cases ho with
  | some hn =>
    obtain ⟨-, b, rfl⟩ := hn
    exact hcalls.native b site hvs
  | none =>
    refine .bind (.observe fun m m' hm => hm.stack.resolve name) (.observe _) fun o ho => ?_
    cases ho with
    | none => exact .throw rfl
    | @some r _ hfound =>
      obtain ⟨link, callee⟩ := r
      exact hcalls.value name link site hfound.2 hvs

theorem method {object : Value} (hobject : object.Like P object) (name : String) (site : Position)
    (hvs : List.Forall₂ (Value.Like P) vs vs) :
    Exec.Blames P exits (calls.method object name vs site) := by
  have hfound := hobject.method? name
  unfold Calls.method
  generalize object.method? name = o at hfound ⊢
  cases hfound with
  | some hcallee => exact hcalls.value name none site hcallee hvs
  | none => exact hcalls.named name site hvs

end Calls.Blame

/-! ## Trees -/

theorem runLoop_blames {index : Option Variable} {item : Variable} {body : Eval Flow}
    (hsimilar : Exec.Similar P (Flow.Like P) body body) (hbody : Exec.Blames P exits body)
    {pairs : List (Value × Value)} (hpairs : List.Forall₂ (PairLike P) pairs pairs) :
    Exec.Blames P exits (runLoop index item body pairs) := by
  induction pairs with
  | nil => exact .pure
  | cons pair rest ih =>
    obtain ⟨key, value⟩ := pair
    obtain ⟨⟨hkey, hvalue⟩, hrest⟩ := List.forall₂_cons.mp hpairs
    rw [runLoop]
    refine .bind (.record rfl) (.record _) fun _ _ => ?_
    rcases index with _ | v
    case' some => refine .bind (.assign v.name hkey) (.update _) fun _ _ => ?_
    all_goals
      refine .bind (.assign item.name hvalue) (.update _) fun _ _ => ?_
      refine .bind hsimilar hbody fun flow _ => ?_
      cases flow with
      | normal | continued _ => exact ih hrest
      | returned _ | broke _ => exact .pure

namespace Calls.Blame

variable {calls : Calls}

mutual

theorem evalExpr_blames (hP : Relator.BiUnique P) (hcalls : calls.Blame P exits) :
    ∀ e : Expr, e.Like P e → Exec.Blames P exits (evalExpr calls e)
  | .var v, _ => by
    rw [evalExpr]
    exact evalVariable_blames v
  | .literal _ _, _ => by
    rw [evalExpr]
    exact .pure
  | .binary left o right position, h => by
    obtain ⟨_, _, _, ⟨⟩, hleft, hright⟩ := h.of_binary
    rw [evalExpr]
    refine .bind (hcalls.like.evalExpr_similar hP left hleft)
      (hcalls.evalExpr_blames hP left hleft) fun a _ => ?_
    refine .bind (hcalls.like.evalExpr_similar hP right hright)
      (hcalls.evalExpr_blames hP right hright) fun b _ => ?_
    exact .ofOutcome (o.apply_innocent a b position)
  | .list values _, h => by
    obtain ⟨_, _, ⟨⟩, hvalues⟩ := h.of_list
    rw [evalExpr]
    exact .bind (hcalls.like.evalExprs_similar hP values hvalues)
      (hcalls.evalExprs_blames hP values hvalues) fun _ _ => .pure
  | .block ⟨statements, _⟩, h => by
    obtain ⟨_, ⟨⟩, hb⟩ := h.of_block
    obtain ⟨_, _, ⟨⟩, hstatements⟩ := hb.of_mk
    rw [evalExpr]
    exact .bind (hcalls.like.evalEntries_similar hP statements hstatements .empty)
      (hcalls.evalEntries_blames hP statements hstatements .empty) fun _ _ => .pure
  | .call ⟨name, arguments, site⟩, h => by
    obtain ⟨_, ⟨⟩, hc⟩ := h.of_call
    obtain ⟨_, _, ⟨⟩, harguments⟩ := hc.of_mk
    rw [evalExpr]
    exact .bind (hcalls.like.evalExprs_similar hP arguments harguments)
      (hcalls.evalExprs_blames hP arguments harguments) fun _ hvs => hcalls.named name site hvs
  | .field object member position, h => by
    obtain ⟨_, _, _, ⟨⟩, hobject, hmember⟩ := h.of_field
    rw [evalExpr]
    -- An object that is a name may stand for nothing; any other is evaluated.
    cases object with
    | var v =>
      exact .bind (evalOwner_similar rfl) (.observe _) fun u hu =>
        hcalls.evalMember_blames hP member position hu hmember
    | _ =>
      exact .bind (hcalls.like.evalExpr_similar hP _ hobject)
        (hcalls.evalExpr_blames hP _ hobject) fun u hu =>
        hcalls.evalMember_blames hP member position hu hmember

theorem evalExprs_blames (hP : Relator.BiUnique P) (hcalls : calls.Blame P exits) :
    ∀ es : List Expr, LikeAll P es es → Exec.Blames P exits (evalExprs calls es)
  | [], _ => by
    rw [evalExprs]
    exact .pure
  | e :: es, h => by
    obtain ⟨_, _, ⟨⟩, he, hes⟩ := h.of_cons
    rw [evalExprs]
    refine .bind (hcalls.like.evalExpr_similar hP e he) (hcalls.evalExpr_blames hP e he)
      fun _ _ => ?_
    exact .bind (hcalls.like.evalExprs_similar hP es hes) (hcalls.evalExprs_blames hP es hes)
      fun _ _ => .pure

theorem evalMember_blames (hP : Relator.BiUnique P) (hcalls : calls.Blame P exits) :
    ∀ (member : Member) {object : Value} (position : Position), object.Like P object →
      member.Like P member → Exec.Blames P exits (evalMember calls object position member)
  | .name v, object, position, _, _ => by
    rw [evalMember]
    exact .ofOutcome (object.readName_innocent v.name position)
  | .index key, object, position, _, h => by
    obtain ⟨_, ⟨⟩, hkey⟩ := h.of_index
    rw [evalMember]
    exact .bind (hcalls.like.evalExpr_similar hP key hkey) (hcalls.evalExpr_blames hP key hkey)
      fun k _ => .ofOutcome (object.readIndex_innocent k position)
  | .call ⟨name, arguments, site⟩, _, _, hobject, h => by
    obtain ⟨_, ⟨⟩, hc⟩ := h.of_call
    obtain ⟨_, _, ⟨⟩, harguments⟩ := hc.of_mk
    rw [evalMember]
    exact .bind (hcalls.like.evalExprs_similar hP arguments harguments)
      (hcalls.evalExprs_blames hP arguments harguments) fun _ hvs =>
      hcalls.method hobject name site hvs

theorem evalEntries_blames (hP : Relator.BiUnique P) (hcalls : calls.Blame P exits) :
    ∀ (statements : List Statement) {entries : Mapping Value},
      LikeStatements P statements statements → entries.Like P entries →
      Exec.Blames P exits (evalEntries calls entries statements)
  | [], _, _, _ => by
    rw [evalEntries]
    exact .pure
  | .assign target value position :: rest, entries, h, hentries => by
    obtain ⟨_, _, ⟨⟩, hs, hrest⟩ := h.of_cons
    obtain ⟨_, _, _, ⟨⟩, -, hvalue⟩ := hs.of_assign
    cases target with
    | var key =>
      rw [evalEntries]
      exact .bind (hcalls.like.evalExpr_similar hP value hvalue)
        (hcalls.evalExpr_blames hP value hvalue) fun v hv =>
        hcalls.evalEntries_blames hP rest hrest (hentries.insert key.name hv)
    | _ =>
      rw [evalEntries_assign_of_none calls entries rest rfl]
      exact .throw rfl
  | .newLine _ :: rest, _, h, hentries => by
    obtain ⟨_, _, ⟨⟩, -, hrest⟩ := h.of_cons
    rw [evalEntries]
    exact hcalls.evalEntries_blames hP rest hrest hentries
  | .comment _ :: rest, _, h, hentries => by
    obtain ⟨_, _, ⟨⟩, -, hrest⟩ := h.of_cons
    rw [evalEntries]
    exact hcalls.evalEntries_blames hP rest hrest hentries
  | .function _ :: _, _, _, _ | .conditional .. :: _, _, _, _ | .loop .. :: _, _, _, _
  | .exit .. :: _, _, _, _ | .stop _ :: _, _, _, _ | .skip _ :: _, _, _, _
  | .expression _ :: _, _, _, _ => by
    simp only [evalEntries]
    exact .throw rfl

theorem execute_blames (hP : Relator.BiUnique P) (hcalls : calls.Blame P exits) :
    ∀ s : Statement, s.Like P s → Exec.Blames P exits (execute calls s)
  | .assign target value _, h => by
    obtain ⟨_, _, _, ⟨⟩, htarget, hvalue⟩ := h.of_assign
    rw [execute]
    refine .bind (hcalls.like.evalExpr_similar hP value hvalue)
      (hcalls.evalExpr_blames hP value hvalue) fun v hv => ?_
    exact .bind (hcalls.like.evalAssign_similar hP target htarget hv)
      (hcalls.evalAssign_blames hP target htarget hv) fun _ _ => .pure
  | .function f, h => by
    obtain ⟨_, ⟨⟩, hf⟩ := h.of_function
    rw [execute]
    exact .bind (.assign f.name (.function hf)) (.update _) fun _ _ => .pure
  | .conditional condition ⟨body, _⟩ none _, h => by
    obtain ⟨_, _, _, _, ⟨⟩, hcondition, hbody, -⟩ := h.of_conditional
    obtain ⟨_, _, ⟨⟩, hstatements⟩ := hbody.of_mk
    rw [execute]
    refine .bind (hcalls.like.evalExpr_similar hP condition hcondition)
      (hcalls.evalExpr_blames hP condition hcondition) fun v hv => ?_
    refine .bind (.ofOutcome (hv.asBool .condition _ _)) (.ofOutcome (v.asBool_innocent _ _))
      fun holds _ => ?_
    cases holds with
    | true => exact hcalls.evalStatements_blames hP body hstatements
    | false => exact .pure
  | .conditional condition ⟨body, _⟩ (some ⟨otherwise, _⟩) _, h => by
    obtain ⟨_, _, _, _, ⟨⟩, hcondition, hbody, hotherwise⟩ := h.of_conditional
    obtain ⟨_, _, ⟨⟩, hstatements⟩ := hbody.of_mk
    cases hotherwise with
    | some hblock =>
      obtain ⟨_, _, ⟨⟩, hothers⟩ := hblock.of_mk
      rw [execute]
      refine .bind (hcalls.like.evalExpr_similar hP condition hcondition)
        (hcalls.evalExpr_blames hP condition hcondition) fun v hv => ?_
      refine .bind (.ofOutcome (hv.asBool .condition _ _)) (.ofOutcome (v.asBool_innocent _ _))
        fun holds _ => ?_
      cases holds with
      | true => exact hcalls.evalStatements_blames hP body hstatements
      | false => exact hcalls.evalStatements_blames hP otherwise hothers
  | .loop _ _ iterable ⟨body, _⟩ _, h => by
    obtain ⟨_, _, _, _, _, ⟨⟩, -, -, hiterable, hbody⟩ := h.of_loop
    obtain ⟨_, _, ⟨⟩, hstatements⟩ := hbody.of_mk
    rw [execute]
    refine .bind (hcalls.like.evalExpr_similar hP iterable hiterable)
      (hcalls.evalExpr_blames hP iterable hiterable) fun v hv => ?_
    have hpairs := hv.pairs?
    generalize v.pairs? = o at hpairs ⊢
    cases hpairs with
    | some hpairs =>
      exact runLoop_blames (hcalls.like.evalStatements_similar hP body hstatements)
        (hcalls.evalStatements_blames hP body hstatements) hpairs
    | none => exact .throw rfl
  | .exit none _, _ => by
    rw [execute]
    exact .pure
  | .exit (some value) _, h => by
    obtain ⟨_, _, ⟨⟩, hvalue⟩ := h.of_exit
    cases hvalue with
    | some hvalue =>
      rw [execute]
      exact .bind (hcalls.like.evalExpr_similar hP value hvalue)
        (hcalls.evalExpr_blames hP value hvalue) fun _ _ => .pure
  | .expression e, h => by
    obtain ⟨_, ⟨⟩, he⟩ := h.of_expression
    rw [execute]
    exact .bind (hcalls.like.evalExpr_similar hP e he) (hcalls.evalExpr_blames hP e he)
      fun _ _ => .pure
  | .stop _, _ | .skip _, _ | .newLine _, _ | .comment _, _ => by
    rw [execute]
    exact .pure

theorem evalAssign_blames (hP : Relator.BiUnique P) (hcalls : calls.Blame P exits) :
    ∀ (e : Expr) {v : Value}, e.Like P e → v.Like P v → Exec.Blames P exits (evalAssign calls v e)
  | .var _, _, _, _ => by
    rw [evalAssign]
    exact .update _
  | .field object member position, _, h, hv => by
    obtain ⟨_, _, _, ⟨⟩, hobject, hmember⟩ := h.of_field
    rw [evalAssign]
    refine .bind (hcalls.like.evalPlace_similar hP object hobject)
      (hcalls.evalPlace_blames hP object hobject) fun old hold => ?_
    refine .bind (hcalls.like.evalWrite_similar hP member position position hold hv hmember)
      (hcalls.evalWrite_blames hP member position hmember) fun new hnew => ?_
    exact hcalls.evalAssign_blames hP object hobject hnew
  | .literal .., _, _, _ | .binary .., _, _, _ | .list .., _, _, _ | .block _, _, _, _
  | .call _, _, _, _ => by
    simp only [evalAssign]
    exact .throw rfl

theorem evalPlace_blames (hP : Relator.BiUnique P) (hcalls : calls.Blame P exits) :
    ∀ e : Expr, e.Like P e → Exec.Blames P exits (evalPlace calls e)
  | .var _, _ => by
    rw [evalPlace]
    exact .observe _
  | .field object member position, h => by
    obtain ⟨_, _, _, ⟨⟩, hobject, hmember⟩ := h.of_field
    rw [evalPlace]
    refine .bind (hcalls.like.evalPlace_similar hP object hobject)
      (hcalls.evalPlace_blames hP object hobject) fun v hv => ?_
    cases v.isNil with
    | true => exact .pure
    | false => exact hcalls.evalMember_blames hP member position hv hmember
  | .literal .., _ | .binary .., _ | .list .., _ | .block _, _ | .call _, _ => by
    simp only [evalPlace]
    exact .throw rfl

theorem evalWrite_blames (hP : Relator.BiUnique P) (hcalls : calls.Blame P exits) :
    ∀ (member : Member) {object v : Value} (position : Position), member.Like P member →
      Exec.Blames P exits (evalWrite calls object v position member)
  | .name x, object, v, position, _ => by
    rw [evalWrite]
    exact .ofOutcome (object.write_innocent (.string x.name) v position)
  | .index key, object, v, position, h => by
    obtain ⟨_, ⟨⟩, hkey⟩ := h.of_index
    rw [evalWrite]
    exact .bind (hcalls.like.evalExpr_similar hP key hkey) (hcalls.evalExpr_blames hP key hkey)
      fun k _ => .ofOutcome (object.write_innocent k v position)
  | .call _, _, _, _, _ => by
    rw [evalWrite]
    exact .throw rfl

theorem evalStatements_blames (hP : Relator.BiUnique P) (hcalls : calls.Blame P exits) :
    ∀ ss : List Statement, LikeStatements P ss ss → Exec.Blames P exits (evalStatements calls ss)
  | [], _ => by
    rw [evalStatements]
    exact .pure
  | s :: rest, h => by
    obtain ⟨_, _, ⟨⟩, hs, hrest⟩ := h.of_cons
    rw [evalStatements]
    refine .bind (.record rfl) (.record _) fun _ _ => ?_
    refine .bind (hcalls.like.execute_similar hP s hs) (hcalls.execute_blames hP s hs)
      fun flow _ => ?_
    cases flow with
    | normal => exact hcalls.evalStatements_blames hP rest hrest
    | returned _ | broke _ | continued _ => exact .pure

end

end Calls.Blame

/-! ## Built-in functions -/

namespace Builtin

theorem runCommand_blames (env : Environment) {command : Value} (hcommand : command.Like P command)
    (site : Position) : Exec.Blames P exits (runCommand env command site) := by
  unfold runCommand
  refine .bind (.ofOutcome (hcommand.asString _ site site))
    (.ofOutcome (command.asString_innocent _ site)) fun command _ => ?_
  refine .bind (.record rfl) (.record _) fun _ _ => ?_
  cases env.shell command with
  | error details => exact .throw rfl
  | ok outcome =>
    dsimp only
    split
    · exact .pure
    · exact .bind (.record rfl) (.record _) fun _ _ => .pure

theorem call_blames (env : Environment) (b : Builtin) {vs : List Value}
    (hvs : List.Forall₂ (Value.Like P) vs vs) (site : Position) :
    Exec.Blames P exits (b.call env vs site) := by
  have hprint : ∀ text, Exec.Blames P exits (print text) := fun text =>
    .bind (.record rfl) (.record _) fun _ _ => .pure
  unfold call
  split
  · exact hprint _
  · exact hprint _
  · exact .ofOutcome (length_innocent _ site)
  · exact .pure
  · exact .pure
  · exact .ofOutcome ((isMatch_innocent env _ _ site).map _)
  · exact .ofOutcome ((searchMap_innocent env _ _ _ site).map _)
  · exact .ofOutcome ((searchMap_innocent env _ _ _ site).map _)
  · exact runCommand_blames env (List.forall₂_cons.mp hvs).1 site
  · exact .throw rfl

end Builtin

/-! ## Calls -/

theorem callNative_blames (env : Environment) (host : HostCall → Eval Value) (b : Builtin)
    {vs : List Value} (hvs : List.Forall₂ (Value.Like P) vs vs) (site : Position) :
    Exec.Blames P exits (env.callNative host (.builtin b) vs site) := by
  unfold Environment.callNative
  split
  · exact .calledFrom site (b.call_blames env hvs site)
  · exact .throw rfl

theorem nativeCalls_blames (env : Environment) (nesting left : Nat) (b : Builtin)
    {vs : List Value} (hvs : List.Forall₂ (Value.Like P) vs vs) (site : Position) :
    Exec.Blames P exits (env.nativeCalls nesting left (.builtin b) vs site) := by
  cases nesting with
  | zero =>
    unfold Environment.nativeCalls
    exact callNative_blames env _ b hvs site
  | succ nesting =>
    unfold Environment.nativeCalls
    exact callNative_blames env _ b hvs site

theorem Function.checkCall_blames (f : Function) (limit : Nat) (vs : List Value) (site : Position) :
    Exec.Blames P exits (f.checkCall limit vs site) := by
  unfold checkCall
  split
  · refine .bind (.observe (R := (· = ·)) fun m m' hm => hm.openCalls) (.observe _) fun _ _ => ?_
    split
    · exact .pure
    · exact .throw rfl
  · exact .throw rfl

theorem recordReturn_blames (flow : Flow) : Exec.Blames P exits (recordReturn flow) := by
  cases flow with
  | returned v => exact .record _
  | normal | broke _ | continued _ => exact .pure

/-- Statements that are left on the way to a loop fail because of one of these. -/
theorem Flow.LeavesBy.value_blames {flow : Flow} (h : flow.LeavesBy exits) :
    Exec.Blames P exits (Exec.ofOutcome flow.value) := by
  intro m hm e s he hs
  rw [stray?_of_value he] at hs
  exact h s hs

/-- If a body ends on the way to a loop, it is by a stray of the function, and that is what the
call fails with. The body itself runs with one less call. -/
theorem callsWithin_blame (hP : Relator.BiUnique P)
    (hbodies : ∀ f : Function, f.Like P f → f.body.strays ⊆ exits) (env : Environment)
    (nesting left : Nat) : (env.callsWithin nesting left).Blame P exits := by
  induction left with
  | zero =>
    refine ⟨callsWithin_like hP env nesting 0, ?_, fun b site hvs =>
      nativeCalls_blames env nesting 0 b hvs site⟩
    intro f vs link site hf hvs
    exact .bind (hf.checkCall hvs _ site site) (f.checkCall_blames _ vs site) fun _ _ => .throw rfl
  | succ left ih =>
    refine ⟨callsWithin_like hP env nesting (left + 1), ?_, fun b site hvs =>
      nativeCalls_blames env nesting _ b hvs site⟩
    intro f vs link site hf hvs
    refine .bind (hf.checkCall hvs _ site site) (f.checkCall_blames _ vs site) fun _ _ => ?_
    have hbinds := hf.bind hvs
    -- The errors of the body are blamed by induction, and the way in which it ends by its strays.
    refine .bind_of (.within hbinds link (ih.like.evalStatements_similar hP _ hf.body))
      (.within hbinds link (ih.evalStatements_blames hP _ hf.body))
      (.within (evalStatements_leavesBy _ _) _ link) fun flow hflow hleaves => ?_
    refine .bind (recordReturn_similar hflow) (recordReturn_blames flow) fun _ _ => ?_
    rw [← Block.strays_eq] at hleaves
    exact (hleaves.of_subset (hbodies f hf)).value_blames

/-! ## Programs -/

/-- A function is left where it is, and is one of these. -/
def Defined (functions : List Function) : Correspondence :=
  fun f g => f = g ∧ f ∈ functions

theorem Defined.biUnique (functions : List Function) : Relator.BiUnique (Defined functions) := by
  constructor
  · intro f g h hf hg
    exact hf.1.trans hg.1.symm
  · intro f g h hg hh
    exact hg.1.symm.trans hh.1

theorem Defined.mem_of_like {functions : List Function} {f : Function}
    (h : f.Like (Defined functions) f) : f ∈ functions := by
  have hfunctions := h.2
  rw [f.functions_eq] at hfunctions
  exact (List.forall₂_cons.mp hfunctions).1.2

/-- A program is alike to itself when its functions are left where they are. -/
theorem Defined.likeStatements (program : Program) :
    LikeStatements (Defined (functionsOfStatements program)) program program :=
  ⟨rfl, List.forall₂_same.mpr fun _ hf => ⟨rfl, hf⟩⟩

theorem announce_blames (hP : Relator.BiUnique P) (env : Environment) :
    Exec.Blames P exits (env.announce : Eval Unit) := by
  unfold Environment.announce
  refine .bind (R := (· = ·)) (.observe fun m m' hm => isDebug_eq hP env hm) (.observe _)
    fun debug _ => ?_
  split
  · exact .record _
  · exact .pure

/-- A run fails because of strays of the program only. -/
theorem runTree_blames (env : Environment) (program : Program) :
    Exec.Blames (Defined (functionsOfStatements program)) program.strays
      (env.runTree program) := by
  have hP := Defined.biUnique (functionsOfStatements program)
  have hprogram := Defined.likeStatements program
  have hcalls : env.calls.Blame (Defined (functionsOfStatements program)) program.strays := by
    apply callsWithin_blame hP
    intro f hf s hs
    exact program.mem_strays.mpr (.inr ⟨f, Defined.mem_of_like hf, hs⟩)
  unfold Environment.runTree runProgram
  refine .bind (announce_similar hP env) (announce_blames hP env) fun _ _ => ?_
  refine .bind_of (hcalls.like.evalStatements_similar hP program hprogram)
    (hcalls.evalStatements_blames hP program hprogram) (evalStatements_leavesBy _ program)
    fun flow _ hleaves => ?_
  apply Flow.LeavesBy.value_blames
  apply hleaves.of_subset
  intro s hs
  exact program.mem_strays.mpr (.inl hs)

namespace Environment

variable {env : Environment} {program : Program} {e : RuntimeError}

/-- A source that is read fails as the tree does. -/
theorem runTree_of_run {source : String} {m : Machine} (hparse : parse source = .ok program)
    (h : ((env.run source).on m).1 = .error (.runtime e)) :
    ((env.runTree program).on m).1 = .error e := by
  rw [run, on_runSource, hparse] at h
  rw [runTree, Exec.on_bind_ok (env.on_announce m)]
  replace h : ((runProgram env.calls program).on (env.announced m)).1.mapError Failure.runtime =
    .error (.runtime e) := h
  cases houtcome : ((runProgram env.calls program).on (env.announced m)).1 with
  | ok v =>
    rw [houtcome] at h
    cases h
  | error e' =>
    rw [houtcome] at h
    cases h
    rfl

/-- If a program fails on a fresh machine because a `break` or a `continue` is outside of a loop, it
is one that stands in no loop of its own function, or of the top of the program. A program without
such statements does not fail in this way. -/
theorem run_fails_by_strays
    (hrun : ((env.runTree program).on (.initial {})).1 = .error e ∨
      ∃ source, parse source = .ok program ∧
        ((env.run source).on (.initial {})).1 = .error (.runtime e)) :
    (∀ p, e = .structural .breakOutsideLoop p → .stop p ∈ program.strays) ∧
      (∀ p, e = .structural .continueOutsideLoop p → .skip p ∈ program.strays) ∧
      (program.strays = [] → e.stray? = none) := by
  have htree : ((env.runTree program).on (.initial {})).1 = .error e := by
    rcases hrun with htree | ⟨source, hparse, hsource⟩
    · exact htree
    · exact runTree_of_run hparse hsource
  have hblames := runTree_blames env program (.initial {}) Machine.initial_like e
  refine ⟨?_, ?_, ?_⟩
  · rintro p rfl
    exact hblames (.stop p) htree rfl
  · rintro p rfl
    exact hblames (.skip p) htree rfl
  · intro hnone
    by_contra hstray
    obtain ⟨s, hs⟩ := Option.ne_none_iff_exists'.mp hstray
    have hmem := hblames s htree hs
    rw [hnone] at hmem
    cases hmem

/-- A loop does not take the `break` of a function that it calls. -/
theorem run_fails_by_strays_of_call_in_loop :
    ∃ program, parse "f() { break }\nfor x in [1] { f() }" = .ok program ∧
      ((Environment.bare.run "f() { break }\nfor x in [1] { f() }").on (.initial {})).1 =
        .error (.runtime (.structural .breakOutsideLoop ⟨0, 6, 5⟩)) ∧
      .stop ⟨0, 6, 5⟩ ∈ program.strays := by
  have hparse : parse "f() { break }\nfor x in [1] { f() }" =
      .ok [.function ⟨"f", [], ⟨[.stop ⟨0, 6, 5⟩], ⟨0, 4, 1⟩⟩, ⟨0, 0, 1⟩⟩,
        .newLine ⟨0, 13, 1⟩,
        .loop none ⟨"x", ⟨1, 4, 1⟩⟩ (.list [.literal (.int 1) ⟨1, 10, 1⟩] ⟨1, 9, 1⟩)
          ⟨[.expression (.call ⟨"f", [], ⟨1, 15, 1⟩⟩)], ⟨1, 13, 1⟩⟩ ⟨1, 0, 3⟩] := by
    with_unfolding_all rfl
  have hrun : ((Environment.bare.run "f() { break }\nfor x in [1] { f() }").on (.initial {})).1 =
      .error (.runtime (.structural .breakOutsideLoop ⟨0, 6, 5⟩)) := by
    rw [run, on_runSource, hparse]
    rfl
  exact ⟨_, hparse, hrun, (run_fails_by_strays (.inr ⟨_, hparse, hrun⟩)).1 _ rfl⟩

end Environment

end Scriptlet
