import Scriptlet.Evaluation
import Scriptlet.Proofs.Places.Machines

/-!
# Alike trees are evaluated alike

Where calls do the same on both sides, alike trees take alike machines to alike machines, with
outcomes that agree (`Calls.Like.evalExpr_similar` and its companions). The proof follows the
evaluator, with one case for each sort of node; that the other tree has a node of the same sort
there is what `Expr.Like.of_binary` and so on say.
-/

namespace Scriptlet

/-- The ways in which statements end are the same, but for places. -/
inductive Flow.Like (P : Correspondence) : Flow → Flow → Prop
  | normal : Flow.Like P .normal .normal
  | returned {v v' : Value} (value : v.Like P v') : Flow.Like P (.returned v) (.returned v')
  | broke (p p' : Position) : Flow.Like P (.broke p) (.broke p')
  | continued (p p' : Position) : Flow.Like P (.continued p) (.continued p')

/-- Two sides on which calls do the same, but for places. -/
structure Calls.Like (P : Correspondence) (calls calls' : Calls) : Prop where
  user : ∀ {f f' : Function} {vs vs' : List Value} (link : Option Nat) (site site' : Position),
    f.Like P f' → List.Forall₂ (Value.Like P) vs vs' →
    Exec.Similar P (Value.Like P) (calls.user f link vs site) (calls'.user f' link vs' site')
  native : ∀ {vs vs' : List Value} (b : Builtin) (site site' : Position),
    List.Forall₂ (Value.Like P) vs vs' →
    Exec.Similar P (Value.Like P) (calls.native (.builtin b) vs site)
      (calls'.native (.builtin b) vs' site')

variable {P : Correspondence}

theorem Flow.Like.value {flow flow' : Flow} (h : flow.Like P flow') :
    Agree (Value.Like P) flow.value flow'.value := by
  cases h with
  | normal => exact .ok .nil
  | returned value => exact .ok value
  | broke _ _ | continued _ _ => exact .error rfl

/-! ## Names -/

/-- The same native function, which is built in. -/
def SameBuiltin (n n' : Native) : Prop :=
  n = n' ∧ n.IsBuiltin

theorem Machine.Like.findNative {m m' : Machine} (h : m.Like P m') (name : String) :
    Option.Rel SameBuiltin (m.natives.find? name) (m'.natives.find? name) := by
  rw [← h.natives]
  cases hn : m.natives.find? name with
  | none => exact .none
  | some n => exact .some ⟨rfl, h.builtin name n hn⟩

theorem evalVariable_similar {v v' : Variable} (hname : v.name = v'.name) :
    Exec.Similar P (Value.Like P) (evalVariable v) (evalVariable v') := by
  unfold evalVariable
  rw [← hname]
  refine .bind (.observe fun m m' hm => hm.stack.find? v.name) fun o o' ho => ?_
  cases ho with
  | some hv => exact .pure hv
  | none =>
    refine .bind (.observe fun m m' hm => hm.findNative v.name) fun o o' ho => ?_
    cases ho with
    | some hn =>
      obtain ⟨rfl, b, rfl⟩ := hn
      exact .pure (.builtin b)
    | none => exact .throw rfl

theorem evalOwner_similar {v v' : Variable} (hname : v.name = v'.name) :
    Exec.Similar P (Value.Like P) (evalOwner v) (evalOwner v') := by
  unfold evalOwner
  rw [← hname]
  exact .observe fun m m' hm => optionRel_getD (hm.stack.find? v.name) .nil

namespace Calls.Like

variable {calls calls' : Calls} {vs vs' : List Value} (hcalls : calls.Like P calls')
include hcalls

theorem value {callee callee' : Value} (name : String) (link : Option Nat) (site site' : Position)
    (hcallee : callee.Like P callee') (hvs : List.Forall₂ (Value.Like P) vs vs') :
    Exec.Similar P (Value.Like P) (calls.value name callee link vs site)
      (calls'.value name callee' link vs' site') := by
  cases hcallee with
  | function hf => exact hcalls.user link site site' hf hvs
  | builtin b => exact hcalls.native b site site' hvs
  | _ => exact .throw rfl

theorem named (name : String) (site site' : Position)
    (hvs : List.Forall₂ (Value.Like P) vs vs') :
    Exec.Similar P (Value.Like P) (calls.named name vs site) (calls'.named name vs' site') := by
  unfold Calls.named
  refine .bind (.observe fun m m' hm => hm.findNative name) fun o o' ho => ?_
  cases ho with
  | some hn =>
    obtain ⟨rfl, b, rfl⟩ := hn
    exact hcalls.native b site site' hvs
  | none =>
    refine .bind (.observe fun m m' hm => hm.stack.resolve name) fun o o' ho => ?_
    cases ho with
    | none => exact .throw rfl
    | @some r r' hfound =>
      obtain ⟨link, callee⟩ := r
      obtain ⟨link', callee'⟩ := r'
      obtain ⟨rfl, hcallee⟩ := hfound
      exact hcalls.value name link site site' hcallee hvs

theorem method {object object' : Value} (hobject : object.Like P object') (name : String)
    (site site' : Position) (hvs : List.Forall₂ (Value.Like P) vs vs') :
    Exec.Similar P (Value.Like P) (calls.method object name vs site)
      (calls'.method object' name vs' site') := by
  have hfound := hobject.method? name
  unfold Calls.method
  generalize object.method? name = o at hfound ⊢
  generalize object'.method? name = o' at hfound ⊢
  cases hfound with
  | some hcallee => exact hcalls.value name none site site' hcallee hvs
  | none => exact hcalls.named name site site' hvs

end Calls.Like

/-! ## Trees -/

theorem runLoop_similar {index index' : Option Variable} {item item' : Variable}
    {body body' : Eval Flow} (hindex : index.map (·.name) = index'.map (·.name))
    (hitem : item.name = item'.name) (hbody : Exec.Similar P (Flow.Like P) body body')
    {pairs pairs' : List (Value × Value)} (hpairs : List.Forall₂ (PairLike P) pairs pairs') :
    Exec.Similar P (Flow.Like P) (runLoop index item body pairs)
      (runLoop index' item' body' pairs') := by
  induction hpairs with
  | nil => exact .pure .normal
  | @cons pair pair' rest rest' hpair _ ih =>
    obtain ⟨key, value⟩ := pair
    obtain ⟨key', value'⟩ := pair'
    obtain ⟨hkey, hvalue⟩ := hpair
    rw [runLoop, runLoop, ← hitem]
    refine .bind (.record rfl) fun _ _ _ => ?_
    -- An index is assigned first; from there on the rounds are the same with and without one.
    rcases index with _ | v <;> rcases index' with _ | v' <;>
      simp only [Option.map_none, Option.map_some, reduceCtorEq, Option.some.injEq] at hindex
    case' some.some =>
      dsimp only
      rw [← hindex]
      refine .bind (.assign v.name hkey) fun _ _ _ => ?_
    all_goals
      refine .bind (.assign item.name hvalue) fun _ _ _ => .bind hbody fun flow flow' hflow => ?_
      cases hflow with
      | normal => exact ih
      | returned hv => exact .pure (.returned hv)
      | broke _ _ => exact .pure .normal
      | continued _ _ => exact ih

theorem Expr.Like.asVariable?_eq_none {e e' : Expr} (h : e.Like P e') (he : e.asVariable? = none) :
    e'.asVariable? = none := by
  cases e' with
  | var v =>
    obtain ⟨herase, -⟩ := h
    cases e <;> simp only [Expr.erase, reduceCtorEq] at herase
    cases he
  | _ => rfl

/-- Only an assignment to a name is an entry. -/
theorem evalEntries_assign_of_none (calls : Calls) (entries : Mapping Value) {target value : Expr}
    {p : Position} (rest : List Statement) (h : target.asVariable? = none) :
    evalEntries calls entries (.assign target value p :: rest) =
      throw (.structural .notAnEntry p) := by
  cases target with
  | var _ => cases h
  | _ => simp only [evalEntries, Statement.position]

namespace Calls.Like

variable {calls calls' : Calls}

mutual

theorem evalExpr_similar (hP : Relator.BiUnique P) (hcalls : calls.Like P calls') :
    ∀ (e : Expr) {e' : Expr}, e.Like P e' →
      Exec.Similar P (Value.Like P) (evalExpr calls e) (evalExpr calls' e')
  | .var v, _, h => by
    obtain ⟨v', rfl, hname⟩ := h.of_var
    rw [evalExpr, evalExpr]
    exact evalVariable_similar hname
  | .literal value _, _, h => by
    obtain ⟨p', rfl⟩ := h.of_literal
    rw [evalExpr, evalExpr]
    exact .pure value.value_like
  | .binary left o right position, _, h => by
    obtain ⟨left', right', position', rfl, hleft, hright⟩ := h.of_binary
    rw [evalExpr, evalExpr]
    refine .bind (hcalls.evalExpr_similar hP left hleft) fun a a' ha => ?_
    refine .bind (hcalls.evalExpr_similar hP right hright) fun b b' hb => ?_
    exact .ofOutcome (o.apply_agree hP ha hb position position')
  | .list values _, _, h => by
    obtain ⟨values', p', rfl, hvalues⟩ := h.of_list
    rw [evalExpr, evalExpr]
    exact .bind (hcalls.evalExprs_similar hP values hvalues) fun vs vs' hvs => .pure (.list hvs)
  | .block ⟨statements, _⟩, _, h => by
    obtain ⟨b', rfl, hb⟩ := h.of_block
    obtain ⟨statements', p', rfl, hstatements⟩ := hb.of_mk
    rw [evalExpr, evalExpr]
    exact .bind (hcalls.evalEntries_similar hP statements hstatements .empty) fun m m' hm =>
      .pure (.map hm)
  | .call ⟨name, arguments, site⟩, _, h => by
    obtain ⟨c', rfl, hc⟩ := h.of_call
    obtain ⟨arguments', site', rfl, harguments⟩ := hc.of_mk
    rw [evalExpr, evalExpr]
    exact .bind (hcalls.evalExprs_similar hP arguments harguments) fun vs vs' hvs =>
      hcalls.named name site site' hvs
  | .field object member position, _, h => by
    obtain ⟨object', member', position', rfl, hobject, hmember⟩ := h.of_field
    rw [evalExpr, evalExpr]
    -- An object that is a name may stand for nothing; any other is evaluated.
    cases object with
    | var v =>
      obtain ⟨v', rfl, hname⟩ := hobject.of_var
      exact .bind (evalOwner_similar hname) fun u u' hu =>
        hcalls.evalMember_similar hP member position position' hu hmember
    | _ =>
      rw [hobject.asVariable?_eq_none rfl]
      exact .bind (hcalls.evalExpr_similar hP _ hobject) fun u u' hu =>
        hcalls.evalMember_similar hP member position position' hu hmember
termination_by structural e => e

theorem evalExprs_similar (hP : Relator.BiUnique P) (hcalls : calls.Like P calls') :
    ∀ (es : List Expr) {es' : List Expr}, LikeAll P es es' →
      Exec.Similar P (List.Forall₂ (Value.Like P)) (evalExprs calls es) (evalExprs calls' es')
  | [], _, h => by
    rw [h.of_nil, evalExprs, evalExprs]
    exact .pure .nil
  | e :: es, _, h => by
    obtain ⟨e', es', rfl, he, hes⟩ := h.of_cons
    rw [evalExprs, evalExprs]
    refine .bind (hcalls.evalExpr_similar hP e he) fun v v' hv => ?_
    exact .bind (hcalls.evalExprs_similar hP es hes) fun vs vs' hvs => .pure (.cons hv hvs)
termination_by structural es => es

theorem evalMember_similar (hP : Relator.BiUnique P) (hcalls : calls.Like P calls') :
    ∀ (member : Member) {member' : Member} {object object' : Value} (position position' : Position),
      object.Like P object' → member.Like P member' →
      Exec.Similar P (Value.Like P) (evalMember calls object position member)
        (evalMember calls' object' position' member')
  | .name v, _, _, _, position, position', hobject, h => by
    obtain ⟨v', rfl, hname⟩ := h.of_name
    rw [evalMember, evalMember, ← hname]
    exact .ofOutcome (hobject.readName v.name position position')
  | .index key, _, _, _, position, position', hobject, h => by
    obtain ⟨key', rfl, hkey⟩ := h.of_index
    rw [evalMember, evalMember]
    exact .bind (hcalls.evalExpr_similar hP key hkey) fun k k' hk =>
      .ofOutcome (hobject.readIndex hk position position')
  | .call ⟨name, arguments, site⟩, _, _, _, _, _, hobject, h => by
    obtain ⟨c', rfl, hc⟩ := h.of_call
    obtain ⟨arguments', site', rfl, harguments⟩ := hc.of_mk
    rw [evalMember, evalMember]
    exact .bind (hcalls.evalExprs_similar hP arguments harguments) fun vs vs' hvs =>
      hcalls.method hobject name site site' hvs
termination_by structural m => m

theorem evalEntries_similar (hP : Relator.BiUnique P) (hcalls : calls.Like P calls') :
    ∀ (statements : List Statement) {statements' : List Statement} {m m' : Mapping Value},
      LikeStatements P statements statements' → m.Like P m' →
      Exec.Similar P (Mapping.Like P) (evalEntries calls m statements)
        (evalEntries calls' m' statements')
  | [], _, _, _, h, hm => by
    rw [h.of_nil, evalEntries, evalEntries]
    exact .pure hm
  | .assign target value position :: rest, _, m, m', h, hm => by
    obtain ⟨s', rest', rfl, hs, hrest⟩ := h.of_cons
    obtain ⟨target', value', position', rfl, htarget, hvalue⟩ := hs.of_assign
    cases target with
    | var key =>
      obtain ⟨key', rfl, hname⟩ := htarget.of_var
      rw [evalEntries, evalEntries, ← hname]
      exact .bind (hcalls.evalExpr_similar hP value hvalue) fun v v' hv =>
        hcalls.evalEntries_similar hP rest hrest (hm.insert key.name hv)
    | _ =>
      rw [evalEntries_assign_of_none calls m rest rfl,
        evalEntries_assign_of_none calls' m' rest' (htarget.asVariable?_eq_none rfl)]
      exact .throw rfl
  | .newLine _ :: rest, _, _, _, h, hm => by
    obtain ⟨s', rest', rfl, hs, hrest⟩ := h.of_cons
    obtain ⟨p', rfl⟩ := hs.of_newLine
    rw [evalEntries, evalEntries]
    exact hcalls.evalEntries_similar hP rest hrest hm
  | .comment _ :: rest, _, _, _, h, hm => by
    obtain ⟨s', rest', rfl, hs, hrest⟩ := h.of_cons
    obtain ⟨c', rfl⟩ := hs.of_comment
    rw [evalEntries, evalEntries]
    exact hcalls.evalEntries_similar hP rest hrest hm
  | .function _ :: _, _, _, _, h, _ => by
    obtain ⟨s', rest', rfl, hs, -⟩ := h.of_cons
    obtain ⟨f', rfl, -⟩ := hs.of_function
    simp only [evalEntries]
    exact .throw rfl
  | .conditional .. :: _, _, _, _, h, _ => by
    obtain ⟨s', rest', rfl, hs, -⟩ := h.of_cons
    obtain ⟨_, _, _, _, rfl, -⟩ := hs.of_conditional
    simp only [evalEntries]
    exact .throw rfl
  | .loop .. :: _, _, _, _, h, _ => by
    obtain ⟨s', rest', rfl, hs, -⟩ := h.of_cons
    obtain ⟨_, _, _, _, _, rfl, -⟩ := hs.of_loop
    simp only [evalEntries]
    exact .throw rfl
  | .exit .. :: _, _, _, _, h, _ => by
    obtain ⟨s', rest', rfl, hs, -⟩ := h.of_cons
    obtain ⟨_, _, rfl, -⟩ := hs.of_exit
    simp only [evalEntries]
    exact .throw rfl
  | .stop _ :: _, _, _, _, h, _ => by
    obtain ⟨s', rest', rfl, hs, -⟩ := h.of_cons
    obtain ⟨_, rfl⟩ := hs.of_stop
    simp only [evalEntries]
    exact .throw rfl
  | .skip _ :: _, _, _, _, h, _ => by
    obtain ⟨s', rest', rfl, hs, -⟩ := h.of_cons
    obtain ⟨_, rfl⟩ := hs.of_skip
    simp only [evalEntries]
    exact .throw rfl
  | .expression _ :: _, _, _, _, h, _ => by
    obtain ⟨s', rest', rfl, hs, -⟩ := h.of_cons
    obtain ⟨_, rfl, -⟩ := hs.of_expression
    simp only [evalEntries]
    exact .throw rfl
termination_by structural ss => ss

theorem execute_similar (hP : Relator.BiUnique P) (hcalls : calls.Like P calls') :
    ∀ (s : Statement) {s' : Statement}, s.Like P s' →
      Exec.Similar P (Flow.Like P) (execute calls s) (execute calls' s')
  | .assign target value _, _, h => by
    obtain ⟨target', value', p', rfl, htarget, hvalue⟩ := h.of_assign
    rw [execute, execute]
    refine .bind (hcalls.evalExpr_similar hP value hvalue) fun v v' hv => ?_
    exact .bind (hcalls.evalAssign_similar hP target htarget hv) fun _ _ _ => .pure .normal
  | .function f, _, h => by
    obtain ⟨f', rfl, hf⟩ := h.of_function
    rw [execute, execute, ← hf.name_eq]
    exact .bind (.assign f.name (.function hf)) fun _ _ _ => .pure .normal
  | .conditional condition ⟨body, _⟩ none _, _, h => by
    obtain ⟨condition', body', otherwise', p', rfl, hcondition, hbody, hotherwise⟩ :=
      h.of_conditional
    obtain ⟨statements', q', rfl, hstatements⟩ := hbody.of_mk
    cases hotherwise
    rw [execute, execute]
    refine .bind (hcalls.evalExpr_similar hP condition hcondition) fun v v' hv => ?_
    refine .bind (.ofOutcome (hv.asBool .condition _ _)) ?_
    rintro b _ rfl
    cases b with
    | true => exact hcalls.evalStatements_similar hP body hstatements
    | false => exact .pure .normal
  | .conditional condition ⟨body, _⟩ (some ⟨otherwise, _⟩) _, _, h => by
    obtain ⟨condition', body', otherwise', p', rfl, hcondition, hbody, hotherwise⟩ :=
      h.of_conditional
    obtain ⟨statements', q', rfl, hstatements⟩ := hbody.of_mk
    cases hotherwise with
    | some hblock =>
      obtain ⟨others', r', rfl, hothers⟩ := hblock.of_mk
      rw [execute, execute]
      refine .bind (hcalls.evalExpr_similar hP condition hcondition) fun v v' hv => ?_
      refine .bind (.ofOutcome (hv.asBool .condition _ _)) ?_
      rintro b _ rfl
      cases b with
      | true => exact hcalls.evalStatements_similar hP body hstatements
      | false => exact hcalls.evalStatements_similar hP otherwise hothers
  | .loop index item iterable ⟨body, _⟩ _, _, h => by
    obtain ⟨index', item', iterable', body', p', rfl, hindex, hitem, hiterable, hbody⟩ := h.of_loop
    obtain ⟨statements', q', rfl, hstatements⟩ := hbody.of_mk
    rw [execute, execute]
    refine .bind (hcalls.evalExpr_similar hP iterable hiterable) fun v v' hv => ?_
    have hpairs := hv.pairs?
    generalize v.pairs? = o at hpairs ⊢
    generalize v'.pairs? = o' at hpairs ⊢
    cases hpairs with
    | some hpairs =>
      exact runLoop_similar hindex hitem (hcalls.evalStatements_similar hP body hstatements) hpairs
    | none => exact .throw (hv.typeError .loop _ _)
  | .exit none _, _, h => by
    obtain ⟨value', p', rfl, hvalue⟩ := h.of_exit
    cases hvalue
    rw [execute, execute]
    exact .pure (.returned .nil)
  | .exit (some value) _, _, h => by
    obtain ⟨value', p', rfl, hvalue⟩ := h.of_exit
    cases hvalue with
    | some hvalue =>
      rw [execute, execute]
      exact .bind (hcalls.evalExpr_similar hP value hvalue) fun v v' hv => .pure (.returned hv)
  | .stop p, _, h => by
    obtain ⟨p', rfl⟩ := h.of_stop
    rw [execute, execute]
    exact .pure (.broke p p')
  | .skip p, _, h => by
    obtain ⟨p', rfl⟩ := h.of_skip
    rw [execute, execute]
    exact .pure (.continued p p')
  | .expression e, _, h => by
    obtain ⟨e', rfl, he⟩ := h.of_expression
    rw [execute, execute]
    exact .bind (hcalls.evalExpr_similar hP e he) fun _ _ _ => .pure .normal
  | .newLine _, _, h => by
    obtain ⟨p', rfl⟩ := h.of_newLine
    rw [execute, execute]
    exact .pure .normal
  | .comment _, _, h => by
    obtain ⟨c', rfl⟩ := h.of_comment
    rw [execute, execute]
    exact .pure .normal
termination_by structural s => s

theorem evalAssign_similar (hP : Relator.BiUnique P) (hcalls : calls.Like P calls') :
    ∀ (e : Expr) {e' : Expr} {v v' : Value}, e.Like P e' → v.Like P v' →
      Exec.Similar P (fun _ _ => True) (evalAssign calls v e) (evalAssign calls' v' e')
  | .var x, _, _, _, h, hv => by
    obtain ⟨x', rfl, hname⟩ := h.of_var
    rw [evalAssign, evalAssign, ← hname]
    exact .assign x.name hv
  | .field object member position, _, _, _, h, hv => by
    obtain ⟨object', member', position', rfl, hobject, hmember⟩ := h.of_field
    rw [evalAssign, evalAssign]
    refine .bind (hcalls.evalPlace_similar hP object hobject) fun old old' hold => ?_
    refine .bind (hcalls.evalWrite_similar hP member position position' hold hv hmember)
      fun new new' hnew => ?_
    exact hcalls.evalAssign_similar hP object hobject hnew
  | .literal .., _, _, _, h, _ => by
    obtain ⟨p', rfl⟩ := h.of_literal
    simp only [evalAssign]
    exact .throw rfl
  | .binary .., _, _, _, h, _ => by
    have hrender := h.render_eq
    obtain ⟨_, _, _, rfl, -⟩ := h.of_binary
    simp only [evalAssign, hrender]
    exact .throw rfl
  | .list .., _, _, _, h, _ => by
    have hrender := h.render_eq
    obtain ⟨_, _, rfl, -⟩ := h.of_list
    simp only [evalAssign, hrender]
    exact .throw rfl
  | .block _, _, _, _, h, _ => by
    have hrender := h.render_eq
    obtain ⟨_, rfl, -⟩ := h.of_block
    simp only [evalAssign, hrender]
    exact .throw rfl
  | .call _, _, _, _, h, _ => by
    have hrender := h.render_eq
    obtain ⟨_, rfl, -⟩ := h.of_call
    simp only [evalAssign, hrender]
    exact .throw rfl
termination_by structural e => e

theorem evalPlace_similar (hP : Relator.BiUnique P) (hcalls : calls.Like P calls') :
    ∀ (e : Expr) {e' : Expr}, e.Like P e' →
      Exec.Similar P (Value.Like P) (evalPlace calls e) (evalPlace calls' e')
  | .var x, _, h => by
    obtain ⟨x', rfl, hname⟩ := h.of_var
    rw [evalPlace, evalPlace]
    exact evalOwner_similar hname
  | .field object member position, _, h => by
    obtain ⟨object', member', position', rfl, hobject, hmember⟩ := h.of_field
    rw [evalPlace, evalPlace]
    refine .bind (hcalls.evalPlace_similar hP object hobject) fun v v' hv => ?_
    rw [← hv.isNil_eq]
    cases v.isNil with
    | true => exact .pure .nil
    | false => exact hcalls.evalMember_similar hP member position position' hv hmember
  | .literal .., _, h => by
    obtain ⟨p', rfl⟩ := h.of_literal
    simp only [evalPlace]
    exact .throw rfl
  | .binary .., _, h => by
    have hrender := h.render_eq
    obtain ⟨_, _, _, rfl, -⟩ := h.of_binary
    simp only [evalPlace, hrender]
    exact .throw rfl
  | .list .., _, h => by
    have hrender := h.render_eq
    obtain ⟨_, _, rfl, -⟩ := h.of_list
    simp only [evalPlace, hrender]
    exact .throw rfl
  | .block _, _, h => by
    have hrender := h.render_eq
    obtain ⟨_, rfl, -⟩ := h.of_block
    simp only [evalPlace, hrender]
    exact .throw rfl
  | .call _, _, h => by
    have hrender := h.render_eq
    obtain ⟨_, rfl, -⟩ := h.of_call
    simp only [evalPlace, hrender]
    exact .throw rfl
termination_by structural e => e

theorem evalWrite_similar (hP : Relator.BiUnique P) (hcalls : calls.Like P calls') :
    ∀ (member : Member) {member' : Member} {object object' v v' : Value}
      (position position' : Position), object.Like P object' → v.Like P v' →
      member.Like P member' →
      Exec.Similar P (Value.Like P) (evalWrite calls object v position member)
        (evalWrite calls' object' v' position' member')
  | .name x, _, _, _, _, _, position, position', hobject, hv, h => by
    obtain ⟨x', rfl, hname⟩ := h.of_name
    rw [evalWrite, evalWrite, ← hname]
    exact .ofOutcome (hobject.write (.string x.name) hv position position')
  | .index key, _, _, _, _, _, position, position', hobject, hv, h => by
    obtain ⟨key', rfl, hkey⟩ := h.of_index
    rw [evalWrite, evalWrite]
    exact .bind (hcalls.evalExpr_similar hP key hkey) fun k k' hk =>
      .ofOutcome (hobject.write hk hv position position')
  | .call c, _, _, _, _, _, _, _, _, _, h => by
    obtain ⟨c', rfl, hc⟩ := h.of_call
    rw [evalWrite, evalWrite, hc.render_eq]
    exact .throw rfl

theorem evalStatements_similar (hP : Relator.BiUnique P) (hcalls : calls.Like P calls') :
    ∀ (ss : List Statement) {ss' : List Statement}, LikeStatements P ss ss' →
      Exec.Similar P (Flow.Like P) (evalStatements calls ss) (evalStatements calls' ss')
  | [], _, h => by
    rw [h.of_nil, evalStatements, evalStatements]
    exact .pure .normal
  | s :: rest, _, h => by
    obtain ⟨s', rest', rfl, hs, hrest⟩ := h.of_cons
    rw [evalStatements, evalStatements]
    refine .bind (.record rfl) fun _ _ _ => ?_
    refine .bind (hcalls.execute_similar hP s hs) fun flow flow' hflow => ?_
    cases hflow with
    | normal => exact hcalls.evalStatements_similar hP rest hrest
    | returned hv => exact .pure (.returned hv)
    | broke p p' => exact .pure (.broke p p')
    | continued p p' => exact .pure (.continued p p')
termination_by structural ss => ss

end

end Calls.Like

end Scriptlet
