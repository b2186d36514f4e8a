import Scriptlet.Interpreter
import Scriptlet.Proofs.Calls.Independence
import Scriptlet.Proofs.Places.Evaluation

/-!
# Alike programs run alike

The built-in functions do the same for alike arguments, so calls do (`callsWithin_like`), by
induction on the number of calls that may still be opened. Running alike programs on alike machines
is then similar as well (`runTree_similar`).
-/

namespace Scriptlet

variable {P : Correspondence}

/-! ## Built-in functions -/

theorem forall₂_one {α β : Type} {R : α → β → Prop} {l : List α} {l' : List β}
    (h : List.Forall₂ R l l') (hlength : l.length = 1) : ∃ a b, l = [a] ∧ l' = [b] ∧ R a b := by
  obtain ⟨a, rfl⟩ := List.length_eq_one_iff.mp hlength
  obtain ⟨b, rest, hab, hrest, rfl⟩ := List.forall₂_cons_left_iff.mp h
  obtain rfl := List.forall₂_nil_left_iff.mp hrest
  exact ⟨a, b, rfl, rfl, hab⟩

theorem forall₂_two {α β : Type} {R : α → β → Prop} {l : List α} {l' : List β}
    (h : List.Forall₂ R l l') (hlength : l.length = 2) :
    ∃ a a' b b', l = [a, a'] ∧ l' = [b, b'] ∧ R a b ∧ R a' b' := by
  obtain ⟨a, a', rfl⟩ := List.length_eq_two.mp hlength
  obtain ⟨b, rest, hab, hrest, rfl⟩ := List.forall₂_cons_left_iff.mp h
  obtain ⟨a', b', rfl', rfl, hab'⟩ := forall₂_one hrest rfl
  cases rfl'
  exact ⟨a, _, b, b', rfl, rfl, hab, hab'⟩

theorem displayAll_congr {vs vs' : List Value} (h : List.Forall₂ (Value.Like P) vs vs') :
    displayAll vs = displayAll vs' := by
  have hdisplay : vs.map Value.display = vs'.map Value.display := by
    induction h with
    | nil => rfl
    | cons hv _ ih => rw [List.map_cons, List.map_cons, Value.display_congr _ hv, ih]
  rw [displayAll, displayAll, hdisplay]

namespace Builtin

variable {v v' u u' : Value}

theorem length_agree (h : v.Like P v') (site site' : Position) :
    Agree (Value.Like P) (length v site) (length v' site') := by
  cases h with
  | string s => exact .ok (.int _)
  | list items =>
    simp only [length, items.length_eq]
    exact .ok (.int _)
  | map entries =>
    simp only [length, Mapping.Like.size_eq entries]
    exact .ok (.int _)
  | _ => exact .error rfl

theorem readPattern_agree (env : Environment) (b : Builtin) (pattern : String)
    (site site' : Position) :
    Agree (· = ·) (readPattern env b pattern site) (readPattern env b pattern site') := by
  unfold readPattern
  split
  · exact .ok rfl
  · exact .error rfl

theorem isMatch_agree (env : Environment) (hpattern : v.Like P v') (htext : u.Like P u')
    (site site' : Position) :
    Agree (· = ·) (isMatch env v u site) (isMatch env v' u' site') := by
  unfold isMatch
  refine (hpattern.asString _ site site').bind ?_
  rintro pattern _ rfl
  refine (readPattern_agree env .regexMatch pattern site site').bind ?_
  rintro isMatch _ rfl
  refine (htext.asString _ site site').bind ?_
  rintro text _ rfl
  exact .ok rfl

theorem firstMatch_agree (env : Environment) (b : Builtin) (text : String) (site site' : Position)
    {es es' : List (String × Value)} (h : List.Forall₂ (EntryLike P) es es') :
    Agree (Option.Rel (Value.Like P)) (firstMatch env b text site es)
      (firstMatch env b text site' es') := by
  induction h with
  | nil => exact .ok .none
  | cons he _ ih =>
    cases he with
    | @mk pattern w w' hw =>
      rw [firstMatch, firstMatch]
      refine (readPattern_agree env b pattern site site').bind ?_
      rintro isMatch _ rfl
      cases hm : isMatch text with
      | true => simpa using .ok (.some hw)
      | false => simpa using ih

theorem searchMap_agree (env : Environment) (b : Builtin) (hpatterns : v.Like P v')
    (htext : u.Like P u') (site site' : Position) :
    Agree (Option.Rel (Value.Like P)) (searchMap env b v u site) (searchMap env b v' u' site') := by
  cases hpatterns with
  | map entries =>
    refine (htext.asString _ site site').bind ?_
    rintro text _ rfl
    exact firstMatch_agree env b text site site' entries
  | _ =>
    simp only [searchMap, htext.kind_eq]
    exact .error rfl

theorem runCommand_similar (env : Environment) (hcommand : v.Like P v') (site site' : Position) :
    Exec.Similar P (Value.Like P) (runCommand env v site) (runCommand env v' site') := by
  unfold runCommand
  refine .bind (.ofOutcome (hcommand.asString _ site site')) ?_
  rintro command _ rfl
  refine .bind (.record rfl) fun _ _ _ => ?_
  cases env.shell command with
  | error details => exact .throw rfl
  | ok outcome =>
    have htext := Value.Like.string (P := P) (String.ofList (Utf8.decodeLossy outcome.output))
    dsimp only
    split
    · exact .pure htext
    · exact .bind (.record rfl) fun _ _ _ => .pure htext

/-- A built-in function does the same for alike arguments, wherever it is called. -/
theorem call_similar (env : Environment) (b : Builtin) {vs vs' : List Value}
    (hvs : List.Forall₂ (Value.Like P) vs vs') (hadmits : b.arity.admits vs.length = true)
    (site site' : Position) :
    Exec.Similar P (Value.Like P) (b.call env vs site) (b.call env vs' site') := by
  have hprint : ∀ text, Exec.Similar P (Value.Like P) (print text) (print text) := fun text =>
    .bind (.record rfl) fun _ _ _ => .pure .nil
  have hcount : ∀ {n : Nat}, b.arity = .exactly n → vs.length = n := by
    intro n hn
    rw [hn] at hadmits
    exact of_decide_eq_true hadmits
  cases b with
  | echo | echoln =>
    simp only [call, displayAll_congr hvs]
    exact hprint _
  | len =>
    obtain ⟨v, v', rfl, rfl, hv⟩ := forall₂_one hvs (hcount rfl)
    exact .ofOutcome (length_agree hv site site')
  | typeOf =>
    obtain ⟨v, v', rfl, rfl, hv⟩ := forall₂_one hvs (hcount rfl)
    simp only [call, hv.kind_eq]
    exact .pure (.string _)
  | str =>
    obtain ⟨v, v', rfl, rfl, hv⟩ := forall₂_one hvs (hcount rfl)
    simp only [call, v.display_congr hv]
    exact .pure (.string _)
  | regexMatch =>
    obtain ⟨v, u, v', u', rfl, rfl, hv, hu⟩ := forall₂_two hvs (hcount rfl)
    refine .ofOutcome ((isMatch_agree env hv hu site site').map ?_)
    rintro matches' _ rfl
    exact .bool matches'
  | regexMapMatch =>
    obtain ⟨v, u, v', u', rfl, rfl, hv, hu⟩ := forall₂_two hvs (hcount rfl)
    refine .ofOutcome ((searchMap_agree env _ hv hu site site').map fun found found' hfound => ?_)
    cases hfound <;> exact .bool _
  | regexMapValue =>
    obtain ⟨v, u, v', u', rfl, rfl, hv, hu⟩ := forall₂_two hvs (hcount rfl)
    refine .ofOutcome ((searchMap_agree env _ hv hu site site').map fun found found' hfound => ?_)
    cases hfound with
    | none => exact .nil
    | some hw => exact hw
  | sh =>
    obtain ⟨v, v', rfl, rfl, hv⟩ := forall₂_one hvs (hcount rfl)
    exact runCommand_similar env hv site site'

end Builtin

/-! ## Calls -/

section Call

variable {f f' : Function} {vs vs' : List Value}

theorem callNative_similar (env : Environment) (host host' : HostCall → Eval Value) (b : Builtin)
    (hvs : List.Forall₂ (Value.Like P) vs vs') (site site' : Position) :
    Exec.Similar P (Value.Like P) (env.callNative host (.builtin b) vs site)
      (env.callNative host' (.builtin b) vs' site') := by
  unfold Environment.callNative
  rw [← hvs.length_eq]
  split
  · rename_i hadmits
    exact .calledFrom site site' (b.call_similar env hvs hadmits site site')
  · exact .throw rfl

theorem nativeCalls_similar (env : Environment) (nesting left : Nat) (b : Builtin)
    (hvs : List.Forall₂ (Value.Like P) vs vs') (site site' : Position) :
    Exec.Similar P (Value.Like P) (env.nativeCalls nesting left (.builtin b) vs site)
      (env.nativeCalls nesting left (.builtin b) vs' site') := by
  cases nesting with
  | zero =>
    unfold Environment.nativeCalls
    exact callNative_similar env _ _ b hvs site site'
  | succ nesting =>
    unfold Environment.nativeCalls
    exact callNative_similar env _ _ b hvs site site'

theorem Function.Like.checkCall (hf : f.Like P f') (hvs : List.Forall₂ (Value.Like P) vs vs')
    (limit : Nat) (site site' : Position) :
    Exec.Similar P (fun _ _ => True) (f.checkCall limit vs site)
      (f'.checkCall limit vs' site') := by
  unfold Function.checkCall
  rw [← hvs.length_eq, ← hf.parameters_length]
  split
  · refine .bind (.observe (R := (· = ·)) fun m m' hm => hm.openCalls) ?_
    rintro opened _ rfl
    split
    · exact .pure trivial
    · exact .throw rfl
  · refine .throw ?_
    rw [Function.arityError, Function.arityError, hf.name_eq, hf.parameters_length]
    rfl

theorem Function.Like.bind (hf : f.Like P f') (hvs : List.Forall₂ (Value.Like P) vs vs') :
    (f.bind vs).Like P (f'.bind vs') := by
  unfold Function.bind
  rw [← hf.parameters_eq]
  refine .ofList ?_
  generalize f.parameters.map (·.name) = names
  induction hvs generalizing names with
  | nil =>
    simp only [List.zip_nil_right]
    exact .nil
  | cons hv _ ih =>
    cases names with
    | nil => exact .nil
    | cons name names => exact .cons (.mk hv) (ih names)

theorem recordReturn_similar {flow flow' : Flow} (h : flow.Like P flow') :
    Exec.Similar P (fun _ _ => True) (recordReturn flow) (recordReturn flow') := by
  cases h with
  | returned hv => exact .record rfl
  | _ => exact .pure trivial

/-- Calls do the same on both sides, by induction on the number of calls that may still be opened:
the body of a function runs with one less. -/
theorem callsWithin_like (hP : Relator.BiUnique P) (env : Environment) (nesting left : Nat) :
    (env.callsWithin nesting left).Like P (env.callsWithin nesting left) := by
  induction left with
  | zero =>
    refine ⟨?_, fun b site site' hvs => nativeCalls_similar env nesting 0 b hvs site site'⟩
    intro f f' vs vs' link site site' hf hvs
    exact .bind (hf.checkCall hvs _ site site') fun _ _ _ => .throw rfl
  | succ left ih =>
    refine ⟨?_, fun b site site' hvs => nativeCalls_similar env nesting _ b hvs site site'⟩
    intro f f' vs vs' link site site' hf hvs
    refine .bind (hf.checkCall hvs _ site site') fun _ _ _ => ?_
    -- Functions that correspond have alike bodies, wherever they are called from.
    refine .bind (.within (hf.bind hvs) link (ih.evalStatements_similar hP _ hf.body))
      fun flow flow' hflow => ?_
    exact .bind (recordReturn_similar hflow) fun _ _ _ => .ofOutcome hflow.value

end Call

/-! ## Programs -/

theorem isDebug_eq (hP : Relator.BiUnique P) (env : Environment) {m m' : Machine}
    (hm : m.Like P m') : env.isDebug m = env.isDebug m' := by
  have hwants : m.wantsDebug = m'.wantsDebug :=
    optionRel_any (hm.stack.base.bottom.find? "debug") fun v v' hv =>
      v.equal_congr hP hv (.bool true)
  rw [Environment.isDebug, Environment.isDebug, hwants]

theorem announce_similar (hP : Relator.BiUnique P) (env : Environment) :
    Exec.Similar P (fun _ _ => True) (env.announce : Eval Unit) env.announce := by
  unfold Environment.announce
  refine .bind (.observe (R := (· = ·)) fun m m' hm => isDebug_eq hP env hm) ?_
  rintro debug _ rfl
  split
  · exact .record rfl
  · exact .pure trivial

/-- Alike programs run alike. -/
theorem runTree_similar (hP : Relator.BiUnique P) (env : Environment) {p q : Program}
    (h : LikeStatements P p q) :
    Exec.Similar P (Value.Like P) (env.runTree p) (env.runTree q) := by
  unfold Environment.runTree runProgram
  refine .bind (announce_similar hP env) fun _ _ _ => ?_
  exact .bind ((callsWithin_like hP env _ _).evalStatements_similar hP p h)
    fun flow flow' hflow => .ofOutcome hflow.value

/-- A fresh machine is alike to itself, whatever corresponds to what. -/
theorem Machine.initial_like : (Machine.initial {}).Like P (Machine.initial {}) where
  stack := ⟨⟨.empty, .nil⟩, .nil⟩
  natives := rfl
  builtin _ _ h := Machine.isBuiltin_of_find?_builtins h
  openCalls := rfl
  output := rfl

end Scriptlet
