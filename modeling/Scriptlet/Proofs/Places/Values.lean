import Scriptlet.Evaluation.Builtin
import Scriptlet.Proofs.Places.Trees

/-!
# The same value at other places

Two values are alike if they are equal up to positions and the functions in them correspond
(`Value.Like`). If each function has one counterpart on either side, alike values are equal to alike
values (`Value.equal_congr`), although functions are equal only if all their positions are. Alike
values have the same text (`Value.display_congr`), and errors of the same cause have messages that
differ in the place only (`RuntimeError.message_of_erase_eq`).
-/

namespace Scriptlet

/-! ## Forgetting places -/

mutual

/-- The value without the positions in its functions. -/
def Value.erase : Value → Value
  | .list items => .list (eraseItems items)
  | .map ⟨entries⟩ => .map ⟨eraseEntries entries⟩
  | .function f => .function f.erase
  | v => v

/-- The values without the positions in their functions. -/
def eraseItems : List Value → List Value
  | [] => []
  | v :: vs => v.erase :: eraseItems vs

/-- The entries without the positions in their functions. -/
def eraseEntries : List (String × Value) → List (String × Value)
  | [] => []
  | (key, v) :: rest => (key, v.erase) :: eraseEntries rest

end

/-- The cause without the place to which it refers. -/
def RuntimeError.erase : RuntimeError → RuntimeError
  | undefined name _ => undefined name default
  | arity name expected found _ => arity name expected found default
  | type operation operands _ => type operation operands default
  | divisionByZero _ => divisionByZero default
  | structural fault _ => structural fault default
  | duplicateName name => duplicateName name
  | overflow operator _ => overflow operator default
  | callDepth limit _ => callDepth limit default
  | native name details _ => native name details default

/-- What is wrong is told without the place. -/
@[simp]
theorem RuntimeError.details_erase (e : RuntimeError) : e.erase.details = e.details := by
  cases e <;> rfl

@[simp]
theorem RuntimeError.position_erase (e : RuntimeError) :
    e.erase.position = e.position.map fun _ => default := by
  cases e <;> rfl

/-- Messages of the same cause differ in the place only. -/
theorem RuntimeError.message_of_erase_eq {e e' : RuntimeError} (h : e.erase = e'.erase) :
    e.message = e'.message ∨
      ∃ (p p' : Position) (details : String),
        e.message = p.blame details ∧ e'.message = p'.blame details := by
  have hdetails : e.details = e'.details := by rw [← details_erase e, h, details_erase]
  have hposition := congrArg position h
  rw [position_erase, position_erase] at hposition
  unfold message
  rw [hdetails]
  cases hp : e.position with
  | none =>
    cases hp' : e'.position with
    | none => exact .inl rfl
    | some p' =>
      rw [hp, hp'] at hposition
      cases hposition
  | some p =>
    cases hp' : e'.position with
    | none =>
      rw [hp, hp'] at hposition
      cases hposition
    | some p' => exact .inr ⟨p, p', _, rfl, rfl⟩

/-- Two outcomes agree: related values, or the same cause at different places. -/
inductive Agree {α β : Type} (R : α → β → Prop) :
    Except RuntimeError α → Except RuntimeError β → Prop
  | ok {a : α} {b : β} (value : R a b) : Agree R (.ok a) (.ok b)
  | error {e e' : RuntimeError} (cause : e.erase = e'.erase) : Agree R (.error e) (.error e')

namespace Agree

variable {α β γ δ : Type} {R : α → β → Prop} {S : γ → δ → Prop}
variable {o : Except RuntimeError α} {o' : Except RuntimeError β}

theorem mono {R' : α → β → Prop} (h : Agree R o o') (hR : ∀ a b, R a b → R' a b) :
    Agree R' o o' := by
  cases h with
  | ok value => exact .ok (hR _ _ value)
  | error cause => exact .error cause

theorem map {f : α → γ} {g : β → δ} (h : Agree R o o') (hfg : ∀ a b, R a b → S (f a) (g b)) :
    Agree S (o.map f) (o'.map g) := by
  cases h with
  | ok value => exact .ok (hfg _ _ value)
  | error cause => exact .error cause

theorem bind {f : α → Except RuntimeError γ} {g : β → Except RuntimeError δ} (h : Agree R o o')
    (hfg : ∀ a b, R a b → Agree S (f a) (g b)) : Agree S (o >>= f) (o' >>= g) := by
  cases h with
  | ok value => exact hfg _ _ value
  | error cause => exact .error cause

end Agree

/-! ## Values -/

mutual

/-- The values are equal up to positions, and the functions in them correspond. -/
inductive Value.Like (P : Correspondence) : Value → Value → Prop
  | nil : Value.Like P .nil .nil
  | bool (b : Bool) : Value.Like P (.bool b) (.bool b)
  | int (n : Int64) : Value.Like P (.int n) (.int n)
  | string (s : String) : Value.Like P (.string s) (.string s)
  | list {vs vs' : List Value} (items : List.Forall₂ (Value.Like P) vs vs') :
    Value.Like P (.list vs) (.list vs')
  | map {m m' : Mapping Value} (entries : List.Forall₂ (EntryLike P) m.entries m'.entries) :
    Value.Like P (.map m) (.map m')
  | function {f f' : Function} (definition : f.Like P f') :
    Value.Like P (.function f) (.function f')
  | builtin (b : Builtin) : Value.Like P (.native (.builtin b)) (.native (.builtin b))

/-- The keys are equal, and the values are alike. -/
inductive EntryLike (P : Correspondence) : String × Value → String × Value → Prop
  | mk {key : String} {v v' : Value} (value : v.Like P v') : EntryLike P (key, v) (key, v')

end

/-- The mappings have the same keys and alike values. -/
def Mapping.Like (P : Correspondence) (m m' : Mapping Value) : Prop :=
  List.Forall₂ (EntryLike P) m.entries m'.entries

variable {P : Correspondence}

theorem Literal.value_like (l : Literal) : l.value.Like P l.value := by
  cases l
  · exact .bool _
  · exact .int _
  · exact .string _

mutual

theorem Value.Like.erase_eq : ∀ {v v' : Value}, v.Like P v' → v.erase = v'.erase
  | _, _, .list items => by rw [Value.erase, Value.erase, eraseItems_eq items]
  | .map ⟨_⟩, .map ⟨_⟩, .map entries => by
    rw [Value.erase, Value.erase, eraseEntries_eq entries]
  | _, _, .function definition => by rw [Value.erase, Value.erase, definition.1]
  | _, _, .nil | _, _, .bool _ | _, _, .int _ | _, _, .string _ | _, _, .builtin _ => rfl

theorem eraseItems_eq :
    ∀ {vs vs' : List Value}, List.Forall₂ (Value.Like P) vs vs' → eraseItems vs = eraseItems vs'
  | _, _, .nil => rfl
  | _, _, .cons hv hvs => by rw [eraseItems, eraseItems, hv.erase_eq, eraseItems_eq hvs]

theorem eraseEntries_eq :
    ∀ {es es' : List (String × Value)}, List.Forall₂ (EntryLike P) es es' →
      eraseEntries es = eraseEntries es'
  | _, _, .nil => rfl
  | _, _, .cons (.mk hv) hes => by
    rw [eraseEntries, eraseEntries, hv.erase_eq, eraseEntries_eq hes]

end

mutual

/-- If each function has one counterpart, alike values are equal to alike values. -/
theorem Value.equal_congr (hP : Relator.BiUnique P) :
    ∀ (v : Value) {v' w w' : Value}, v.Like P v' → w.Like P w' → v.equal w = v'.equal w'
  | .list vs, _, _, _, .list hvs, hw => by
    cases hw with
    | list hws =>
      simp only [Value.equal]
      exact equalItems_congr hP vs hvs hws
    | _ => simp only [Value.equal]
  | .map ⟨es⟩, _, _, _, .map hes, hw => by
    cases hw with
    | map hfs =>
      simp only [Value.equal]
      exact equalEntries_congr hP es hes hfs
    | _ => simp only [Value.equal]
  | .function f, _, _, _, .function hf, hw => by
    cases hw with
    | function hg =>
      -- Equality tells positions apart, but no more on one side than on the other.
      have hiff := Relator.rel_eq hP hf.corresponds hg.corresponds
      simp only [Value.equal]
      rw [Bool.eq_iff_iff, beq_iff_eq, beq_iff_eq]
      exact hiff
    | _ => simp only [Value.equal]
  | .nil, _, _, _, .nil, hw | .bool _, _, _, _, .bool _, hw | .int _, _, _, _, .int _, hw
  | .string _, _, _, _, .string _, hw | .native _, _, _, _, .builtin _, hw => by
    cases hw <;> simp only [Value.equal]

theorem equalItems_congr (hP : Relator.BiUnique P) :
    ∀ (vs : List Value) {vs' ws ws' : List Value}, List.Forall₂ (Value.Like P) vs vs' →
      List.Forall₂ (Value.Like P) ws ws' → Value.equalItems vs ws = Value.equalItems vs' ws'
  | [], _, _, _, .nil, .nil | [], _, _, _, .nil, .cons _ _
  | _ :: _, _, _, _, .cons _ _, .nil => rfl
  | v :: vs, _, _, _, .cons hv hvs, .cons hw hws => by
    simp only [Value.equalItems, v.equal_congr hP hv hw, equalItems_congr hP vs hvs hws]

theorem equalEntries_congr (hP : Relator.BiUnique P) :
    ∀ (es : List (String × Value)) {es' fs fs' : List (String × Value)},
      List.Forall₂ (EntryLike P) es es' → List.Forall₂ (EntryLike P) fs fs' →
      Value.equalEntries es fs = Value.equalEntries es' fs'
  | [], _, _, _, .nil, .nil | [], _, _, _, .nil, .cons _ _
  | _ :: _, _, _, _, .cons _ _, .nil => rfl
  | (_, v) :: es, _, _, _, .cons (.mk hv) hes, .cons (.mk hw) hfs => by
    simp only [Value.equalEntries, v.equal_congr hP hv hw, equalEntries_congr hP es hes hfs]

end

mutual

/-- The text of a value is told without places. -/
theorem Value.display_congr : ∀ (v : Value) {v' : Value}, v.Like P v' → v.display = v'.display
  | .list vs, _, .list hvs => by
    simp only [Value.display, displayItems_congr vs hvs]
  | .map ⟨es⟩, .map ⟨_⟩, .map hes => by
    simp only [Value.display, displayEntries_congr es hes]
  | .function f, _, .function hf => by
    simp only [Value.display, hf.signature_eq]
  | .nil, _, .nil | .bool _, _, .bool _ | .int _, _, .int _ | .string _, _, .string _
  | .native _, _, .builtin _ => rfl

theorem Value.quotedIn_congr (v : Value) {v' : Value} (h : v.Like P v') :
    v.quotedIn v.display = v'.quotedIn v'.display := by
  have hdisplay := v.display_congr h
  cases h <;> simp only [Value.quotedIn] <;> exact hdisplay

theorem displayItems_congr :
    ∀ (vs : List Value) {vs' : List Value}, List.Forall₂ (Value.Like P) vs vs' →
      Value.displayItems vs = Value.displayItems vs'
  | [], _, .nil => rfl
  | v :: vs, _, .cons hv hvs => by
    simp only [Value.displayItems, v.quotedIn_congr hv, displayItems_congr vs hvs]

theorem displayEntries_congr :
    ∀ (es : List (String × Value)) {es' : List (String × Value)},
      List.Forall₂ (EntryLike P) es es' → Value.displayEntries es = Value.displayEntries es'
  | [], _, .nil => rfl
  | (_, v) :: es, _, .cons (.mk hv) hes => by
    simp only [Value.displayEntries, v.quotedIn_congr hv, displayEntries_congr es hes]

end

end Scriptlet
