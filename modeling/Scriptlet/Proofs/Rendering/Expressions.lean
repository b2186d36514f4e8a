import Scriptlet.Proofs.Grammar.Soundness
import Scriptlet.Proofs.Text.Numerals
import Scriptlet.Proofs.Token.Spelling
import Scriptlet.Syntax.Erasure

/-!
# Expressions read back

`ReadsBack` says of a tree that its text, wherever it stands, is read as tokens that spell the tree
again, up to positions. Here this is shown of expressions, of each from its parts.

An expression stands by itself or is an operand or an object (`Expr.ReadsBack`). In the latter place
an operation is put in parentheses and so becomes a primary. The tokens of anything else can be
members already, so they fit wherever an expression does.
-/

namespace Scriptlet

open Grammar

/-! ## Erasure -/

theorem eraseExprs_eq_map (es : List Expr) : eraseExprs es = es.map Expr.erase := by
  induction es with
  | nil => rfl
  | cons e es ih => rw [eraseExprs, ih, List.map_cons]

theorem renderAll_eq_map (es : List Expr) : renderAll es = es.map Expr.render := by
  induction es with
  | nil => rfl
  | cons e es ih => rw [renderAll, ih, List.map_cons]

/-! ## Words of expressions -/

/-- The kind of the token that an operator is. -/
def Operator.kind : Operator → Token.Kind
  | isIn => .inWord
  | notIn => .notIn
  | equal => .equalEqual
  | greater => .greater
  | greaterEqual => .greaterEqual
  | less => .less
  | lessEqual => .lessEqual
  | add => .plus
  | sub => .minus
  | mul => .star
  | div => .slash

theorem Operator.ofKind_kind (o : Operator) : Operator.ofKind o.kind = some o := by
  cases o <;> rfl

/-- An operator with a blank behind it is one word, except for `not in`. -/
theorem Operator.first_symbol {o : Operator} (h : o ≠ .notIn) (rest : List Char) :
    Lexeme.first (o.symbol.toList ++ ' ' :: rest) =
      some ⟨.token o.kind, o.symbol.toList, ' ' :: rest⟩ := by
  cases o with
  | notIn => exact absurd rfl h
  | _ => rfl

/-- The operator with blanks around it. -/
theorem Spells.operator (o : Operator) {before : List Char → Prop} {text : List Char}
    {D : List Token → Prop} (tail : ∀ t : Token, Operator.ofKind t.kind = some o →
      Spells before text fun ts => D (t :: ts)) :
    Spells before (' ' :: (o.symbol.toList ++ ' ' :: text)) D := by
  have htail : ∀ t : Token, t.kind = o.kind → Spells before text fun ts => D (t :: ts) := by
    intro t ht
    exact tail t (by rw [ht, o.ofKind_kind])
  refine .blank rfl ?_
  by_cases ho : o = .notIn
  · subst ho
    exact .notIn htail
  · have hkind : o.kind.isLone = true := by cases o <;> rfl
    exact .keyword _ o.kind (Operator.first_symbol ho) hkind htail

/-! ## Reading back -/

/-- In front of whatever satisfies `before`, the text is read as a phrase like that of `a`, up to
positions. -/
def ReadsBack {α : Type} (before : List Char → Prop) (text : String) (erase : α → α)
    (phrase : α → Phrase) (a : α) : Prop :=
  Spells before text.toList fun ts => ∃ a', erase a' = erase a ∧ Derives (phrase a') ts

/-- Whatever follows. -/
abbrev Anything (_ : List Char) : Prop := True

/-- An expression reads back, by itself and as an operand or an object. -/
structure Expr.ReadsBack (e : Expr) : Prop where
  alone : Scriptlet.ReadsBack Breaks e.render Expr.erase .expression e
  inside : Scriptlet.ReadsBack Breaks (e.parenthesized e.render) Expr.erase .members e

/-- A call reads back. -/
abbrev Call.ReadsBack (c : Call) : Prop :=
  Scriptlet.ReadsBack Anything c.render Call.erase .call c

/-- A block reads back. -/
abbrev Block.ReadsBack (b : Block) : Prop :=
  Scriptlet.ReadsBack Anything b.render Block.erase .block b

namespace Expr.ReadsBack

variable {e e' : Expr} {p : Position}

/-- An expression that never needs parentheses. -/
theorem of_inside (hplain : ∀ text, e.parenthesized text = text)
    (h : Scriptlet.ReadsBack Breaks e.render Expr.erase .members e) : e.ReadsBack := by
  constructor
  · refine h.imp (fun _ hrest => hrest) ?_
    intro ts hread
    obtain ⟨e', herase, hderives⟩ := hread
    exact ⟨e', herase, hderives.tier_of_members _⟩
  · rwa [hplain]

theorem of_primary (hplain : ∀ text, e.parenthesized text = text)
    (h : Scriptlet.ReadsBack Breaks e.render Expr.erase .primary e) : e.ReadsBack := by
  refine of_inside hplain (h.imp (fun _ hrest => hrest) ?_)
  intro ts hread
  obtain ⟨e', herase, hderives⟩ := hread
  exact ⟨e', herase, .primary hderives⟩

theorem binary (o : Operator) (h : e.ReadsBack) (h' : e'.ReadsBack) :
    (Expr.binary e o e' p).ReadsBack := by
  have halone : Scriptlet.ReadsBack Breaks (Expr.binary e o e' p).render Expr.erase .expression
      (.binary e o e' p) := by
    have htext : (Expr.binary e o e' p).render.toList = (e.parenthesized e.render).toList ++
        ' ' :: (o.symbol.toList ++ ' ' :: (e'.parenthesized e'.render).toList) := by
      simp [Expr.render]
    rw [Scriptlet.ReadsBack, htext]
    refine .andThen h.inside (fun _ _ => .cons rfl) ?_
    intro ts hread
    obtain ⟨left, hleft, hts⟩ := hread
    refine .operator o fun t ht => h'.inside.imp (fun _ hrest => hrest) ?_
    intro us hread
    obtain ⟨right, hright, hus⟩ := hread
    refine ⟨.binary left o right t.position, by simp [Expr.erase, hleft, hright], ?_⟩
    exact (Derives.binary (hts.tier_of_members _) ht (hus.tier_of_members _)).expression_of_tier
  -- In parentheses an operation is a primary.
  refine ⟨halone, ?_⟩
  have htext : ((Expr.binary e o e' p).parenthesized (Expr.binary e o e' p).render).toList =
      '(' :: ((Expr.binary e o e' p).render.toList ++ [')']) := by
    simp [Expr.parenthesized]
  rw [Scriptlet.ReadsBack, htext]
  refine .sign .leftParen rfl fun opening hopening => ?_
  refine .andThen halone (fun _ _ => .cons rfl) ?_
  intro ts hread
  obtain ⟨whole, hwhole, hts⟩ := hread
  refine .sign .rightParen rfl fun closing hclosing => .nil ?_
  refine ⟨whole, hwhole, .primary ?_⟩
  have h : Derives (.primary whole) (opening :: ([] ++ ts ++ [] ++ [closing])) :=
    .parenthesized hopening .nil hts .nil hclosing
  simpa using h

theorem integer {s : String} {n : Int64} (hs : ∀ c ∈ s.toList, c.isDigit = true)
    (hne : s.toList ≠ []) (h : Decimal.readInt64? s = some n) :
    (Expr.literal (.int n) p).ReadsBack := by
  obtain ⟨hread, hwritten, hdigits⟩ := Decimal.readInt64?_toString hs hne h
  refine of_primary (fun _ => rfl) ?_
  have htext : (Expr.literal (.int n) p).render.toList = (toString n.toInt).toList ++ [] :=
    (List.append_nil _).symm
  rw [Scriptlet.ReadsBack, htext]
  refine .integer hdigits hwritten (fun _ hrest => hrest) fun t ht hdata => .nil ?_
  exact ⟨.literal (.int n) t.position, rfl, .integer ht (hdata ▸ hread)⟩

theorem zero : (Expr.literal (.int 0) p).ReadsBack :=
  integer (s := "0") (List.all_eq_true.mp rfl) (List.cons_ne_nil _ _) rfl

theorem string {s : String} (hs : '\'' ∉ s.toList) :
    (Expr.literal (.string s) p).ReadsBack := by
  refine of_primary (fun _ => rfl) ?_
  have htext : (Expr.literal (.string s) p).render.toList = '\'' :: (s.toList ++ '\'' :: []) := by
    simp [Expr.render, Literal.render]
  rw [Scriptlet.ReadsBack, htext]
  refine .string hs fun t ht hdata => .nil ?_
  exact ⟨.literal (.string t.data) t.position, by rw [hdata]; rfl, .string ht⟩

theorem bool (b : Bool) : (Expr.literal (.bool b) p).ReadsBack := by
  refine of_primary (fun _ => rfl) ?_
  have htext : (Expr.literal (.bool b) p).render.toList =
      (Expr.literal (.bool b) p).render.toList ++ [] := (List.append_nil _).symm
  rw [Scriptlet.ReadsBack, htext]
  cases b with
  | true =>
    have hword : IsWord .trueWord "true" := ⟨'t', ['r', 'u', 'e'], rfl, rfl, rfl, rfl⟩
    refine .wordOf hword rfl (fun _ hrest => hrest) fun t ht _ => .nil ?_
    exact ⟨.literal (.bool true) t.position, rfl, .trueWord ht⟩
  | false =>
    have hword : IsWord .falseWord "false" := ⟨'f', ['a', 'l', 's', 'e'], rfl, rfl, rfl, rfl⟩
    refine .wordOf hword rfl (fun _ hrest => hrest) fun t ht _ => .nil ?_
    exact ⟨.literal (.bool false) t.position, rfl, .falseWord ht⟩

theorem var {v : Variable} (hv : IsName v.name) : (Expr.var v).ReadsBack := by
  refine of_primary (fun _ => rfl) ?_
  have htext : (Expr.var v).render.toList = v.name.toList ++ [] := (List.append_nil _).symm
  rw [Scriptlet.ReadsBack, htext]
  refine .name hv (fun _ hrest => hrest) fun t ht hdata => .nil ?_
  exact ⟨.var ⟨t.data, t.position⟩, by rw [hdata]; rfl, .var ht⟩

theorem memberName {v : Variable} (h : e.ReadsBack) (hv : IsName v.name) :
    (Expr.field e (.name v) p).ReadsBack := by
  refine of_inside (fun _ => rfl) ?_
  have htext : (Expr.field e (.name v) p).render.toList =
      (e.parenthesized e.render).toList ++ '.' :: (v.name.toList ++ []) := by
    simp [Expr.render, Member.render]
  rw [Scriptlet.ReadsBack, htext]
  refine .andThen h.inside (fun _ _ => .cons rfl) ?_
  intro ts hread
  obtain ⟨object, hobject, hts⟩ := hread
  refine .sign .dot rfl fun dot hdot => ?_
  refine .name hv (fun _ hrest => hrest) fun n hn hdata => .nil ?_
  refine ⟨.field object (.name ⟨n.data, n.position⟩) object.position, ?_, .memberName hts hdot hn⟩
  simp [Expr.erase, Member.erase, Variable.erase, hobject, hdata]

theorem memberCall {c : Call} (h : e.ReadsBack) (hc : c.ReadsBack) :
    (Expr.field e (.call c) p).ReadsBack := by
  refine of_inside (fun _ => rfl) ?_
  have htext : (Expr.field e (.call c) p).render.toList =
      (e.parenthesized e.render).toList ++ '.' :: c.render.toList := by
    simp [Expr.render, Member.render]
  rw [Scriptlet.ReadsBack, htext]
  refine .andThen h.inside (fun _ _ => .cons rfl) ?_
  intro ts hread
  obtain ⟨object, hobject, hts⟩ := hread
  refine .sign .dot rfl fun dot hdot => hc.imp (fun _ _ => trivial) ?_
  intro us hread
  obtain ⟨call, hcall, hus⟩ := hread
  refine ⟨.field object (.call call) object.position, ?_, .memberCall hts hdot hus⟩
  simp [Expr.erase, Member.erase, hobject, hcall]

theorem memberIndex {key : Expr} (h : e.ReadsBack) (hkey : key.ReadsBack) :
    (Expr.field e (.index key) p).ReadsBack := by
  refine of_inside (fun _ => rfl) ?_
  have htext : (Expr.field e (.index key) p).render.toList =
      (e.parenthesized e.render).toList ++ '[' :: (key.render.toList ++ [']']) := by
    simp [Expr.render, Member.render]
  rw [Scriptlet.ReadsBack, htext]
  refine .andThen h.inside (fun _ _ => .cons rfl) ?_
  intro ts hread
  obtain ⟨object, hobject, hts⟩ := hread
  refine .sign .leftBracket rfl fun opening hopening => ?_
  refine .andThen hkey.alone (fun _ _ => .cons rfl) ?_
  intro us hread
  obtain ⟨index, hindex, hus⟩ := hread
  refine .sign .rightBracket rfl fun closing hclosing => .nil ?_
  have h : Derives (.members (.field object (.index index) object.position))
      (ts ++ opening :: ([] ++ us ++ [] ++ [closing])) :=
    .memberIndex hts hopening .nil hus .nil hclosing
  refine ⟨.field object (.index index) object.position, ?_, by simpa using h⟩
  simp [Expr.erase, Member.erase, hobject, hindex]

theorem call {c : Call} (hc : c.ReadsBack) : (Expr.call c).ReadsBack := by
  refine of_primary (fun _ => rfl) (hc.imp (fun _ _ => trivial) ?_)
  intro ts hread
  obtain ⟨call, hcall, hts⟩ := hread
  exact ⟨.call call, by simp [Expr.erase, hcall], .called hts⟩

theorem block {b : Block} (hb : b.ReadsBack) : (Expr.block b).ReadsBack := by
  refine of_primary (fun _ => rfl) (hb.imp (fun _ _ => trivial) ?_)
  intro ts hread
  obtain ⟨block, hblock, hts⟩ := hread
  exact ⟨.block block, by simp [Expr.erase, hblock], .mapping hts⟩

end Expr.ReadsBack

/-! ## Elements between commas -/

/-- If each element reads back, all of them do with commas between them. -/
theorem Spells.listed {α : Type} {D : α → List Token → Prop} {render : α → String} {erase : α → α}
    {as : List α} (h : ∀ a ∈ as, Spells Breaks (render a).toList fun ts =>
      ∃ a', erase a' = erase a ∧ D a' ts) :
    Spells Breaks (separated ", " (as.map render)).toList fun ts =>
      ∃ as', as'.map erase = as.map erase ∧ Listed D as' ts := by
  induction as with
  | nil => exact .nil ⟨[], rfl, .none .nil⟩
  | cons a as ih =>
    have ha := h a List.mem_cons_self
    have has := ih fun b hb => h b (List.mem_cons_of_mem a hb)
    cases as with
    | nil =>
      have htext : separated ", " ([a].map render) = render a := String.intercalate_singleton
      rw [htext]
      refine ha.imp (fun _ hrest => hrest) ?_
      intro ts hread
      obtain ⟨a', herase, hts⟩ := hread
      refine ⟨[a'], by simp [herase], ?_⟩
      have h : Listed D [a'] ([] ++ ts ++ []) := .last .nil hts .nil
      simpa using h
    | cons b bs =>
      have htext : (separated ", " ((a :: b :: bs).map render)).toList =
          (render a).toList ++ ',' :: ' ' :: (separated ", " ((b :: bs).map render)).toList := by
        simp [separated]
      rw [htext]
      refine .andThen ha (fun _ _ => .cons rfl) ?_
      intro ts hread
      obtain ⟨a', herase, hts⟩ := hread
      refine .sign .comma rfl fun comma hcomma => .blank rfl ?_
      refine has.imp (fun _ hrest => hrest) ?_
      intro us hread
      obtain ⟨bs', herase', hus⟩ := hread
      refine ⟨a' :: bs', by simp [herase, herase'], ?_⟩
      have hfurther : bs' ≠ [] := by
        rintro rfl
        simp at herase'
      have h : Listed D (a' :: bs') ([] ++ ts ++ [] ++ comma :: us) :=
        .more .nil hts .nil hcomma hfurther hus
      simpa using h

/-- Arguments read back. -/
theorem ReadsBack.arguments {es : List Expr} (h : ∀ e ∈ es, e.ReadsBack) :
    ReadsBack Breaks (separated ", " (renderAll es)) eraseExprs .arguments es := by
  rw [ReadsBack, renderAll_eq_map]
  refine (Spells.listed fun e he => (h e he).alone).imp (fun _ hrest => hrest) ?_
  intro ts hread
  obtain ⟨es', herase, hts⟩ := hread
  exact ⟨es', by rw [eraseExprs_eq_map, eraseExprs_eq_map, herase], arguments_of_listed hts⟩

theorem Expr.ReadsBack.list {es : List Expr} {p : Position} (h : ∀ e ∈ es, e.ReadsBack) :
    (Expr.list es p).ReadsBack := by
  refine of_primary (fun _ => rfl) ?_
  have htext : (Expr.list es p).render.toList =
      '[' :: ((separated ", " (renderAll es)).toList ++ [']']) := by
    simp [Expr.render]
  rw [Scriptlet.ReadsBack, htext]
  refine .sign .leftBracket rfl fun opening hopening => ?_
  refine .andThen (ReadsBack.arguments h) (fun _ _ => .cons rfl) ?_
  intro ts hread
  obtain ⟨es', herase, hts⟩ := hread
  refine .sign .rightBracket rfl fun closing hclosing => .nil ?_
  exact ⟨.list es' opening.position, by simp [Expr.erase, herase], .list hopening hts hclosing⟩

theorem Call.ReadsBack.mk {name : String} {es : List Expr} {p : Position} (hname : IsName name)
    (h : ∀ e ∈ es, e.ReadsBack) : (Call.mk name es p).ReadsBack := by
  have htext : (Call.mk name es p).render.toList =
      name.toList ++ '(' :: ((separated ", " (renderAll es)).toList ++ [')']) := by
    simp [Call.render]
  rw [Call.ReadsBack, Scriptlet.ReadsBack, htext]
  refine .name hname (fun _ _ => .cons rfl) fun n hn hdata => ?_
  refine .sign .leftParen rfl fun opening hopening => ?_
  refine .andThen (ReadsBack.arguments h) (fun _ _ => .cons rfl) ?_
  intro ts hread
  obtain ⟨es', herase, hts⟩ := hread
  refine .sign .rightParen rfl fun closing hclosing => .nil ?_
  exact ⟨⟨n.data, es', n.position⟩, by simp [Call.erase, herase, hdata],
    .call hn hopening hts hclosing⟩

end Scriptlet
