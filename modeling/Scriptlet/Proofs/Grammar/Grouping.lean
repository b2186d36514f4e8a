import Scriptlet.Proofs.Grammar.Completeness

/-!
# How operators group

A run of operands with operators between them is read as one tree, in which operators of the same
level group to the left and tighter operators lie below looser ones (`Grouping.Ordered`). There is
exactly one such tree for each run (`Grouping.eq_ofRun`), because adding an operand to the right of
an ordered tree can be done in one way only: the new operator goes below the operators that are
looser, and on top of the others (`Grouping.extend`).

The readers go through the levels one by one. That they come to this tree follows from the rules of
the grammar for all of it but its right edge, where it is next to what follows. There the tree is
gone through once more, because a parenthesis may follow: it goes on with a name, which becomes a
call, but not with any other operand.
-/

namespace Scriptlet

/-! ## Levels -/

namespace Level

/-- The number of levels that are not looser, where operands without a level are tighter than
all. -/
def rank : Option Level → Nat
  | none => 0
  | some l => l.looseness + 1

theorem rank_tighter (l : Level) : rank l.tighter = l.looseness := by
  cases l <;> rfl

theorem rank_inj {l m : Option Level} (h : rank l = rank m) : l = m := by
  cases l with
  | none =>
    cases m with
    | none => rfl
    | some m => cases h
  | some l =>
    cases m with
    | none => cases h
    | some m => cases l <;> cases m <;> first | rfl | cases h

/-- What carries over from each level to the next looser one carries over to all looser ones. -/
theorem climb {P : Option Level → Prop} (step : ∀ l : Level, P l.tighter → P (some l))
    {l m : Option Level} (hle : rank l ≤ rank m) (h : P l) : P m := by
  obtain ⟨n, hn⟩ : ∃ n, rank m = rank l + n := Nat.exists_eq_add_of_le hle
  induction n generalizing m with
  | zero =>
    obtain rfl := rank_inj hn
    exact h
  | succ n ih =>
    cases m with
    | none => cases hn
    | some k =>
      have hk : rank k.tighter = rank l + n := by
        rw [rank_tighter]
        exact Nat.succ.inj hn
      exact step k (ih (by omega) hk)

end Level

namespace Grammar

/-! ## Runs of operands -/

/-- An operand: an expression, at most with prefix operators, and the tokens that spell it. -/
structure Operand where
  expr : Expr
  tokens : List Token
  spells : Derives (.tier none expr) tokens

/-- A token that is a binary operator. -/
structure Connective where
  token : Token
  operator : Operator
  isOperator : Operator.ofKind token.kind = some operator

def Connective.looseness (c : Connective) : Nat :=
  c.operator.level.looseness

/-- Operands with operators between them: the first operand, and the operators with the operands
behind them. -/
structure Run where
  first : Operand
  further : List (Connective × Operand)

def Run.tokens (r : Run) : List Token :=
  r.first.tokens ++ r.further.flatMap fun x => x.1.token :: x.2.tokens

/-- A tree of binary operations. -/
inductive Grouping where
  | operand (a : Operand)
  | binary (left : Grouping) (c : Connective) (right : Grouping)

namespace Grouping

/-- The expression that the tree stands for. -/
def expr : Grouping → Expr
  | operand a => a.expr
  | binary left c right => .binary left.expr c.operator right.expr c.token.position

/-- The operands and operators from left to right. -/
def reading : Grouping → Run
  | operand a => ⟨a, []⟩
  | binary left c right =>
    ⟨left.reading.first,
      left.reading.further ++ (c, right.reading.first) :: right.reading.further⟩

/-- The operator at the root. -/
def root? : Grouping → Option Connective
  | operand _ => none
  | binary _ c _ => some c

/-- At every node, the operator at the root of the left operand binds at least as tightly as the
operator of the node, and the one at the root of the right operand more tightly. -/
def Ordered : Grouping → Prop
  | operand _ => True
  | binary left c right =>
    left.Ordered ∧ right.Ordered ∧ (∀ l ∈ left.root?, l.looseness ≤ c.looseness) ∧
      ∀ r ∈ right.root?, r.looseness < c.looseness

/-! ## One tree for each run -/

/-- The tree with a further operand to the right. -/
def extend : Grouping → Connective → Operand → Grouping
  | operand a, c, b => binary (operand a) c (operand b)
  | binary left root right, c, b =>
    if root.looseness ≤ c.looseness then binary (binary left root right) c (operand b)
    else binary left root (right.extend c b)

def ofRun (r : Run) : Grouping :=
  r.further.foldl (fun t x => t.extend x.1 x.2) (operand r.first)

theorem root?_extend (t : Grouping) (c : Connective) (b : Operand) :
    (t.extend c b).root? = some c ∨ (t.extend c b).root? = t.root? := by
  cases t with
  | operand a => exact .inl rfl
  | binary left root right =>
    rw [extend]
    split
    · exact .inl rfl
    · exact .inr rfl

theorem reading_extend (t : Grouping) (c : Connective) (b : Operand) :
    (t.extend c b).reading = ⟨t.reading.first, t.reading.further ++ [(c, b)]⟩ := by
  induction t with
  | operand a => rfl
  | binary left root right _ ih =>
    rw [extend]
    split
    · rfl
    · simp [reading, ih]

theorem Ordered.extend {t : Grouping} (h : t.Ordered) (c : Connective) (b : Operand) :
    (t.extend c b).Ordered := by
  induction t with
  | operand a => simp [Grouping.extend, Ordered, root?]
  | binary left root right _ ih =>
    obtain ⟨hleft, hright, hle, hlt⟩ := h
    rw [Grouping.extend]
    split
    · rename_i hloose
      refine ⟨⟨hleft, hright, hle, hlt⟩, trivial, ?_, nofun⟩
      intro l hl
      cases hl
      exact hloose
    · rename_i htight
      refine ⟨hleft, ih hright, hle, ?_⟩
      intro r hr
      rcases right.root?_extend c b with hroot | hroot
      · rw [hroot] at hr
        cases hr
        exact Nat.lt_of_not_le htight
      · rw [hroot] at hr
        exact hlt r hr

theorem ordered_foldl {t : Grouping} (h : t.Ordered) (xs : List (Connective × Operand)) :
    (xs.foldl (fun t x => t.extend x.1 x.2) t).Ordered := by
  induction xs generalizing t with
  | nil => exact h
  | cons x xs ih => exact ih (h.extend x.1 x.2)

theorem reading_foldl (t : Grouping) (xs : List (Connective × Operand)) :
    (xs.foldl (fun t x => t.extend x.1 x.2) t).reading =
      ⟨t.reading.first, t.reading.further ++ xs⟩ := by
  induction xs generalizing t with
  | nil => simp
  | cons x xs ih =>
    rw [List.foldl_cons, ih, reading_extend]
    simp

theorem ordered_ofRun (r : Run) : (ofRun r).Ordered := by
  have hfirst : (operand r.first).Ordered := trivial
  exact ordered_foldl hfirst r.further

theorem reading_ofRun (r : Run) : (ofRun r).reading = r :=
  reading_foldl (operand r.first) r.further

/-- No operator in an ordered tree is looser than the one at the root. -/
theorem Ordered.looseness_le {t : Grouping} (h : t.Ordered) {bound : Nat}
    (hroot : ∀ c ∈ t.root?, c.looseness ≤ bound) {x : Connective × Operand}
    (hx : x ∈ t.reading.further) : x.1.looseness ≤ bound := by
  induction t with
  | operand a => cases hx
  | binary left c right ihleft ihright =>
    obtain ⟨hleft, hright, hle, hlt⟩ := h
    have hc : c.looseness ≤ bound := hroot c rfl
    rcases List.mem_append.mp hx with hx | hx
    · exact ihleft hleft (fun l hl => Nat.le_trans (hle l hl) hc) hx
    · rcases List.mem_cons.mp hx with rfl | hx
      · exact hc
      · exact ihright hright (fun r hr => Nat.le_trans (Nat.le_of_lt (hlt r hr)) hc) hx

/-- Operands behind tighter operators go to the right operand. -/
theorem foldl_extend_right (left : Grouping) (c : Connective) (right : Grouping)
    {xs : List (Connective × Operand)} (h : ∀ x ∈ xs, x.1.looseness < c.looseness) :
    xs.foldl (fun t x => t.extend x.1 x.2) (binary left c right) =
      binary left c (xs.foldl (fun t x => t.extend x.1 x.2) right) := by
  induction xs generalizing right with
  | nil => rfl
  | cons x xs ih =>
    have hx : ¬ c.looseness ≤ x.1.looseness := Nat.not_le_of_lt (h x List.mem_cons_self)
    rw [List.foldl_cons, extend, if_neg hx, ih _ fun y hy => h y (List.mem_cons_of_mem x hy)]
    rfl

/-- An operator that is at least as loose as the tree goes on top. -/
theorem extend_of_le {t : Grouping} {c : Connective} (h : ∀ l ∈ t.root?, l.looseness ≤ c.looseness)
    (b : Operand) : t.extend c b = binary t c (operand b) := by
  cases t with
  | operand a => rfl
  | binary left root right => rw [extend, if_pos (h root rfl)]

/-- An ordered tree is determined by its reading. -/
theorem Ordered.eq_ofRun {t : Grouping} (h : t.Ordered) : t = ofRun t.reading := by
  induction t with
  | operand a => rfl
  | binary left c right ihleft ihright =>
    obtain ⟨hleft, hright, hle, hlt⟩ := h
    have hfurther : ∀ x ∈ right.reading.further, x.1.looseness < c.looseness := by
      intro x hx
      cases hroot : right.root? with
      | none =>
        cases right with
        | operand a => cases hx
        | binary _ _ _ => cases hroot
      | some r =>
        have hbound : x.1.looseness ≤ r.looseness := by
          refine hright.looseness_le ?_ hx
          intro r' hr'
          rw [hroot] at hr'
          cases hr'
          exact Nat.le_refl _
        exact Nat.lt_of_le_of_lt hbound (hlt r hroot)
    have hl : left.reading.further.foldl (fun t x => t.extend x.1 x.2)
        (operand left.reading.first) = left := (ihleft hleft).symm
    have hr : right.reading.further.foldl (fun t x => t.extend x.1 x.2)
        (operand right.reading.first) = right := (ihright hright).symm
    rw [ofRun, reading, List.foldl_append, hl, List.foldl_cons, extend_of_le hle,
      foldl_extend_right left c _ hfurther, hr]

/-! ## The tree is spelled by its operands and operators -/

/-- The tree may stand for an expression of the level, as far as its root is concerned. -/
def Fits (t : Grouping) (level : Option Level) : Prop :=
  ∀ c ∈ t.root?, c.looseness < Level.rank level

theorem fits_membership (t : Grouping) : t.Fits (some .membership) := by
  intro c _
  exact Nat.lt_succ_of_le c.operator.level.looseness_le

theorem fits_operators {t : Grouping} {c : Connective}
    (h : ∀ l ∈ t.root?, l.looseness ≤ c.looseness) : t.Fits (some c.operator.level) :=
  fun l hl => Nat.lt_succ_of_le (h l hl)

theorem fits_tighter {t : Grouping} {c : Connective}
    (h : ∀ r ∈ t.root?, r.looseness < c.looseness) : t.Fits c.operator.level.tighter := by
  intro r hr
  rw [Level.rank_tighter]
  exact h r hr

theorem tokens_reading_binary (left : Grouping) (c : Connective) (right : Grouping) :
    (binary left c right).reading.tokens =
      left.reading.tokens ++ c.token :: right.reading.tokens := by
  simp [reading, Run.tokens]

theorem tokens_reading_operand (a : Operand) : (operand a).reading.tokens = a.tokens := by
  simp [reading, Run.tokens]

theorem Ordered.derives {t : Grouping} (h : t.Ordered) {level : Option Level}
    (hfits : t.Fits level) : Derives (.tier level t.expr) t.reading.tokens := by
  induction t generalizing level with
  | operand a =>
    rw [tokens_reading_operand]
    exact a.spells.tier_of_unary level
  | binary left c right ihleft ihright =>
    obtain ⟨hleft, hright, hle, hlt⟩ := h
    rw [tokens_reading_binary]
    have hnode : Derives (.tier (some c.operator.level) (binary left c right).expr)
        (left.reading.tokens ++ c.token :: right.reading.tokens) :=
      .binary (ihleft hleft (fits_operators hle)) c.isOperator (ihright hright (fits_tighter hlt))
    have hup : Level.rank (some c.operator.level) ≤ Level.rank level := hfits c rfl
    exact Level.climb (P := fun l => Derives (.tier l _) _) (fun _ h => .operand h) hup hnode

end Grouping

/-! ## What follows -/

/-- Whether a parenthesis behind the tokens would open the arguments of a call. -/
def endsInName (ts : List Token) : Bool :=
  ts.getLast?.any fun t => t.kind = .name

theorem endsInName_append {ts us : List Token} (h : us ≠ []) :
    endsInName (ts ++ us) = endsInName us := by
  unfold endsInName
  rw [List.getLast?_append, List.getLast?_eq_some_getLast h, Option.some_or]

/-- The tokens do not go on with an expression that these spell: they start with no member, no
operator, and no arguments behind a name. -/
structure Over (ts rest : List Token) : Prop where
  dot : peekKind rest ≠ .dot
  bracket : peekKind rest ≠ .leftBracket
  operator : Operator.ofKind (peekKind rest) = none
  arguments : endsInName ts = true → peekKind rest ≠ .leftParen

variable {e e' : Expr} {ts ts' rest : List Token}

theorem Over.of_append (h : Over (ts ++ ts') rest) (hne : ts' ≠ []) : Over ts' rest :=
  ⟨h.dot, h.bracket, h.operator, by rw [← endsInName_append hne]; exact h.arguments⟩

/-- No level goes on. -/
theorem Over.chain_yields (h : Over ts rest) (level : Level) (e : Expr) :
    (chain level e rest).Yields e rest := by
  refine chain_yields_self e ?_
  intro o ho
  rw [h.operator] at ho
  cases ho

/-! ## Operands -/

theorem Derives.readsPrimary (h : Derives (.primary e) ts) (hlast : endsInName ts = false) :
    ReadsPrimary e ts := by
  cases h with
  | integer isInteger value => exact .integer isInteger value
  | string isString => exact .string isString
  | trueWord isTrue => exact .trueWord isTrue
  | falseWord isFalse => exact .falseWord isFalse
  | var isName =>
    simp [endsInName, isName] at hlast
  | called h => exact .called h.readOff
  | parenthesized opens breaks h breaks' closes =>
    exact .parenthesized opens breaks ⟨h.starts rfl, h.readOff.expression⟩ breaks' closes
  | list opens h closes => exact .list opens h.readOff closes
  | mapping h => exact .mapping h.readOff

theorem Derives.readsMembers (h : Derives (.members e) ts) (hlast : endsInName ts = false) :
    ReadsMembers e ts := by
  cases h with
  | primary h => exact (h.readsPrimary hlast).members
  | memberName h isDot isName =>
    rw [endsInName_append (by simp)] at hlast
    simp [endsInName, isName] at hlast
  | memberCall h isDot call => exact .call isDot h.readOff call.readOff
  | memberIndex h opens breaks index breaks' closes =>
    exact .index opens breaks breaks' closes h.readOff ⟨index.starts rfl, index.readOff.expression⟩

theorem Derives.endsInName_cons (h : Derives (.tier none e) ts) (t : Token) :
    endsInName (t :: ts) = endsInName ts := by
  obtain ⟨u, us, rfl, -⟩ := h.starts rfl
  show endsInName ([t] ++ u :: us) = endsInName (u :: us)
  exact endsInName_append (List.cons_ne_nil u us)

/-- An operand that does not end in a name is over unless a member follows. -/
theorem Derives.unary_yields_of_endsInName_eq_false (h : Derives (.tier none e) ts)
    (hlast : endsInName ts = false) (hdot : peekKind rest ≠ .dot)
    (hbracket : peekKind rest ≠ .leftBracket) : (unary (ts ++ rest)).Yields e rest := by
  generalize hphrase : Phrase.tier none e = phrase at h
  induction h generalizing e with
  | minus isMinus h ih =>
    cases hphrase
    rw [h.endsInName_cons] at hlast
    rw [List.cons_append, unary, if_pos isMinus]
    exact .within ((ih hlast rfl).map _)
  | not isNot h ih =>
    cases hphrase
    rw [h.endsInName_cons] at hlast
    rw [List.cons_append, unary, if_neg (by rw [isNot]; decide), if_pos isNot]
    exact .within ((ih hlast rfl).map _)
  | members h _ =>
    cases hphrase
    obtain ⟨t, us, rfl, ht, hreads⟩ := h.readsMembers hlast
    obtain ⟨node, vs, hnode, hcarry⟩ := hreads rest
    exact unary_yields ht hnode (hcarry _ rest (postfixes_yields_self _ hdot hbracket))
  | _ => cases hphrase

theorem Operand.unary_yields (a : Operand) (h : Over a.tokens rest) :
    (unary (a.tokens ++ rest)).Yields a.expr rest := by
  by_cases hparen : peekKind rest = .leftParen
  · have hlast : endsInName a.tokens = false := by
      cases hname : endsInName a.tokens with
      | false => rfl
      | true => exact absurd hparen (h.arguments hname)
    exact a.spells.unary_yields_of_endsInName_eq_false hlast h.dot h.bracket
  · refine a.spells.readOff rest ⟨h.dot, h.bracket, hparen, ?_⟩
    intro o ho
    rw [h.operator] at ho
    cases ho

/-! ## Reading -/

/-- The readers from a level on take the tokens, and the expression that they spell. -/
def ReadsTier (e : Expr) (ts rest : List Token) : Option Level → Prop
  | some level => (Grammar.binary level (ts ++ rest)).Yields e rest
  | none => (unary (ts ++ rest)).Yields e rest

theorem ReadsTier.operand {level : Level} (h : ReadsTier e ts rest level.tighter) :
    (Grammar.operand level (ts ++ rest)).Yields e rest := by
  rw [Grammar.operand]
  split
  · rename_i tighter ht
    rw [ht] at h
    exact h
  · rename_i ht
    rw [ht] at h
    exact h

/-- Where an expression is over, it is read on all looser levels alike. -/
theorem ReadsTier.looser {level : Level} (h : ReadsTier e ts rest level.tighter)
    (hover : Over ts rest) : ReadsTier e ts rest (some level) := by
  show (Grammar.binary level (ts ++ rest)).Yields e rest
  rw [Grammar.binary]
  exact .andThen e rest h.operand fun _ => .within (hover.chain_yields level e)

/-- Behind the left operand, which an operator follows, the readers take the operator and the right
operand, behind which the expression is over. -/
theorem ReadsTier.binary {t : Token} {o : Operator} (left : Derives (.tier (some o.level) e) ts)
    (isOperator : Operator.ofKind t.kind = some o) (right : ReadsTier e' ts' rest o.level.tighter)
    (hover : Over ts' rest) :
    ReadsTier (.binary e o e' t.position) (ts ++ t :: ts') rest (some o.level) := by
  show (Grammar.binary o.level (ts ++ t :: ts' ++ rest)).Yields _ rest
  rw [List.append_assoc]
  refine left.readOff _ _ _ (.of_operator isOperator _) ?_
  rw [List.cons_append, chain]
  split
  · rename_i hnone
    rw [isOperator] at hnone
    cases hnone
  · rename_i o' ho'
    obtain rfl : o = o' := Option.some.inj (isOperator.symm.trans ho')
    rw [if_pos rfl]
    exact .andThen e' rest right.operand fun _ => .within (hover.chain_yields o.level _)

/-- An ordered tree is read wherever it is over, from each level on that its root fits. -/
theorem Grouping.Ordered.reads {t : Grouping} (h : t.Ordered) (hover : Over t.reading.tokens rest)
    {level : Option Level} (hfits : t.Fits level) :
    ReadsTier t.expr t.reading.tokens rest level := by
  induction t generalizing level with
  | operand a =>
    rw [tokens_reading_operand] at hover ⊢
    have hunary : ReadsTier a.expr a.tokens rest none := a.unary_yields hover
    exact Level.climb (fun _ h => h.looser hover) (Nat.zero_le _) hunary
  | binary left c right _ ihright =>
    obtain ⟨hleft, hright, hle, hlt⟩ := h
    have hover' := hover
    rw [tokens_reading_binary] at hover ⊢
    -- The operator is not the last token, so what is over behind the tree is over behind its right
    -- operand.
    have hlast : Over right.reading.tokens rest := by
      rw [← List.singleton_append, ← List.append_assoc] at hover
      obtain ⟨u, us, hne, -⟩ := (hright.derives right.fits_membership).starts rfl
      exact hover.of_append (by rw [hne]; exact List.cons_ne_nil u us)
    have hnode : ReadsTier (Grouping.binary left c right).expr
        (left.reading.tokens ++ c.token :: right.reading.tokens) rest (some c.operator.level) :=
      .binary (hleft.derives (fits_operators hle)) c.isOperator
        (ihright hright hlast (fits_tighter hlt)) hlast
    have hup : Level.rank (some c.operator.level) ≤ Level.rank level := hfits c rfl
    exact Level.climb (fun _ h => h.looser hover) hup hnode

/-- Operands with operators between them are read as an expression, up to where it is over. The
expression is a tree that has the operands and operators in this order and at whose every node the
left operand's operator binds at least as tightly as that of the node, and the right operand's more
tightly. There is one such tree only. -/
theorem expression_groups (r : Run) {rest : List Token} (hover : Over r.tokens rest) :
    ∃ t : Grouping, t.Ordered ∧ t.reading = r ∧
      (∀ t' : Grouping, t'.Ordered → t'.reading = r → t' = t) ∧
      (expression (r.tokens ++ rest)).Yields t.expr rest := by
  have hordered := Grouping.ordered_ofRun r
  have hreading := Grouping.reading_ofRun r
  refine ⟨.ofRun r, hordered, hreading, ?_, ?_⟩
  · intro t' hordered' hreading'
    rw [hordered'.eq_ofRun, hreading']
  · rw [expression]
    have hreads := hordered.reads (by rwa [hreading]) (Grouping.fits_membership _)
    rwa [hreading] at hreads

/-- The text `a - b * true` is over before a parenthesis, which opens no call behind a constant. -/
theorem expression_groups_of_difference :
    let name (text : String) : Operand :=
      let n : Token := ⟨.name, text, {}⟩
      ⟨.var ⟨text, {}⟩, [n], .members (.primary (.var (t := n) rfl))⟩
    let constant : Operand :=
      let word : Token := ⟨.trueWord, "true", {}⟩
      ⟨.literal (.bool true) {}, [word], .members (.primary (.trueWord (t := word) rfl))⟩
    let r : Run := ⟨name "a",
      [(⟨⟨.minus, "-", {}⟩, .sub, rfl⟩, name "b"), (⟨⟨.star, "*", {}⟩, .mul, rfl⟩, constant)]⟩
    let rest : List Token := [⟨.leftParen, "(", {}⟩]
    Over r.tokens rest ∧ ∃ t : Grouping, t.Ordered ∧ t.reading = r ∧
      (∀ t' : Grouping, t'.Ordered → t'.reading = r → t' = t) ∧
      (expression (r.tokens ++ rest)).Yields t.expr rest := by
  intro name constant r rest
  have hover : Over r.tokens rest := ⟨nofun, nofun, rfl, nofun⟩
  exact ⟨hover, expression_groups r hover⟩

end Grammar

end Scriptlet
