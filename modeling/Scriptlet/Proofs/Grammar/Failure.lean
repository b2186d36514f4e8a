import Scriptlet.Grammar.Program
import Scriptlet.Proofs.Grammar.Completeness

/-!
# An operand that cannot be read

Reading stops at the first error, and hands it on unchanged. So the error of an operand is the error
of the operation, whether the operand is the left one (`binary_fails_of_unary`) or the right one
behind a left one that is read (`binary_fails_of_right`), of every expression that starts so
(`expression_fails_of_binary`), and of a program that starts with a `return` of such an expression
(`program_fails_of_return`).
-/

namespace Scriptlet

/-- The reading stops with this error. -/
def Parsed.Fails {α : Type} {n : Nat} (p : Parsed α n) (e : ParseError) : Prop :=
  ∃ rest, p = .fail e rest

namespace Parsed.Fails

variable {α β : Type} {m n : Nat} {e : ParseError}

theorem fail {rest : List Token} : (Parsed.fail e rest : Parsed α n).Fails e :=
  ⟨rest, rfl⟩

theorem andThen {p : Parsed α m} {k : (a : α) → (us : List Token) → us.length < m → Parsed β n}
    (hp : p.Fails e) : (p.andThen k).Fails e := by
  obtain ⟨rest, rfl⟩ := hp
  exact .fail

/-- The reading stops behind what has been read first. -/
theorem behind {a : α} {us : List Token} {p : Parsed α m}
    {k : (a : α) → (us : List Token) → us.length < m → Parsed β n} (hp : p.Yields a us)
    (hk : ∀ h, (k a us h).Fails e) : (p.andThen k).Fails e := by
  obtain ⟨h, rfl⟩ := hp
  exact hk h

theorem within {p : Parsed α m} {h : m ≤ n} (hp : p.Fails e) : (p.within h).Fails e := by
  obtain ⟨rest, rfl⟩ := hp
  exact .fail

theorem map {p : Parsed α m} (f : α → β) (hp : p.Fails e) : (p.map f).Fails e := by
  obtain ⟨rest, rfl⟩ := hp
  exact .fail

end Parsed.Fails

namespace Grammar

variable {e : ParseError} {ts us : List Token} {t : Token} {level tighter : Level}

/-! ## Operands -/

theorem binary_fails (h : (operand level ts).Fails e) : (binary level ts).Fails e := by
  rw [binary]
  exact .andThen h

theorem operand_fails (htighter : level.tighter = some tighter) (h : (binary tighter ts).Fails e) :
    (operand level ts).Fails e := by
  rw [operand]
  split
  · rename_i l hl
    obtain rfl := Option.some.inj (htighter.symm.trans hl)
    exact h
  · rename_i hl
    rw [htighter] at hl
    cases hl

/-- The error of a left operand is that of an operation of each level. -/
theorem binary_fails_of_unary (h : (unary ts).Fails e) (level : Level) :
    (binary level ts).Fails e := by
  have hmul : (binary .multiplicative ts).Fails e := by
    refine binary_fails ?_
    rw [operand]
    exact h
  have hadd : (binary .additive ts).Fails e := binary_fails (operand_fails rfl hmul)
  have hrel : (binary .relational ts).Fails e := binary_fails (operand_fails rfl hadd)
  have heq : (binary .equality ts).Fails e := binary_fails (operand_fails rfl hrel)
  cases level with
  | membership => exact binary_fails (operand_fails rfl heq)
  | equality => exact heq
  | relational => exact hrel
  | additive => exact hadd
  | multiplicative => exact hmul

theorem operand_fails_of_unary (h : (unary ts).Fails e) (level : Level) :
    (operand level ts).Fails e := by
  rw [operand]
  split
  · exact binary_fails_of_unary h _
  · exact h

/-- The error of a right operand is that of the operation. -/
theorem binary_fails_of_right {o : Operator} {left : Expr}
    (hleft : (Phrase.tier o.level.tighter left).ReadOff ts)
    (isOperator : Operator.ofKind t.kind = some o) (h : (operand o.level us).Fails e) :
    (binary o.level (ts ++ t :: us)).Fails e := by
  rw [binary]
  refine .behind (hleft.operand (.of_operator isOperator us)) fun _ => .within ?_
  rw [chain]
  split
  · rename_i hnone
    rw [isOperator] at hnone
    cases hnone
  · rename_i o' ho'
    obtain rfl : o = o' := Option.some.inj (isOperator.symm.trans ho')
    rw [if_pos rfl]
    exact .andThen h

/-! ## What starts with an operand -/

theorem expression_fails_of_binary (h : (binary level ts).Fails e) : (expression ts).Fails e := by
  have hstep : ∀ {l m : Level}, l.tighter = some m → (binary m ts).Fails e →
      (binary l ts).Fails e := fun hlm hm => binary_fails (operand_fails hlm hm)
  rw [expression]
  cases level with
  | membership => exact h
  | equality => exact hstep rfl h
  | relational => exact hstep rfl (hstep rfl h)
  | additive => exact hstep rfl (hstep rfl (hstep rfl h))
  | multiplicative => exact hstep rfl (hstep rfl (hstep rfl (hstep rfl h)))

theorem program_fails_of_return (isReturn : t.kind = .returnWord)
    (hvalue : returnsNothing ts = false) (h : (expression ts).Fails e) :
    (program (t :: ts)).Fails e := by
  have hstatement : (statement t ts).Fails e := by
    rw [statement]
    simp only [isReturn, hvalue, Bool.false_eq_true, if_false]
    exact .within (h.map _)
  rw [program, statements]
  simp only [isReturn, reduceCtorEq, or_self, if_false]
  exact .andThen hstatement

end Grammar

/-- A source whose tokens cannot be read is no program. -/
theorem parse_of_fails {source : String} {ts : List Token} {e : ParseError}
    (hscan : (Cursor.start source.toList).scan = (ts, none)) (h : (Grammar.program ts).Fails e) :
    parse source = .error e := by
  obtain ⟨rest, hrest⟩ := h
  unfold parse tokenize
  rw [hscan]
  have hresult : (Grammar.program ts).result = .error e := by
    rw [hrest]
    rfl
  exact hresult

end Scriptlet
