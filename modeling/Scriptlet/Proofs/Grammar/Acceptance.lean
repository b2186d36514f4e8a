import Scriptlet.Grammar.Program
import Scriptlet.Proofs.Grammar.Unambiguous

/-!
# What is accepted

The tokens of a source are read as a program exactly if the program has a derivation with these
tokens, and then it is the only program and the only derivation (`parseTokens_eq_ok_iff`). That what
is derived is read, and that what is read is derived, is known from the readers. What remains is
that reading does not stop before the end of the source.
-/

namespace Scriptlet

/-- What is left behind what is read. -/
def Parsed.Leaves {α : Type} {n : Nat} (p : Parsed α n) (P : List Token → Prop) : Prop :=
  ∀ a rest h, p = .ok a rest h → P rest

namespace Parsed.Leaves

variable {α β : Type} {m n : Nat} {P : List Token → Prop}

theorem ok {a : α} {rest : List Token} {h : rest.length < n} (hrest : P rest) :
    (Parsed.ok a rest h).Leaves P := by
  intro b us h' heq
  cases heq
  exact hrest

theorem fail {e : ParseError} {us : List Token} : (Parsed.fail e us : Parsed α n).Leaves P :=
  fun _ _ _ heq => by cases heq

theorem within {p : Parsed α m} {h : m ≤ n} (hp : p.Leaves P) : (p.within h).Leaves P := by
  intro a rest h' heq
  cases p with
  | ok b us hlt =>
    cases heq
    exact hp a rest hlt rfl
  | fail e us => cases heq

theorem map {f : α → β} {p : Parsed α m} (hp : p.Leaves P) : (p.map f).Leaves P := by
  intro b rest h' heq
  cases p with
  | ok a us hlt =>
    cases heq
    exact hp a rest hlt rfl
  | fail e us => cases heq

theorem andThen {p : Parsed α m} {k : (a : α) → (us : List Token) → us.length < m → Parsed β n}
    (hk : ∀ a us h, (k a us h).Leaves P) : (p.andThen k).Leaves P := by
  intro b rest h' heq
  cases p with
  | ok a us hlt => exact hk a us hlt b rest h' heq
  | fail e us => cases heq

end Parsed.Leaves

namespace Grammar

/-- Statements are read up to the closing token or the end. -/
theorem statements_leaves (closing : Token.Kind) (tokens : List Token) :
    (statements closing tokens).Leaves fun rest =>
      peekKind rest = closing ∨ peekKind rest = .endOfInput := by
  cases tokens with
  | nil =>
    rw [statements]
    exact .ok (.inr rfl)
  | cons t rest =>
    rw [statements]
    split
    · rename_i h
      exact .ok h
    · split
      · exact .within (.map (statements_leaves closing rest))
      · split
        · exact .within (.map (statements_leaves closing rest))
        · refine .andThen fun s us h => ?_
          split
          · exact .within (.map (statements_leaves closing us))
          · exact .fail
termination_by tokens.length
decreasing_by all_goals (simp only [List.length_cons] at *; omega)

end Grammar

open Grammar

/-- The end of the source stands behind everything that a program takes. -/
theorem eq_of_endOfInput {ts us rest : List Token} {t : Token}
    (hts : ∀ u ∈ ts, u.kind ≠ .endOfInput) (ht : t.kind = .endOfInput)
    (hus : ∀ u ∈ us, u.kind ≠ .endOfInput) (hrest : peekKind rest = .endOfInput)
    (h : ts ++ [t] = us ++ rest) : us = ts := by
  induction ts generalizing us with
  | nil =>
    cases us with
    | nil => rfl
    | cons u us =>
      obtain ⟨rfl, -⟩ := List.cons.inj h
      exact absurd ht (hus _ List.mem_cons_self)
  | cons u ts ih =>
    cases us with
    | nil =>
      rw [List.nil_append] at h
      rw [← h] at hrest
      exact absurd hrest (hts u List.mem_cons_self)
    | cons v us =>
      obtain ⟨rfl, htail⟩ := List.cons.inj h
      rw [ih (fun w hw => hts w (List.mem_cons_of_mem _ hw))
        (fun w hw => hus w (List.mem_cons_of_mem _ hw)) htail]

/-- The tokens in front of the end are read as a program exactly if the rules derive it. -/
theorem parseTokens_eq_ok_iff_derives {ts : List Token} {t : Token}
    (hts : ∀ u ∈ ts, u.kind ≠ .endOfInput) (ht : t.kind = .endOfInput) (program : Program) :
    parseTokens (ts ++ [t]) = .ok program ↔ Derives (.statements program) ts := by
  constructor
  · intro h
    unfold parseTokens at h
    cases hread : Grammar.program (ts ++ [t]) with
    | ok ss rest hlt =>
      rw [hread] at h
      cases h
      obtain ⟨us, hus, hderives⟩ :=
        statements_sound .endOfInput (.inr rfl) (ts ++ [t]) _ rest hlt hread
      have hrest := statements_leaves .endOfInput (ts ++ [t]) _ rest hlt hread
      have hne : ∀ u ∈ us, u.kind ≠ .endOfInput := fun u => hderives.balanced.kind_ne
      rwa [eq_of_endOfInput hts ht hne (hrest.elim id id) hus] at hderives
    | fail e rest =>
      rw [hread] at h
      cases h
  · intro h
    obtain ⟨hlt, hread⟩ := h.readOff .endOfInput [t] (.inr rfl) (.inl ht)
    rw [parseTokens, Grammar.program, hread]
    rfl

/-- A program is read off the tokens in front of the end exactly if it has a derivation with these
tokens, and no other program and no other derivation has them. -/
theorem parseTokens_eq_ok_iff {ts : List Token} {t : Token}
    (hts : ∀ u ∈ ts, u.kind ≠ .endOfInput) (ht : t.kind = .endOfInput) :
    (∀ program, parseTokens (ts ++ [t]) = .ok program ↔
      ∃ d : Derivation .statements program, d.tokens = ts) ∧
    ∀ x y : (program : Program) × Derivation .statements program,
      x.2.tokens = ts → y.2.tokens = ts → x = y := by
  refine ⟨fun program => ?_, fun ⟨p, d⟩ ⟨p', d'⟩ hx hy => ?_⟩
  · rw [parseTokens_eq_ok_iff_derives hts ht]
    refine ⟨fun h => h.derivable, ?_⟩
    rintro ⟨d, rfl⟩
    exact d.derives
  · have hend : Closes (peekKind ([] : List Token)) := .inr rfl
    have htokens : d.tokens ++ [] = d'.tokens ++ [] := congrArg (· ++ []) (hx.trans hy.symm)
    exact (d.unique d' hend hend htokens).1

/-- The tokens of `if a { } b = -1`: nothing has to stand between the block and the assignment. -/
theorem parseTokens_eq_ok_iff_behind_block :
    let ts : List Token := [⟨.ifWord, "if", ⟨0, 0, 2⟩⟩, ⟨.name, "a", ⟨0, 3, 1⟩⟩,
      ⟨.leftBrace, "\x7b", ⟨0, 5, 1⟩⟩, ⟨.rightBrace, "\x7d", ⟨0, 7, 1⟩⟩, ⟨.name, "b", ⟨0, 9, 1⟩⟩,
      ⟨.assign, "=", ⟨0, 11, 1⟩⟩, ⟨.minus, "-", ⟨0, 13, 1⟩⟩, ⟨.integer, "1", ⟨0, 14, 1⟩⟩]
    let t : Token := ⟨.endOfInput, "", ⟨0, 15, 0⟩⟩
    (∀ u ∈ ts, u.kind ≠ .endOfInput) ∧ t.kind = .endOfInput ∧
      ∃ program, parseTokens (ts ++ [t]) = .ok program ∧
        ∃! d : Derivation .statements program, d.tokens = ts := by
  intro ts t
  have hts : ∀ u ∈ ts, u.kind ≠ .endOfInput := by decide
  obtain ⟨hread, hunique⟩ := parseTokens_eq_ok_iff hts (t := t) rfl
  let program : Program :=
    [.conditional (.var ⟨"a", ⟨0, 3, 1⟩⟩) ⟨[], ⟨0, 5, 1⟩⟩ none ⟨0, 0, 2⟩,
      .assign (.var ⟨"b", ⟨0, 9, 1⟩⟩)
        (.binary (.literal (.int 0) ⟨0, 13, 1⟩) .sub (.literal (.int 1) ⟨0, 14, 1⟩) ⟨0, 13, 1⟩)
        ⟨0, 9, 1⟩]
  have hprogram : parseTokens (ts ++ [t]) = .ok program := by with_unfolding_all rfl
  obtain ⟨d, hd⟩ := (hread program).mp hprogram
  refine ⟨hts, rfl, program, hprogram, d, hd, fun d' hd' => ?_⟩
  have h := hunique ⟨program, d'⟩ ⟨program, d⟩ hd' hd
  exact eq_of_heq (Sigma.mk.inj h).2

end Scriptlet
