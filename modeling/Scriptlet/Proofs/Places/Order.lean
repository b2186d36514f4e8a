import Mathlib.Data.List.Nodup
import Scriptlet.Proofs.Places.Definitions
import Scriptlet.Proofs.Places.Introduction
import Scriptlet.Proofs.Values.Equality

/-!
# Statements follow one another

A statement may stand at a token in its middle, and the statements inside it may stand before it or
behind it. But all of them stand at tokens that spell it, and the next statement of the list stands
at a token behind these. So places grow along each list of a program (`inOrder_of_parse`), and the
place of a statement tells it from all others (`places_increase`).
-/

namespace Scriptlet

open Grammar

namespace Grammar.Derives

variable {s : Statement} {ss before after : List Statement} {b : Block} {ts : List Token}

/-- The tokens of the first statement come before those of the others. -/
theorem statements_cons (h : Derives (.statements (s :: ss)) ts) :
    ∃ us vs, ts = us ++ vs ∧ StandAmong s.nodes us ∧ Derives (.statements ss) vs := by
  cases h with
  | newLine isNewLine tail => exact ⟨[_], _, rfl, .newLine isNewLine, tail⟩
  | comment isComment tail => exact ⟨[_], _, rfl, .comment isComment, tail⟩
  | next h _ tail => exact ⟨_, _, rfl, h.standAmong, tail⟩

/-- The tokens of a statement come behind those of the statements before it and in front of those of
the statements behind it. -/
theorem statements_append (h : Derives (.statements (before ++ s :: after)) ts) :
    ∃ us vs ws, ts = us ++ (vs ++ ws) ∧ StandAmong s.nodes vs ∧ Derives (.statements after) ws := by
  induction before generalizing ts with
  | nil =>
    obtain ⟨vs, ws, rfl, hs, tail⟩ := h.statements_cons
    exact ⟨[], vs, ws, rfl, hs, tail⟩
  | cons s' before ih =>
    obtain ⟨us, _, rfl, -, tail⟩ := h.statements_cons
    obtain ⟨us', vs, ws, rfl, hs, hafter⟩ := ih tail
    exact ⟨us ++ us', vs, ws, (List.append_assoc _ _ _).symm, hs, hafter⟩

/-- Whatever is a statement or lies in one stands before the statements that follow. -/
theorem statements_inOrder (h : Derives (.statements ss) ts) (hts : Increasing ts) :
    ss.Pairwise fun s s' => ∀ n ∈ s.nodes, n.position.Before s'.position := by
  induction ss generalizing ts with
  | nil => exact .nil
  | cons s ss ih =>
    obtain ⟨us, vs, rfl, hs, tail⟩ := h.statements_cons
    obtain ⟨-, hvs, hcross⟩ := List.pairwise_append.mp hts
    refine .cons (fun s' hs' n hn => ?_) (ih tail hvs)
    obtain ⟨t, ht, hposition⟩ := hs.inside hn
    have hmem : .statement s' ∈ nodesOfStatements ss :=
      mem_nodesOfStatements.mpr ⟨s', hs', s'.mem_nodes⟩
    obtain ⟨u, hu, hposition'⟩ := tail.standAmong.inside hmem
    have hbefore := hcross t ht u hu
    rwa [hposition, hposition'] at hbefore

/-- The statements of a block are spelled by some of its tokens. -/
theorem statements_of_branch (h : Derives (.branch b) ts) :
    ∃ us, us <:+: ts ∧ Derives (.statements b.statements) us := by
  cases h with
  | branchBlock h =>
    cases h with
    | @block ss opening closing ts _ h _ => exact ⟨ts, ⟨[opening], [closing], rfl⟩, h⟩
  | branchIf h =>
    refine ⟨_, List.infix_refl _, ?_⟩
    have hnext := Derives.next (.conditional h) (.inr (.inl rfl)) .noStatements
    rwa [List.append_nil] at hnext

end Grammar.Derives

/-- A block is spelled by some of the tokens that it stands among. -/
theorem StandAmong.branch {ns : List Node} {ts : List Token} {b : Block} (h : StandAmong ns ts)
    (hb : .block b ∈ ns) : ∃ us, us <:+: ts ∧ Derives (.branch b) us := by
  obtain ⟨us, t, hus, hstands⟩ := h _ hb
  refine ⟨us, hus, ?_⟩
  cases hstands.introduced with
  | block _ h => exact .branchBlock h
  | elseIf _ h => exact h

/-- In each list of a program, places grow. -/
theorem inOrder_of_parse {source : String} {program : Program} (h : parse source = .ok program)
    {ss : List Statement} (hss : ss ∈ program.lists) :
    ss.Pairwise fun s s' => ∀ n ∈ s.nodes, n.position.Before s'.position := by
  obtain ⟨ts, rest, -, hts, hincreasing⟩ := spelled_of_parse h
  rcases Program.mem_lists.mp hss with rfl | ⟨b, hb, rfl⟩
  · exact hts.statements_inOrder hincreasing
  · obtain ⟨us, hus, hbranch⟩ := hts.standAmong.branch hb
    obtain ⟨vs, hvs, hstatements⟩ := hbranch.statements_of_branch
    exact hstatements.statements_inOrder (hincreasing.sublist (hvs.trans hus).sublist)

/-- The place of a statement tells it from the others in a list. -/
theorem eq_of_position_eq {source : String} {program : Program} (h : parse source = .ok program)
    {ss : List Statement} (hss : ss ∈ program.lists) {s s' : Statement} (hs : s ∈ ss)
    (hs' : s' ∈ ss) (heq : s.position = s'.position) : s = s' := by
  have hnodup : (ss.map Statement.position).Nodup :=
    List.pairwise_map.mpr ((inOrder_of_parse h hss).imp fun hbefore =>
      (hbefore _ (Statement.mem_nodes _)).ne)
  exact List.inj_on_of_nodup_map hnodup hs hs' heq

/-- In each list of a program, a statement and all that lie in it stand before the statements that
follow. No two statements of the program stand at the same place, and no two of its functions are
equal as values. -/
theorem places_increase {source : String} {program : Program} (h : parse source = .ok program) :
    (∀ ss ∈ program.lists, ss.Pairwise fun s s' =>
      s.position.Before s'.position ∧
        ∀ x, .statement x ∈ s.nodes → x.position.Before s'.position) ∧
    (statementPlaces (nodesOfStatements program)).Nodup ∧
    (functionsOfStatements program).Pairwise fun f g =>
      f.position ≠ g.position ∧ (Value.function f == .function g) = false := by
  obtain ⟨ts, rest, -, hts, hincreasing⟩ := spelled_of_parse h
  refine ⟨fun ss hss => (inOrder_of_parse h hss).imp fun hbefore => ?_, ?_, ?_⟩
  · exact ⟨hbefore _ (Statement.mem_nodes _), fun x hx => hbefore _ hx⟩
  · refine hts.nodup_statementPlaces ?_
    exact List.pairwise_map.mpr (hincreasing.imp fun hbefore => hbefore.ne)
  · refine (List.pairwise_map.mp (nodup_functions_of_parse h)).imp fun hne => ⟨hne, ?_⟩
    refine Bool.eq_false_iff.mpr fun heq => hne ?_
    rw [Value.function_beq_function_iff.mp heq]

/-- Two definitions that differ in their places only. -/
theorem places_increase_of_same_definitions :
    let f : Function := ⟨"f", [], ⟨[], ⟨0, 4, 1⟩⟩, ⟨0, 0, 1⟩⟩
    let g : Function := ⟨"f", [], ⟨[], ⟨1, 4, 1⟩⟩, ⟨1, 0, 1⟩⟩
    parse "f() {}
f() {}" = .ok [.function f, .newLine ⟨0, 6, 1⟩, .function g] ∧
      f.position.Before g.position ∧ (Value.function f == .function g) = false := by
  intro f g
  have hparse : parse "f() {}
f() {}" =
      .ok [.function f, .newLine ⟨0, 6, 1⟩, .function g] := by with_unfolding_all rfl
  obtain ⟨hlists, -, hpairs⟩ := places_increase hparse
  have hfunctions :
      functionsOfStatements [.function f, .newLine ⟨0, 6, 1⟩, .function g] = [f, g] := by
    simp [functionsOfStatements, Statement.functions, Function.functions, Block.functions, f, g]
  rw [hfunctions] at hpairs
  have hfirst := (List.pairwise_cons.mp (hlists _ List.mem_cons_self)).1
  exact ⟨hparse, (hfirst (.function g) (by simp)).1,
    ((List.pairwise_cons.mp hpairs).1 g List.mem_cons_self).2⟩

end Scriptlet
