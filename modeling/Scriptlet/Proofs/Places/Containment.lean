import Scriptlet.Proofs.Places.Order

/-!
# Lines of nested blocks

The lines of a block go from its opening brace to the start of its last statement
(`Block.containsLine`). So a block covers the lines of any block inside it, unless this one lies in
its last statement and goes on below the line where that statement stands
(`Block.covers_nested_iff`).

A block starts above whatever lies in it, since it stands at the first of its tokens. Where it ends
is the place of something that it contains, or its own (`Block.exists_endPosition`), and all this
comes before the statements that follow.
-/

namespace Scriptlet

open Grammar

/-- The lines of the one block are among those of the other. -/
def Block.Covers (a b : Block) : Prop :=
  ∀ line, b.containsLine line → a.containsLine line

theorem Block.containsLine_iff {b : Block} {line : Nat} :
    b.containsLine line = true ↔ b.position.line ≤ line ∧ line ≤ b.endPosition.line := by
  rw [containsLine, Bool.and_eq_true, decide_eq_true_iff, decide_eq_true_iff]

/-- A block ends where one of its nodes stands. -/
theorem Block.exists_endPosition (b : Block) : ∃ n ∈ b.nodes, n.position = b.endPosition := by
  rw [b.nodes_eq, endPosition]
  cases hlast : b.statements.getLast? with
  | none => exact ⟨.block b, List.mem_cons_self, rfl⟩
  | some s =>
    have hmem : .statement s ∈ nodesOfStatements b.statements :=
      mem_nodesOfStatements.mpr ⟨s, List.mem_of_getLast? hlast, s.mem_nodes⟩
    exact ⟨.statement s, List.mem_cons_of_mem _ hmem, rfl⟩

/-- A block with further statements ends where the last of them starts. -/
theorem Block.endPosition_append {b : Block} {before after : List Statement}
    (h : b.statements = before ++ after) (hafter : after ≠ []) :
    ∃ s ∈ after, s.position = b.endPosition := by
  refine ⟨after.getLast hafter, List.getLast_mem hafter, ?_⟩
  simp [endPosition, h, List.getLast?_append, List.getLast?_eq_getLast_of_ne_nil hafter]

/-- A block stands at the first of its tokens. -/
theorem Grammar.Derives.branch_first {b : Block} {ts : List Token} (h : Derives (.branch b) ts) :
    ∃ t us, ts = t :: us ∧ t.position = b.position := by
  cases h with
  | branchBlock h =>
    cases h with
    | block _ _ _ => exact ⟨_, _, rfl, rfl⟩
  | branchIf _ => exact ⟨_, _, rfl, rfl⟩

/-- No token of a block is on a line above the one that the block starts on. -/
theorem Grammar.Derives.branch_line_le {b : Block} {ts : List Token} (h : Derives (.branch b) ts)
    (hts : Increasing ts) : ∀ u ∈ ts, b.position.line ≤ u.position.line := by
  obtain ⟨t, us, rfl, hposition⟩ := h.branch_first
  rw [← hposition]
  exact List.forall_mem_cons.mpr
    ⟨Nat.le_refl _, fun u hu => ((List.pairwise_cons.mp hts).1 u hu).line_le⟩

/-- A block starts on its first line. -/
theorem Grammar.Derives.branch_line_le_end {b : Block} {ts : List Token}
    (h : Derives (.branch b) ts) (hts : Increasing ts) :
    b.position.line ≤ b.endPosition.line := by
  obtain ⟨n, hn, hend⟩ := b.exists_endPosition
  obtain ⟨u, hu, hposition⟩ := h.standAmong.inside hn
  rw [← hend, ← hposition]
  exact h.branch_line_le hts u hu

/-! ## Blocks inside blocks -/

/-- A block that starts below another one covers its lines if it ends below its end. -/
theorem Block.covers_iff {a b : Block} (hstart : a.position.line ≤ b.position.line)
    (hle : b.position.line ≤ b.endPosition.line) :
    a.Covers b ↔ b.endPosition.line ≤ a.endPosition.line := by
  refine ⟨fun hcovers => ?_, fun hend line hline => ?_⟩
  · have hlast := hcovers _ (containsLine_iff.mpr ⟨hle, Nat.le_refl _⟩)
    exact (containsLine_iff.mp hlast).2
  · obtain ⟨hfirst, hlast⟩ := containsLine_iff.mp hline
    exact containsLine_iff.mpr ⟨hstart.trans hfirst, hlast.trans hend⟩

namespace Grammar.Derives

variable {a b : Block} {s : Statement} {before after : List Statement} {ts vs : List Token}

/-- A block inside another one does not start above it. -/
theorem line_le_of_nested (h : Derives (.branch a) ts) (hts : Increasing ts)
    (hb : .block b ∈ nodesOfStatements a.statements) : a.position.line ≤ b.position.line := by
  have hmem : .block b ∈ a.nodes := by
    rw [a.nodes_eq]
    exact List.mem_cons_of_mem _ hb
  obtain ⟨t, ht, hposition⟩ := h.standAmong.inside hmem
  have hle := h.branch_line_le hts t ht
  rwa [hposition] at hle

/-- A block covers those in its statements, unless they go on below the start of the last one. -/
theorem nested_covers_iff (h : Derives (.branch a) ts) (hts : Increasing ts)
    (hsplit : a.statements = before ++ s :: after) (hb : .block b ∈ s.nodes) :
    a.Covers b ↔ (after = [] → b.endPosition.line ≤ s.position.line) := by
  obtain ⟨body, hbody, hstatements⟩ := h.statements_of_branch
  rw [hsplit] at hstatements
  obtain ⟨us, vs, ws, rfl, hs, hafter⟩ := hstatements.statements_append
  have hincreasing : Increasing (us ++ (vs ++ ws)) := hts.sublist hbody.sublist
  obtain ⟨hvs, -, hcross⟩ := List.pairwise_append.mp (List.pairwise_append.mp hincreasing).2.1
  obtain ⟨inner, hinner, hbranch⟩ := hs.branch hb
  have hnested : .block b ∈ nodesOfStatements a.statements :=
    mem_nodesOfStatements.mpr ⟨s, by simp [hsplit], hb⟩
  rw [Block.covers_iff (h.line_le_of_nested hts hnested)
    (hbranch.branch_line_le_end (hvs.sublist hinner.sublist))]
  by_cases hlast : after = []
  · have hend : a.endPosition = s.position := by simp [Block.endPosition, hsplit, hlast]
    simp [hend, hlast]
  · refine iff_of_true ?_ fun hnil => absurd hnil hlast
    -- The last statement of the outer block stands behind all tokens of this one.
    have hsplit' : a.statements = (before ++ [s]) ++ after := by simp [hsplit]
    obtain ⟨s', hs', hend⟩ := Block.endPosition_append hsplit' hlast
    have hmem : .statement s' ∈ nodesOfStatements after :=
      mem_nodesOfStatements.mpr ⟨s', hs', s'.mem_nodes⟩
    obtain ⟨w, hw, hw'⟩ := hafter.standAmong.inside hmem
    obtain ⟨n, hn, hn'⟩ := b.exists_endPosition
    obtain ⟨u, hu, hu'⟩ := hbranch.standAmong.inside hn
    have hbefore := (hcross u (hinner.subset hu) w hw).line_le
    rwa [hu', hn', hw', Node.position, hend] at hbefore

end Grammar.Derives

/-! ## Blocks of a source -/

/-- The body of the function does not cover that of the conditional, which is on three lines and is
the last statement there. -/
theorem Block.not_covers_nested :
    ¬ ∀ (source : String) (program : Program) (a b : Block), parse source = .ok program →
      .block a ∈ nodesOfStatements program → .block b ∈ nodesOfStatements a.statements →
      ∀ line, b.containsLine line → a.containsLine line := by
  intro h
  let b : Block :=
    ⟨[.newLine ⟨1, 8, 1⟩, .expression (.call ⟨"b", [], ⟨2, 4, 1⟩⟩), .newLine ⟨2, 7, 1⟩], ⟨1, 7, 1⟩⟩
  let s : Statement := .conditional (.var ⟨"a", ⟨1, 5, 1⟩⟩) b none ⟨1, 2, 2⟩
  let a : Block := ⟨[.newLine ⟨0, 5, 1⟩, s], ⟨0, 4, 1⟩⟩
  have hparse : parse "f() \x7b\n  if a \x7b\n    b()\n  \x7d \x7d" =
      .ok [.function ⟨"f", [], a, ⟨0, 0, 1⟩⟩] := by with_unfolding_all rfl
  have ha : .block a ∈ nodesOfStatements [.function ⟨"f", [], a, ⟨0, 0, 1⟩⟩] := by
    simp [nodesOfStatements, Statement.nodes, Function.nodes, a.nodes_eq]
  have hb : .block b ∈ nodesOfStatements a.statements := by
    simp [nodesOfStatements, Statement.nodes, b.nodes_eq, a, s]
  have hline : a.containsLine 2 = true := h _ _ a b hparse ha hb 2 rfl
  cases hline

/-- A block covers the lines of a block in one of its statements, unless the statement is its last
one and the block inside ends below the line where this statement starts. -/
theorem Block.covers_nested_iff {source : String} {program : Program}
    (h : parse source = .ok program) {a b : Block} (ha : .block a ∈ nodesOfStatements program)
    {s : Statement} {before after : List Statement} (hsplit : a.statements = before ++ s :: after)
    (hb : .block b ∈ s.nodes) :
    (∀ line, b.containsLine line → a.containsLine line) ↔
      (after = [] → b.endPosition.line ≤ s.position.line) := by
  obtain ⟨ts, rest, -, hts, hincreasing⟩ := spelled_of_parse h
  obtain ⟨us, hus, hbranch⟩ := hts.standAmong.branch ha
  exact hbranch.nested_covers_iff (hincreasing.sublist hus.sublist) hsplit hb

/-- A line break behind the conditional is a statement, so the body covers it. -/
theorem Block.covers_nested_above_line_break :
    let b : Block := ⟨[.newLine ⟨1, 8, 1⟩, .stop ⟨2, 4, 5⟩, .newLine ⟨2, 9, 1⟩], ⟨1, 7, 1⟩⟩
    let s : Statement := .conditional (.var ⟨"a", ⟨1, 5, 1⟩⟩) b none ⟨1, 2, 2⟩
    let a : Block := ⟨[.newLine ⟨0, 5, 1⟩, s, .newLine ⟨3, 3, 1⟩], ⟨0, 4, 1⟩⟩
    parse "f() \x7b\n  if a \x7b\n    break\n  \x7d\n\x7d" =
        .ok [.function ⟨"f", [], a, ⟨0, 0, 1⟩⟩] ∧
      ∀ line, b.containsLine line → a.containsLine line := by
  intro b s a
  have hparse : parse "f() \x7b\n  if a \x7b\n    break\n  \x7d\n\x7d" =
      .ok [.function ⟨"f", [], a, ⟨0, 0, 1⟩⟩] := by with_unfolding_all rfl
  have ha : .block a ∈ nodesOfStatements [.function ⟨"f", [], a, ⟨0, 0, 1⟩⟩] := by
    simp [nodesOfStatements, Statement.nodes, Function.nodes, a.nodes_eq]
  have hb : .block b ∈ s.nodes := by simp [Statement.nodes, b.nodes_eq, s]
  have hsplit : a.statements = [.newLine ⟨0, 5, 1⟩] ++ s :: [.newLine ⟨3, 3, 1⟩] := rfl
  refine ⟨hparse, (Block.covers_nested_iff hparse ha hsplit hb).mpr fun hlast => ?_⟩
  exact absurd hlast (List.cons_ne_nil _ _)

end Scriptlet
