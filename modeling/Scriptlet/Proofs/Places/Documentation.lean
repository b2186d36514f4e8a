import Scriptlet.Proofs.Grammar.Trivia
import Scriptlet.Proofs.Places.Order

/-!
# The comments that document a declaration

The comments that document a declaration are those in the longest run of line breaks and comments
above it that contains no blank line (`RunAbove`, `Documents`). `docComments` finds them in one pass
from the top. What it has met so far ends in such a run, of which it keeps the comments, and of the
line breaks only whether the run ends in one (`Pending`).

The notion of a declaration matters: `docComments` takes any assignment for one, and not only those
to a name. As the statements of a list stand at different places, this makes a difference only if
comments are above an assignment to a member (`docComments_documents`).
-/

namespace Scriptlet

/-- Somewhere, two line breaks stand in a row. -/
def HasBlankLine (ss : List Statement) : Prop :=
  ∃ p q, [.newLine p, .newLine q] <:+: ss

/-- Line breaks and comments without a blank line. -/
structure IsRun (ss : List Statement) : Prop where
  trivia : ∀ s ∈ ss, s.isTrivia
  unbroken : ¬ HasBlankLine ss

/-- The longest run at the end of some statements. -/
structure RunAbove (before run : List Statement) : Prop where
  suffix : run <:+ before
  isRun : IsRun run
  longest : ∀ ss, ss <:+ before → IsRun ss → ss <:+ run

/-- None of the statements is a declaration at the place. -/
def Undeclared (declares : Statement → Bool) (place : Position) (ss : List Statement) : Prop :=
  ∀ s ∈ ss, declares s → s.position ≠ place

/-- The comments that document the first declaration at a place. There are none if there is no
declaration there. -/
inductive Documents (declares : Statement → Bool) (ss : List Statement) (place : Position) :
    List Comment → Prop
  | none (absent : Undeclared declares place ss) : Documents declares ss place []
  | run {before run after : List Statement} {s : Statement} (split : ss = before ++ s :: after)
    (first : Undeclared declares place before) (declared : declares s) (stands : s.position = place)
    (above : RunAbove before run) :
    Documents declares ss place (run.filterMap Statement.comment?)

theorem Undeclared.concat {declares : Statement → Bool} {place : Position} {ss : List Statement}
    {s : Statement} (h : Undeclared declares place ss) (hs : declares s → s.position ≠ place) :
    Undeclared declares place (ss ++ [s]) :=
  List.forall_mem_append.mpr ⟨h, List.forall_mem_singleton.mpr hs⟩

/-- A definition or an assignment to a name. -/
def Statement.declaresName : Statement → Bool
  | .function _ => true
  | .assign (.var _) _ _ => true
  | _ => false

/-- An assignment to anything else, which is a member of an object. -/
def Statement.assignsMember : Statement → Bool
  | .assign (.var _) _ _ => false
  | .assign .. => true
  | _ => false

theorem Statement.isDeclaration_eq (s : Statement) :
    s.isDeclaration = (s.declaresName || s.assignsMember) := by
  cases s with
  | assign target value p => cases target <;> rfl
  | _ => rfl

theorem Statement.declaresName_eq_false {s : Statement} (h : s.assignsMember) :
    s.declaresName = false := by
  cases s with
  | assign target value p => cases target <;> first | rfl | cases h
  | _ => cases h

/-! ## Longer runs -/

/-- The last of the statements is a line break. -/
def EndsInBreak (ss : List Statement) : Prop :=
  ∃ p, [.newLine p] <:+ ss

section

variable {before run ss us : List Statement} {s s' : Statement}

theorem suffix_concat_concat : us ++ [s'] <:+ ss ++ [s] ↔ us <:+ ss ∧ s' = s := by
  have hlength : [s'].length = [s].length := rfl
  rw [List.suffix_append_inj_of_length_eq hlength, List.singleton_inj]

theorem EndsInBreak.of_suffix (h : EndsInBreak ss) (hss : ss <:+ us) : EndsInBreak us := by
  obtain ⟨p, hp⟩ := h
  exact ⟨p, hp.trans hss⟩

theorem EndsInBreak.suffix (h : EndsInBreak us) (hss : ss <:+ us) (hne : ss ≠ []) :
    EndsInBreak ss := by
  obtain ⟨p, hp⟩ := h
  exact ⟨p, List.suffix_of_suffix_length_le hp hss (List.length_pos_iff.mpr hne)⟩

theorem not_endsInBreak_nil : ¬ EndsInBreak [] := by
  rintro ⟨p, hp⟩
  cases List.suffix_nil.mp hp

theorem endsInBreak_concat : EndsInBreak (ss ++ [s]) ↔ ∃ p, s = .newLine p := by
  refine exists_congr fun p => ?_
  rw [← List.nil_append [Statement.newLine p], suffix_concat_concat, eq_comm]
  simp

/-- A blank line ends with the last statement or lies in front of it. -/
theorem hasBlankLine_concat :
    HasBlankLine (ss ++ [s]) ↔ (EndsInBreak ss ∧ ∃ q, s = .newLine q) ∨ HasBlankLine ss := by
  simp only [HasBlankLine, List.infix_concat_iff, exists_or]
  refine or_congr ⟨?_, ?_⟩ Iff.rfl
  · rintro ⟨p, q, h⟩
    have hsuffix : [.newLine p] ++ [.newLine q] <:+ ss ++ [s] := h
    obtain ⟨hp, hq⟩ := suffix_concat_concat.mp hsuffix
    exact ⟨⟨p, hp⟩, q, hq.symm⟩
  · rintro ⟨⟨p, hp⟩, q, rfl⟩
    exact ⟨p, q, suffix_concat_concat.mpr ⟨hp, rfl⟩⟩

theorem IsRun.nil : IsRun [] where
  trivia := List.forall_mem_nil _
  unbroken := by simp [HasBlankLine]

/-- A run goes on with a comment, and with a line break if there is none in front of it. -/
theorem isRun_concat : IsRun (ss ++ [s]) ↔
    IsRun ss ∧ s.isTrivia ∧ ∀ q, s = .newLine q → ¬ EndsInBreak ss := by
  constructor
  · intro h
    obtain ⟨htrivia, hs⟩ := List.forall_mem_append.mp h.trivia
    have hunbroken := h.unbroken
    rw [hasBlankLine_concat, not_or] at hunbroken
    refine ⟨⟨htrivia, hunbroken.2⟩, hs s List.mem_cons_self, fun q hq hends => ?_⟩
    exact hunbroken.1 ⟨hends, q, hq⟩
  · rintro ⟨hrun, hs, hbreak⟩
    refine ⟨List.forall_mem_append.mpr ⟨hrun.trivia, List.forall_mem_singleton.mpr hs⟩, ?_⟩
    rw [hasBlankLine_concat]
    rintro (⟨hends, q, hq⟩ | hblank)
    · exact hbreak q hq hends
    · exact hrun.unbroken hblank

namespace RunAbove

theorem nil : RunAbove [] [] where
  suffix := List.suffix_refl []
  isRun := .nil
  longest _ hss _ := hss

/-- Among the suffixes of further statements, the runs are the empty one and those that go on with
the last statement. -/
theorem of_concat (hrun : IsRun run) (hsuffix : run <:+ before ++ [s])
    (hlongest : ∀ ss, ss <:+ before → IsRun (ss ++ [s]) → ss ++ [s] <:+ run) :
    RunAbove (before ++ [s]) run where
  suffix := hsuffix
  isRun := hrun
  longest ss hss hrun' := by
    rcases List.suffix_concat_iff.mp hss with rfl | ⟨us, rfl, hus⟩
    · exact List.nil_suffix
    · exact hlongest us hus hrun'

/-- The run goes on. -/
theorem concat (h : RunAbove before run) (hs : s.isTrivia)
    (hbreak : ∀ q, s = .newLine q → ¬ EndsInBreak before) :
    RunAbove (before ++ [s]) (run ++ [s]) := by
  have hrun : IsRun (run ++ [s]) :=
    isRun_concat.mpr ⟨h.isRun, hs, fun q hq hends => hbreak q hq (hends.of_suffix h.suffix)⟩
  refine .of_concat hrun (suffix_concat_concat.mpr ⟨h.suffix, rfl⟩) fun ss hss hrun' => ?_
  exact suffix_concat_concat.mpr ⟨h.longest ss hss (isRun_concat.mp hrun').1, rfl⟩

/-- Behind a line break, another one makes a blank line, and a run starts with it. -/
theorem blankLine (h : EndsInBreak before) (q : Position) :
    RunAbove (before ++ [.newLine q]) [.newLine q] := by
  have hrun : IsRun ([] ++ [.newLine q]) :=
    isRun_concat.mpr ⟨.nil, rfl, fun _ _ => not_endsInBreak_nil⟩
  refine .of_concat hrun (List.suffix_append _ _) fun ss hss hrun => ?_
  by_cases hne : ss = []
  · rw [hne]
    exact List.suffix_refl _
  · exact absurd (h.suffix hss hne) ((isRun_concat.mp hrun).2.2 q rfl)

/-- Any other statement ends the run. -/
theorem stop (hs : s.isTrivia = false) : RunAbove (before ++ [s]) [] := by
  refine .of_concat .nil List.nil_suffix fun ss _ hrun => ?_
  have htrivia := (isRun_concat.mp hrun).2.1
  rw [hs] at htrivia
  cases htrivia

end RunAbove

end

/-! ## The pass -/

/-- What the pass keeps of the statements that it has met: the comments of the run that they end in,
and whether the last of them is a line break. -/
structure Pending (seen : List Statement) (comments : List Comment) (breaks : Nat) : Prop where
  kept : ∃ run, RunAbove seen run ∧ run.filterMap Statement.comment? = comments
  breaks_pos : 0 < breaks ↔ EndsInBreak seen

namespace Pending

variable {seen : List Statement} {comments : List Comment} {breaks : Nat} {s : Statement}

theorem nil : Pending [] [] 0 where
  kept := ⟨[], .nil, rfl⟩
  breaks_pos := by simp [not_endsInBreak_nil]

theorem comment (h : Pending seen comments breaks) (c : Comment) :
    Pending (seen ++ [.comment c]) (comments ++ [c]) 0 where
  kept := by
    obtain ⟨run, habove, rfl⟩ := h.kept
    refine ⟨run ++ [.comment c], habove.concat rfl fun q hq => ?_, ?_⟩
    · cases hq
    · simp [List.filterMap_append, Statement.comment?]
  breaks_pos := by simp [endsInBreak_concat]

theorem newLine (h : Pending seen comments breaks) (p : Position) :
    Pending (seen ++ [.newLine p]) (if breaks + 1 > 1 then [] else comments) (breaks + 1) where
  kept := by
    split
    · have hends : EndsInBreak seen := h.breaks_pos.mp (by omega)
      exact ⟨[.newLine p], .blankLine hends p, rfl⟩
    · obtain ⟨run, habove, rfl⟩ := h.kept
      have hends : ¬ EndsInBreak seen := h.breaks_pos.not.mp (by omega)
      refine ⟨run ++ [.newLine p], habove.concat rfl fun _ _ => hends, ?_⟩
      simp [List.filterMap_append, Statement.comment?]
  breaks_pos := by simp [endsInBreak_concat]

theorem stop (hs : s.isTrivia = false) : Pending (seen ++ [s]) [] 0 where
  kept := ⟨[], .stop hs, rfl⟩
  breaks_pos := by
    have hne (p) : s ≠ .newLine p := by
      rintro rfl
      cases hs
    simp [endsInBreak_concat, hne]

end Pending

/-- The pass finds what documents the first declaration at the place. -/
theorem docCommentsFrom_documents {place : Position} {seen rest : List Statement}
    {comments : List Comment} {breaks : Nat} (h : Pending seen comments breaks)
    (hfirst : Undeclared Statement.isDeclaration place seen) :
    Documents Statement.isDeclaration (seen ++ rest) place
      (docCommentsFrom place comments breaks rest) := by
  fun_induction docCommentsFrom place comments breaks rest generalizing seen with
  | case1 comments breaks =>
    rw [List.append_nil]
    exact .none hfirst
  | case2 comments breaks c rest ih =>
    rw [List.append_cons]
    exact ih (h.comment c) (hfirst.concat nofun)
  | case3 comments breaks p rest ih =>
    rw [List.append_cons]
    exact ih (h.newLine p) (hfirst.concat nofun)
  | case4 comments breaks s rest hcomment hbreak htest =>
    obtain ⟨hdeclares, hplace⟩ := Bool.and_eq_true_iff.mp htest
    obtain ⟨run, habove, rfl⟩ := h.kept
    exact .run rfl hfirst hdeclares (of_decide_eq_true hplace) habove
  | case5 comments breaks s rest hcomment hbreak htest ih =>
    have hs : s.isTrivia = false := by
      cases s with
      | newLine p => cases hbreak p rfl
      | comment c => cases hcomment c rfl
      | _ => rfl
    rw [List.append_cons]
    refine ih (.stop hs) (hfirst.concat fun hdeclares hplace => htest ?_)
    rw [hdeclares, decide_eq_true hplace]
    rfl

/-! ## What is found -/

theorem RunAbove.unique {before run run' : List Statement} (h : RunAbove before run)
    (h' : RunAbove before run') : run = run' :=
  (h'.longest run h.suffix h.isRun).eq_of_length_le (h.longest run' h'.suffix h'.isRun).length_le

section

variable {declares : Statement → Bool} {place : Position}
  {before before' after after' : List Statement} {s s' : Statement}

/-- Nothing in front of the first declaration is one. -/
theorem Undeclared.prefix_of_split (h : Undeclared declares place before') (hs : declares s)
    (hplace : s.position = place) (hsplit : before ++ s :: after = before' ++ s' :: after') :
    before' <+: before := by
  rcases List.append_eq_append_iff.mp hsplit with ⟨between, rfl, hbetween⟩ | ⟨between, rfl, -⟩
  · cases between with
    | nil => simp
    | cons u between =>
      obtain ⟨rfl, -⟩ := List.cons_eq_cons.mp hbetween
      exact absurd hplace (h s (by simp) hs)
  · exact List.prefix_append before' between

/-- What documents a declaration is unique. -/
theorem Documents.unique {ss : List Statement} {comments comments' : List Comment}
    (h : Documents declares ss place comments) (h' : Documents declares ss place comments') :
    comments = comments' := by
  cases h with
  | none absent =>
    cases h' with
    | none _ => rfl
    | run split _ declared stands _ => exact absurd stands (absent _ (by simp [split]) declared)
  | run split first declared stands above =>
    cases h' with
    | none absent => exact absurd stands (absent _ (by simp [split]) declared)
    | run split' first' declared' stands' above' =>
      have hbefore := first'.prefix_of_split declared stands (split.symm.trans split')
      have hbefore' := first.prefix_of_split declared' stands' (split'.symm.trans split)
      obtain rfl := hbefore.eq_of_length_le hbefore'.length_le
      rw [above.unique above']

/-- Two notions of declarations that agree at a place find the same there. -/
theorem Documents.congr {declares' : Statement → Bool} {ss : List Statement}
    {comments : List Comment} (hagree : ∀ s ∈ ss, s.position = place → declares s = declares' s)
    (h : Documents declares ss place comments) : Documents declares' ss place comments := by
  have hundeclared {us : List Statement} (hus : us ⊆ ss) (h : Undeclared declares place us) :
      Undeclared declares' place us := by
    intro s hs hdeclares hplace
    rw [← hagree s (hus hs) hplace] at hdeclares
    exact h s hs hdeclares hplace
  cases h with
  | none absent => exact .none (hundeclared (List.Subset.refl ss) absent)
  | run split first declared stands above =>
    subst split
    rw [hagree _ (by simp) stands] at declared
    exact .run rfl (hundeclared (List.subset_append_left _ _) first) declared stands above

end

/-- Where a member is assigned to, no name is. -/
theorem undeclared_of_assignsMember {source : String} {program : Program}
    (h : parse source = .ok program) {ss : List Statement} (hss : ss ∈ program.lists)
    {s : Statement} (hs : s ∈ ss) (hassigns : s.assignsMember) :
    Undeclared Statement.declaresName s.position ss := by
  intro s' hs' declared hplace
  obtain rfl := eq_of_position_eq h hss hs' hs hplace
  rw [Statement.declaresName_eq_false hassigns] at declared
  cases declared

/-- The comments that are found for a place in a list of a program are those that document the first
definition or assignment there, whatever is assigned to. They document the first definition or
assignment to a name, unless a member is assigned to at the place, and then if none are found. -/
theorem docComments_documents {source : String} {program : Program}
    (h : parse source = .ok program) {ss : List Statement} (hss : ss ∈ program.lists)
    (place : Position) :
    (∀ comments, Documents Statement.isDeclaration ss place comments ↔
      docComments ss place = comments) ∧
    (Documents Statement.declaresName ss place (docComments ss place) ↔
      ∀ s ∈ ss, s.position = place → s.assignsMember → docComments ss place = []) := by
  have hfound : Documents Statement.isDeclaration ss place (docComments ss place) :=
    docCommentsFrom_documents .nil (List.forall_mem_nil _)
  refine ⟨fun comments => ⟨hfound.unique, fun heq => heq ▸ hfound⟩, ?_, fun hnone => ?_⟩
  · rintro hdocuments s hs rfl hassigns
    exact hdocuments.unique (.none (undeclared_of_assignsMember h hss hs hassigns))
  · by_cases hmember : ∃ s ∈ ss, s.position = place ∧ s.assignsMember
    · obtain ⟨s, hs, rfl, hassigns⟩ := hmember
      rw [hnone s hs rfl hassigns]
      exact .none (undeclared_of_assignsMember h hss hs hassigns)
    · refine hfound.congr fun s hs hplace => ?_
      have hassigns : s.assignsMember = false :=
        Bool.eq_false_iff.mpr fun hassigns => hmember ⟨s, hs, hplace, hassigns⟩
      rw [s.isDeclaration_eq, hassigns, Bool.or_false]

/-- The comment above an assignment to a member is found, and documents no assignment to a name. -/
theorem docComments_documents_above_member :
    let program : Program :=
      [.comment ⟨" c", ⟨0, 0, 4⟩⟩, .newLine ⟨0, 4, 1⟩,
      .assign (.field (.var ⟨"m", ⟨1, 0, 1⟩⟩) (.name ⟨"x", ⟨1, 2, 1⟩⟩) ⟨1, 0, 1⟩)
        (.literal (.int 1) ⟨1, 6, 1⟩) ⟨1, 0, 1⟩]
    parse "// c\nm.x = 1" = .ok program ∧
      Documents Statement.isDeclaration program ⟨1, 0, 1⟩ [⟨" c", ⟨0, 0, 4⟩⟩] ∧
      ¬ Documents Statement.declaresName program ⟨1, 0, 1⟩ [⟨" c", ⟨0, 0, 4⟩⟩] := by
  intro program
  have hparse : parse "// c\nm.x = 1" = .ok program := by with_unfolding_all rfl
  have hdocs : docComments program ⟨1, 0, 1⟩ = [⟨" c", ⟨0, 0, 4⟩⟩] := by decide
  obtain ⟨hfound, hnames⟩ := docComments_documents hparse List.mem_cons_self ⟨1, 0, 1⟩
  rw [hdocs] at hnames
  refine ⟨hparse, (hfound _).mpr hdocs, fun hdocuments => ?_⟩
  cases hnames.mp hdocuments _ (List.mem_of_getLast? rfl) rfl rfl

end Scriptlet
