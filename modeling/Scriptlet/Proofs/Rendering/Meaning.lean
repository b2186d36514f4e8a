import Mathlib.Data.List.Nodup
import Mathlib.Data.List.Zip
import Scriptlet.Proofs.Places.Calls

/-!
# Rendering preserves meaning

A program that was read and the program that is read from its text do the same when they are run
(`runTree_render`): they print the same, end alike, and leave the same global variables behind, up
to positions. Positions show within the language, since functions are equal only if all of theirs
are. So the runs are compared by means of a correspondence between the functions of the two
programs: the first that is defined in one corresponds to the first that is defined in the other,
and so on. It is one to one, because no two functions of a program stand at the same place.
-/

namespace Scriptlet

/-! ## The correspondence of two programs -/

/-- The functions stand at the same index in the two programs. -/
def Program.Corresponding (p q : Program) : Correspondence := fun f f' =>
  (f, f') ∈ (functionsOfStatements p).zip (functionsOfStatements q)

/-- What stands beside an element of the first list is unique if the list has no duplicates. -/
theorem eq_of_mem_zip {α β : Type} {l : List α} {l' : List β} (h : l.Nodup) {a : α} {b b' : β}
    (hb : (a, b) ∈ l.zip l') (hb' : (a, b') ∈ l.zip l') : b = b' := by
  induction l generalizing l' with
  | nil =>
    rw [List.zip_nil_left] at hb
    cases hb
  | cons x xs ih =>
    obtain ⟨hx, hxs⟩ := List.nodup_cons.mp h
    cases l' with
    | nil => cases hb
    | cons y ys =>
      rw [List.zip_cons_cons, List.mem_cons, Prod.mk.injEq] at hb hb'
      rcases hb with ⟨rfl, rfl⟩ | hb
      · rcases hb' with ⟨-, rfl⟩ | hb'
        · rfl
        · exact absurd (List.of_mem_zip hb').1 hx
      · rcases hb' with ⟨rfl, -⟩ | hb'
        · exact absurd (List.of_mem_zip hb).1 hx
        · exact ih hxs hb hb'

theorem mem_zip_swap {α β : Type} {l : List α} {l' : List β} {a : α} {b : β}
    (h : (a, b) ∈ l.zip l') : (b, a) ∈ l'.zip l := by
  rw [← List.zip_swap]
  exact List.mem_map.mpr ⟨(a, b), h, rfl⟩

/-- In programs that were read, each function has one counterpart. -/
theorem Program.corresponding_biUnique {source source' : String} {p q : Program}
    (hp : parse source = .ok p) (hq : parse source' = .ok q) :
    Relator.BiUnique (Program.Corresponding p q) := by
  have hnodup := List.Nodup.of_map Function.position (nodup_functions_of_parse hp)
  have hnodup' := List.Nodup.of_map Function.position (nodup_functions_of_parse hq)
  -- Functions at different places are different, so each stands at one index only.
  constructor
  · intro f g f' hf hg
    exact eq_of_mem_zip hnodup' (mem_zip_swap hf) (mem_zip_swap hg)
  · intro f f' g' hf' hg'
    exact eq_of_mem_zip hnodup hf' hg'

/-- Programs that are equal up to positions are alike in their own correspondence. -/
theorem Program.like_of_erase_eq {p q : Program} (h : q.erase = p.erase) :
    LikeStatements (Program.Corresponding p q) p q := by
  refine ⟨h.symm, List.forall₂_iff_zip.mpr ⟨?_, fun hmem => hmem⟩⟩
  have hlength := congrArg (fun ss => (functionsOfStatements ss).length) h.symm
  simpa [Program.erase, functionsOfStatements_erase] using hlength

/-! ## Runs -/

/-- Two runs print the same, end alike and leave the same global variables behind, except for
places: those in the functions among the values, and those to which errors refer. -/
structure SameRun (r r' : Except RuntimeError Value × Machine) : Prop where
  printed : printedText r.2.events = printedText r'.2.events
  outcome : Agree (fun v v' => v.erase = v'.erase) r.1 r'.1
  globals : eraseEntries r.2.stack.globals.entries = eraseEntries r'.2.stack.globals.entries

theorem Exec.Similar.sameRun {P : Correspondence} {x y : Eval Value}
    (h : Exec.Similar P (Value.Like P) x y) {m m' : Machine} (hm : m.Like P m') :
    SameRun (x.on m) (y.on m') := by
  obtain ⟨houtcome, hafter⟩ := h m m' hm
  exact
    { printed := hafter.printedText_eq
      outcome := houtcome.mono fun _ _ hv => hv.erase_eq
      globals := eraseEntries_eq hafter.stack.base.bottom }

/-- The text of a program that was read means the same as the program: it is read again, and what is
read runs alike on a fresh machine in the same environment. -/
theorem runTree_render (env : Environment) {source : String} {program : Program}
    (h : parse source = .ok program) :
    ∃ again, parse program.render = .ok again ∧
      SameRun ((env.runTree program).on (.initial {})) ((env.runTree again).on (.initial {})) := by
  obtain ⟨ts, hproper, hts⟩ := derives_of_parse h
  obtain ⟨again, hagain, herase⟩ := hts.readAgain hproper
  have hP := Program.corresponding_biUnique h hagain
  have hrun := runTree_similar hP env (Program.like_of_erase_eq herase)
  exact ⟨again, hagain, hrun.sameRun Machine.initial_like⟩

/-- Functions are compared, and the definition of the one that is compared moves to the left. -/
theorem runTree_render_of_comparison :
    let program : Program :=
      [.function ⟨"f", [], ⟨[], ⟨0, 4, 1⟩⟩, ⟨0, 1, 1⟩⟩,
      .newLine ⟨0, 6, 1⟩,
      .exit (some (.binary (.var ⟨"f", ⟨1, 7, 1⟩⟩) .equal (.var ⟨"f", ⟨1, 10, 1⟩⟩) ⟨1, 8, 2⟩))
        ⟨1, 0, 6⟩]
    parse " f(){}\nreturn f==f" = .ok program ∧ program.render = "f() {}\nreturn f == f" ∧
      ((Environment.bare.runTree program).on (.initial {})).1 = .ok (.bool true) ∧
      ∃ again, parse "f() {}\nreturn f == f" = .ok again ∧
        SameRun ((Environment.bare.runTree program).on (.initial {}))
          ((Environment.bare.runTree again).on (.initial {})) := by
  intro program
  have hparse : parse " f(){}\nreturn f==f" = .ok program := by with_unfolding_all rfl
  have htext : program.render = "f() {}\nreturn f == f" := by decide
  have hrun : ((Environment.bare.runTree program).on (.initial {})).1 = .ok (.bool true) := by
    with_unfolding_all rfl
  have h := runTree_render .bare hparse
  rw [htext] at h
  exact ⟨hparse, htext, hrun, h⟩

end Scriptlet
