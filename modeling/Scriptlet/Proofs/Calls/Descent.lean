import Scriptlet.Proofs.Calls.Independence
import Scriptlet.Proofs.Calls.Limit
import Scriptlet.Proofs.Calls.Recursion
import Scriptlet.Proofs.Evaluation.Arithmetic
import Scriptlet.Proofs.Evaluation.Outcomes

/-!
# Functions that count down by calling one another

A function that is called with a number may hand on to another one with the number before, and so on
down to zero. Each of these calls is made in the frame of the one before, so that as many frames lie
on one another as there are calls, all with the same parameter (`Descent`). The link of a call leads
one frame further than that of the caller, and shows the same functions.

Such a call therefore succeeds if more calls may be opened than the number says, and otherwise fails
when the last call that may be opened makes another one; on either way all of the frames go
(`Descent.InView.call_ends`). The simplest case is a function that calls itself
(`Environment.run_countdown`).
-/

namespace Scriptlet

namespace Stack

variable (s : Stack) (name : String) (link : Option Nat) (bindings : Scope)

theorem follow_enter (own : Option Nat) :
    follow name (link.map (· + 1)) (s.enter bindings own).frames =
      (follow name link s.frames).map fun r => (r.1 + 1, r.2) := by
  cases link <;> rfl

/-- What a link shows, it shows within a call, too, where it leads one frame further. -/
theorem seen_enter (own : Option Nat) :
    (s.enter bindings own).seen (link.map (· + 1)) name =
      (s.seen link name).map fun r => (r.1.map (· + 1), r.2) := by
  rw [seen, seen, follow_enter]
  cases follow name link s.frames with
  | some r => rfl
  | none =>
    show (s.globals.find? name).map _ = ((s.globals.find? name).map _).map _
    rw [Option.map_map]
    rfl

variable {name bindings}

/-- In a call that does not bind a name itself, the name is found where the link shows it. -/
theorem resolve_enter (hfree : bindings.find? name = none) :
    (s.enter bindings link).resolve name =
      (s.seen link name).map fun r => (r.1.map (· + 1), r.2) := by
  have hframes : (s.enter bindings link).frames = ⟨{ bottom := bindings }, link⟩ :: s.frames := rfl
  have hunbound : ({ bottom := bindings } : Scopes).find? name = none := hfree
  rw [resolve_of_frames hframes, findLinked_zero, hunbound, seen]
  cases follow name link s.frames with
  | some r => rfl
  | none =>
    show (s.globals.find? name).map _ = ((s.globals.find? name).map _).map _
    rw [Option.map_map]
    rfl

variable {s}

/-- If there is no scope but the global one, an assignment binds the name for all calls. -/
theorem resolves_global (hframes : s.frames = []) (hdepth : s.depth = 1) (name : String)
    (v : Value) :
    (s.assign name v).resolve name = some (none, v) ∧
      (s.assign name v).seen none name = some (none, v) := by
  obtain ⟨⟨bottom, above⟩, frames⟩ := s
  cases hframes
  obtain rfl : above = [] := List.eq_nil_of_length_eq_zero (Nat.succ_inj.mp hdepth)
  have hbound : ((bottom.insert name v).find? name).map (fun v => ((none : Option Nat), v)) =
      some (none, v) := by
    rw [Mapping.find?_insert_self]
    rfl
  exact ⟨hbound, hbound⟩

end Stack

theorem exists_toInt_eq_pred {k : Int64} {j : Nat} (hk : k.toInt = (j + 1 : Nat)) :
    ∃ k' : Int64, k'.toInt = j := by
  have hlt := k.toInt_lt
  exact ⟨.ofInt j, Int64.toInt_ofInt_of_le (by omega) (by omega)⟩

/-- A family of functions of one number each. Called with zero, a function answers; called with a
larger number, it hands on to another one with the number before. -/
structure Descent (ι : Type) where
  function : ι → Function
  parameter : String
  parameters : ∀ i, (function i).parameters.map (·.name) = [parameter]
  /-- The parameter hides none of the functions. -/
  apart : ∀ i, parameter ≠ (function i).name
  answer : ι → Value
  next : ι → ι
  /-- Where a function calls the next one. -/
  site : ι → Position
  answers : ∀ i (calls : Calls) (m : Machine), m.lookup parameter = some (.int 0) →
    (evalStatements calls (function i).body.statements).Ends m (.ok (.returned (answer i))) m
  handsOn : ∀ i (calls : Calls) (m : Machine) (k k' : Int64) (o : Except RuntimeError Value),
    m.lookup parameter = some (.int k) → 0 ≤ k'.toInt → k.toInt = k'.toInt + 1 →
    (calls.named (function (next i)).name [.int k'] (site i)).Ends m o m →
    (evalStatements calls (function i).body.statements).Ends m (o.map .returned) m

namespace Descent

variable {ι : Type} (D : Descent ι)

/-- The functions of the family are what the link shows under their names. -/
structure InView (m : Machine) (link : Option Nat) : Prop where
  free : ∀ i, m.natives.find? (D.function i).name = none
  seen : ∀ i, m.stack.seen link (D.function i).name = some (link, .function (D.function i))

/-- The scope of a call with this number. -/
def bound (k : Int64) : Scope :=
  ⟨[(D.parameter, .int k)]⟩

variable {D} {m : Machine} {link : Option Nat}

theorem bind_eq (i : ι) (k : Int64) : (D.function i).bind [.int k] = D.bound k := by
  rw [Function.bind, D.parameters i]
  rfl

theorem find?_bound (i : ι) (k : Int64) : (D.bound k).find? (D.function i).name = none :=
  if_neg (D.apart i)

theorem lookup_enter (m : Machine) (k : Int64) (link : Option Nat) :
    (m.enter (D.bound k) link).lookup D.parameter = some (.int k) := by
  show (m.stack.enter (D.bound k) link).find? _ = _
  rw [Stack.find?_enter]
  simp [bound, Mapping.find?, Mapping.findIn?]

theorem InView.enter (h : D.InView m link) (k : Int64) (own : Option Nat) :
    D.InView (m.enter (D.bound k) own) (link.map (· + 1)) where
  free := h.free
  seen i := by
    rw [show (m.enter _ own).stack = m.stack.enter (D.bound k) own from rfl, Stack.seen_enter,
      h.seen i]
    rfl

/-- In a call of a function of the family, each of them is found by its name. -/
theorem InView.resolve (h : D.InView m link) (k : Int64) (i : ι) :
    (m.enter (D.bound k) link).stack.resolve (D.function i).name =
      some (link.map (· + 1), .function (D.function i)) := by
  rw [show (m.enter _ link).stack = m.stack.enter (D.bound k) link from rfl,
    Stack.resolve_enter _ link (find?_bound i k), h.seen i]
  rfl

/-- A call of a function of the family succeeds if and only if the calls that may still be opened
are more than the number, however many are open and whatever lies on the stack. -/
theorem InView.call_ends {limit : Nat} (h : D.InView m link) (native : Nat → NativeCalls)
    {left j : Nat} {k : Int64} (hopen : m.openCalls + left = limit) (hk : k.toInt = j) (i : ι)
    (site : Position) :
    ∃ o, (callUser limit native left (D.function i) link [.int k] site).Ends m o m ∧
      (j < left → o = .ok (D.answer (D.next^[j] i))) ∧
      (left ≤ j → ∃ p, o = .error (.callDepth limit p)) := by
  have hlength : ∀ i, 1 = (D.function i).parameters.length := by
    intro i
    rw [← List.length_map Variable.name, D.parameters i]
    rfl
  induction left generalizing m link j k i site with
  | zero =>
    have hrefused : limit ≤ m.openCalls := by omega
    exact ⟨_, .refused (hlength i) hrefused, fun hlt => absurd hlt (Nat.not_lt_zero j),
      fun _ => ⟨site, rfl⟩⟩
  | succ left ih =>
    have hallowed : m.openCalls < limit := by omega
    -- Whatever the body comes to, its frame goes.
    have hcall : ∀ {o : Except RuntimeError Value},
        (evalStatements { user := callUser limit native left, native := native left }
          (D.function i).body.statements).Ends (m.enter (D.bound k) link) (o.map .returned)
          (m.enter (D.bound k) link) →
        (callUser limit native (left + 1) (D.function i) link [.int k] site).Ends m o m := by
      intro o hbody
      rw [← bind_eq i k] at hbody
      exact .user (hlength i) hallowed hbody rfl
    have hlookup := lookup_enter (D := D) m k link
    cases j with
    | zero =>
      obtain rfl : k = 0 := Int64.toInt_inj.mp hk
      exact ⟨.ok (D.answer i), hcall (D.answers i _ _ hlookup), fun _ => rfl,
        fun hle => absurd hle (Nat.not_succ_le_zero left)⟩
    | succ j =>
      obtain ⟨k', hk'⟩ := exists_toInt_eq_pred hk
      have hview := h.enter k link
      have hdeeper : (m.enter (D.bound k) link).openCalls + left = limit := by
        show m.openCalls + 1 + left = limit
        omega
      obtain ⟨o, ho, hok, herror⟩ := ih hview hdeeper hk' (D.next i) (D.site i)
      have hnamed : (Calls.named ⟨callUser limit native left, native left⟩
          (D.function (D.next i)).name [.int k'] (D.site i)).Ends (m.enter (D.bound k) link) o
          (m.enter (D.bound k) link) :=
        .named (hview.free (D.next i)) (h.resolve k (D.next i)) ho
      have hbody := D.handsOn i _ _ k k' o hlookup (by omega) (by omega) hnamed
      exact ⟨o, hcall hbody, fun hlt => hok (by omega), fun hle => herror (by omega)⟩

end Descent

/-! ## Counting down -/

/-- A program that counts the number `n` down by recursion. -/
def countdown : String :=
  "f(n)\x7b if n<1 \x7b return n \x7d return f(n-1) \x7d\nreturn f(n)"

/-- The function in that program, wherever its parts stand, with the place where it calls itself. -/
inductive Function.CountsDown (site : Position) : Function → Prop
  | intro {p₁ p₂ p₃ p₄ p₅ p₆ p₇ p₈ p₉ p₁₀ p₁₁ p₁₂ p₁₃ p₁₄} : CountsDown site
    ⟨"f", [⟨"n", p₁⟩], ⟨[
      .conditional (.binary (.var ⟨"n", p₂⟩) .less (.literal (.int 1) p₃) p₄)
        ⟨[.exit (some (.var ⟨"n", p₅⟩)) p₆], p₇⟩ none p₈,
      .exit (some (.call ⟨"f", [.binary (.var ⟨"n", p₉⟩) .sub (.literal (.int 1) p₁₀) p₁₁],
        site⟩)) p₁₂], p₁₃⟩, p₁₄⟩

theorem parse_countdown : ∃ f site p₁ p₂ p₃ p₄, f.CountsDown site ∧ parse countdown =
    .ok [.function f, .newLine p₁, .exit (some (.call ⟨"f", [.var ⟨"n", p₂⟩], p₃⟩)) p₄] := by
  rw [show countdown = String.ofList _ from rfl, parse, tokenize, String.toList_ofList]
  exact ⟨_, _, _, _, _, _, .intro, by with_unfolding_all rfl⟩

/-- Which of the two ways the function goes, its condition tells. -/
theorem less_one_ends {calls : Calls} {m : Machine} {v : Variable} {k : Int64} {b : Bool}
    {p p' : Position} (hk : m.lookup v.name = some (.int k)) (hb : decide (k.toInt < 1) = b) :
    (evalExpr calls (.binary (.var v) .less (.literal (.int 1) p) p')).Ends m (.ok (.bool b)) m :=
  hb ▸ .binary (.var hk) (.literal _)

/-- The number before. -/
theorem pred_ends {calls : Calls} {m : Machine} {v : Variable} {k k' : Int64} {p p' : Position}
    (hk : m.lookup v.name = some (.int k)) (hpred : k.toInt = k'.toInt + 1) :
    (evalExpr calls (.binary (.var v) .sub (.literal (.int 1) p) p')).Ends m (.ok (.int k')) m := by
  have hone : (1 : Int64).toInt = 1 := rfl
  have hdiff : Operator.sub.apply (.int k) (.int 1) p' = .ok (.int k') :=
    Operator.inRange_of_eq .sub (by omega) p'
  exact hdiff ▸ .binary (.var hk) (.literal _)

/-- The function of that program is a descent on its own. -/
def Function.CountsDown.descent {f : Function} {site : Position} (h : f.CountsDown site) :
    Descent Unit where
  function _ := f
  parameter := "n"
  parameters _ := by
    cases h
    rfl
  apart _ := by
    cases h
    exact (by decide : "n" ≠ "f")
  answer _ := .int 0
  next := id
  site _ := site
  answers _ calls m hzero := by
    cases h
    exact Exec.Ends.conditional_true (o := .ok (.int 0)) (less_one_ends hzero rfl)
      (.exit (.var hzero))
  handsOn _ calls m k k' o hk hpos hpred hcall := by
    cases h
    refine .conditional_false (less_one_ends hk (decide_eq_false (by omega))) (.exit ?_)
    exact .call (.values (pred_ends hk hpred) .noValues) hcall

/-- A program that defines a function and calls it with a number. The machine then differs by that
definition. -/
theorem Environment.run_definition_ends (env : Environment) {source name : String} {f : Function}
    {m : Machine} {n : Int64} {o : Except RuntimeError Value} {p₁ p₂ p₃ p₄ : Position}
    (hparse : parse source = .ok [.function f, .newLine p₁,
      .exit (some (.call ⟨name, [.var ⟨"n", p₂⟩], p₃⟩)) p₄])
    (hname : f.name = name) (hne : name ≠ "n") (hidle : m.Idle) (hdepth : m.depth = 1)
    (hfree : m.natives.find? name = none) (hn : m.lookup "n" = some (.int n))
    (hcall : (env.calls.user f none [.int n] p₃).Ends (m.assign name (.function f)) o
      (m.assign name (.function f))) :
    (env.run source).Ends m (o.mapError .runtime) (m.assign name (.function f)) := by
  obtain ⟨hresolve, -⟩ := Stack.resolves_global hidle.frames hdepth name (.function f)
  have hkept : (m.assign name (.function f)).lookup "n" = some (.int n) :=
    (m.stack.find?_assign_of_ne hne _).trans hn
  have hnamed := Exec.Ends.named (m := m.assign name (.function f)) hfree hresolve hcall
  exact .run hparse <| .function hname <| .newLine <| .exit <|
    .call (.values (.var hkept) .noValues) hnamed

/-- The program that counts down returns zero if and only if more calls may be open than the number
says, and fails at the limit otherwise. The number stands for what it stood for before, and there is
no scope but the global one. -/
theorem Environment.run_countdown (env : Environment) (limit : Nat) {m : Machine} {n : Int64}
    (hidle : m.Idle) (hdepth : m.depth = 1) (hfree : m.natives.find? "f" = none)
    (hn : m.lookup "n" = some (.int n)) (hpos : 0 ≤ n.toInt) :
    let r := ((env.withLimit limit).run countdown).on m
    (n.toInt < limit → r.1 = .ok (.int 0)) ∧
      (limit ≤ n.toInt → ∃ p, r.1 = .error (.runtime (.callDepth limit p))) ∧
      r.2.lookup "n" = some (.int n) ∧ r.2.depth = 1 := by
  intro r
  obtain ⟨f, site, p₁, p₂, p₃, p₄, hf, hparse⟩ := parse_countdown
  have hname : f.name = "f" := by
    cases hf
    rfl
  have hseen := (Stack.resolves_global hidle.frames hdepth "f" (.function f)).2
  have hview : hf.descent.InView (m.assign "f" (.function f)) none :=
    ⟨fun _ => (congrArg _ hname).trans hfree, fun _ => (congrArg _ hname).trans hseen⟩
  have hopen : (m.assign "f" (.function f)).openCalls + limit = limit :=
    (congrArg (· + limit) hidle.openCalls).trans (Nat.zero_add limit)
  obtain ⟨o, ho, hok, herror⟩ := hview.call_ends ((env.withLimit limit).nativeCalls env.hostNesting)
    hopen (Int.toNat_of_nonneg hpos).symm () p₃
  obtain ⟨houtcome, events, hbehind⟩ := ((env.withLimit limit).run_definition_ends hparse hname
    (by decide) hidle hdepth hfree hn ho).on
  refine ⟨fun hlt => ?_, fun hle => ?_, ?_, ?_⟩
  · exact houtcome.trans (congrArg _ (hok (by omega)))
  · obtain ⟨p, hp⟩ := herror (by omega)
    exact ⟨p, houtcome.trans (congrArg _ hp)⟩
  · exact (congrArg (·.lookup "n") hbehind).trans
      ((m.stack.find?_assign_of_ne (by decide) _).trans hn)
  · exact (congrArg Machine.depth hbehind).trans ((m.stack.depth_assign "f" _).trans hdepth)

/-- Counting down from five takes six calls. -/
theorem Environment.run_countdown_from_five :
    let m := Machine.initial ⟨[("n", .int 5)]⟩
    let r := ((Environment.bare.withLimit 6).run countdown).on m
    let r' := ((Environment.bare.withLimit 5).run countdown).on m
    r.1 = .ok (.int 0) ∧ r.2.lookup "n" = some (.int 5) ∧ r.2.depth = 1 ∧
      (∃ p, r'.1 = .error (.runtime (.callDepth 5 p))) ∧ r'.2.lookup "n" = some (.int 5) ∧
      r'.2.depth = 1 := by
  intro m r r'
  have hfive : (5 : Int64).toInt = 5 := rfl
  obtain ⟨hok, -, hn, hdepth⟩ :=
    run_countdown .bare 6 (.initial ⟨[("n", .int 5)]⟩) rfl rfl rfl (by omega)
  obtain ⟨-, herror, hn', hdepth'⟩ :=
    run_countdown .bare 5 (.initial ⟨[("n", .int 5)]⟩) rfl rfl rfl (by omega)
  exact ⟨hok (by omega), hn, hdepth, herror (by omega), hn', hdepth'⟩

end Scriptlet
