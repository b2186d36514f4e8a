import Scriptlet.Proofs.Calls.Descent

/-!
# Functions that are defined in a call

The functions that are defined in the body of a function are bound in the frame of its call, and the
links of their calls lead to that frame. So they find one another, and the bindings of the call, at
any depth of recursion: however many frames lie between, the link of a call of one of them by
another leads to the same frame (`Environment.run_siblings`).
-/

namespace Scriptlet

namespace Stack

variable {s : Stack} {f : Frame} {below : List Frame} {name : String} {v : Value}

/-- What the frame of a call binds itself is found there. -/
theorem resolve_of_top (h : s.frames = f :: below) (hv : f.scopes.find? name = some v) :
    s.resolve name = some (some 0, v) := by
  rw [resolve_of_frames h, findLinked_zero, hv]

/-- Calls of what a frame binds have a link to that frame. -/
theorem seen_of_top (h : s.frames = f :: below) (hv : f.scopes.find? name = some v) :
    s.seen (some 0) name = some (some 0, v) :=
  seen_of_resolve (resolve_of_top h hv) (h ▸ List.cons_ne_nil f below)

end Stack

/-- A program in which a function defines functions that call one another, and one that adds to its
own argument. -/
def siblings : String :=
  "outer(base) \x7b
  is_even(n) \x7b
    if n == 0 \x7b return true \x7d
    return is_odd(n - 1)
  \x7d
  is_odd(n) \x7b
    if n == 0 \x7b return false \x7d
    return is_even(n - 1)
  \x7d
  offset(k) \x7b
    return k + base
  \x7d
  return [is_even(base), offset(1)]
\x7d
return outer(n)"

/-- The names of the two functions that call each other. -/
def siblingName : Bool → String
  | true => "is_even"
  | false => "is_odd"

/-- One of these two functions, wherever its parts stand: the one with this answer at zero. -/
inductive Function.Alternates (answer : Bool) (site : Position) : Function → Prop
  | intro {p₁ p₂ p₃ p₄ p₅ p₆ p₇ p₈ p₉ p₁₀ p₁₁ p₁₂ p₁₃ p₁₄ p₁₅ p₁₆ p₁₇} :
    Alternates answer site ⟨siblingName answer, [⟨"n", p₁⟩], ⟨[
      .newLine p₂,
      .conditional (.binary (.var ⟨"n", p₃⟩) .equal (.literal (.int 0) p₄) p₅)
        ⟨[.exit (some (.literal (.bool answer) p₆)) p₇], p₈⟩ none p₉,
      .newLine p₁₀,
      .exit (some (.call ⟨siblingName !answer,
        [.binary (.var ⟨"n", p₁₁⟩) .sub (.literal (.int 1) p₁₂) p₁₃], site⟩)) p₁₄,
      .newLine p₁₅], p₁₆⟩, p₁₇⟩

/-- The function that adds the argument of the function around it, wherever its parts stand. -/
inductive Function.Offsets : Function → Prop
  | intro {p₁ p₂ p₃ p₄ p₅ p₆ p₇ p₈ p₉} : Offsets ⟨"offset", [⟨"k", p₁⟩], ⟨[
      .newLine p₂,
      .exit (some (.binary (.var ⟨"k", p₃⟩) .add (.var ⟨"base", p₄⟩) p₅)) p₆,
      .newLine p₇], p₈⟩, p₉⟩

/-- The function around them, wherever its parts stand. -/
inductive Function.Surrounds (even odd offset : Function) : Function → Prop
  | intro {p₁ p₂ p₃ p₄ p₅ p₆ p₇ p₈ p₉ p₁₀ p₁₁ p₁₂ p₁₃ p₁₄} :
    Surrounds even odd offset ⟨"outer", [⟨"base", p₁⟩], ⟨[
      .newLine p₂, .function even, .newLine p₃, .function odd, .newLine p₄, .function offset,
      .newLine p₅,
      .exit (some (.list [
        .call ⟨"is_even", [.var ⟨"base", p₆⟩], p₇⟩,
        .call ⟨"offset", [.literal (.int 1) p₈], p₉⟩] p₁₀)) p₁₁,
      .newLine p₁₂], p₁₃⟩, p₁₄⟩

/-- The functions of that program. -/
structure Siblings where
  /-- The two that call each other, by their answers at zero. -/
  inner : Bool → Function
  site : Bool → Position
  offset : Function
  outer : Function
  alternates : ∀ answer, (inner answer).Alternates answer (site answer)
  offsets : offset.Offsets
  surrounds : Function.Surrounds (inner true) (inner false) offset outer

set_option maxRecDepth 2000 in
theorem parse_siblings : ∃ (S : Siblings) (p₁ p₂ p₃ p₄ : Position), parse siblings =
    .ok [.function S.outer, .newLine p₁,
      .exit (some (.call ⟨"outer", [.var ⟨"n", p₂⟩], p₃⟩)) p₄] := by
  have hparse : ∃ outer even odd offset site site' p₁ p₂ p₃ p₄,
      even.Alternates true site ∧ odd.Alternates false site' ∧ offset.Offsets ∧
      Function.Surrounds even odd offset outer ∧ parse siblings = .ok [.function outer,
        .newLine p₁, .exit (some (.call ⟨"outer", [.var ⟨"n", p₂⟩], p₃⟩)) p₄] := by
    rw [show siblings = String.ofList _ from rfl, parse, tokenize, String.toList_ofList]
    exact ⟨_, _, _, _, _, _, _, _, _, _, .intro, .intro, .intro, .intro,
      by with_unfolding_all rfl⟩
  obtain ⟨outer, even, odd, offset, site, site', p₁, p₂, p₃, p₄, heven, hodd, hoffset, houter,
    hparse⟩ := hparse
  exact ⟨⟨fun answer => bif answer then even else odd,
    fun answer => bif answer then site else site', offset, outer,
    Bool.forall_bool.mpr ⟨hodd, heven⟩, hoffset, houter⟩, p₁, p₂, p₃, p₄, hparse⟩

theorem equal_zero_ends {calls : Calls} {m : Machine} {v : Variable} {k : Int64} {b : Bool}
    {p p' : Position} (hk : m.lookup v.name = some (.int k)) (hb : (k == 0) = b) :
    (evalExpr calls (.binary (.var v) .equal (.literal (.int 0) p) p')).Ends m (.ok (.bool b)) m :=
  hb ▸ .binary (.var hk) (.literal _)

namespace Siblings

variable (S : Siblings)

theorem inner_name (answer : Bool) : (S.inner answer).name = siblingName answer := by
  have h := S.alternates answer
  generalize S.inner answer = f at h ⊢
  cases h
  rfl

theorem offset_name : S.offset.name = "offset" := by
  have h := S.offsets
  generalize S.offset = f at h ⊢
  cases h
  rfl

theorem outer_name : S.outer.name = "outer" := by
  have h := S.surrounds
  generalize S.outer = f at h ⊢
  cases h
  rfl

/-- The two functions that call each other. -/
def alternating : Descent Bool where
  function := S.inner
  parameter := "n"
  parameters answer := by
    have h := S.alternates answer
    generalize S.inner answer = f at h ⊢
    cases h
    rfl
  apart answer := by
    rw [S.inner_name]
    cases answer <;> decide
  answer := .bool
  next := not
  site := S.site
  answers answer calls m hzero := by
    have h := S.alternates answer
    generalize S.inner answer = f at h ⊢
    cases h
    exact .newLine <| Exec.Ends.conditional_true (o := .ok (.bool answer))
      (equal_zero_ends hzero rfl) (.exit (.literal _))
  handsOn answer calls m k k' o hk hpos hpred hcall := by
    have hne : (k == 0) = false := by
      rw [beq_eq_false_iff_ne]
      rintro rfl
      have hzero : (0 : Int64).toInt = 0 := rfl
      omega
    rw [S.inner_name] at hcall
    have h := S.alternates answer
    generalize S.inner answer = f at h ⊢
    cases h
    refine .newLine <| .conditional_false (equal_zero_ends hk hne) <| .newLine <| .exit ?_
    exact .call (.values (pred_ends hk hpred) .noValues) hcall

/-- Called with zero the function for `true` says that the number is even, and each step changes the
function. -/
theorem not_iterate_true (j : Nat) : not^[j] true = decide (j % 2 = 0) := by
  induction j with
  | zero => rfl
  | succ j ih =>
    rw [Function.iterate_succ_apply', ih, ← decide_not, decide_eq_decide]
    omega

/-! ## In the call around -/

/-- The scopes of the call around, behind the definitions in it. -/
def scopes (n : Int64) : Scopes :=
  let bound : Scopes := { bottom := ⟨[("base", .int n)]⟩ }
  ((bound.assign "is_even" (.function (S.inner true))).assign "is_odd"
    (.function (S.inner false))).assign "offset" (.function S.offset)

theorem find?_inner (n : Int64) (answer : Bool) :
    (S.scopes n).find? (siblingName answer) = some (.function (S.inner answer)) := by
  cases answer <;> simp [scopes, siblingName, Scopes.find?_assign_of_ne]

theorem find?_offset (n : Int64) : (S.scopes n).find? "offset" = some (.function S.offset) :=
  Scopes.find?_assign_self _ _ _

theorem find?_base (n : Int64) : (S.scopes n).find? "base" = some (.int n) := by
  have hbase : ({ bottom := ⟨[("base", .int n)]⟩ } : Scopes).find? "base" = some (.int n) := rfl
  simp [scopes, Scopes.find?_assign_of_ne, hbase]

/-- The machine in the call around, behind the definitions in it. -/
def inside (m : Machine) (n : Int64) (link : Option Nat) : Machine :=
  (((m.enter ⟨[("base", .int n)]⟩ link).assign "is_even" (.function (S.inner true))).assign
    "is_odd" (.function (S.inner false))).assign "offset" (.function S.offset)

/-- What is bound in the call around is found in its frame. -/
theorem resolve_inside {S : Siblings} {name : String} {v : Value} (m : Machine) (n : Int64)
    (link : Option Nat) (hv : (S.scopes n).find? name = some v) :
    (S.inside m n link).stack.resolve name = some (some 0, v) :=
  Stack.resolve_of_top (f := ⟨S.scopes n, link⟩) rfl hv

variable {S} {m : Machine} {n next : Int64} {link : Option Nat} {limit left j : Nat}
variable {native : Nat → NativeCalls}

theorem inView_inside (hfree : ∀ answer, m.natives.find? (siblingName answer) = none) :
    S.alternating.InView (S.inside m n link) (some 0) where
  free answer := (congrArg _ (S.inner_name answer)).trans (hfree answer)
  seen answer := by
    show (S.inside m n link).stack.seen _ (S.inner answer).name = _
    rw [S.inner_name]
    exact Stack.seen_of_top rfl (S.find?_inner n answer)

/-- What is added to the argument is what the frame of the call around binds. -/
theorem offset_ends {k sum : Int64} {p : Position} (hopen : m.openCalls < limit)
    (hbase : m.stack.seen (some 0) "base" = some (some 0, .int n))
    (hsum : sum.toInt = k.toInt + n.toInt) :
    (callUser limit native (left + 1) S.offset (some 0) [.int k] p).Ends m (.ok (.int sum)) m := by
  have hk : (m.stack.enter ⟨[("k", .int k)]⟩ (some 0)).find? "k" = some (.int k) := by
    simp [Stack.find?_enter, Mapping.find?, Mapping.findIn?]
  have hn : (m.stack.enter ⟨[("k", .int k)]⟩ (some 0)).find? "base" = some (.int n) := by
    simp [Stack.find?_enter, Mapping.find?, Mapping.findIn?, hbase]
  have hadd : ∀ p, Operator.add.apply (.int k) (.int n) p = .ok (.int sum) :=
    Operator.inRange_of_eq .add hsum
  have h := S.offsets
  generalize S.offset = f at h ⊢
  cases h
  refine .user rfl hopen (n := m.enter ⟨[("k", .int k)]⟩ (some 0)) ?_ rfl
  exact .newLine <| .exit <| hadd _ ▸ .binary (.var hk) (.var hn)

/-- The values that the call around returns together. -/
theorem values_ends (native : Nat → NativeCalls) (link : Option Nat)
    (hfree : ∀ answer, m.natives.find? (siblingName answer) = none)
    (hoffset : m.natives.find? "offset" = none) (hopen : m.openCalls + 1 + left = limit)
    (hn : n.toInt = j) (hnext : next.toInt = j + 1) (p₁ p₂ p₃ p₄ : Position) :
    ∃ o, (evalExprs ⟨callUser limit native left, native left⟩
        [.call ⟨"is_even", [.var ⟨"base", p₁⟩], p₂⟩,
          .call ⟨"offset", [.literal (.int 1) p₃], p₄⟩]).Ends (S.inside m n link) o
        (S.inside m n link) ∧
      (j < left → o = .ok [.bool (decide (j % 2 = 0)), .int next]) ∧
      (left ≤ j → ∃ p, o = .error (.callDepth limit p)) := by
  have hlookup : (S.inside m n link).lookup "base" = some (.int n) :=
    congrArg (Option.map Prod.snd) (resolve_inside m n link (S.find?_base n))
  obtain ⟨o, ho, hok, herror⟩ :=
    (inView_inside hfree).call_ends (m := S.inside m n link) native hopen hn true p₂
  have hfirst : (evalExpr ⟨callUser limit native left, native left⟩
      (.call ⟨"is_even", [.var ⟨"base", p₁⟩], p₂⟩)).Ends (S.inside m n link) o
      (S.inside m n link) :=
    .call (.values (.var hlookup) .noValues) <|
      .named (hfree true) (resolve_inside m n link (S.find?_inner n true)) ho
  by_cases hlt : j < left
  · obtain ⟨left, rfl⟩ := Nat.exists_eq_succ_of_ne_zero (Nat.ne_zero_of_lt hlt)
    have hone : (1 : Int64).toInt = 1 := rfl
    have hallowed : (S.inside m n link).openCalls < limit := by
      show m.openCalls + 1 < limit
      omega
    have hsecond : (evalExpr ⟨callUser limit native (left + 1), native (left + 1)⟩
        (.call ⟨"offset", [.literal (.int 1) p₃], p₄⟩)).Ends (S.inside m n link)
        (.ok (.int next)) (S.inside m n link) :=
      .call (.values (.literal _) .noValues) <|
        .named hoffset (resolve_inside m n link (S.find?_offset n)) <|
          offset_ends hallowed (Stack.seen_of_top rfl (S.find?_base n)) (by omega)
    have heven : o = .ok (.bool (decide (j % 2 = 0))) := by
      rw [hok hlt, ← not_iterate_true]
      rfl
    exact ⟨_, (heven ▸ hfirst).values (hsecond.values .noValues), fun _ => rfl,
      fun hle => absurd hle (Nat.not_le.mpr hlt)⟩
  · obtain ⟨p, hp⟩ := herror (Nat.le_of_not_lt hlt)
    exact ⟨_, (hp ▸ hfirst).values_error, fun hlt' => absurd hlt' hlt, fun _ => ⟨p, rfl⟩⟩

/-- The call around takes two calls more than its argument says: its own, and the last one of those
inside. -/
theorem outer_ends (native : Nat → NativeCalls) (link : Option Nat)
    (hfree : ∀ answer, m.natives.find? (siblingName answer) = none)
    (hoffset : m.natives.find? "offset" = none) (hopen : m.openCalls + left = limit)
    (hn : n.toInt = j) (hnext : next.toInt = j + 1) (p : Position) :
    ∃ o, (callUser limit native left S.outer link [.int n] p).Ends m o m ∧
      (j + 2 ≤ left → o = .ok (.list [.bool (decide (j % 2 = 0)), .int next])) ∧
      (left < j + 2 → ∃ p, o = .error (.callDepth limit p)) := by
  have h := S.surrounds
  generalize hf : S.outer = f at h ⊢
  cases left with
  | zero =>
    have hlength : 1 = f.parameters.length := by
      cases h
      rfl
    have hrefused : limit ≤ m.openCalls := by omega
    exact ⟨_, .refused hlength hrefused, fun hle => absurd hle (Nat.not_succ_le_zero _),
      fun _ => ⟨p, rfl⟩⟩
  | succ left =>
    have hallowed : m.openCalls < limit := by omega
    have hdeeper : m.openCalls + 1 + left = limit := by omega
    cases h
    obtain ⟨o, ho, hok, herror⟩ := values_ends (S := S) native link hfree hoffset hdeeper hn hnext
      _ _ _ _
    refine ⟨o.map .list, .user rfl hallowed (n := S.inside m n link) ?_ rfl, ?_, ?_⟩
    · exact .newLine <| .function (S.inner_name true) <| .newLine <|
        .function (S.inner_name false) <| .newLine <| .function S.offset_name <| .newLine <|
        .exit <| .list ho
    · intro hle
      rw [hok (by omega)]
      rfl
    · intro hlt
      obtain ⟨p, hp⟩ := herror (by omega)
      exact ⟨p, by rw [hp]; rfl⟩

end Siblings

/-- The number behind one that is not the greatest. -/
theorem toInt_add_one {n : Int64} (h : n.toInt < Int64.maxValue.toInt) :
    (n + 1).toInt = n.toInt + 1 := by
  have hmax : Int64.maxValue.toInt = 2 ^ 63 - 1 := rfl
  have hone : (1 : Int64).toInt = 1 := rfl
  have hmin := n.le_toInt
  rw [Int64.toInt_add, hone]
  exact Int.bmod_eq_of_le (by omega) (by omega)

/-- Functions that are defined in a call find one another and the bindings of the call at any depth:
the program returns whether the number is even, and the number plus one, if at least two calls more
may be open than the number says. Otherwise it fails at the limit. -/
theorem Environment.run_siblings (env : Environment) (limit : Nat) {m : Machine} {n : Int64}
    (hidle : m.Idle) (hdepth : m.depth = 1)
    (hfree : ∀ name ∈ ["outer", "is_even", "is_odd", "offset"], m.natives.find? name = none)
    (hn : m.lookup "n" = some (.int n)) (hpos : 0 ≤ n.toInt)
    (hmax : n.toInt < Int64.maxValue.toInt) :
    let r := ((env.withLimit limit).run siblings).on m
    (n.toInt + 2 ≤ limit →
      r.1 = .ok (.list [.bool (decide (n.toInt % 2 = 0)), .int (n + 1)])) ∧
    (limit < n.toInt + 2 → ∃ p, r.1 = .error (.runtime (.callDepth limit p))) := by
  intro r
  obtain ⟨S, p₁, p₂, p₃, p₄, hparse⟩ := parse_siblings
  have hinner : ∀ answer, m.natives.find? (siblingName answer) = none
    | true => hfree "is_even" (by simp)
    | false => hfree "is_odd" (by simp)
  have hopen : (m.assign "outer" (.function S.outer)).openCalls + limit = limit :=
    (congrArg (· + limit) hidle.openCalls).trans (Nat.zero_add limit)
  have hnat : n.toInt = n.toInt.toNat := (Int.toNat_of_nonneg hpos).symm
  obtain ⟨o, ho, hok, herror⟩ := Siblings.outer_ends (S := S)
    (m := m.assign "outer" (.function S.outer))
    ((env.withLimit limit).nativeCalls env.hostNesting) none hinner (hfree "offset" (by simp))
    hopen hnat (hnat ▸ toInt_add_one hmax) p₃
  have houtcome := ((env.withLimit limit).run_definition_ends hparse S.outer_name
    (by decide) hidle hdepth (hfree "outer" (by simp)) hn ho).on.1
  refine ⟨fun hle => ?_, fun hlt => ?_⟩
  · have heven : decide (n.toInt % 2 = 0) = decide (n.toInt.toNat % 2 = 0) := by
      rw [decide_eq_decide]
      omega
    rw [heven]
    exact houtcome.trans (congrArg _ (hok (by omega)))
  · obtain ⟨p, hp⟩ := herror (by omega)
    exact ⟨p, houtcome.trans (congrArg _ hp)⟩

/-- For three it takes five calls. -/
theorem Environment.run_siblings_of_three :
    let m := Machine.initial ⟨[("n", .int 3)]⟩
    (((Environment.bare.withLimit 5).run siblings).on m).1 = .ok (.list [.bool false, .int 4]) ∧
      ∃ p, (((Environment.bare.withLimit 4).run siblings).on m).1 =
        .error (.runtime (.callDepth 4 p)) := by
  intro m
  have hthree : (3 : Int64).toInt = 3 := rfl
  have hfree : ∀ name ∈ ["outer", "is_even", "is_odd", "offset"], m.natives.find? name = none :=
    fun name hname => Machine.find?_builtins_eq_none fun b heq => by
      subst heq
      revert hname
      cases b <;> decide
  have hat5 := run_siblings .bare 5 (m := m) (.initial _) rfl hfree rfl (by omega) (by decide)
  have hat4 := run_siblings .bare 4 (m := m) (.initial _) rfl hfree rfl (by omega) (by decide)
  exact ⟨hat5.1 (by omega), hat4.2 (by omega)⟩

end Scriptlet
