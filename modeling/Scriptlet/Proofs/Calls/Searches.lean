import Scriptlet.Proofs.Calls.Sight
import Scriptlet.Proofs.Evaluation.Loops
import Scriptlet.Proofs.Evaluation.Outcomes

/-!
# Searching a mapping for a pattern

The keys of a mapping may be patterns. `FirstMatch` says which entry is the first whose key matches
a text, whatever patterns are and how they match: either there is one, or no key matches, or a key
that is no pattern stands in front of every key that matches.

Two built-in functions answer this at once. A function that is written in the language can look for
the entry in a loop, and ask another built-in function about one key after the other
(`Function.Searches`). It comes to the same value, and fails at the same key for the same reason
(`Environment.searches_agree`). Both are shown to follow the rule: the built-in ones by passing over
the keys that do not match, and the loop by one round for each of these keys.
-/

namespace Scriptlet

/-! ## The first key that matches -/

/-- What a search comes to. -/
inductive Finding where
  /-- The value under the first key that matches. -/
  | value (v : Value)
  | nothing
  /-- The search gets to a key that is no pattern, and why it is none. -/
  | invalid (key reason : String)

/-- The outcome of a search that is made under this name and there, and gives what `f` makes of the
value. -/
def Finding.outcome {α : Type} (name : String) (site : Position) (f : Option Value → α) :
    Finding → Except RuntimeError α
  | value v => .ok (f (some v))
  | nothing => .ok (f none)
  | invalid _ reason => .error (.native name reason site)

theorem Finding.map_outcome {α β : Type} (found : Finding) (name : String) (site : Position)
    (f : Option Value → α) (g : α → β) :
    (found.outcome name site f).map g = found.outcome name site fun v => g (f v) := by
  cases found <;> rfl

section

variable (compile : String → Except String (String → Bool)) (text : String)

/-- The entry is passed over: its key is a pattern that does not match. -/
def Misses (entry : String × Value) : Prop :=
  ∃ isMatch, compile entry.1 = .ok isMatch ∧ isMatch text = false

/-- What a search through the entries finds: the value under the first key that matches, if there is
one, or the first key that is no pattern, if the search gets to it. -/
inductive FirstMatch : List (String × Value) → Finding → Prop
  | found {before after key value isMatch} (misses : ∀ e ∈ before, Misses compile text e)
    (isPattern : compile key = .ok isMatch) (fits : isMatch text = true) :
    FirstMatch (before ++ (key, value) :: after) (.value value)
  | missing {entries} (misses : ∀ e ∈ entries, Misses compile text e) :
    FirstMatch entries .nothing
  | invalid {before after key value reason} (misses : ∀ e ∈ before, Misses compile text e)
    (noPattern : compile key = .error reason) :
    FirstMatch (before ++ (key, value) :: after) (.invalid key reason)

variable {compile text}

theorem FirstMatch.later {e : String × Value} {entries : List (String × Value)} {found : Finding}
    (he : Misses compile text e) (h : FirstMatch compile text entries found) :
    FirstMatch compile text (e :: entries) found := by
  cases h with
  | @found before after key value isMatch misses isPattern fits =>
    have hmisses : ∀ e' ∈ e :: before, Misses compile text e' :=
      List.forall_mem_cons.mpr ⟨he, misses⟩
    exact FirstMatch.found hmisses isPattern fits
  | missing misses => exact .missing (List.forall_mem_cons.mpr ⟨he, misses⟩)
  | @invalid before after key value reason misses noPattern =>
    have hmisses : ∀ e' ∈ e :: before, Misses compile text e' :=
      List.forall_mem_cons.mpr ⟨he, misses⟩
    exact FirstMatch.invalid hmisses noPattern

variable (compile text) in
theorem FirstMatch.exists (entries : List (String × Value)) :
    ∃ found, FirstMatch compile text entries found := by
  have hnone : ∀ e ∈ [], Misses compile text e := fun e he => absurd he List.not_mem_nil
  induction entries with
  | nil => exact ⟨_, .missing hnone⟩
  | cons e entries ih =>
    obtain ⟨key, value⟩ := e
    cases hkey : compile key with
    | error reason => exact ⟨_, .invalid hnone hkey⟩
    | ok isMatch =>
      cases hfits : isMatch text with
      | true => exact ⟨_, .found hnone hkey hfits⟩
      | false =>
        obtain ⟨found, hfound⟩ := ih
        exact ⟨found, .later ⟨isMatch, hkey, hfits⟩ hfound⟩

theorem FirstMatch.of_nil {found : Finding} (h : FirstMatch compile text [] found) :
    found = .nothing := by
  generalize hentries : ([] : List (String × Value)) = entries at h
  cases h with
  | missing misses => rfl
  | @found before | @invalid before => cases before <;> cases hentries

/-- What a search finds, its first step tells: it passes over the first entry, or ends there. -/
theorem FirstMatch.of_cons {e : String × Value} {entries : List (String × Value)} {found : Finding}
    (h : FirstMatch compile text (e :: entries) found) :
    (Misses compile text e ∧ FirstMatch compile text entries found) ∨
      (∃ isMatch, compile e.1 = .ok isMatch ∧ isMatch text = true ∧ found = .value e.2) ∨
      ∃ reason, compile e.1 = .error reason ∧ found = .invalid e.1 reason := by
  generalize hentries : e :: entries = all at h
  cases h with
  | missing misses =>
    subst hentries
    obtain ⟨he, hrest⟩ := List.forall_mem_cons.mp misses
    exact .inl ⟨he, .missing hrest⟩
  | @found before after key value isMatch misses isPattern fits =>
    cases before with
    | nil =>
      cases hentries
      exact .inr (.inl ⟨isMatch, isPattern, fits, rfl⟩)
    | cons e' before =>
      cases hentries
      obtain ⟨he, hbefore⟩ := List.forall_mem_cons.mp misses
      exact .inl ⟨he, .found hbefore isPattern fits⟩
  | @invalid before after key value reason misses noPattern =>
    cases before with
    | nil =>
      cases hentries
      exact .inr (.inr ⟨reason, noPattern, rfl⟩)
    | cons e' before =>
      cases hentries
      obtain ⟨he, hbefore⟩ := List.forall_mem_cons.mp misses
      exact .inl ⟨he, .invalid hbefore noPattern⟩

end

/-! ## The built-in functions -/

/-- A search of a built-in function follows the rule. -/
theorem Builtin.firstMatch_eq {env : Environment} {text : String} {found : Finding} (b : Builtin)
    (site : Position) {entries : List (String × Value)}
    (h : FirstMatch env.compile text entries found) :
    firstMatch env b text site entries = found.outcome b.name site id := by
  induction entries with
  | nil =>
    rw [h.of_nil]
    rfl
  | cons e entries ih =>
    obtain ⟨key, value⟩ := e
    rw [firstMatch, readPattern]
    rcases h.of_cons with ⟨⟨isMatch, hkey, hfits⟩, hrest⟩ | ⟨isMatch, hkey, hfits, rfl⟩ |
      ⟨reason, hkey, rfl⟩
    · rw [hkey, ← ih hrest]
      exact if_neg (by rw [hfits]; exact Bool.false_ne_true)
    · rw [hkey]
      exact if_pos hfits
    · rw [hkey]
      rfl

namespace Exec.Ends

variable {env : Environment} {calls : Calls} {m n : Machine} {nesting left : Nat} {b : Builtin}
variable {name : String} {arguments : List Value} {site : Position}

theorem calledFrom {ε α : Type} {x : Exec ε α} {o : Except ε α}
    (h : x.Ends { m with callSite := site } o n) :
    (Exec.calledFrom site x).Ends m o { n with callSite := m.callSite } := by
  intro events
  obtain ⟨behind, hbehind⟩ := h events
  exact ⟨behind, congrArg (fun r => (r.1, { r.2 with callSite := m.callSite })) hbehind⟩

/-- A name that stands for a native function. -/
theorem namedNative {f : Native} {o : Except RuntimeError Value}
    (hfound : m.natives.find? name = some f) (h : (calls.native f arguments site).Ends m o n) :
    (calls.named name arguments site).Ends m o n := by
  have hnative : (Exec.observe fun m => m.natives.find? name : Eval (Option Native)).Ends m
      (.ok (some f)) m := hfound ▸ .observe fun _ => rfl
  exact hnative.bind h

/-- A built-in function that only has an outcome leaves the machine alone. -/
theorem builtin {o : Except RuntimeError Value} (hfound : m.natives.find? name = some (.builtin b))
    (hadmits : b.arity.admits arguments.length = true)
    (hcall : b.call env arguments site = Exec.ofOutcome o) :
    ((env.callsWithin nesting left).named name arguments site).Ends m o m := by
  obtain ⟨host, hhost⟩ : ∃ host, env.nativeCalls nesting left = env.callNative host := by
    cases nesting with
    | zero => exact ⟨_, rfl⟩
    | succ nesting => exact ⟨_, by rw [Environment.nativeCalls]⟩
  have hcalled : (Exec.calledFrom site (b.call env arguments site)).Ends m o m := by
    rw [hcall]
    exact .calledFrom (n := { m with callSite := site }) (.ofOutcome o _)
  refine .namedNative hfound ?_
  show (env.nativeCalls nesting left (.builtin b) arguments site).Ends m o m
  rw [hhost, Environment.callNative]
  exact (if_pos hadmits).symm ▸ hcalled

/-- The rounds of a loop, of which this is the first. -/
theorem round {index : Option Variable} {item : Variable} {body : Eval Flow} {pair : Value × Value}
    {rest : List (Value × Value)} {o : Except RuntimeError Flow}
    (h : (body >>= Flow.goOn (runLoop index item body rest)).Ends (m.inRound index item pair) o n) :
    (runLoop index item body (pair :: rest)).Ends m o n := by
  intro events
  have hsame : Machine.inRound { m with trace := events } index item pair =
      { m.inRound index item pair with trace := .iteration pair.2 :: events } := by
    cases index <;> rfl
  obtain ⟨behind, hbehind⟩ := h (.iteration pair.2 :: events)
  exact ⟨behind, by rw [on_runLoop_cons, hsame, hbehind]⟩

/-- A single statement. -/
theorem single {s : Statement} {o : Except RuntimeError Flow} (h : (execute calls s).Ends m o n) :
    (evalStatements calls [s]).Ends m o n := by
  rw [evalStatements]
  refine (Exec.Ends.record _ m).bind ?_
  cases o with
  | error e => exact h.bind_error
  | ok flow =>
    refine h.bind ?_
    cases flow with
    | normal =>
      rw [evalStatements]
      exact .pure _ n
    | returned _ | broke _ | continued _ => exact .pure _ n

/-- A call whose body changes no more than its own frame leaves everything as it was, however the
body ends. -/
theorem userFlow {limit : Nat} {native : Nat → NativeCalls} {f : Function} {link : Option Nat}
    {o : Except RuntimeError Flow} (hlength : arguments.length = f.parameters.length)
    (hopen : m.openCalls < limit)
    (hbody : (evalStatements { user := callUser limit native left, native := native left }
      f.body.statements).Ends (m.enter (f.bind arguments) link) o n)
    (hn : { n.leave with trace := [] } = { m with trace := [] }) :
    (callUser limit native (left + 1) f link arguments site).Ends m (o.bind Flow.value) m := by
  have hcheck : (f.checkCall limit arguments site).Ends m (.ok ()) m := by
    have hends : (f.checkCall limit arguments site).Ends m _ m := .checkCall hlength
    rwa [if_pos hopen] at hends
  rw [callUser]
  refine hcheck.bind ?_
  cases o with
  | error e => exact (hbody.within.congr hn).bind_error
  | ok flow =>
    refine (hbody.within.congr hn).bind ?_
    cases flow with
    | returned v => exact (Exec.Ends.record _ m).bind (.ofOutcome _ m)
    | normal | broke _ | continued _ => exact (Exec.Ends.pure () m).bind (.ofOutcome _ m)

end Exec.Ends

/-! ## The loop -/

/-- A function that looks for the first key that matches, wherever its parts stand, with the place
where it asks about a key. -/
inductive Function.Searches (site : Position) : Function → Prop
  | intro {name p₁ p₂ p₃ p₄ p₅ p₆ p₇ p₈ p₉ p₁₀ p₁₁ p₁₂ p₁₃ p₁₄ p₁₅} : Searches site
    ⟨name, [⟨"m", p₁⟩, ⟨"t", p₂⟩], ⟨[.loop (some ⟨"k", p₃⟩) ⟨"v", p₄⟩ (.var ⟨"m", p₅⟩)
      ⟨[.conditional (.call ⟨"regexMatch", [.var ⟨"k", p₆⟩, .var ⟨"t", p₇⟩], site⟩)
        ⟨[.exit (some (.var ⟨"v", p₈⟩)) p₉], p₁₀⟩ none p₁₁], p₁₂⟩ p₁₃], p₁₄⟩, p₁₅⟩

/-- A program that defines such a function. -/
def searchLoop : String :=
  "first(m, t) \x7b for k, v in m \x7b if regexMatch(k, t) \x7b return v \x7d \x7d \x7d"

theorem parse_searchLoop : ∃ f site, f.Searches site ∧ parse searchLoop = .ok [.function f] := by
  rw [show searchLoop = String.ofList _ from rfl, parse, tokenize, String.toList_ofList]
  exact ⟨_, _, .intro, by with_unfolding_all rfl⟩

section

variable {env : Environment} {nesting left : Nat} {m : Machine} {text : String} {site : Position}

/-- How the round of the loop for an entry ends. -/
def Environment.roundOutcome (env : Environment) (text : String) (site : Position)
    (e : String × Value) : Except RuntimeError Flow :=
  ((env.compile e.1).mapError fun reason => .native "regexMatch" reason site).map fun isMatch =>
    if isMatch text then .returned e.2 else .normal

theorem regexMatch_ends (hnative : m.natives.find? "regexMatch" = some (.builtin .regexMatch))
    (key : String) :
    ((env.callsWithin nesting left).named "regexMatch" [.string key, .string text] site).Ends m
      (((env.compile key).mapError fun reason => .native "regexMatch" reason site).map
        fun isMatch => .bool (isMatch text)) m := by
  refine .builtin hnative rfl ?_
  show Exec.ofOutcome (((Builtin.readPattern env .regexMatch key site).bind fun isMatch =>
    .ok (isMatch text)).map Value.bool) = _
  rw [Builtin.readPattern]
  cases env.compile key <;> rfl

theorem round_ends {e : String × Value} {p₁ p₂ p₃ p₄ p₅ p₆ : Position}
    (hnative : m.natives.find? "regexMatch" = some (.builtin .regexMatch))
    (hk : m.lookup "k" = some (.string e.1)) (ht : m.lookup "t" = some (.string text))
    (hv : m.lookup "v" = some e.2) :
    (evalStatements (env.callsWithin nesting left)
      [.conditional (.call ⟨"regexMatch", [.var ⟨"k", p₁⟩, .var ⟨"t", p₂⟩], site⟩)
        ⟨[.exit (some (.var ⟨"v", p₃⟩)) p₄], p₅⟩ none p₆]).Ends m (env.roundOutcome text site e)
      m := by
  have hcondition : (evalExpr (env.callsWithin nesting left)
      (.call ⟨"regexMatch", [.var ⟨"k", p₁⟩, .var ⟨"t", p₂⟩], site⟩)).Ends m
      (((env.compile e.1).mapError fun reason => .native "regexMatch" reason site).map
        fun isMatch => .bool (isMatch text)) m :=
    .call (.values (.var (v := ⟨"k", p₁⟩) hk) (.values (.var (v := ⟨"t", p₂⟩) ht) .noValues))
      (regexMatch_ends hnative e.1)
  rw [Environment.roundOutcome]
  cases hcompile : env.compile e.1 with
  | error reason =>
    rw [hcompile] at hcondition
    refine .single ?_
    rw [execute]
    exact hcondition.bind_error
  | ok isMatch =>
    rw [hcompile] at hcondition
    simp only [Except.mapError, Except.map] at hcondition ⊢
    cases hfits : isMatch text with
    | true =>
      rw [hfits] at hcondition
      exact .conditional_true (o := .ok e.2) hcondition (.exit (.var (v := ⟨"v", p₃⟩) hv))
    | false =>
      rw [hfits] at hcondition
      refine .conditional_false hcondition ?_
      rw [evalStatements]
      exact .pure _ m

/-- The rounds of the loop follow the rule. All that they change is what the call binds. -/
theorem rounds_end (m : Machine) (link : Option Nat) (site : Position)
    {found : Finding} {entries : List (String × Value)}
    (h : FirstMatch env.compile text entries found) {body : Eval Flow} {p₁ p₂ : Position}
    (hbody : ∀ e (b : Scope), b.find? "k" = some (.string e.1) → b.find? "t" = some (.string text) →
      b.find? "v" = some e.2 → body.Ends (m.enter b link) (env.roundOutcome text site e)
        (m.enter b link))
    {b : Scope} (ht : b.find? "t" = some (.string text)) :
    ∃ b' : Scope, (runLoop (some ⟨"k", p₁⟩) ⟨"v", p₂⟩ body
      (entries.map fun e => (.string e.1, e.2))).Ends (m.enter b link)
        (found.outcome "regexMatch" site fun v => v.elim .normal .returned) (m.enter b' link) := by
  induction entries generalizing b with
  | nil =>
    rw [h.of_nil]
    exact ⟨b, .pure _ _⟩
  | cons e entries ih =>
    let b' := (b.insert "k" (.string e.1)).insert "v" e.2
    have hk : b'.find? "k" = some (.string e.1) := by
      rw [Mapping.find?_insert_of_ne _ (by decide), Mapping.find?_insert_self]
    have ht' : b'.find? "t" = some (.string text) := by
      rw [Mapping.find?_insert_of_ne _ (by decide), Mapping.find?_insert_of_ne _ (by decide), ht]
    have hround := hbody e b' hk ht' (Mapping.find?_insert_self _ _ _)
    rw [Environment.roundOutcome] at hround
    rcases h.of_cons with ⟨⟨isMatch, hkey, hfits⟩, hrest⟩ | ⟨isMatch, hkey, hfits, rfl⟩ |
      ⟨reason, hkey, rfl⟩
    · simp only [hkey, Except.mapError, Except.map, hfits] at hround
      obtain ⟨b'', hends⟩ := ih hrest ht'
      exact ⟨b'', .round (hround.bind hends)⟩
    · simp only [hkey, Except.mapError, Except.map, hfits] at hround
      exact ⟨b', .round (hround.bind (.pure _ _))⟩
    · rw [hkey] at hround
      exact ⟨b', .round hround.bind_error⟩

/-- What a call of a function with the loop binds. -/
def searchScope (entries : Mapping Value) (text : String) : Scope :=
  .ofList [("m", .map entries), ("t", .string text)]

theorem find?_searchScope (entries : Mapping Value) (text : String) :
    (searchScope entries text).find? "m" = some (.map entries) ∧
      (searchScope entries text).find? "t" = some (.string text) :=
  ⟨(Mapping.find?_insert_of_ne _ (show "t" ≠ "m" by decide) _).trans
    (Mapping.find?_insert_self _ _ _), Mapping.find?_insert_self _ _ _⟩

/-- A call of a function with the loop follows the rule, too, and leaves everything as it was. -/
theorem Function.Searches.ends {f : Function} {inner : Position} (hf : f.Searches inner)
    {found : Finding} {entries : Mapping Value}
    (h : FirstMatch env.compile text entries.entries found)
    (hnative : m.natives.find? "regexMatch" = some (.builtin .regexMatch))
    (hopen : m.openCalls < env.settings.maxCallDepth) {link : Option Nat} :
    ((env.callsWithin nesting (left + 1)).user f link [.map entries, .string text] site).Ends m
      (found.outcome "regexMatch" inner fun v => v.getD .nil) m := by
  have houtcome : (found.outcome "regexMatch" inner fun v => v.getD .nil) =
      (found.outcome "regexMatch" inner fun v => v.elim .normal .returned).bind Flow.value := by
    cases found <;> rfl
  cases hf with
  | intro =>
    rw [houtcome]
    have hbound : ∀ {b : Scope} {name : String} {v : Value}, b.find? name = some v →
        (m.enter b link).lookup name = some v := by
      intro b name v hv
      show (m.stack.enter b link).find? name = some v
      rw [Stack.find?_enter, hv, Option.some_or]
    obtain ⟨b, hloop⟩ := rounds_end m link inner h
      (fun e b hk ht hv => round_ends hnative (hbound hk) (hbound ht) (hbound hv))
      (find?_searchScope entries text).2
    refine .userFlow (n := m.enter b link) rfl hopen (.single ?_) rfl
    rw [execute]
    refine (Exec.Ends.var (hbound (find?_searchScope entries text).1)).bind ?_
    exact hloop

end

/-- Looking for a key that matches comes to the same, whether a built-in function does it or a loop:
to a value, which is nothing if no key matches, or to a failure at the first key that is no pattern,
for the reason why it is none, under the name and at the place of the function that was asked. What
stands behind the first match plays no part. Whether there is a match, another built-in function
tells, and it fails at the same key for the same reason. -/
theorem Environment.searches_agree (env : Environment) (nesting left : Nat) {f : Function}
    {inner : Position} (hf : f.Searches inner) {m : Machine}
    (hnatives : ∀ b : Builtin, m.natives.find? b.name = some (.builtin b))
    (hopen : m.openCalls < env.settings.maxCallDepth) (entries : Mapping Value) (text : String)
    (link : Option Nat) (site : Position) :
    let calls := env.callsWithin nesting (left + 1)
    let arguments : List Value := [.map entries, .string text]
    ∃ found, FirstMatch env.compile text entries.entries found ∧
      (calls.named "regexMapValue" arguments site).Ends m
        (found.outcome "regexMapValue" site fun v => v.getD .nil) m ∧
      (calls.user f link arguments site).Ends m
        (found.outcome "regexMatch" inner fun v => v.getD .nil) m ∧
      (calls.named "regexMapMatch" arguments site).Ends m
        (found.outcome "regexMapMatch" site fun v => .bool v.isSome) m := by
  intro calls arguments
  obtain ⟨found, hfound⟩ := FirstMatch.exists env.compile text entries.entries
  refine ⟨found, hfound, ?_, ?_, ?_⟩
  · refine .builtin (hnatives .regexMapValue) rfl ?_
    show Exec.ofOutcome ((Builtin.firstMatch env .regexMapValue text site entries.entries).map
      fun v => v.getD .nil) = _
    rw [Builtin.firstMatch_eq .regexMapValue site hfound, Finding.map_outcome]
    rfl
  · exact hf.ends hfound (hnatives .regexMatch) hopen
  · refine .builtin (hnatives .regexMapMatch) rfl ?_
    show Exec.ofOutcome ((Builtin.firstMatch env .regexMapMatch text site entries.entries).map
      fun v => Value.bool v.isSome) = _
    rw [Builtin.firstMatch_eq .regexMapMatch site hfound, Finding.map_outcome]
    rfl

/-- The key `a` matches, and under it is nothing; behind it there is a key that is no pattern. -/
theorem Environment.searches_agree_on_nil :
    let env : Environment := { Environment.bare with
      compile := fun pattern =>
        if pattern = "a" then .ok fun text => 'a' ∈ text.toList else .error "unclosed group" }
    let m := Machine.initial {}
    let entries : Mapping Value := ⟨[("a", .nil), ("b(", .int 1)]⟩
    let arguments : List Value := [.map entries, .string "cab"]
    let calls := env.callsWithin 0 1
    ∃ f inner, f.Searches inner ∧ parse searchLoop = .ok [.function f] ∧
      ((calls.named "regexMapValue" arguments default).on m).1 = .ok .nil ∧
      ((calls.user f none arguments default).on m).1 = .ok .nil ∧
      ((calls.named "regexMapMatch" arguments default).on m).1 = .ok (.bool true) := by
  intro env m entries arguments calls
  obtain ⟨f, inner, hf, hparse⟩ := parse_searchLoop
  have hnatives : ∀ b : Builtin, m.natives.find? b.name = some (.builtin b) := by
    intro b
    cases b <;> rfl
  obtain ⟨found, hfound, hvalue, hloop, hmatch⟩ :=
    env.searches_agree 0 0 hf hnatives (by decide) entries "cab" none default
  obtain rfl : found = .value .nil := by
    rcases hfound.of_cons with ⟨⟨isMatch, hkey, hfits⟩, -⟩ | ⟨-, -, -, rfl⟩ | ⟨reason, hkey, -⟩
    · cases hkey
      exact absurd hfits (by decide)
    · rfl
    · cases hkey
  exact ⟨f, inner, hf, hparse, hvalue.on.1, hloop.on.1, hmatch.on.1⟩

end Scriptlet
