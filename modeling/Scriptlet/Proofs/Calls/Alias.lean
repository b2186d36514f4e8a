import Scriptlet.Proofs.Calls.Sight
import Scriptlet.Proofs.Machine.Bindings

/-!
# Calls by other names

A function may be called by the name under which it was defined, by any other name that stands for
it, or as a member of a mapping. The link of the call comes from the route: it leads to the frame in
which the name was found, which need not be the one in which the function was defined, and there is
none for a member.

So the route matters, and how far it does is exact (`Route.LeadsTo.call_agrees`): calls by two
routes end alike if the links of both show the same bindings of the names that matter, and a
function that returns what a name stands for gives the same by both routes only if they show the
same value.
-/

namespace Scriptlet

/-- How a program comes by a function that it calls. -/
inductive Route where
  /-- By a name: that of its definition, of a parameter, or of any other variable. -/
  | name (other : String)
  /-- As a member of an object. -/
  | member (object : Value) (key : String)

/-- The call that a program makes. -/
def Route.call (calls : Calls) : Route → List Value → Position → Eval Value
  | name other, arguments, site => calls.named other arguments site
  | member object key, arguments, site => calls.method object key arguments site

/-- On this machine the route leads to the function, and gives the call this link. -/
inductive Route.LeadsTo (m : Machine) (f : Function) : Route → Option Nat → Prop
  | name {other : String} {link : Option Nat} (hfree : m.natives.find? other = none)
    (hfound : m.stack.resolve other = some (link, .function f)) : LeadsTo m f (.name other) link
  | member {object : Value} {key : String} (hfound : object.method? key = some (.function f)) :
    LeadsTo m f (.member object key) none

variable {m : Machine} {f : Function} {r r' : Route} {link link' : Option Nat}

theorem Route.LeadsTo.on_call (h : r.LeadsTo m f link) (calls : Calls) (arguments : List Value)
    (site : Position) :
    (r.call calls arguments site).on m = (calls.user f link arguments site).on m := by
  cases h with
  | name hfree hfound =>
    simp only [Route.call, Calls.named, Exec.on_bind, Exec.on_observe, hfree, hfound]
    rfl
  | member hfound =>
    simp only [Route.call, Calls.method, hfound]
    rfl

/-! ## Routes that show the same -/

/-- Names of the vocabulary stand for values within the vocabulary, wherever they are bound, and for
built-in functions otherwise. -/
structure Machine.Closed (names : String → Prop) (m : Machine) : Prop where
  globals : ∀ {name v}, names name → m.stack.globals.find? name = some v → v.Within (.plain names)
  frames : ∀ f ∈ m.stack.frames, f.scopes.Within names
  natives : ∀ {name n}, names name → m.natives.find? name = some n → n.IsBuiltin

variable {names : String → Prop}

theorem Machine.Closed.sameGround (h : m.Closed names) : m.SameGround names m where
  globals _ := rfl
  globals_within := h.globals
  natives _ := rfl
  natives_builtin := h.natives
  openCalls := rfl

theorem Stack.findLinked_within {name : String} (hn : names name) {frames : List Frame}
    (h : ∀ f ∈ frames, f.scopes.Within names) {skip distance : Nat} {v : Value}
    (hfound : findLinked name skip frames = some (distance, v)) : v.Within (.plain names) :=
  findLinked_all (fun f hf _ hv => h f hf hn hv) hfound

/-- The sight of two calls on one machine whose links show the same. -/
def Machine.Closed.sight (h : m.Closed names)
    (hseen : ∀ name, names name → m.stack.seen link name = m.stack.seen link' name) :
    Sight names where
  link := link
  link' := link'
  below := m.stack.frames
  below' := m.stack.frames
  shared _ := True
  shared_same _ hn := ⟨rfl, fun _ _ hv => ⟨trivial, Stack.findLinked_within hn h.frames hv⟩⟩
  linked_same {name} hn := by
    refine ⟨Stack.follow_eq_of_seen_eq (hseen name hn), fun d v hv => ⟨trivial, ?_⟩⟩
    obtain ⟨skip, -, hs⟩ := Option.bind_eq_some_iff.mp hv
    exact Stack.findLinked_within hn h.frames hs

/-- How far the route of a call matters. Routes whose links show the same bindings of all names that
matter lead to the same outcome and output. A function that returns what a name stands for gives
the same by both routes if and only if the links show the same value. -/
theorem Route.LeadsTo.call_agrees (env : Environment) (nesting left : Nat)
    (hclosed : m.Closed names) (hr : r.LeadsTo m f link) (hr' : r'.LeadsTo m f link')
    (arguments : List Value) (site : Position) :
    ((∀ name ∈ f.names, names name) → (∀ a ∈ arguments, a.Within (.plain names)) →
      (∀ name, names name → m.stack.seen link name = m.stack.seen link' name) →
      Exec.SameEnd (r.call (env.callsWithin nesting left) arguments site) m
        (r'.call (env.callsWithin nesting left) arguments site) m) ∧
    ∀ name, f = .reader name → arguments = [] → left ≠ 0 →
      m.openCalls < env.settings.maxCallDepth → m.natives.find? name = none →
      (((r.call (env.callsWithin nesting left) arguments site).on m).1 =
          ((r'.call (env.callsWithin nesting left) arguments site).on m).1 ↔
        (m.stack.seen link name).map Prod.snd = (m.stack.seen link' name).map Prod.snd) := by
  refine ⟨fun hf ha hseen => ?_, ?_⟩
  · have h := (hclosed.sight hseen).userCall_sameEnd env nesting left site hf ha
      hclosed.sameGround rfl rfl
    rw [Exec.SameEnd, hr.on_call, hr'.on_call]
    exact h
  · rintro name rfl rfl hleft hopen hfree
    obtain ⟨left, rfl⟩ := Nat.exists_eq_succ_of_ne_zero hleft
    rw [hr.on_call, hr'.on_call, Function.reader_outcome env nesting left link site hfree hopen,
      Function.reader_outcome env nesting left link' site hfree hopen]
    cases m.stack.seen link name with
    | some found => cases m.stack.seen link' name <;> simp
    | none => cases m.stack.seen link' name <;> simp

/-- A call binds `g` to a function that returns `x`, and `x` to something else. Then the function
gives different values when it is called by its own name and as `g`. -/
theorem Route.call_differs_by_parameter :
    let f := Function.reader "x"
    let m := (Machine.initial ⟨[("f", .function f), ("x", .int 1)]⟩).enter
      ⟨[("g", .function f), ("x", .int 2)]⟩ none
    let calls := Environment.bare.callsWithin 1 1
    (((Route.name "f").call calls [] {}).on m).1 ≠
      (((Route.name "g").call calls [] {}).on m).1 := by
  intro f m calls h
  have hf : Route.LeadsTo m f (.name "f") none := .name rfl rfl
  have hg : Route.LeadsTo m f (.name "g") (some 0) := .name rfl rfl
  have hclosed : m.Closed (fun _ => False) := ⟨False.elim, fun _ _ => False.elim, False.elim⟩
  have hagree := (hf.call_agrees .bare 1 1 hclosed hg [] {}).2 "x" rfl rfl (by decide)
    (by decide) rfl
  have hseen := hagree.mp h
  cases hseen

end Scriptlet
