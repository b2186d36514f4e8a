import Scriptlet.Proofs.Evaluation.Lockstep

/-!
# What a call sees

A call sees its own scopes, the frames that its link leads to, and the global scope. Two calls of a
function with the same arguments therefore go the same way if the names that matter stand for the
same through both links, whatever else lies on the two stacks (`Sight.userCall_sameEnd`).

What two runs see of the stacks below their innermost frames is a *sight*. The stacks may differ in
height and in every frame that is out of sight. What is in sight is known by its distance, and the
distances are the same on both sides, since both sides open and close the same calls.
-/

namespace Scriptlet

/-- The text that a machine has printed so far. -/
def Machine.output (m : Machine) : String :=
  printedText m.events

@[simp]
theorem Machine.output_record (m : Machine) (e : Event) :
    (m.record e).output = m.output ++ e.output := by
  simp [Machine.output, Machine.events, Machine.record, printedText, String.join_append]

@[simp]
theorem Machine.output_enter (m : Machine) (bindings : Scope) (link : Option Nat) :
    (m.enter bindings link).output = m.output := by
  simp [Machine.enter, Machine.output, Machine.events, Machine.record, printedText, Event.output]

@[simp]
theorem Machine.output_leave (m : Machine) : m.leave.output = m.output := by
  simp [Machine.leave, Machine.output, Machine.events, Machine.record, printedText, Event.output]

/-- From these machines, the two computations end with the same outcome and print the same. -/
def Exec.SameEnd {ε α : Type} (x : Exec ε α) (m : Machine) (y : Exec ε α) (m' : Machine) : Prop :=
  (x.on m).1 = (y.on m').1 ∧
    ∃ text, (x.on m).2.output = m.output ++ text ∧ (y.on m').2.output = m'.output ++ text

namespace Stack

theorem base_assign {s : Stack} {f : Frame} {below : List Frame} (h : s.frames = f :: below)
    (name : String) (v : Value) : (s.assign name v).base = s.base := by
  simp [assign, withTop, h]

theorem frames_assign {s : Stack} {f : Frame} {below : List Frame} (h : s.frames = f :: below)
    (name : String) (v : Value) :
    (s.assign name v).frames = { f with scopes := f.scopes.assign name v } :: below := by
  simp [assign, withTop, top, h]

/-- What a name stands for in the frames that a link leads to. -/
def follow (name : String) (link : Option Nat) (frames : List Frame) : Option (Nat × Value) :=
  link.bind fun distance => findLinked name distance frames

/-- What a name stands for in a call with this link that does not bind the name itself. -/
def seen (s : Stack) (link : Option Nat) (name : String) : Option (Option Nat × Value) :=
  match follow name link s.frames with
  | some (distance, v) => some (some distance, v)
  | none => (s.globals.find? name).map fun v => (none, v)

theorem findLinked_zero (name : String) (f : Frame) (below : List Frame) :
    findLinked name 0 (f :: below) =
      match f.scopes.find? name with
      | some v => some (0, v)
      | none => (follow name f.link below).map fun r => (r.1 + 1, r.2) := by
  obtain ⟨scopes, link⟩ := f
  rw [findLinked]
  cases scopes.find? name with
  | some v => rfl
  | none => cases link <;> rfl

theorem resolve_of_frames {s : Stack} {f : Frame} {below : List Frame}
    (h : s.frames = f :: below) (name : String) :
    s.resolve name =
      match findLinked name 0 (f :: below) with
      | some (distance, v) => some (some distance, v)
      | none => (s.globals.find? name).map fun v => (none, v) := by
  obtain ⟨base, frames⟩ := s
  cases h
  rfl

/-- A call sees its own bindings, and beyond them what its link shows. -/
theorem find?_enter (s : Stack) (bindings : Scope) (link : Option Nat) (name : String) :
    (s.enter bindings link).find? name =
      (bindings.find? name).or ((s.seen link name).map Prod.snd) := by
  have hframes : (s.enter bindings link).frames = ⟨{ bottom := bindings }, link⟩ :: s.frames := rfl
  have htop : ({ bottom := bindings } : Scopes).find? name = bindings.find? name := rfl
  rw [find?, resolve_of_frames hframes, findLinked_zero, seen]
  simp only [htop]
  cases bindings.find? name with
  | some v => rfl
  | none => cases follow name link s.frames <;> rfl

/-- Links that show the same bindings lead to the same findings. -/
theorem follow_eq_of_seen_eq {s : Stack} {link link' : Option Nat} {name : String}
    (h : s.seen link name = s.seen link' name) :
    follow name link s.frames = follow name link' s.frames := by
  unfold seen at h
  cases hf : follow name link s.frames with
  | some r =>
    cases hf' : follow name link' s.frames with
    | some r' =>
      simp only [hf, hf', Option.some.injEq, Prod.mk.injEq] at h
      exact congrArg some (Prod.ext h.1 h.2)
    | none => cases hg : s.globals.find? name <;> simp [hf, hf', hg] at h
  | none =>
    cases hf' : follow name link' s.frames with
    | some r' => cases hg : s.globals.find? name <;> simp [hf, hf', hg] at h
    | none => rfl

end Stack

/-! ## Findings -/

variable {names : String → Prop}

/-- Two searches have come to the same, in a frame that is shared, and to a value within the
vocabulary. -/
def SameFinding (names : String → Prop) (shared : Nat → Prop)
    (found found' : Option (Nat × Value)) : Prop :=
  found = found' ∧
    ∀ distance v, found = some (distance, v) → shared distance ∧ v.Within (.plain names)

/-- The distances of shared frames when one more frame, which is shared, lies on top. -/
def beneath (shared : Nat → Prop) : Nat → Prop
  | 0 => True
  | distance + 1 => shared distance

namespace SameFinding

variable {shared : Nat → Prop} {found found' : Option (Nat × Value)}

theorem none : SameFinding names shared none none :=
  ⟨rfl, fun _ _ h => by cases h⟩

/-- A finding below the top frame is one further away from it. -/
theorem further (h : SameFinding names shared found found') :
    SameFinding names (beneath shared) (found.map fun r => (r.1 + 1, r.2))
      (found'.map fun r => (r.1 + 1, r.2)) := by
  obtain ⟨rfl, hfound⟩ := h
  refine ⟨rfl, fun distance v hv => ?_⟩
  obtain ⟨⟨d, u⟩, hd, he⟩ := Option.map_eq_some_iff.mp hv
  cases he
  exact hfound d u hd

/-- Frames with the same scopes on top bind the same. -/
theorem top {scopes : Scopes} {link link' : Option Nat} {below below' : List Frame} {name : String}
    (hscopes : ∀ v, scopes.find? name = some v → v.Within (.plain names))
    (h : SameFinding names shared (Stack.follow name link below)
      (Stack.follow name link' below')) :
    SameFinding names (beneath shared) (Stack.findLinked name 0 (⟨scopes, link⟩ :: below))
      (Stack.findLinked name 0 (⟨scopes, link'⟩ :: below')) := by
  rw [Stack.findLinked_zero, Stack.findLinked_zero]
  cases hf : scopes.find? name with
  | none => exact h.further
  | some v =>
    refine ⟨rfl, fun distance u hu => ?_⟩
    cases hu
    exact ⟨trivial, hscopes v hf⟩

end SameFinding

/-! ## Sights -/

/-- What two runs see below their innermost frames, and the links of these frames. -/
structure Sight (names : String → Prop) where
  link : Option Nat
  link' : Option Nat
  below : List Frame
  below' : List Frame
  /-- The distances of the frames that look the same on both sides. -/
  shared : Nat → Prop
  shared_same : ∀ {distance name}, shared distance → names name →
    SameFinding names shared (Stack.findLinked name distance below)
      (Stack.findLinked name distance below')
  linked_same : ∀ {name}, names name →
    SameFinding names shared (Stack.follow name link below) (Stack.follow name link' below')

/-- Two machines agree on the global scope, the native functions and the number of open calls. -/
structure Machine.SameGround (names : String → Prop) (m m' : Machine) : Prop where
  globals : ∀ {name}, names name → m.stack.globals.find? name = m'.stack.globals.find? name
  globals_within : ∀ {name v}, names name → m.stack.globals.find? name = some v →
    v.Within (.plain names)
  natives : ∀ {name}, names name → m.natives.find? name = m'.natives.find? name
  natives_builtin : ∀ {name n}, names name → m.natives.find? name = some n → n.IsBuiltin
  openCalls : m.openCalls = m'.openCalls

/-- Names in these scopes stand for values within the vocabulary. -/
def Scopes.Within (names : String → Prop) (s : Scopes) : Prop :=
  ∀ {name v}, names name → s.find? name = some v → v.Within (.plain names)

/-- Two machines have the same scopes on top of a sight, and have printed the same since. -/
structure Sight.Rel (c : Sight names) (shown shown' : String) (m m' : Machine) : Prop where
  ground : m.SameGround names m'
  frames : ∃ scopes : Scopes, scopes.Within names ∧
    m.stack.frames = ⟨scopes, c.link⟩ :: c.below ∧ m'.stack.frames = ⟨scopes, c.link'⟩ :: c.below'
  output : ∃ text, m.output = shown ++ text ∧ m'.output = shown' ++ text

theorem Scopes.Within.assign {s : Scopes} (h : s.Within names) (name : String) {v : Value}
    (hv : v.Within (.plain names)) : (s.assign name v).Within names := by
  intro other u hn hu
  by_cases heq : name = other
  · subst heq
    rw [Scopes.find?_assign_self] at hu
    cases hu
    exact hv
  · rw [Scopes.find?_assign_of_ne _ heq] at hu
    exact h hn hu

theorem Scopes.within_bindings {bindings : Scope}
    (h : ∀ e ∈ bindings.entries, e.2.Within (.plain names)) :
    ({ bottom := bindings } : Scopes).Within names :=
  fun _ hv => h _ (Mapping.mem_of_find? hv)

theorem Machine.SameGround.congr {m m' n n' : Machine} (h : m.SameGround names m')
    (hbase : n.stack.base = m.stack.base) (hbase' : n'.stack.base = m'.stack.base)
    (hnatives : n.natives = m.natives) (hnatives' : n'.natives = m'.natives)
    (hopen : n.openCalls = n'.openCalls) : n.SameGround names n' where
  globals hn := by rw [Stack.globals, Stack.globals, hbase, hbase']; exact h.globals hn
  globals_within hn hv := h.globals_within hn (by rwa [Stack.globals, hbase] at hv)
  natives hn := by rw [hnatives, hnatives']; exact h.natives hn
  natives_builtin hn hf := h.natives_builtin hn (by rwa [hnatives] at hf)
  openCalls := hopen

namespace Sight

variable (c : Sight names) {m m' : Machine} {shown shown' : String}

/-- The sight from within a further call, over the scopes that lie on top now. -/
def enter (scopes : Scopes) (hscopes : scopes.Within names) (link : Option Nat)
    (hlink : ∀ distance, link = some distance → beneath c.shared distance) : Sight names where
  link := link
  link' := link
  below := ⟨scopes, c.link⟩ :: c.below
  below' := ⟨scopes, c.link'⟩ :: c.below'
  shared := beneath c.shared
  shared_same {distance name} hd hn := by
    cases distance with
    | zero => exact .top (fun v => hscopes hn) (c.linked_same hn)
    | succ distance => exact (c.shared_same hd hn).further
  linked_same {name} hn := by
    cases link with
    | none => exact .none
    | some distance =>
      cases distance with
      | zero => exact .top (fun v => hscopes hn) (c.linked_same hn)
      | succ distance => exact (c.shared_same (hlink _ rfl) hn).further

theorem Rel.resolve {c : Sight names} {name : String} (h : c.Rel shown shown' m m')
    (hn : names name) :
    m.stack.resolve name = m'.stack.resolve name ∧
      ∀ link v, m.stack.resolve name = some (link, v) →
        (∀ distance, link = some distance → beneath c.shared distance) ∧
          v.Within (.plain names) := by
  obtain ⟨scopes, hscopes, hf, hf'⟩ := h.frames
  obtain ⟨heq, hfound⟩ := SameFinding.top (fun v => hscopes hn) (c.linked_same hn)
  rw [Stack.resolve_of_frames hf, Stack.resolve_of_frames hf', ← heq]
  cases hs : Stack.findLinked name 0 (⟨scopes, c.link⟩ :: c.below) with
  | some r =>
    refine ⟨rfl, fun link v hv => ?_⟩
    cases hv
    obtain ⟨hshared, hv⟩ := hfound _ _ hs
    refine ⟨fun distance hd => ?_, hv⟩
    cases hd
    exact hshared
  | none =>
    refine ⟨by simp only [h.ground.globals hn], fun link v hv => ?_⟩
    obtain ⟨u, hu, he⟩ := Option.map_eq_some_iff.mp hv
    cases he
    exact ⟨fun _ hd => absurd hd (by simp), h.ground.globals_within hn hu⟩

/-- Machines over the same sight agree on all that their programs can ask. -/
def coupling (names : String → Prop) (shown shown' : String) : Coupling (.plain names) where
  Context := Sight names
  rel c m m' := c.Rel shown shown' m m'
  mayLink c link := ∀ distance, link = some distance → beneath c.shared distance
  mayLink_none _ _ h := absurd h (by simp)
  resolve h hn := (h.resolve hn).1
  resolved h hn hr := (h.resolve hn).2 _ _ hr
  natives h hn := h.ground.natives hn
  native h hn hf := h.ground.natives_builtin hn hf
  openCalls h := h.ground.openCalls
  assign name v h hv := by
    obtain ⟨scopes, hscopes, hf, hf'⟩ := h.frames
    refine ⟨h.ground.congr (Stack.base_assign hf name v) (Stack.base_assign hf' name v) rfl rfl
      h.ground.openCalls, ⟨scopes.assign name v, hscopes.assign name hv, ?_, ?_⟩, h.output⟩
    · exact Stack.frames_assign hf name v
    · exact Stack.frames_assign hf' name v
  record {c m m' e} h _ := by
    refine ⟨h.ground.congr rfl rfl rfl rfl h.ground.openCalls, h.frames, ?_⟩
    obtain ⟨text, ht, ht'⟩ := h.output
    refine ⟨text ++ e.output, ?_, ?_⟩
    · rw [Machine.output_record, ht, String.append_assoc]
    · rw [Machine.output_record, ht', String.append_assoc]
  enter {c m m' bindings link} h hlink hb := by
    obtain ⟨scopes, hscopes, hf, hf'⟩ := h.frames
    refine ⟨c.enter scopes hscopes link hlink, ⟨?_, ?_, ?_⟩, fun n n' hn => ⟨?_, ?_, ?_⟩⟩
    · exact h.ground.congr rfl rfl rfl rfl (congrArg (· + 1) h.ground.openCalls)
    · refine ⟨{ bottom := bindings }, Scopes.within_bindings hb, ?_, ?_⟩
      · exact congrArg (_ :: ·) hf
      · exact congrArg (_ :: ·) hf'
    · simpa using h.output
    · exact hn.ground.congr rfl rfl rfl rfl (congrArg (· - 1) hn.ground.openCalls)
    · obtain ⟨_, _, hf, hf'⟩ := hn.frames
      exact ⟨scopes, hscopes, congrArg List.tail hf, congrArg List.tail hf'⟩
    · simpa using hn.output
  callFrom {c m m'} site h :=
    ⟨c, ⟨h.ground.congr rfl rfl rfl rfl h.ground.openCalls, h.frames, h.output⟩, fun n n' hn =>
      ⟨hn.ground.congr rfl rfl rfl rfl hn.ground.openCalls, hn.frames, hn.output⟩⟩

/-! ## Calls with the same sight -/

/-- The machines whose next calls have this sight have printed the same since. -/
structure Before (c : Sight names) (shown shown' : String) (m m' : Machine) : Prop where
  ground : m.SameGround names m'
  frames : m.stack.frames = c.below
  frames' : m'.stack.frames = c.below'
  output : ∃ text, m.output = shown ++ text ∧ m'.output = shown' ++ text

/-- Steps in calls with the same sight do the same if they do the same over that sight. -/
theorem within_lockstep {ε α : Type} {P : α → Prop} {bindings : Scope} {x y : Exec ε α}
    (hb : ∀ e ∈ bindings.entries, e.2.Within (.plain names))
    (h : Exec.Lockstep (c.Rel shown shown') P x y) :
    Exec.Lockstep (c.Before shown shown') P (Exec.within bindings c.link x)
      (Exec.within bindings c.link' y) := by
  intro m m' hm
  have hentered : c.Rel shown shown' (m.enter bindings c.link) (m'.enter bindings c.link') := by
    refine ⟨hm.ground.congr rfl rfl rfl rfl (congrArg (· + 1) hm.ground.openCalls), ?_, ?_⟩
    · refine ⟨{ bottom := bindings }, Scopes.within_bindings hb, ?_, ?_⟩
      · exact congrArg (_ :: ·) hm.frames
      · exact congrArg (_ :: ·) hm.frames'
    · simpa using hm.output
  have h := h _ _ hentered
  have hleft := h.states_rel
  simp only [Exec.on_within, h.outcome_eq]
  refine .intro (fun a ha => h.value_of_eq_ok (h.outcome_eq.trans ha)) ⟨?_, ?_, ?_, ?_⟩
  · exact hleft.ground.congr rfl rfl rfl rfl (congrArg (· - 1) hleft.ground.openCalls)
  · obtain ⟨_, _, hf, _⟩ := hleft.frames
    exact congrArg List.tail hf
  · obtain ⟨_, _, _, hf'⟩ := hleft.frames
    exact congrArg List.tail hf'
  · simpa using hleft.output

/-- Calls of a function with the same sight do the same. -/
theorem userCall_lockstep (env : Environment) (nesting left : Nat) {f : Function}
    {arguments : List Value} (site : Position) (hf : ∀ n ∈ f.names, names n)
    (ha : ∀ a ∈ arguments, a.Within (.plain names)) :
    Exec.Lockstep (c.Before shown shown') (·.Within (.plain names))
      ((env.callsWithin nesting left).user f c.link arguments site)
      ((env.callsWithin nesting left).user f c.link' arguments site) := by
  show Exec.Lockstep _ _ (callUser _ _ left f c.link arguments site)
    (callUser _ _ left f c.link' arguments site)
  cases left with
  | zero =>
    rw [callUser, callUser]
    exact .bind (Coupling.checkCall_lockstep fun _ _ h => h.ground.openCalls) fun _ _ => .throw
  | succ left =>
    have hbody := ((coupling names shown shown').plain_sameCalls env nesting left
      ).evalStatements_lockstep (c := c) f.body.statements (f.names_eq ▸ hf)
    rw [callUser, callUser]
    refine .bind (Coupling.checkCall_lockstep fun _ _ h => h.ground.openCalls) fun _ _ => ?_
    refine .bind (c.within_lockstep (Function.bind_within ha) hbody) fun flow hflow => ?_
    refine Coupling.finish_lockstep (fun m m' v h => ?_) hflow
    refine ⟨h.ground.congr rfl rfl rfl rfl h.ground.openCalls, h.frames, h.frames', ?_⟩
    simpa [Event.output] using h.output

/-- From machines that look the same in this sight, calls of a function end alike. -/
theorem userCall_sameEnd (env : Environment) (nesting left : Nat) {f : Function}
    {arguments : List Value} (site : Position) (hf : ∀ n ∈ f.names, names n)
    (ha : ∀ a ∈ arguments, a.Within (.plain names)) (hground : m.SameGround names m')
    (hbelow : m.stack.frames = c.below) (hbelow' : m'.stack.frames = c.below') :
    Exec.SameEnd ((env.callsWithin nesting left).user f c.link arguments site) m
      ((env.callsWithin nesting left).user f c.link' arguments site) m' := by
  have hbefore : c.Before m.output m'.output m m' := ⟨hground, hbelow, hbelow', "", by simp⟩
  have h := c.userCall_lockstep env nesting left site hf ha m m' hbefore
  exact ⟨h.outcome_eq, h.states_rel.output⟩

end Sight

/-! ## A function that tells what it sees -/

/-- The function without parameters that returns what a name stands for. -/
def Function.reader (name : String) : Function :=
  ⟨"reader", [], ⟨[.exit (some (.var ⟨name, {}⟩)) {}], {}⟩, {}⟩

/-- What a reader gives is what its link shows. -/
theorem Function.reader_outcome (env : Environment) (nesting left : Nat) {name : String}
    {m : Machine} (link : Option Nat) (site : Position) (hfree : m.natives.find? name = none)
    (hopen : m.openCalls < env.settings.maxCallDepth) :
    (((env.callsWithin nesting (left + 1)).user (.reader name) link [] site).on m).1 =
      match m.stack.seen link name with
      | some found => .ok found.2
      | none => .error (.undefined name {}) := by
  let inside := (m.enter {} link).record (.statement 0)
  have hlookup : inside.lookup name = (m.stack.seen link name).map Prod.snd := by
    show (m.stack.enter {} link).find? name = _
    rw [Stack.find?_enter, Mapping.find?_empty, Option.none_or]
  have hfree : inside.natives.find? name = none := hfree
  have hcheck : ((reader name).checkCall env.settings.maxCallDepth [] site).on m = (.ok (), m) := by
    simp [checkCall, reader, Exec.on_bind, hopen]
  have hbind : (reader name).bind [] = {} := rfl
  show ((callUser _ _ (left + 1) (reader name) link [] site).on m).1 = _
  rw [callUser, Exec.on_bind_ok hcheck, Exec.on_bind, Exec.on_within, hbind]
  cases hseen : m.stack.seen link name with
  | some found =>
    have hvalue : (evalVariable ⟨name, {}⟩).on inside = (.ok found.2, inside) := by
      simp [evalVariable, Exec.on_bind, hlookup, hseen]
    have hexit : ∀ calls, (execute calls (.exit (some (.var ⟨name, {}⟩)) {})).on inside =
        (.ok (.returned found.2), inside) := by
      intro calls
      rw [execute, evalExpr, Exec.on_bind_ok hvalue, Exec.on_pure]
    have hbody : ∀ calls, (evalStatements calls (reader name).body.statements).on
        (m.enter {} link) = (.ok (.returned found.2), inside) := by
      intro calls
      rw [reader, evalStatements]
      exact (Exec.on_bind_ok (Exec.on_record _ _) _).trans (Exec.on_bind_ok (hexit calls) _)
    rw [hbody]
    rfl
  | none =>
    have hvalue : (evalVariable ⟨name, {}⟩).on inside =
        (.error (.undefined name {}), inside) := by
      simp [evalVariable, Exec.on_bind, hlookup, hseen, hfree]
    have hexit : ∀ calls, (execute calls (.exit (some (.var ⟨name, {}⟩)) {})).on inside =
        (.error (.undefined name {}), inside) := by
      intro calls
      rw [execute, evalExpr, Exec.on_bind_error hvalue]
    have hbody : ∀ calls, (evalStatements calls (reader name).body.statements).on
        (m.enter {} link) = (.error (.undefined name {}), inside) := by
      intro calls
      rw [reader, evalStatements]
      exact (Exec.on_bind_ok (Exec.on_record _ _) _).trans (Exec.on_bind_error (hexit calls) _)
    rw [hbody]

/-- An environment in which there are no patterns, no commands and no host. -/
def Environment.bare : Environment :=
  { compile := fun _ => .error "", shell := fun _ => .error "",
    behaviour := fun _ => .finish (.ok .nil) }

end Scriptlet
