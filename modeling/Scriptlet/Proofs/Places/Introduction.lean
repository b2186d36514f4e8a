import Scriptlet.Proofs.Places.Leading
import Scriptlet.Proofs.Rendering.RoundTrip

/-!
# The tokens that introduce nodes

Each node is introduced by one of the tokens that spell it (`Node.IntroducedBy`): a name, a
constant, an operator, a keyword, or what opens a list or a block. A member is introduced by the
first token of its object, and an assignment by that of its target.

A node stands at the token that introduces it, with one exception (`nodes_introduced`). Members and
assignments do not look for that token. They take the place of their object or target
(`Node.source?`), so they stand at an operator if the chain of members starts with an operation in
parentheses (`Node.isDisplaced`).
-/

namespace Scriptlet

open Grammar

/-! ## What introduces a node -/

/-- The tokens spell the node, and this token among them introduces it. -/
inductive Node.IntroducedBy : Node → List Token → Token → Prop
  | variable {v : Variable} {t : Token} (h : Named v [t]) : IntroducedBy (.variable v) [t] t
  | literal {value : Literal} {p : Position} {t : Token}
    (h : Derives (.primary (.literal value p)) [t]) : IntroducedBy (.literal value p) [t] t
  /-- The zero that `-x` is a difference from. -/
  | zero {e : Expr} {p : Position} {t : Token} {ts : List Token} (isMinus : t.kind = .minus)
    (h : Derives (.tier none e) ts) : IntroducedBy (.literal (.int 0) p) (t :: ts) t
  /-- The constant that `not x` is a comparison with. -/
  | falsity {e : Expr} {p : Position} {t : Token} {ts : List Token} (isNot : t.kind = .notWord)
    (h : Derives (.tier none e) ts) : IntroducedBy (.literal (.bool false) p) (t :: ts) t
  | between {o : Operator} {e e' : Expr} {p : Position} {t : Token} {ts ts' : List Token}
    (left : Derives (.tier (some o.level) e) ts) (isOperator : Operator.ofKind t.kind = some o)
    (right : Derives (.tier o.level.tighter e') ts') :
    IntroducedBy (.binary e o e' p) (ts ++ t :: ts') t
  | minus {e : Expr} {p q : Position} {t : Token} {ts : List Token} (isMinus : t.kind = .minus)
    (h : Derives (.tier none e) ts) :
    IntroducedBy (.binary (.literal (.int 0) q) .sub e p) (t :: ts) t
  | not {e : Expr} {p q : Position} {t : Token} {ts : List Token} (isNot : t.kind = .notWord)
    (h : Derives (.tier none e) ts) :
    IntroducedBy (.binary e .equal (.literal (.bool false) q) p) (t :: ts) t
  | list {es : List Expr} {p : Position} {t : Token} {ts : List Token}
    (opens : t.kind = .leftBracket) (h : Derives (.primary (.list es p)) (t :: ts)) :
    IntroducedBy (.list es p) (t :: ts) t
  | field {object : Expr} {member : Member} {p : Position} {t : Token} {ts us : List Token}
    (place : Derives (.members object) ts) (first : leading? ts = some t)
    (h : Derives (.members (.field object member p)) (ts ++ us)) :
    IntroducedBy (.field object member p) (ts ++ us) t
  | call {c : Call} {t : Token} {ts : List Token} (isName : t.kind = .name)
    (h : Derives (.call c) (t :: ts)) : IntroducedBy (.call c) (t :: ts) t
  | block {b : Block} {t : Token} {ts : List Token} (opens : t.kind = .leftBrace)
    (h : Derives (.block b) (t :: ts)) : IntroducedBy (.block b) (t :: ts) t
  /-- The block behind an `else` that only holds the conditional of the nested `if`. -/
  | elseIf {b : Block} {t : Token} {ts : List Token} (isIf : t.kind = .ifWord)
    (h : Derives (.branch b) (t :: ts)) : IntroducedBy (.block b) (t :: ts) t
  | assign {target value : Expr} {p : Position} {t : Token} {ts us : List Token}
    (place : Derives (.expression target) ts) (first : leading? ts = some t)
    (h : Derives (.statement (.assign target value p)) (ts ++ us)) :
    IntroducedBy (.statement (.assign target value p)) (ts ++ us) t
  | function {f : Function} {t : Token} {ts : List Token} (isName : t.kind = .name)
    (h : Derives (.statement (.function f)) (t :: ts)) :
    IntroducedBy (.statement (.function f)) (t :: ts) t
  | keyword {s : Statement} {t : Token} {ts : List Token}
    (isKeyword : t.kind ∈ [.ifWord, .forWord, .returnWord, .breakWord, .continueWord])
    (h : Derives (.statement s) (t :: ts)) : IntroducedBy (.statement s) (t :: ts) t
  | expression {e : Expr} {t : Token} {ts : List Token} (h : e.node.IntroducedBy ts t) :
    IntroducedBy (.statement (.expression e)) ts t
  | newLine {p : Position} {t : Token} (isNewLine : t.kind = .newLine) :
    IntroducedBy (.statement (.newLine p)) [t] t
  | comment {p : Position} {t : Token} (isComment : t.kind = .comment) :
    IntroducedBy (.statement (.comment ⟨t.data, p⟩)) [t] t

/-- The expression that a node takes its place from. -/
def Node.source? : Node → Option Expr
  | .field object _ _ => some object
  | .statement (.assign target _ _) => some target
  | .statement (.expression e) => some e
  | _ => none

/-- A chain of members that starts with an operation, in parentheses, whose operator stands between
the operands. -/
def Expr.isDisplaced : Expr → Bool
  | .field object _ _ => object.root.isInfix
  | _ => false

/-- A chain of members that starts with such an operation, or what takes its place from one. -/
def Node.isDisplaced : Node → Bool
  | .field object _ _ => object.root.isInfix
  | .statement (.assign target _ _) => target.isDisplaced
  | .statement (.expression e) => e.isDisplaced
  | _ => false

theorem Node.IntroducedBy.mem {n : Node} {ts : List Token} {t : Token} (h : n.IntroducedBy ts t) :
    t ∈ ts := by
  induction h with
  | field _ first _ | assign _ first _ => exact List.mem_append_left _ (mem_of_leading? first)
  | between _ _ _ => exact List.mem_append_right _ List.mem_cons_self
  | expression _ ih => exact ih
  | _ => exact List.mem_cons_self

/-- The tokens spell the node, and this token among them introduces it. The node stands at one of
the tokens, and at this one if it is not displaced. -/
structure Node.Stands (n : Node) (ts : List Token) (t : Token) : Prop where
  introduced : n.IntroducedBy ts t
  inside : ∃ u ∈ ts, u.position = n.position
  place : Increasing ts → (n.position = t.position ↔ n.isDisplaced = false)
  inherits : ∀ e, n.source? = some e → n.position = e.position

/-- All nodes stand somewhere among the tokens. -/
def StandAmong (ns : List Node) (ts : List Token) : Prop :=
  ∀ n ∈ ns, ∃ us t, us <:+: ts ∧ n.Stands us t

/-! ## Nodes of parts -/

namespace StandAmong

variable {n : Node} {ns ms : List Node} {t : Token} {ts us : List Token}

theorem nil : StandAmong [] ts :=
  List.forall_mem_nil _

theorem mono (h : StandAmong ns ts) (hts : ts <:+: us) : StandAmong ns us := by
  intro n hn
  obtain ⟨vs, t, hvs, hstands⟩ := h n hn
  exact ⟨vs, t, hvs.trans hts, hstands⟩

theorem left (h : StandAmong ns ts) : StandAmong ns (ts ++ us) :=
  h.mono (List.prefix_append ts us).isInfix

theorem right (h : StandAmong ns us) : StandAmong ns (ts ++ us) :=
  h.mono (List.suffix_append ts us).isInfix

theorem behind (h : StandAmong ns ts) : StandAmong ns (t :: ts) :=
  h.mono (List.suffix_cons t ts).isInfix

theorem append (h : StandAmong ns ts) (h' : StandAmong ms ts) : StandAmong (ns ++ ms) ts :=
  fun n hn => (List.mem_append.mp hn).elim (h n) (h' n)

/-- A node in front of those inside it. -/
theorem cons (h : n.Stands ts t) (h' : StandAmong ns ts) : StandAmong (n :: ns) ts :=
  List.forall_mem_cons.mpr ⟨⟨ts, t, List.infix_refl ts, h⟩, h'⟩

theorem single (h : n.Stands ts t) : StandAmong [n] ts :=
  nil.cons h

theorem inside (h : StandAmong ns ts) (hn : n ∈ ns) : ∃ u ∈ ts, u.position = n.position := by
  obtain ⟨us, t, hus, hstands⟩ := h n hn
  obtain ⟨u, hu, hposition⟩ := hstands.inside
  exact ⟨u, hus.subset hu, hposition⟩

end StandAmong

/-- A node with a place of its own. -/
theorem Node.Stands.own {n : Node} {ts : List Token} {t : Token} (h : n.IntroducedBy ts t)
    (hposition : n.position = t.position) (hplaced : n.isDisplaced = false)
    (hsource : n.source? = none) : n.Stands ts t where
  introduced := h
  inside := ⟨t, h.mem, hposition.symm⟩
  place _ := by simp only [hposition, hplaced]
  inherits e he := by simp [hsource] at he

/-- An expression that is a statement stands like the expression. -/
theorem Node.Stands.expression {e : Expr} {ts : List Token} {t : Token} (h : e.node.Stands ts t) :
    (Node.statement (.expression e)).Stands ts t where
  introduced := .expression h.introduced
  inside := by
    have hinside := h.inside
    rwa [Expr.position_node] at hinside
  place := by
    have hplace := h.place
    cases e <;> exact hplace
  inherits _ := by
    rintro ⟨⟩
    rfl

/-- A member stands where its object does. -/
theorem Node.Stands.field {object : Expr} {member : Member} {ts us : List Token}
    (place : Derives (.members object) ts)
    (h : Derives (.members (.field object member object.position)) (ts ++ us)) :
    ∃ t, (Node.field object member object.position).Stands (ts ++ us) t := by
  obtain ⟨t, first, hiff⟩ := place.leading rfl
  obtain ⟨u, hu, hposition⟩ := place.position_mem rfl
  refine ⟨t, .field place first h, ⟨u, List.mem_append_left us hu, hposition⟩, ?_, ?_⟩
  · exact fun hincreasing => hiff (List.pairwise_append.mp hincreasing).1
  · rintro _ ⟨⟩
    rfl

/-- An assignment stands where its target does. -/
theorem Node.Stands.assign {target value : Expr} {ts us : List Token}
    (place : Derives (.expression target) ts) (isPlace : target.isPlace)
    (h : Derives (.statement (.assign target value target.position)) (ts ++ us)) :
    ∃ t, (Node.statement (.assign target value target.position)).Stands (ts ++ us) t := by
  obtain ⟨t, first, hiff⟩ := place.leading rfl
  have hroot : target.root.isInfix = target.isDisplaced := by
    cases target with
    | var v => rfl
    | field object member p => rfl
    | _ => cases isPlace
  obtain ⟨u, hu, hposition⟩ := place.position_mem rfl
  refine ⟨t, .assign place first h, ⟨u, List.mem_append_left us hu, hposition⟩, ?_, ?_⟩
  · rw [hroot] at hiff
    exact fun hincreasing => hiff (List.pairwise_append.mp hincreasing).1
  · rintro _ ⟨⟩
    rfl

theorem StandAmong.newLine {t : Token} (isNewLine : t.kind = .newLine) :
    StandAmong [.statement (.newLine t.position)] [t] :=
  .single (.own (.newLine isNewLine) rfl rfl rfl)

theorem StandAmong.comment {t : Token} (isComment : t.kind = .comment) :
    StandAmong [.statement (.comment ⟨t.data, t.position⟩)] [t] :=
  .single (.own (.comment isComment) rfl rfl rfl)

theorem StandAmong.name {n : Token} (isName : n.kind = .name) :
    StandAmong [.variable ⟨n.data, n.position⟩] [n] :=
  .single (.own (.variable ⟨n, isName, rfl, rfl⟩) rfl rfl rfl)

/-- Names with commas between them. -/
theorem StandAmong.names {vs : List Variable} {ts : List Token} (h : Listed Named vs ts) :
    StandAmong (vs.map Node.variable) ts := by
  induction h with
  | none _ => exact nil
  | last _ element _ =>
    obtain ⟨n, isName, rfl, rfl⟩ := element
    exact (name isName).right.left
  | more _ element _ _ _ _ ih =>
    obtain ⟨n, isName, rfl, rfl⟩ := element
    exact (name isName).right.left.left.append ih.behind.right

/-- Every node of a phrase is introduced by one of its tokens. -/
theorem Grammar.Derives.standAmong {phrase : Phrase} {ts : List Token} (h : Derives phrase ts) :
    StandAmong phrase.nodes ts := by
  induction h with
  | operand _ ih | members _ ih | primary _ ih | conditional _ ih | called _ ih | mapping _ ih
  | branchBlock _ ih => exact ih
  | binary left isOperator right ih ih' =>
    refine .cons (.own (.between left isOperator right) rfl rfl rfl) ?_
    exact ih.left.append ih'.behind.right
  | minus isMinus h ih =>
    refine .cons (.own (.minus isMinus h) rfl rfl rfl) (.append ?_ ih.behind)
    exact .single (.own (.zero isMinus h) rfl rfl rfl)
  | not isNot h ih =>
    refine .cons (.own (.not isNot h) rfl rfl rfl) (.append ih.behind ?_)
    exact .single (.own (.falsity isNot h) rfl rfl rfl)
  | memberName h isDot isName ih =>
    obtain ⟨t, ht⟩ := Node.Stands.field h (.memberName h isDot isName)
    exact .cons ht (ih.left.append (StandAmong.name isName).behind.right)
  | memberCall h isDot call ih ih' =>
    obtain ⟨t, ht⟩ := Node.Stands.field h (.memberCall h isDot call)
    exact .cons ht (ih.left.append ih'.behind.right)
  | memberIndex h opens breaks index breaks' closes ih ih' =>
    obtain ⟨t, ht⟩ := Node.Stands.field h (.memberIndex h opens breaks index breaks' closes)
    exact .cons ht (ih.left.append ih'.right.left.left.behind.right)
  | integer isInteger value =>
    exact .single (.own (.literal (.integer isInteger value)) rfl rfl rfl)
  | string isString => exact .single (.own (.literal (.string isString)) rfl rfl rfl)
  | trueWord isTrue => exact .single (.own (.literal (.trueWord isTrue)) rfl rfl rfl)
  | falseWord isFalse => exact .single (.own (.literal (.falseWord isFalse)) rfl rfl rfl)
  | var isName => exact .single (.own (.variable ⟨_, isName, rfl, rfl⟩) rfl rfl rfl)
  | parenthesized _ _ _ _ _ ih => exact ih.right.left.left.behind
  | list opens h closes ih =>
    exact .cons (.own (.list opens (.list opens h closes)) rfl rfl rfl) ih.left.behind
  | noArguments _ | noStatements => exact .nil
  | lastArgument _ _ _ ih => exact ih.right.left.append .nil
  | moreArguments _ _ _ _ _ _ ih ih' =>
    exact ih.right.left.left.append ih'.behind.right
  | call isName opens h closes ih =>
    refine .cons (.own (.call isName (.call isName opens h closes)) rfl rfl rfl) ?_
    exact ih.left.behind.behind
  | block opens h closes ih =>
    exact .cons (.own (.block opens (.block opens h closes)) rfl rfl rfl) ih.left.behind
  | newLine isNewLine _ ih => exact (StandAmong.newLine isNewLine).left.append ih.behind
  | comment isComment _ ih => exact (StandAmong.comment isComment).left.append ih.behind
  | next _ _ _ ih ih' => exact ih.left.append ih'.right
  | ifThen isIf test block ih ih' =>
    refine .cons (.own (.keyword ?_ (.conditional (.ifThen isIf test block))) rfl rfl rfl) ?_
    · simp [isIf]
    · exact (ih.left.append ih'.right).behind
  | ifThenElse isIf test block isElse branch ih ih' ih'' =>
    have h := Derives.ifThenElse isIf test block isElse branch
    refine .cons (.own (.keyword ?_ (.conditional h)) rfl rfl rfl) ?_
    · simp [isIf]
    · exact ((ih.left.append ih'.right).left.append ih''.behind.right).behind
  | @branchIf s t ts h ih =>
    have isIf : t.kind = .ifWord := by
      obtain ⟨_, _, ⟨⟩, ht⟩ := h.starts rfl
      exact of_decide_eq_true ht
    exact .cons (.own (.elseIf isIf (.branchIf h)) rfl rfl rfl) (ih.append .nil)
  | loop isFor isItem isIn iterated block ih ih' =>
    have hitem := StandAmong.name isItem
    refine .cons (.own (.keyword ?_ (.loop isFor isItem isIn iterated block)) rfl rfl rfl) ?_
    · simp [isFor]
    · exact hitem.left.behind.append (ih.left.append ih'.right).behind.behind.behind
  | @indexedLoop iterable body t index comma item inWord ts ts' isFor isIndex isComma isItem isIn
      iterated block ih ih' =>
    have h := Derives.indexedLoop isFor isIndex isComma isItem isIn iterated block
    have hindex := StandAmong.name isIndex
    have hitem := StandAmong.name isItem
    have hbody : StandAmong _ (inWord :: (ts ++ ts')) := (ih.left.append ih'.right).behind
    refine .cons (.own (.keyword ?_ h) rfl rfl rfl) ?_
    · simp [isFor]
    · exact (hindex.left.append (hitem.left.append hbody.behind).behind.behind).behind
  | exit isReturn =>
    exact .single (.own (.keyword (by simp [isReturn]) (.exit isReturn)) rfl rfl rfl)
  | exitWith isReturn h ih =>
    refine .cons (.own (.keyword ?_ (.exitWith isReturn h)) rfl rfl rfl) ih.behind
    simp [isReturn]
  | stop isBreak =>
    exact .single (.own (.keyword (by simp [isBreak]) (.stop isBreak)) rfl rfl rfl)
  | skip isContinue =>
    exact .single (.own (.keyword (by simp [isContinue]) (.skip isContinue)) rfl rfl rfl)
  | definition isName opens names closes block ih =>
    have h := Derives.definition isName opens names closes block
    refine .cons (.own (.function isName h) rfl rfl rfl) ?_
    exact ((StandAmong.names names).left.append ih.behind.right).behind.behind
  | assign place isPlace isAssign h ih ih' =>
    obtain ⟨t, ht⟩ := Node.Stands.assign place isPlace (.assign place isPlace isAssign h)
    exact .cons ht (ih.left.append ih'.behind.right)
  | @expression e ts h ih =>
    refine List.forall_mem_cons.mpr ⟨?_, ih⟩
    obtain ⟨us, t, hus, ht⟩ := ih e.node e.mem_nodes
    exact ⟨us, t, hus, ht.expression⟩

/-! ## The nodes of a source -/

/-- What spells a program are tokens of its source, which stand there in order. -/
theorem spelled_of_parse {source : String} {program : Program} (h : parse source = .ok program) :
    ∃ ts rest, tokenize source = .ok (ts ++ rest) ∧ Derives (.statements program) ts ∧
      Increasing ts := by
  obtain ⟨ts, rest, hscan, hts⟩ := scan_of_parse h
  refine ⟨ts, rest, ?_, hts, (List.pairwise_append.mp (Cursor.increasing_of_scan hscan)).1⟩
  rw [tokenize, hscan]

/-- Every node of a source stands at one of its tokens. If it is not displaced, this is the token
that introduces it; otherwise it is another one. Members and assignments stand where their objects
and targets do. -/
theorem nodes_introduced {source : String} {program : Program} (h : parse source = .ok program) :
    ∃ tokens, tokenize source = .ok tokens ∧
      ∀ n ∈ nodesOfStatements program,
        (∃ u ∈ tokens, u.position = n.position) ∧
        (∃ span t, span <:+: tokens ∧ n.IntroducedBy span t ∧
          (n.position = t.position ↔ n.isDisplaced = false)) ∧
        ∀ e, n.source? = some e → n.position = e.position := by
  obtain ⟨ts, rest, htokens, hts, hincreasing⟩ := spelled_of_parse h
  refine ⟨ts ++ rest, htokens, fun n hn => ?_⟩
  obtain ⟨u, hu, hposition⟩ := hts.standAmong.inside hn
  obtain ⟨us, t, hus, hstands⟩ := hts.standAmong n hn
  refine ⟨⟨u, List.mem_append_left rest hu, hposition⟩, ⟨us, t, ?_⟩, hstands.inherits⟩
  exact ⟨hus.trans (List.prefix_append ts rest).isInfix, hstands.introduced,
    hstands.place (hincreasing.sublist hus.sublist)⟩

/-- The member stands at the sign and not at the first token of the object. -/
theorem nodes_introduced_of_sum :
    let sum : Expr := .binary (.var ⟨"a", ⟨0, 1, 1⟩⟩) .add (.var ⟨"b", ⟨0, 5, 1⟩⟩) ⟨0, 3, 1⟩
    let member : Expr := .field sum (.name ⟨"c", ⟨0, 8, 1⟩⟩) ⟨0, 3, 1⟩
    parse "(a + b).c" = .ok [.expression member] ∧
      ∃ tokens, tokenize "(a + b).c" = .ok tokens ∧
        ∃ span t, span <:+: tokens ∧ member.node.IntroducedBy span t ∧
          member.position ≠ t.position := by
  intro sum member
  have hparse : parse "(a + b).c" = .ok [.expression member] := by with_unfolding_all rfl
  obtain ⟨tokens, htokens, hnodes⟩ := nodes_introduced hparse
  have hmember : member.node ∈ nodesOfStatements [.expression member] :=
    mem_nodesOfStatements.mpr ⟨_, List.mem_cons_self, List.mem_cons_of_mem _ member.mem_nodes⟩
  obtain ⟨-, ⟨span, t, hspan, hintroduced, hiff⟩, -⟩ := hnodes _ hmember
  refine ⟨hparse, tokens, htokens, span, t, hspan, hintroduced, fun hposition => ?_⟩
  cases hiff.mp hposition

end Scriptlet
