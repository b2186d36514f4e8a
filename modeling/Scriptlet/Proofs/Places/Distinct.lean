import Scriptlet.Proofs.Places.Nodes

/-!
# Nodes at the same place

Many nodes share a place: an expression that is a statement shares it with this statement, and a
chain of members shares it with what it starts with. But no two statements do, however deep they
lie. In what a phrase spells, each token is the place of one statement at most, and the token of the
phrase, if this is an expression, is the place of none (`Grammar.Derives.countAt_le`).
-/

namespace Scriptlet

/-- One at this place, and zero elsewhere. -/
def Position.at (p q : Position) : Nat :=
  if q = p then 1 else 0

/-- How many tokens stand at a place. -/
def tokensAt (p : Position) (ts : List Token) : Nat :=
  (ts.map (·.position)).count p

/-- The places of those nodes that are statements. -/
def statementPlaces (ns : List Node) : List Position :=
  (ns.filterMap Node.statement?).map Statement.position

/-- How many of the nodes are statements that stand at a place. -/
def statementsAt (p : Position) (ns : List Node) : Nat :=
  (statementPlaces ns).count p

section

variable {p : Position}

@[simp]
theorem tokensAt_nil : tokensAt p [] = 0 :=
  rfl

@[simp]
theorem tokensAt_cons (t : Token) (ts : List Token) :
    tokensAt p (t :: ts) = p.at t.position + tokensAt p ts := by
  simp [tokensAt, Position.at, List.count_cons, Nat.add_comm]

@[simp]
theorem tokensAt_append (ts us : List Token) :
    tokensAt p (ts ++ us) = tokensAt p ts + tokensAt p us := by
  simp [tokensAt]

@[simp]
theorem statementsAt_nil : statementsAt p [] = 0 :=
  rfl

@[simp]
theorem statementsAt_cons (n : Node) (ns : List Node) :
    statementsAt p (n :: ns) =
      (n.statement?.elim 0 fun s => p.at s.position) + statementsAt p ns := by
  cases hn : n.statement? <;>
    simp [statementsAt, statementPlaces, hn, Position.at, List.count_cons, Nat.add_comm]

@[simp]
theorem statementsAt_append (ns ms : List Node) :
    statementsAt p (ns ++ ms) = statementsAt p ns + statementsAt p ms := by
  simp [statementsAt, statementPlaces]

@[simp]
theorem statementsAt_variables (vs : List Variable) :
    statementsAt p (vs.map Node.variable) = 0 := by
  induction vs with
  | nil => rfl
  | cons v vs ih => rw [List.map_cons, statementsAt_cons, ih]; rfl

theorem exists_of_tokensAt_pos {ts : List Token} (h : 0 < tokensAt p ts) :
    ∃ t ∈ ts, t.position = p :=
  List.mem_map.mp (List.count_pos_iff.mp h)

end

namespace Grammar

/-- How many statements of a phrase stand at a place, and with them the phrase itself, if it is an
expression. -/
def Phrase.countAt (p : Position) (phrase : Phrase) : Nat :=
  (phrase.expr?.elim 0 fun e => p.at e.position) + statementsAt p phrase.nodes

/-- Each token is the place of one statement at most, or else of the expression that is spelled. -/
theorem Derives.countAt_le {phrase : Phrase} {ts : List Token} (h : Derives phrase ts)
    (p : Position) : phrase.countAt p ≤ tokensAt p ts := by
  induction h with
  | operand _ ih | members _ ih | primary _ ih | conditional _ ih | called _ ih | mapping _ ih =>
    exact ih
  | integer _ _ | string _ | trueWord _ | falseWord _ | var _ | noArguments _ | noStatements
  | exit _ | stop _ | skip _ =>
    simp [Phrase.countAt, Phrase.expr?, Phrase.nodes, Expr.nodes, Statement.nodes, nodesOfAll,
      nodesOfStatements, Node.statement?, Statement.position]
  | minus _ _ ih | not _ _ ih | parenthesized _ _ _ _ _ ih | list _ _ _ ih | lastArgument _ _ _ ih
  | call _ _ _ _ ih | block _ _ _ ih | newLine _ _ ih | comment _ _ ih | branchBlock _ ih
  | branchIf _ ih | exitWith _ _ ih | definition _ _ _ _ _ ih | expression _ ih
  | memberName _ _ _ ih =>
    simp only [Phrase.countAt, Phrase.expr?, Phrase.nodes, Expr.position_binary, Expr.position_list,
      Expr.position_call, Expr.position_block, Expr.position_field, Expr.nodes, Member.nodes,
      Call.nodes, Block.nodes, Function.nodes, Statement.nodes, nodesOfAll, nodesOfStatements,
      Node.statement?, Statement.position, Option.elim_some, Option.elim_none, statementsAt_nil,
      statementsAt_cons, statementsAt_append, statementsAt_variables, tokensAt_nil, tokensAt_cons,
      tokensAt_append] at ih ⊢
    omega
  | binary _ _ _ ih ih' | memberCall _ _ _ ih ih' | memberIndex _ _ _ _ _ _ ih ih'
  | moreArguments _ _ _ _ _ _ ih ih' | next _ _ _ ih ih' | ifThen _ _ _ ih ih'
  | loop _ _ _ _ _ ih ih' | indexedLoop _ _ _ _ _ _ _ ih ih' | assign _ _ _ _ ih ih' =>
    simp only [Phrase.countAt, Phrase.expr?, Phrase.nodes, Expr.position_binary,
      Expr.position_call, Expr.position_block, Expr.position_field, Expr.nodes, Member.nodes,
      Statement.nodes, nodesOfAll, nodesOfStatements, Node.statement?, Statement.position,
      Option.elim_some, Option.elim_none, statementsAt_cons, statementsAt_append,
      statementsAt_variables, tokensAt_nil, tokensAt_cons, tokensAt_append] at ih ih' ⊢
    omega
  | ifThenElse _ _ _ _ _ ih ih' ih'' =>
    simp only [Phrase.countAt, Phrase.expr?, Phrase.nodes, Expr.position_block, Statement.nodes,
      Node.statement?, Statement.position, Option.elim_some, Option.elim_none, statementsAt_cons,
      statementsAt_append, tokensAt_cons, tokensAt_append] at ih ih' ih'' ⊢
    omega

/-- An expression stands at the place of one of its tokens. -/
theorem Derives.position_mem {phrase : Phrase} {ts : List Token} (h : Derives phrase ts) {e : Expr}
    (he : phrase.expr? = some e) : ∃ t ∈ ts, t.position = e.position := by
  have hle := h.countAt_le e.position
  have hself : Position.at e.position e.position = 1 := if_pos rfl
  rw [Phrase.countAt, he, Option.elim_some, hself] at hle
  exact exists_of_tokensAt_pos (by omega)

/-- If no two tokens stand at the same place, then no two statements do. -/
theorem Derives.nodup_statementPlaces {phrase : Phrase} {ts : List Token} (h : Derives phrase ts)
    (hts : (ts.map (·.position)).Nodup) : (statementPlaces phrase.nodes).Nodup := by
  refine List.nodup_iff_count.mpr fun p => ?_
  have hle := h.countAt_le p
  have htokens : tokensAt p ts ≤ 1 := List.nodup_iff_count.mp hts p
  rw [Phrase.countAt, statementsAt] at hle
  omega

end Grammar

end Scriptlet
