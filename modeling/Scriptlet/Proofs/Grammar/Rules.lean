import Mathlib.Algebra.Group.Nat.Defs
import Scriptlet.Proofs.Grammar.Completeness
import Scriptlet.Proofs.Grammar.Soundness
import Scriptlet.Proofs.Text.Numerals

/-!
# Derivations

The grammar once more, in the form in which it is written for readers: with repetition where
`Derives` has rules that refer to themselves on the left.

    expression     := membership
    membership     := equality (("in" | "not in") equality)*
    equality       := relational ("==" relational)*
    relational     := additive ((">" | ">=" | "<" | "<=") additive)*
    additive       := multiplicative (("+" | "-") multiplicative)*
    multiplicative := unary (("*" | "/") unary)*
    unary          := ("-" | "not") unary | primary postfix*
    postfix        := "." NAME | "." call | "[" expression "]"
    primary        := constant | NAME | call | "(" expression ")" | "[" expressions "]" | block
    call           := NAME "(" expressions ")"

Proofs of `Derives` are all equal, so it makes no sense to ask how many there are. Hence a
derivation is data here (`Derivation`): it says which rule was applied to which tokens. The tree
that it spells is a part of its type, and its tokens are a function of it (`Derivation.tokens`).

* `Derivation.derives`: what has a derivation is derived.
* `Derives.derivable`: what is derived has a derivation.
-/

namespace Scriptlet.Grammar

/-! ## Words -/

/-- A token of a kind. -/
structure Terminal (k : Token.Kind) extends Token where
  isKind : kind = k

/-- An operator of a level. -/
structure Sign (l : Level) extends Token where
  operator : Operator
  isOperator : Operator.ofKind kind = some operator
  ofLevel : operator.level = l

/-- Any number of line breaks, at a place where they have no meaning. -/
structure Breaks where
  tokens : List Token
  each : LineBreaks tokens

/-- The tokens that are constants. The numeral of an integer stands for a number of 64 bits. -/
inductive Constant : Token → Literal → Prop
  | integer {t : Token} {n : Int64} (isInteger : t.kind = .integer)
    (value : Decimal.numeral? t.data.toList = some n.toInt) : Constant t (.int n)
  | string {t : Token} (isString : t.kind = .string) : Constant t (.string t.data)
  | trueWord {t : Token} (isTrue : t.kind = .trueWord) : Constant t (.bool true)
  | falseWord {t : Token} (isFalse : t.kind = .falseWord) : Constant t (.bool false)

/-- So the numerals up to `2 ^ 63 - 1` are constants, and no others. -/
theorem exists_constant_iff {t : Token} (isInteger : t.kind = .integer) {n : Nat}
    (hn : Decimal.numeral? t.data.toList = some (n : Int)) :
    (∃ value, Constant t value) ↔ n ≤ 2 ^ 63 - 1 := by
  constructor
  · rintro ⟨value, h⟩
    cases h with
    | @integer m _ hm =>
      have heq : (n : Int) = m.toInt := Option.some.inj (hn.symm.trans hm)
      have hle := m.toInt_lt
      omega
    | string isKind | trueWord isKind | falseWord isKind =>
      rw [isInteger] at isKind
      cases isKind
  · intro hle
    refine ⟨.int (Int64.ofInt n), .integer isInteger ?_⟩
    rw [hn, Int64.toInt_ofInt_of_le (by omega) (by omega)]

/-! ## Rules -/

/-- What the elements of a list are. -/
inductive Item where
  | expression
  | parameter

@[reducible] def Item.Tree : Item → Type
  | expression => Expr
  | parameter => Variable

/-- The left sides of the rules. -/
inductive Category where
  /-- Operands of a level and operators between them; without a level, an expression with prefix
  operators. -/
  | tier (level : Option Level)
  /-- The operators that follow the expression `left`, with their right operands. -/
  | chain (level : Level) (left : Expr)
  /-- The members that follow the expression `node`. -/
  | postfixes (node : Expr)
  | primary
  | call
  /-- An element of a list. -/
  | item (i : Item)
  /-- What stands between the delimiters of a list. -/
  | elements (i : Item)
  /-- What stands behind an element, up to the closing delimiter. -/
  | further (i : Item)
  /-- A block with its braces. -/
  | block
  | statements
  /-- A statement other than a line break or a comment. -/
  | statement
  | conditional
  /-- What stands behind an `else`. -/
  | branch

/-- What is spelled. -/
@[reducible] def Category.Tree : Category → Type
  | tier _ | chain _ _ | postfixes _ | primary => Expr
  | call => Call
  | item i => i.Tree
  | elements i | further i => List i.Tree
  | block | branch => Block
  | statements => List Statement
  | statement | conditional => Statement

/-- An expression. -/
abbrev Category.expression : Category :=
  .tier (some .membership)

/-- What may follow a statement that does not end in a block: nothing, a line break, or a comment.
-/
def Separates (ss : List Statement) : Prop :=
  ∀ s ∈ ss.head?, s.isTrivia = true

/-- The ways to derive a tree by the rules of the grammar. -/
inductive Derivation : (c : Category) → c.Tree → Type
  -- `level := tighter (sign tighter)*`; the operators group to the left.
  | operators {l : Level} {e e' : Expr} (first : Derivation (.tier l.tighter) e)
    (rest : Derivation (.chain l e) e') : Derivation (.tier (some l)) e'
  | lastOperand {l : Level} {left : Expr} : Derivation (.chain l left) left
  | operator {l : Level} {left e e' : Expr} (sign : Sign l)
    (operand : Derivation (.tier l.tighter) e)
    (rest : Derivation (.chain l (.binary left sign.operator e sign.position)) e') :
    Derivation (.chain l left) e'
  -- `unary := "-" unary | "not" unary | primary postfix*`
  | minus {e : Expr} (sign : Terminal .minus) (operand : Derivation (.tier none) e) :
    Derivation (.tier none)
      (.binary (.literal (.int 0) sign.position) .sub e sign.position)
  | not {e : Expr} (word : Terminal .notWord) (operand : Derivation (.tier none) e) :
    Derivation (.tier none)
      (.binary e .equal (.literal (.bool false) word.position) word.position)
  | members {e e' : Expr} (object : Derivation .primary e)
    (rest : Derivation (.postfixes e) e') : Derivation (.tier none) e'
  -- `postfix := "." NAME | "." call | "[" expression "]"`, with line breaks inside the brackets.
  | noMember {e : Expr} : Derivation (.postfixes e) e
  | memberName {e e' : Expr} (dot : Terminal .dot) (n : Terminal .name)
    (rest : Derivation (.postfixes (.field e (.name ⟨n.data, n.position⟩) e.position)) e') :
    Derivation (.postfixes e) e'
  | memberCall {e e' : Expr} {c : Call} (dot : Terminal .dot) (method : Derivation .call c)
    (rest : Derivation (.postfixes (.field e (.call c) e.position)) e') :
    Derivation (.postfixes e) e'
  | memberIndex {e e' key : Expr} (opening : Terminal .leftBracket) (before : Breaks)
    (index : Derivation .expression key) (after : Breaks) (closing : Terminal .rightBracket)
    (rest : Derivation (.postfixes (.field e (.index key) e.position)) e') :
    Derivation (.postfixes e) e'
  -- `primary := constant | NAME | call | "(" expression ")" | "[" expressions "]" | block`
  | constant {value : Literal} (t : Token) (h : Constant t value) :
    Derivation .primary (.literal value t.position)
  | var (n : Terminal .name) : Derivation .primary (.var ⟨n.data, n.position⟩)
  | called {c : Call} (h : Derivation .call c) : Derivation .primary (.call c)
  | parenthesized {e : Expr} (opening : Terminal .leftParen) (before : Breaks)
    (inner : Derivation .expression e) (after : Breaks) (closing : Terminal .rightParen) :
    Derivation .primary e
  | list {es : List Expr} (opening : Terminal .leftBracket)
    (values : Derivation (.elements .expression) es) (closing : Terminal .rightBracket) :
    Derivation .primary (.list es opening.position)
  | mapping {b : Block} (h : Derivation .block b) : Derivation .primary (.block b)
  -- `call := NAME "(" expressions ")"`
  | call {es : List Expr} (n : Terminal .name) (opening : Terminal .leftParen)
    (arguments : Derivation (.elements .expression) es) (closing : Terminal .rightParen) :
    Derivation .call ⟨n.data, es, n.position⟩
  | value {e : Expr} (h : Derivation .expression e) : Derivation (.item .expression) e
  | parameter (n : Terminal .name) : Derivation (.item .parameter) ⟨n.data, n.position⟩
  -- `items := [item ("," item)*]`, with line breaks around items and commas.
  | noElements {i : Item} (breaks : Breaks) : Derivation (.elements i) []
  | elements {i : Item} {a : i.Tree} {as : List i.Tree} (before : Breaks)
    (first : Derivation (.item i) a) (after : Breaks) (rest : Derivation (.further i) as) :
    Derivation (.elements i) (a :: as)
  | lastElement {i : Item} : Derivation (.further i) []
  | further {i : Item} {a : i.Tree} {as : List i.Tree} (comma : Terminal .comma)
    (before : Breaks) (following : Derivation (.item i) a) (after : Breaks)
    (rest : Derivation (.further i) as) : Derivation (.further i) (a :: as)
  -- `block := "{" statements "}"`
  | block {ss : List Statement} (opening : Terminal .leftBrace)
    (body : Derivation .statements ss) (closing : Terminal .rightBrace) :
    Derivation .block ⟨ss, opening.position⟩
  -- `statements := (NEWLINE | COMMENT | statement)*`, with a line break or a comment between a
  -- statement that does not end in a block and the next statement.
  | noStatements : Derivation .statements []
  | newLine {ss : List Statement} (t : Terminal .newLine) (rest : Derivation .statements ss) :
    Derivation .statements (.newLine t.position :: ss)
  | comment {ss : List Statement} (t : Terminal .comment) (rest : Derivation .statements ss) :
    Derivation .statements (.comment ⟨t.data, t.position⟩ :: ss)
  | next {s : Statement} {ss : List Statement} (first : Derivation .statement s)
    (ends : s.endsInBlock = true ∨ Separates ss) (rest : Derivation .statements ss) :
    Derivation .statements (s :: ss)
  -- `statement := conditional | loop | "return" [expression] | "break" | "continue" | definition |
  -- assignment | expression`
  | conditional {s : Statement} (h : Derivation .conditional s) : Derivation .statement s
  -- `loop := "for" [NAME ","] NAME "in" expression block`
  | loop {iterable : Expr} {b : Block} (word : Terminal .forWord) (item : Terminal .name)
    (inWord : Terminal .inWord) (iterated : Derivation .expression iterable)
    (body : Derivation .block b) :
    Derivation .statement (.loop none ⟨item.data, item.position⟩ iterable b word.position)
  | indexedLoop {iterable : Expr} {b : Block} (word : Terminal .forWord)
    (index : Terminal .name) (comma : Terminal .comma) (item : Terminal .name)
    (inWord : Terminal .inWord) (iterated : Derivation .expression iterable)
    (body : Derivation .block b) :
    Derivation .statement (.loop (some ⟨index.data, index.position⟩)
      ⟨item.data, item.position⟩ iterable b word.position)
  | exit (word : Terminal .returnWord) : Derivation .statement (.exit none word.position)
  | exitWith {e : Expr} (word : Terminal .returnWord) (result : Derivation .expression e) :
    Derivation .statement (.exit (some e) word.position)
  | stop (word : Terminal .breakWord) : Derivation .statement (.stop word.position)
  | skip (word : Terminal .continueWord) : Derivation .statement (.skip word.position)
  -- `definition := NAME "(" parameters ")" block`
  | definition {parameters : List Variable} {b : Block} (n : Terminal .name)
    (opening : Terminal .leftParen) (names : Derivation (.elements .parameter) parameters)
    (closing : Terminal .rightParen) (body : Derivation .block b) :
    Derivation .statement (.function ⟨n.data, parameters, b, n.position⟩)
  -- `assignment := expression "=" expression`, where a name or a field stands on the left.
  | assign {target assigned : Expr} (place : Derivation .expression target)
    (isPlace : target.isPlace = true) (sign : Terminal .assign)
    (content : Derivation .expression assigned) :
    Derivation .statement (.assign target assigned target.position)
  | expression {e : Expr} (h : Derivation .expression e) : Derivation .statement (.expression e)
  -- `conditional := "if" expression block ["else" branch]`, without line breaks in between.
  | ifThen {condition : Expr} {b : Block} (word : Terminal .ifWord)
    (test : Derivation .expression condition) (body : Derivation .block b) :
    Derivation .conditional (.conditional condition b none word.position)
  | ifThenElse {condition : Expr} {b b' : Block} (word : Terminal .ifWord)
    (test : Derivation .expression condition) (body : Derivation .block b)
    (elseWord : Terminal .elseWord) (otherwise : Derivation .branch b') :
    Derivation .conditional (.conditional condition b (some b') word.position)
  -- `branch := block | conditional`
  | branchBlock {b : Block} (h : Derivation .block b) : Derivation .branch b
  | branchIf {s : Statement} (nested : Derivation .conditional s) :
    Derivation .branch ⟨[s], s.position⟩

/-- The tokens to which the rules were applied. -/
@[simp]
def Derivation.tokens : {c : Category} → {a : c.Tree} → Derivation c a → List Token
  | _, _, .operators first rest => first.tokens ++ rest.tokens
  | _, _, .lastOperand => []
  | _, _, .operator sign operand rest => sign.toToken :: (operand.tokens ++ rest.tokens)
  | _, _, .minus sign operand => sign.toToken :: operand.tokens
  | _, _, .not word operand => word.toToken :: operand.tokens
  | _, _, .members object rest => object.tokens ++ rest.tokens
  | _, _, .noMember => []
  | _, _, .memberName dot n rest => dot.toToken :: n.toToken :: rest.tokens
  | _, _, .memberCall dot method rest => dot.toToken :: (method.tokens ++ rest.tokens)
  | _, _, .memberIndex opening before index after closing rest =>
    opening.toToken ::
      (before.tokens ++ (index.tokens ++ (after.tokens ++ closing.toToken :: rest.tokens)))
  | _, _, .constant t _ => [t]
  | _, _, .var n => [n.toToken]
  | _, _, .called h => h.tokens
  | _, _, .parenthesized opening before inner after closing =>
    opening.toToken :: (before.tokens ++ (inner.tokens ++ (after.tokens ++ [closing.toToken])))
  | _, _, .list opening values closing => opening.toToken :: (values.tokens ++ [closing.toToken])
  | _, _, .mapping h => h.tokens
  | _, _, .call n opening arguments closing =>
    n.toToken :: opening.toToken :: (arguments.tokens ++ [closing.toToken])
  | _, _, .value h => h.tokens
  | _, _, .parameter n => [n.toToken]
  | _, _, .noElements breaks => breaks.tokens
  | _, _, .elements before first after rest =>
    before.tokens ++ (first.tokens ++ (after.tokens ++ rest.tokens))
  | _, _, .lastElement => []
  | _, _, .further comma before following after rest =>
    comma.toToken :: (before.tokens ++ (following.tokens ++ (after.tokens ++ rest.tokens)))
  | _, _, .block opening body closing => opening.toToken :: (body.tokens ++ [closing.toToken])
  | _, _, .noStatements => []
  | _, _, .newLine t rest => t.toToken :: rest.tokens
  | _, _, .comment t rest => t.toToken :: rest.tokens
  | _, _, .next first _ rest => first.tokens ++ rest.tokens
  | _, _, .conditional h => h.tokens
  | _, _, .loop word item inWord iterated body =>
    word.toToken :: item.toToken :: inWord.toToken :: (iterated.tokens ++ body.tokens)
  | _, _, .indexedLoop word index comma item inWord iterated body =>
    word.toToken :: index.toToken :: comma.toToken :: item.toToken :: inWord.toToken ::
      (iterated.tokens ++ body.tokens)
  | _, _, .exit word => [word.toToken]
  | _, _, .exitWith word result => word.toToken :: result.tokens
  | _, _, .stop word => [word.toToken]
  | _, _, .skip word => [word.toToken]
  | _, _, .definition n opening names closing body =>
    n.toToken :: opening.toToken :: (names.tokens ++ closing.toToken :: body.tokens)
  | _, _, .assign place _ sign content => place.tokens ++ sign.toToken :: content.tokens
  | _, _, .expression h => h.tokens
  | _, _, .ifThen word test body => word.toToken :: (test.tokens ++ body.tokens)
  | _, _, .ifThenElse word test body elseWord otherwise =>
    word.toToken :: (test.tokens ++ (body.tokens ++ elseWord.toToken :: otherwise.tokens))
  | _, _, .branchBlock h => h.tokens
  | _, _, .branchIf nested => nested.tokens

/-! ## What has a derivation is derived -/

/-- What an element of a list spells. -/
def Item.Derives : (i : Item) → i.Tree → List Token → Prop
  | .expression, e, ts => Grammar.Derives (.expression e) ts
  | .parameter, v, ts => Named v ts

/-- What the rules of `Derives` say of a derivation's tokens. -/
def Category.Derives : (c : Category) → c.Tree → List Token → Prop
  | .tier l, e, ts => Grammar.Derives (.tier l e) ts
  | .chain l left, e, ts =>
    ∀ us, Grammar.Derives (.tier (some l) left) us → Grammar.Derives (.tier (some l) e) (us ++ ts)
  | .postfixes node, e, ts =>
    ∀ us, Grammar.Derives (.members node) us → Grammar.Derives (.members e) (us ++ ts)
  | .primary, e, ts => Grammar.Derives (.primary e) ts
  | .call, c, ts => Grammar.Derives (.call c) ts
  | .item i, a, ts => i.Derives a ts
  | .elements i, as, ts => Listed i.Derives as ts
  | .further i, as, ts => ∀ a before us after, LineBreaks before → i.Derives a us →
    LineBreaks after → Listed i.Derives (a :: as) (before ++ (us ++ (after ++ ts)))
  | .block, b, ts => Grammar.Derives (.block b) ts
  | .statements, ss, ts => Grammar.Derives (.statements ss) ts
  | .statement, s, ts => Grammar.Derives (.statement s) ts
  | .conditional, s, ts => Grammar.Derives (.conditional s) ts
  | .branch, b, ts => Grammar.Derives (.branch b) ts

theorem Constant.derives {t : Token} {value : Literal} (h : Constant t value) :
    Derives (.primary (.literal value t.position)) [t] := by
  cases h with
  | integer isInteger value => exact .integer isInteger (Decimal.readInt64?_eq_some_iff.mpr value)
  | string isString => exact .string isString
  | trueWord isTrue => exact .trueWord isTrue
  | falseWord isFalse => exact .falseWord isFalse

theorem Separates.separated {ss : List Statement} {ts : List Token} (h : Separates ss)
    (hts : Derives (.statements ss) ts) : Separated ts := by
  cases hts with
  | noStatements => exact .inl rfl
  | newLine isNewLine _ => exact .inr (.inl isNewLine)
  | comment isComment _ => exact .inr (.inr isComment)
  | next first _ _ =>
    have htrivia := h _ rfl
    cases first with
    | conditional h => cases h <;> cases htrivia
    | _ => cases htrivia

theorem Separated.separates {ss : List Statement} {ts : List Token} (h : Separated ts)
    (hts : Derives (.statements ss) ts) : Separates ss := by
  cases hts with
  | noStatements =>
    intro s hs
    cases hs
  | newLine _ _ | comment _ _ =>
    intro s hs
    cases hs
    rfl
  | next first _ _ =>
    obtain ⟨t, us, rfl, ht⟩ := first.starts rfl
    rcases h with h | h | h
    · cases h
    · exact absurd h (ne_of_startsStatement ht rfl)
    · exact absurd h (ne_of_startsStatement ht rfl)

theorem Derives.conditional_position {s : Statement} {ts : List Token}
    (h : Derives (.conditional s) ts) : ∃ t us, ts = t :: us ∧ s.position = t.position := by
  cases h with
  | ifThen _ _ _ => exact ⟨_, _, rfl, rfl⟩
  | ifThenElse _ _ _ _ _ => exact ⟨_, _, rfl, rfl⟩

theorem Derivation.derives {c : Category} {a : c.Tree} (d : Derivation c a) :
    c.Derives a d.tokens := by
  induction d with
  | operators _ _ ih ih' => exact ih' _ (.operand ih)
  | lastOperand =>
    intro us hus
    rwa [tokens, List.append_nil]
  | operator sign _ _ ih ih' =>
    intro us hus
    obtain ⟨t, o, ho, rfl⟩ := sign
    have h := ih' _ (.binary hus ho ih)
    rwa [List.append_assoc, List.cons_append] at h
  | minus sign _ ih => exact .minus sign.isKind ih
  | not word _ ih => exact .not word.isKind ih
  | members _ _ ih ih' => exact .members (ih' _ (.primary ih))
  | noMember =>
    intro us hus
    rwa [tokens, List.append_nil]
  | memberName dot n _ ih =>
    intro us hus
    have h := ih _ (.memberName hus dot.isKind n.isKind)
    rwa [List.append_assoc] at h
  | memberCall dot _ _ ih ih' =>
    intro us hus
    have h := ih' _ (.memberCall hus dot.isKind ih)
    rwa [List.append_assoc, List.cons_append] at h
  | memberIndex opening before _ after closing _ ih ih' =>
    intro us hus
    have h := ih' _ (.memberIndex hus opening.isKind before.each ih after.each closing.isKind)
    simpa using h
  | constant t h => exact h.derives
  | var n => exact .var n.isKind
  | called _ ih => exact .called ih
  | parenthesized opening before _ after closing ih =>
    have h := Grammar.Derives.parenthesized opening.isKind before.each ih after.each closing.isKind
    simpa [Category.Derives] using h
  | list opening _ closing ih => exact .list opening.isKind (arguments_of_listed ih) closing.isKind
  | mapping _ ih => exact .mapping ih
  | call n opening _ closing ih =>
    exact .call n.isKind opening.isKind (arguments_of_listed ih) closing.isKind
  | value _ ih => exact ih
  | parameter n => exact ⟨_, n.isKind, rfl, rfl⟩
  | noElements breaks => exact .none breaks.each
  | elements before _ after _ ih ih' => exact ih' _ _ _ _ before.each ih after.each
  | lastElement =>
    intro a before us after hbefore hus hafter
    have h : Listed _ [a] _ := .last hbefore hus hafter
    simpa using h
  | further comma before' _ after' _ ih ih' =>
    intro a before us after hbefore hus hafter
    have htail := ih' _ _ _ _ before'.each ih after'.each
    have h := Listed.more hbefore hus hafter comma.isKind (List.cons_ne_nil _ _) htail
    simpa using h
  | block opening _ closing ih => exact .block opening.isKind ih closing.isKind
  | noStatements => exact .noStatements
  | newLine t _ ih => exact .newLine t.isKind ih
  | comment t _ ih => exact .comment t.isKind ih
  | next _ ends _ ih ih' => exact .next ih (ends.imp_right fun h => h.separated ih') ih'
  | conditional _ ih => exact .conditional ih
  | loop word item inWord _ _ ih ih' => exact .loop word.isKind item.isKind inWord.isKind ih ih'
  | indexedLoop word index comma item inWord _ _ ih ih' =>
    exact .indexedLoop word.isKind index.isKind comma.isKind item.isKind inWord.isKind ih ih'
  | exit word => exact .exit word.isKind
  | exitWith word _ ih => exact .exitWith word.isKind ih
  | stop word => exact .stop word.isKind
  | skip word => exact .skip word.isKind
  | definition n opening _ closing _ ih ih' =>
    exact .definition n.isKind opening.isKind ih closing.isKind ih'
  | assign _ isPlace sign _ ih ih' => exact .assign ih isPlace sign.isKind ih'
  | expression _ ih => exact .expression ih
  | ifThen word _ _ ih ih' => exact .ifThen word.isKind ih ih'
  | ifThenElse word _ _ elseWord _ ih ih' ih'' =>
    have h := Grammar.Derives.ifThenElse word.isKind ih ih' elseWord.isKind ih''
    simpa [Category.Derives] using h
  | branchBlock _ ih => exact .branchBlock ih
  | branchIf nested ih =>
    obtain ⟨t, us, hts, hposition⟩ := ih.conditional_position
    have hnested : Grammar.Derives (.conditional _) _ := ih
    rw [hts] at hnested
    have h := Grammar.Derives.branchIf hnested
    rw [← hposition, ← hts] at h
    exact h

/-! ## What is derived has a derivation -/

/-- Some derivation in the category has these tokens. -/
def Derivable (c : Category) (a : c.Tree) (ts : List Token) : Prop :=
  ∃ d : Derivation c a, d.tokens = ts

namespace Derivation

/-- A further operator and its operand behind a chain. -/
theorem snoc_operator {l : Level} {left e e' : Expr} (sign : Sign l)
    (operand : Derivation (.tier l.tighter) e') : (d : Derivation (.chain l left) e) →
    Derivable (.chain l left) (.binary e sign.operator e' sign.position)
      (d.tokens ++ sign.toToken :: operand.tokens)
  | .lastOperand => ⟨.operator sign operand .lastOperand, by simp⟩
  | .operator sign' operand' rest => by
    obtain ⟨d, hd⟩ := snoc_operator sign operand rest
    exact ⟨.operator sign' operand' d, by simp [hd]⟩

/-- A further member behind members. -/
theorem snoc_member {node e e' : Expr} {ts : List Token}
    (h : Derivable (.postfixes e) e' ts) : (d : Derivation (.postfixes node) e) →
    Derivable (.postfixes node) e' (d.tokens ++ ts)
  | .noMember => h
  | .memberName dot n rest => by
    obtain ⟨d, hd⟩ := rest.snoc_member h
    exact ⟨.memberName dot n d, by simp [hd]⟩
  | .memberCall dot method rest => by
    obtain ⟨d, hd⟩ := rest.snoc_member h
    exact ⟨.memberCall dot method d, by simp [hd]⟩
  | .memberIndex opening before index after closing rest => by
    obtain ⟨d, hd⟩ := rest.snoc_member h
    exact ⟨.memberIndex opening before index after closing d, by simp [hd]⟩

/-- A further element in front of elements. -/
theorem cons_element {i : Item} {a : i.Tree} {as : List i.Tree} (before : Breaks)
    (first : Derivation (.item i) a) (after : Breaks) (comma : Terminal .comma)
    (hne : as ≠ []) : (d : Derivation (.elements i) as) →
    Derivable (.elements i) (a :: as)
      (before.tokens ++ first.tokens ++ after.tokens ++ comma.toToken :: d.tokens)
  | .noElements _ => absurd rfl hne
  | .elements before' first' after' rest =>
    ⟨.elements before first after (.further comma before' first' after' rest), by simp⟩

end Derivation

/-- What the rules of `Derives` derive has a derivation. -/
def Phrase.Derivable : Phrase → List Token → Prop
  | .tier l e, ts => Grammar.Derivable (.tier l) e ts
  | .members e, ts => ∃ e₀ us vs, Grammar.Derivable .primary e₀ us ∧
    Grammar.Derivable (.postfixes e₀) e vs ∧ ts = us ++ vs
  | .primary e, ts => Grammar.Derivable .primary e ts
  | .arguments es, ts => Grammar.Derivable (.elements .expression) es ts
  | .call c, ts => Grammar.Derivable .call c ts
  | .block b, ts => Grammar.Derivable .block b ts
  | .statements ss, ts => Grammar.Derivable .statements ss ts
  | .statement s, ts => Grammar.Derivable .statement s ts
  | .conditional s, ts => Grammar.Derivable .conditional s ts
  | .branch b, ts => Grammar.Derivable .branch b ts

theorem Phrase.Derivable.member {e e' : Expr} {ts us : List Token}
    (h : (Phrase.members e).Derivable ts) (h' : Grammar.Derivable (.postfixes e) e' us) :
    (Phrase.members e').Derivable (ts ++ us) := by
  obtain ⟨e₀, vs, ws, hobject, ⟨d, rfl⟩, rfl⟩ := h
  exact ⟨e₀, vs, d.tokens ++ us, hobject, d.snoc_member h', List.append_assoc _ _ _⟩

theorem Listed.derivable {i : Item} {D : i.Tree → List Token → Prop}
    (hD : ∀ a ts, D a ts → Derivable (.item i) a ts) {as : List i.Tree} {ts : List Token}
    (h : Listed D as ts) : Derivable (.elements i) as ts := by
  induction h with
  | none breaks => exact ⟨.noElements ⟨_, breaks⟩, rfl⟩
  | last breaks element breaks' =>
    obtain ⟨d, rfl⟩ := hD _ _ element
    exact ⟨.elements ⟨_, breaks⟩ d ⟨_, breaks'⟩ .lastElement, by simp⟩
  | more breaks element breaks' isComma further _ ih =>
    obtain ⟨d, rfl⟩ := hD _ _ element
    obtain ⟨tail, rfl⟩ := ih
    exact Derivation.cons_element ⟨_, breaks⟩ d ⟨_, breaks'⟩ ⟨_, isComma⟩ further tail

theorem Named.derivable {v : Variable} {ts : List Token} (h : Named v ts) :
    Derivable (.item .parameter) v ts := by
  obtain ⟨n, isName, rfl, rfl⟩ := h
  exact ⟨.parameter ⟨n, isName⟩, rfl⟩

theorem Derives.derivable {phrase : Phrase} {ts : List Token} (h : Derives phrase ts) :
    phrase.Derivable ts := by
  induction h with
  | operand _ ih =>
    obtain ⟨d, rfl⟩ := ih
    exact ⟨.operators d .lastOperand, by simp⟩
  | binary _ isOperator _ ih ih' =>
    obtain ⟨d, rfl⟩ := ih
    obtain ⟨operand, rfl⟩ := ih'
    cases d with
    | operators first rest =>
      obtain ⟨rest', hrest⟩ := Derivation.snoc_operator ⟨_, _, isOperator, rfl⟩ operand rest
      exact ⟨.operators first rest', by simp [hrest]⟩
  | minus isMinus _ ih =>
    obtain ⟨d, rfl⟩ := ih
    exact ⟨.minus ⟨_, isMinus⟩ d, rfl⟩
  | not isNot _ ih =>
    obtain ⟨d, rfl⟩ := ih
    exact ⟨.not ⟨_, isNot⟩ d, rfl⟩
  | members _ ih =>
    obtain ⟨e₀, _, _, ⟨object, rfl⟩, ⟨rest, rfl⟩, rfl⟩ := ih
    exact ⟨.members object rest, rfl⟩
  | primary _ ih => exact ⟨_, _, [], ih, ⟨.noMember, rfl⟩, (List.append_nil _).symm⟩
  | memberName _ isDot isName ih =>
    exact ih.member ⟨.memberName ⟨_, isDot⟩ ⟨_, isName⟩ .noMember, rfl⟩
  | memberCall _ isDot _ ih ih' =>
    obtain ⟨method, rfl⟩ := ih'
    exact ih.member ⟨.memberCall ⟨_, isDot⟩ method .noMember, by simp⟩
  | memberIndex _ opens breaks _ breaks' closes ih ih' =>
    obtain ⟨index, rfl⟩ := ih'
    exact ih.member ⟨.memberIndex ⟨_, opens⟩ ⟨_, breaks⟩ index ⟨_, breaks'⟩ ⟨_, closes⟩ .noMember,
      by simp⟩
  | integer isInteger value =>
    exact ⟨.constant _ (.integer isInteger (Decimal.readInt64?_eq_some_iff.mp value)), rfl⟩
  | string isString => exact ⟨.constant _ (.string isString), rfl⟩
  | trueWord isTrue => exact ⟨.constant _ (.trueWord isTrue), rfl⟩
  | falseWord isFalse => exact ⟨.constant _ (.falseWord isFalse), rfl⟩
  | var isName => exact ⟨.var ⟨_, isName⟩, rfl⟩
  | called _ ih =>
    obtain ⟨d, rfl⟩ := ih
    exact ⟨.called d, rfl⟩
  | parenthesized opens breaks _ breaks' closes ih =>
    obtain ⟨d, rfl⟩ := ih
    exact ⟨.parenthesized ⟨_, opens⟩ ⟨_, breaks⟩ d ⟨_, breaks'⟩ ⟨_, closes⟩,
      by simp⟩
  | list opens _ closes ih =>
    obtain ⟨d, rfl⟩ := ih
    exact ⟨.list ⟨_, opens⟩ d ⟨_, closes⟩, rfl⟩
  | mapping _ ih =>
    obtain ⟨d, rfl⟩ := ih
    exact ⟨.mapping d, rfl⟩
  | noArguments breaks => exact ⟨.noElements ⟨_, breaks⟩, rfl⟩
  | lastArgument breaks _ breaks' ih =>
    obtain ⟨d, rfl⟩ := ih
    exact ⟨.elements ⟨_, breaks⟩ (.value d) ⟨_, breaks'⟩ .lastElement, by simp⟩
  | moreArguments breaks _ breaks' isComma further _ ih ih' =>
    obtain ⟨d, rfl⟩ := ih
    obtain ⟨tail, rfl⟩ := ih'
    exact Derivation.cons_element ⟨_, breaks⟩ (.value d) ⟨_, breaks'⟩ ⟨_, isComma⟩ further tail
  | call isName opens _ closes ih =>
    obtain ⟨d, rfl⟩ := ih
    exact ⟨.call ⟨_, isName⟩ ⟨_, opens⟩ d ⟨_, closes⟩, rfl⟩
  | block opens _ closes ih =>
    obtain ⟨d, rfl⟩ := ih
    exact ⟨.block ⟨_, opens⟩ d ⟨_, closes⟩, rfl⟩
  | noStatements => exact ⟨.noStatements, rfl⟩
  | newLine isNewLine _ ih =>
    obtain ⟨d, rfl⟩ := ih
    exact ⟨.newLine ⟨_, isNewLine⟩ d, rfl⟩
  | comment isComment _ ih =>
    obtain ⟨d, rfl⟩ := ih
    exact ⟨.comment ⟨_, isComment⟩ d, rfl⟩
  | next _ ends tail ih ih' =>
    obtain ⟨d, rfl⟩ := ih
    obtain ⟨rest, rfl⟩ := ih'
    exact ⟨.next d (ends.imp_right fun h => h.separates tail) rest, rfl⟩
  | conditional _ ih =>
    obtain ⟨d, rfl⟩ := ih
    exact ⟨.conditional d, rfl⟩
  | ifThen isIf _ _ ih ih' =>
    obtain ⟨d, rfl⟩ := ih
    obtain ⟨body, rfl⟩ := ih'
    exact ⟨.ifThen ⟨_, isIf⟩ d body, rfl⟩
  | ifThenElse isIf _ _ isElse _ ih ih' ih'' =>
    obtain ⟨d, rfl⟩ := ih
    obtain ⟨body, rfl⟩ := ih'
    obtain ⟨otherwise, rfl⟩ := ih''
    exact ⟨.ifThenElse ⟨_, isIf⟩ d body ⟨_, isElse⟩ otherwise, by simp⟩
  | branchBlock _ ih =>
    obtain ⟨d, rfl⟩ := ih
    exact ⟨.branchBlock d, rfl⟩
  | branchIf h ih =>
    obtain ⟨d, hd⟩ := ih
    obtain ⟨t, us, hts, hposition⟩ := h.conditional_position
    obtain ⟨rfl, rfl⟩ := List.cons.inj hts
    rw [← hposition]
    exact ⟨.branchIf d, hd⟩
  | loop isFor isItem isIn _ _ ih ih' =>
    obtain ⟨d, rfl⟩ := ih
    obtain ⟨body, rfl⟩ := ih'
    exact ⟨.loop ⟨_, isFor⟩ ⟨_, isItem⟩ ⟨_, isIn⟩ d body, rfl⟩
  | indexedLoop isFor isIndex isComma isItem isIn _ _ ih ih' =>
    obtain ⟨d, rfl⟩ := ih
    obtain ⟨body, rfl⟩ := ih'
    exact ⟨.indexedLoop ⟨_, isFor⟩ ⟨_, isIndex⟩ ⟨_, isComma⟩ ⟨_, isItem⟩ ⟨_, isIn⟩ d body, rfl⟩
  | exit isReturn => exact ⟨.exit ⟨_, isReturn⟩, rfl⟩
  | exitWith isReturn _ ih =>
    obtain ⟨d, rfl⟩ := ih
    exact ⟨.exitWith ⟨_, isReturn⟩ d, rfl⟩
  | stop isBreak => exact ⟨.stop ⟨_, isBreak⟩, rfl⟩
  | skip isContinue => exact ⟨.skip ⟨_, isContinue⟩, rfl⟩
  | definition isName opens names closes _ ih =>
    obtain ⟨d, rfl⟩ := Listed.derivable (i := .parameter) (fun _ _ h => h.derivable) names
    obtain ⟨body, rfl⟩ := ih
    exact ⟨.definition ⟨_, isName⟩ ⟨_, opens⟩ d ⟨_, closes⟩ body, rfl⟩
  | assign _ isPlace isAssign _ ih ih' =>
    obtain ⟨d, rfl⟩ := ih
    obtain ⟨content, rfl⟩ := ih'
    exact ⟨.assign d isPlace ⟨_, isAssign⟩ content, rfl⟩
  | expression _ ih =>
    obtain ⟨d, rfl⟩ := ih
    exact ⟨.expression d, rfl⟩

end Scriptlet.Grammar
