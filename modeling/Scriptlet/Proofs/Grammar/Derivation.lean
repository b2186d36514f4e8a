import Scriptlet.Grammar.Parser

/-!
# The grammar of programs

Which tokens spell which trees, given by rules and without regard to how a reader finds its way
(`Derives`). The readers of `Grammar.Parser` look ahead at two places: to tell a definition from a
call, they look for a brace behind the parentheses, and to tell whether something is over, they look
at the next token. The lemmas here say what they find.

* `Derives.balanced`: the parentheses in a phrase match, so looking for the brace passes over them.
* `Derives.starts`: how a phrase may start.
* `Derives.startsDefinition_eq_false`: an expression does not look like a definition.
-/

namespace Scriptlet.Grammar

/-- Any number of line breaks. -/
def LineBreaks (ts : List Token) : Prop :=
  ∀ t ∈ ts, t.kind = .newLine

theorem LineBreaks.nil : LineBreaks [] :=
  List.forall_mem_nil _

/-- Elements with commas between them, and line breaks around elements and commas. -/
inductive Listed {α : Type} (D : α → List Token → Prop) : List α → List Token → Prop
  | none {ts : List Token} (breaks : LineBreaks ts) : Listed D [] ts
  | last {a : α} {before ts after : List Token} (breaks : LineBreaks before) (element : D a ts)
    (breaks' : LineBreaks after) : Listed D [a] (before ++ ts ++ after)
  | more {a : α} {as : List α} {comma : Token} {before ts after ts' : List Token}
    (breaks : LineBreaks before) (element : D a ts) (breaks' : LineBreaks after)
    (isComma : comma.kind = .comma) (further : as ≠ []) (tail : Listed D as ts') :
    Listed D (a :: as) (before ++ ts ++ after ++ comma :: ts')

/-- A token that is the name of a variable. -/
def Named (v : Variable) (ts : List Token) : Prop :=
  ∃ n : Token, n.kind = .name ∧ v = ⟨n.data, n.position⟩ ∧ ts = [n]

/-- What may stand behind a statement that does not end in a block: nothing, a line break, or a
comment. -/
def Separated (ts : List Token) : Prop :=
  ts = [] ∨ peekKind ts = .newLine ∨ peekKind ts = .comment

/-- What tokens may spell. -/
inductive Phrase where
  /-- Operands of a level and operators of this level between them; without a level, an expression
  with prefix operators. -/
  | tier (level : Option Level) (e : Expr)
  /-- A primary and its members. -/
  | members (e : Expr)
  | primary (e : Expr)
  /-- What stands between the delimiters of a list or of arguments. -/
  | arguments (es : List Expr)
  | call (c : Call)
  /-- A block with its braces. -/
  | block (b : Block)
  | statements (ss : List Statement)
  /-- A statement other than a line break or a comment. -/
  | statement (s : Statement)
  | conditional (s : Statement)
  /-- What stands behind an `else`. -/
  | branch (b : Block)

/-- An expression. -/
abbrev Phrase.expression (e : Expr) : Phrase :=
  .tier (some .membership) e

/-- The rules of the grammar. -/
inductive Derives : Phrase → List Token → Prop
  | operand {l : Level} {e : Expr} {ts : List Token} (h : Derives (.tier l.tighter e) ts) :
    Derives (.tier (some l) e) ts
  | binary {o : Operator} {e e' : Expr} {t : Token} {ts ts' : List Token}
    (left : Derives (.tier (some o.level) e) ts) (isOperator : Operator.ofKind t.kind = some o)
    (right : Derives (.tier o.level.tighter e') ts') :
    Derives (.tier (some o.level) (.binary e o e' t.position)) (ts ++ t :: ts')
  | minus {e : Expr} {t : Token} {ts : List Token} (isMinus : t.kind = .minus)
    (h : Derives (.tier none e) ts) :
    Derives (.tier none (.binary (.literal (.int 0) t.position) .sub e t.position)) (t :: ts)
  | not {e : Expr} {t : Token} {ts : List Token} (isNot : t.kind = .notWord)
    (h : Derives (.tier none e) ts) :
    Derives (.tier none (.binary e .equal (.literal (.bool false) t.position) t.position))
      (t :: ts)
  | members {e : Expr} {ts : List Token} (h : Derives (.members e) ts) : Derives (.tier none e) ts
  | primary {e : Expr} {ts : List Token} (h : Derives (.primary e) ts) : Derives (.members e) ts
  | memberName {e : Expr} {dot n : Token} {ts : List Token} (h : Derives (.members e) ts)
    (isDot : dot.kind = .dot) (isName : n.kind = .name) :
    Derives (.members (.field e (.name ⟨n.data, n.position⟩) e.position)) (ts ++ [dot, n])
  | memberCall {e : Expr} {c : Call} {dot : Token} {ts ts' : List Token}
    (h : Derives (.members e) ts) (isDot : dot.kind = .dot) (call : Derives (.call c) ts') :
    Derives (.members (.field e (.call c) e.position)) (ts ++ dot :: ts')
  | memberIndex {e key : Expr} {opening closing : Token} {ts before ts' after : List Token}
    (h : Derives (.members e) ts) (opens : opening.kind = .leftBracket)
    (breaks : LineBreaks before) (index : Derives (.expression key) ts')
    (breaks' : LineBreaks after) (closes : closing.kind = .rightBracket) :
    Derives (.members (.field e (.index key) e.position))
      (ts ++ opening :: (before ++ ts' ++ after ++ [closing]))
  | integer {t : Token} {n : Int64} (isInteger : t.kind = .integer)
    (value : Decimal.readInt64? t.data = some n) :
    Derives (.primary (.literal (.int n) t.position)) [t]
  | string {t : Token} (isString : t.kind = .string) :
    Derives (.primary (.literal (.string t.data) t.position)) [t]
  | trueWord {t : Token} (isTrue : t.kind = .trueWord) :
    Derives (.primary (.literal (.bool true) t.position)) [t]
  | falseWord {t : Token} (isFalse : t.kind = .falseWord) :
    Derives (.primary (.literal (.bool false) t.position)) [t]
  | var {t : Token} (isName : t.kind = .name) :
    Derives (.primary (.var ⟨t.data, t.position⟩)) [t]
  | called {c : Call} {ts : List Token} (h : Derives (.call c) ts) :
    Derives (.primary (.call c)) ts
  | parenthesized {e : Expr} {opening closing : Token} {before ts after : List Token}
    (opens : opening.kind = .leftParen) (breaks : LineBreaks before)
    (h : Derives (.expression e) ts) (breaks' : LineBreaks after)
    (closes : closing.kind = .rightParen) :
    Derives (.primary e) (opening :: (before ++ ts ++ after ++ [closing]))
  | list {es : List Expr} {opening closing : Token} {ts : List Token}
    (opens : opening.kind = .leftBracket) (h : Derives (.arguments es) ts)
    (closes : closing.kind = .rightBracket) :
    Derives (.primary (.list es opening.position)) (opening :: (ts ++ [closing]))
  | mapping {b : Block} {ts : List Token} (h : Derives (.block b) ts) :
    Derives (.primary (.block b)) ts
  | noArguments {ts : List Token} (breaks : LineBreaks ts) : Derives (.arguments []) ts
  | lastArgument {e : Expr} {before ts after : List Token} (breaks : LineBreaks before)
    (h : Derives (.expression e) ts) (breaks' : LineBreaks after) :
    Derives (.arguments [e]) (before ++ ts ++ after)
  | moreArguments {e : Expr} {es : List Expr} {comma : Token} {before ts after ts' : List Token}
    (breaks : LineBreaks before) (h : Derives (.expression e) ts) (breaks' : LineBreaks after)
    (isComma : comma.kind = .comma) (further : es ≠ []) (tail : Derives (.arguments es) ts') :
    Derives (.arguments (e :: es)) (before ++ ts ++ after ++ comma :: ts')
  | call {es : List Expr} {n opening closing : Token} {ts : List Token} (isName : n.kind = .name)
    (opens : opening.kind = .leftParen) (h : Derives (.arguments es) ts)
    (closes : closing.kind = .rightParen) :
    Derives (.call ⟨n.data, es, n.position⟩) (n :: opening :: (ts ++ [closing]))
  | block {ss : List Statement} {opening closing : Token} {ts : List Token}
    (opens : opening.kind = .leftBrace) (h : Derives (.statements ss) ts)
    (closes : closing.kind = .rightBrace) :
    Derives (.block ⟨ss, opening.position⟩) (opening :: (ts ++ [closing]))
  | noStatements : Derives (.statements []) []
  | newLine {t : Token} {ss : List Statement} {ts : List Token} (isNewLine : t.kind = .newLine)
    (tail : Derives (.statements ss) ts) :
    Derives (.statements (.newLine t.position :: ss)) (t :: ts)
  | comment {t : Token} {ss : List Statement} {ts : List Token} (isComment : t.kind = .comment)
    (tail : Derives (.statements ss) ts) :
    Derives (.statements (.comment ⟨t.data, t.position⟩ :: ss)) (t :: ts)
  | next {s : Statement} {ss : List Statement} {ts ts' : List Token}
    (h : Derives (.statement s) ts) (ends : s.endsInBlock ∨ Separated ts')
    (tail : Derives (.statements ss) ts') : Derives (.statements (s :: ss)) (ts ++ ts')
  | conditional {s : Statement} {ts : List Token} (h : Derives (.conditional s) ts) :
    Derives (.statement s) ts
  | ifThen {condition : Expr} {body : Block} {t : Token} {ts ts' : List Token}
    (isIf : t.kind = .ifWord) (test : Derives (.expression condition) ts)
    (block : Derives (.block body) ts') :
    Derives (.conditional (.conditional condition body none t.position)) (t :: (ts ++ ts'))
  | ifThenElse {condition : Expr} {body otherwise : Block} {t t' : Token}
    {ts ts' ts'' : List Token} (isIf : t.kind = .ifWord)
    (test : Derives (.expression condition) ts) (block : Derives (.block body) ts')
    (isElse : t'.kind = .elseWord) (branch : Derives (.branch otherwise) ts'') :
    Derives (.conditional (.conditional condition body (some otherwise) t.position))
      (t :: (ts ++ ts' ++ t' :: ts''))
  | branchBlock {b : Block} {ts : List Token} (h : Derives (.block b) ts) : Derives (.branch b) ts
  | branchIf {s : Statement} {t : Token} {ts : List Token}
    (h : Derives (.conditional s) (t :: ts)) : Derives (.branch ⟨[s], t.position⟩) (t :: ts)
  | loop {iterable : Expr} {body : Block} {t item inWord : Token} {ts ts' : List Token}
    (isFor : t.kind = .forWord) (isItem : item.kind = .name) (isIn : inWord.kind = .inWord)
    (iterated : Derives (.expression iterable) ts) (block : Derives (.block body) ts') :
    Derives (.statement (.loop none ⟨item.data, item.position⟩ iterable body t.position))
      (t :: item :: inWord :: (ts ++ ts'))
  | indexedLoop {iterable : Expr} {body : Block} {t index comma item inWord : Token}
    {ts ts' : List Token} (isFor : t.kind = .forWord) (isIndex : index.kind = .name)
    (isComma : comma.kind = .comma) (isItem : item.kind = .name) (isIn : inWord.kind = .inWord)
    (iterated : Derives (.expression iterable) ts) (block : Derives (.block body) ts') :
    Derives (.statement (.loop (some ⟨index.data, index.position⟩) ⟨item.data, item.position⟩
      iterable body t.position)) (t :: index :: comma :: item :: inWord :: (ts ++ ts'))
  | exit {t : Token} (isReturn : t.kind = .returnWord) :
    Derives (.statement (.exit none t.position)) [t]
  | exitWith {e : Expr} {t : Token} {ts : List Token} (isReturn : t.kind = .returnWord)
    (h : Derives (.expression e) ts) :
    Derives (.statement (.exit (some e) t.position)) (t :: ts)
  | stop {t : Token} (isBreak : t.kind = .breakWord) :
    Derives (.statement (.stop t.position)) [t]
  | skip {t : Token} (isContinue : t.kind = .continueWord) :
    Derives (.statement (.skip t.position)) [t]
  | definition {parameters : List Variable} {body : Block} {n opening closing : Token}
    {ts ts' : List Token} (isName : n.kind = .name) (opens : opening.kind = .leftParen)
    (names : Listed Named parameters ts) (closes : closing.kind = .rightParen)
    (block : Derives (.block body) ts') :
    Derives (.statement (.function ⟨n.data, parameters, body, n.position⟩))
      (n :: opening :: (ts ++ closing :: ts'))
  | assign {target value : Expr} {t : Token} {ts ts' : List Token}
    (place : Derives (.expression target) ts) (isPlace : target.isPlace)
    (isAssign : t.kind = .assign) (h : Derives (.expression value) ts') :
    Derives (.statement (.assign target value target.position)) (ts ++ t :: ts')
  | expression {e : Expr} {ts : List Token} (h : Derives (.expression e) ts) :
    Derives (.statement (.expression e)) ts

/-! ## Operands fit everywhere -/

namespace Derives

variable {e : Expr} {ts : List Token}

/-- An expression with prefix operators is an operand of every level. -/
theorem tier_of_unary (h : Derives (.tier none e) ts) (l : Option Level) :
    Derives (.tier l e) ts := by
  have hmul : Derives (.tier (some .multiplicative) e) ts := .operand h
  have hadd : Derives (.tier (some .additive) e) ts := .operand hmul
  have hrel : Derives (.tier (some .relational) e) ts := .operand hadd
  have heq : Derives (.tier (some .equality) e) ts := .operand hrel
  cases l with
  | none => exact h
  | some l =>
    cases l with
    | membership => exact .operand heq
    | equality => exact heq
    | relational => exact hrel
    | additive => exact hadd
    | multiplicative => exact hmul

theorem tier_of_members (h : Derives (.members e) ts) (l : Option Level) :
    Derives (.tier l e) ts :=
  (Derives.members h).tier_of_unary l

theorem expression_of_tier {l : Level} (h : Derives (.tier (some l) e) ts) :
    Derives (.expression e) ts := by
  have hstep : ∀ {l m : Level}, l.tighter = some m → Derives (.tier (some m) e) ts →
      Derives (.tier (some l) e) ts := by
    intro l m hlm hm
    rw [← hlm] at hm
    exact .operand hm
  cases l with
  | membership => exact h
  | equality => exact hstep rfl h
  | relational => exact hstep rfl (hstep rfl h)
  | additive => exact hstep rfl (hstep rfl (hstep rfl h))
  | multiplicative => exact hstep rfl (hstep rfl (hstep rfl (hstep rfl h)))

end Derives

/-! ## Parentheses match -/

/-- Neither a parenthesis nor the end of the source. -/
def isPlain : Token.Kind → Bool
  | .leftParen | .rightParen | .endOfInput => false
  | _ => true

/-- In the search for the brace behind parentheses, the tokens make no difference. -/
def Balanced (ts : List Token) : Prop :=
  ∀ depth rest, braceFollows (depth + 1) (ts ++ rest) = braceFollows (depth + 1) rest

theorem isPlain_of_ofKind {k : Token.Kind} {o : Operator} (h : Operator.ofKind k = some o) :
    isPlain k = true := by
  cases k <;> first | rfl | cases h

/-- What the search for the brace behind parentheses does with a token. -/
theorem braceFollows_cons (depth : Nat) (t : Token) (rest : List Token) :
    braceFollows depth (t :: rest) =
      match t.kind with
      | .leftParen => braceFollows (depth + 1) rest
      | .rightParen =>
        if depth ≤ 1 then peekKind rest = .leftBrace else braceFollows (depth - 1) rest
      | .endOfInput => false
      | _ => braceFollows depth rest :=
  rfl

namespace Balanced

theorem nil : Balanced [] :=
  fun _ _ => rfl

theorem append {ts ts' : List Token} (h : Balanced ts) (h' : Balanced ts') :
    Balanced (ts ++ ts') := by
  intro depth rest
  rw [List.append_assoc, h, h']

theorem cons {t : Token} {ts : List Token} (ht : isPlain t.kind = true) (h : Balanced ts) :
    Balanced (t :: ts) := by
  intro depth rest
  rw [← h depth rest, List.cons_append, braceFollows_cons]
  split <;> simp_all [isPlain]

theorem single {t : Token} (ht : isPlain t.kind = true) : Balanced [t] :=
  nil.cons ht

theorem breaks {ts : List Token} (h : LineBreaks ts) : Balanced ts := by
  induction ts with
  | nil => exact nil
  | cons t ts ih =>
    refine cons ?_ (ih fun u hu => h u (List.mem_cons_of_mem t hu))
    rw [h t List.mem_cons_self]
    rfl

theorem parens {opening closing : Token} {ts : List Token} (opens : opening.kind = .leftParen)
    (h : Balanced ts) (closes : closing.kind = .rightParen) :
    Balanced (opening :: (ts ++ [closing])) := by
  intro depth rest
  rw [List.cons_append, braceFollows_cons, opens, List.append_assoc, h, List.singleton_append,
    braceFollows_cons, closes]
  simp

end Balanced

/-- Parentheses that are open stay open if the source ends before there are enough tokens to close
them. -/
theorem braceFollows_endOfInput {t : Token} (ht : t.kind = .endOfInput) (ts rest : List Token)
    {depth : Nat} (hdepth : ts.length < depth) : braceFollows depth (ts ++ t :: rest) = false := by
  induction ts generalizing depth with
  | nil => simp [braceFollows_cons, ht]
  | cons u ts ih =>
    rw [List.length_cons] at hdepth
    rw [List.cons_append, braceFollows_cons]
    split
    · exact ih (by omega)
    · rw [if_neg (by omega)]
      exact ih (by omega)
    · rfl
    · exact ih (by omega)

theorem braceFollows_replicate {closing brace : Token} (hclosing : closing.kind = .rightParen)
    (hbrace : brace.kind = .leftBrace) (depth : Nat) :
    braceFollows (depth + 1) (List.replicate (depth + 1) closing ++ [brace]) = true := by
  induction depth with
  | zero => simp [braceFollows_cons, hclosing, peekKind, hbrace]
  | succ depth ih =>
    rw [List.replicate_succ, List.cons_append, braceFollows_cons, hclosing]
    simpa using ih

/-- The end of the source is not among tokens in which the parentheses match, since the search is
over there. -/
theorem Balanced.kind_ne {ts : List Token} (h : Balanced ts) {t : Token} (ht : t ∈ ts) :
    t.kind ≠ .endOfInput := by
  intro hkind
  obtain ⟨us, vs, rfl⟩ := List.append_of_mem ht
  -- Without the end of the source among the tokens, the brace behind so many parentheses is found.
  have hfound := h us.length
    (List.replicate (us.length + 1) ⟨.rightParen, "", default⟩ ++ [⟨.leftBrace, "", default⟩])
  rw [braceFollows_replicate rfl rfl, List.append_assoc, List.cons_append,
    braceFollows_endOfInput hkind _ _ (Nat.lt_succ_self _)] at hfound
  cases hfound

theorem Listed.balanced {α : Type} {D : α → List Token → Prop} {as : List α} {ts : List Token}
    (hD : ∀ a us, D a us → Balanced us) (h : Listed D as ts) : Balanced ts := by
  induction h with
  | none breaks => exact .breaks breaks
  | last breaks element breaks' =>
    exact ((Balanced.breaks breaks).append (hD _ _ element)).append (.breaks breaks')
  | more breaks element breaks' isComma _ _ ih =>
    refine (((Balanced.breaks breaks).append (hD _ _ element)).append (.breaks breaks')).append ?_
    exact .cons (by rw [isComma]; rfl) ih

theorem Named.balanced {v : Variable} {ts : List Token} (h : Named v ts) : Balanced ts := by
  obtain ⟨n, isName, -, rfl⟩ := h
  exact .single (by rw [isName]; rfl)

/-- The parentheses in a phrase match. -/
theorem Derives.balanced {phrase : Phrase} {ts : List Token} (h : Derives phrase ts) :
    Balanced ts := by
  induction h with
  | operand _ ih | members _ ih | primary _ ih | called _ ih | mapping _ ih | branchBlock _ ih
  | branchIf _ ih | expression _ ih | conditional _ ih => exact ih
  | binary _ isOperator _ ih ih' => exact ih.append (ih'.cons (isPlain_of_ofKind isOperator))
  | minus isToken _ ih | not isToken _ ih | newLine isToken _ ih | comment isToken _ ih
  | exitWith isToken _ ih => exact ih.cons (by rw [isToken]; rfl)
  | integer isToken _ | string isToken | trueWord isToken | falseWord isToken | var isToken
  | exit isToken | stop isToken | skip isToken => exact .single (by rw [isToken]; rfl)
  | memberName _ isDot isName ih =>
    exact ih.append (.cons (by rw [isDot]; rfl) (.single (by rw [isName]; rfl)))
  | memberCall _ isDot _ ih ih' => exact ih.append (ih'.cons (by rw [isDot]; rfl))
  | memberIndex _ opens breaks _ breaks' closes ih ih' =>
    refine ih.append (.cons (by rw [opens]; rfl) ?_)
    refine (((Balanced.breaks breaks).append ih').append (.breaks breaks')).append ?_
    exact .single (by rw [closes]; rfl)
  | parenthesized opens breaks _ breaks' closes ih =>
    exact .parens opens (((Balanced.breaks breaks).append ih).append (.breaks breaks')) closes
  | list opens _ closes ih | block opens _ closes ih =>
    exact .cons (by rw [opens]; rfl) (ih.append (.single (by rw [closes]; rfl)))
  | noArguments breaks => exact .breaks breaks
  | lastArgument breaks _ breaks' ih =>
    exact ((Balanced.breaks breaks).append ih).append (.breaks breaks')
  | moreArguments breaks _ breaks' isComma _ _ ih ih' =>
    refine (((Balanced.breaks breaks).append ih).append (.breaks breaks')).append ?_
    exact ih'.cons (by rw [isComma]; rfl)
  | call isName opens _ closes ih => exact .cons (by rw [isName]; rfl) (.parens opens ih closes)
  | noStatements => exact .nil
  | next _ _ _ ih ih' => exact ih.append ih'
  | ifThen isIf _ _ ih ih' => exact .cons (by rw [isIf]; rfl) (ih.append ih')
  | ifThenElse isIf _ _ isElse _ ih ih' ih'' =>
    refine .cons (by rw [isIf]; rfl) ((ih.append ih').append ?_)
    exact ih''.cons (by rw [isElse]; rfl)
  | loop isFor isItem isIn _ _ ih ih' =>
    refine .cons (by rw [isFor]; rfl) (.cons (by rw [isItem]; rfl) ?_)
    exact .cons (by rw [isIn]; rfl) (ih.append ih')
  | indexedLoop isFor isIndex isComma isItem isIn _ _ ih ih' =>
    refine .cons (by rw [isFor]; rfl) (.cons (by rw [isIndex]; rfl) ?_)
    refine .cons (by rw [isComma]; rfl) (.cons (by rw [isItem]; rfl) ?_)
    exact .cons (by rw [isIn]; rfl) (ih.append ih')
  | @definition _ _ n opening closing ts ts' isName opens names closes _ ih =>
    -- The parentheses around the parameters match, as those of a call do.
    have hparens := Balanced.parens opens (names.balanced fun _ _ => Named.balanced) closes
    have htokens : n :: opening :: (ts ++ closing :: ts') =
        n :: (opening :: (ts ++ [closing]) ++ ts') := by simp
    rw [htokens]
    exact .cons (by rw [isName]; rfl) (hparens.append ih)
  | assign _ _ isAssign _ ih ih' => exact ih.append (ih'.cons (by rw [isAssign]; rfl))

/-! ## How phrases start -/

/-- The kinds of tokens with which a primary starts. -/
def startsPrimary : Token.Kind → Bool
  | .integer | .string | .trueWord | .falseWord | .name | .leftParen | .leftBracket
  | .leftBrace => true
  | _ => false

/-- The kinds of tokens with which an expression starts. -/
def startsExpression : Token.Kind → Bool
  | .minus | .notWord => true
  | k => startsPrimary k

/-- The kinds of tokens with which a statement starts that is no line break and no comment. -/
def startsStatement : Token.Kind → Bool
  | .ifWord | .forWord | .returnWord | .breakWord | .continueWord => true
  | k => startsExpression k

/-- The kinds of tokens with which a phrase starts, if it cannot be empty. -/
def Phrase.startsWith? : Phrase → Option (Token.Kind → Bool)
  | .tier _ _ => some startsExpression
  | .members _ | .primary _ => some startsPrimary
  | .call _ => some (· = .name)
  | .block _ => some (· = .leftBrace)
  | .statement _ => some startsStatement
  | .conditional _ => some (· = .ifWord)
  | .branch _ => some fun k => k = .leftBrace || k = .ifWord
  | .arguments _ | .statements _ => none

theorem startsExpression_of_startsPrimary {k : Token.Kind} (h : startsPrimary k = true) :
    startsExpression k = true := by
  cases k <;> first | rfl | cases h

theorem startsStatement_of_startsExpression {k : Token.Kind} (h : startsExpression k = true) :
    startsStatement k = true := by
  cases k <;> first | rfl | cases h

/-- A phrase that cannot be empty starts with a token that fits. -/
theorem Derives.starts {phrase : Phrase} {ts : List Token} (h : Derives phrase ts)
    {fits : Token.Kind → Bool} (hfits : phrase.startsWith? = some fits) :
    ∃ t us, ts = t :: us ∧ fits t.kind = true := by
  induction h generalizing fits with
  | operand _ ih => exact ih hfits
  | binary _ _ _ ih =>
    obtain ⟨t, us, rfl, ht⟩ := ih hfits
    exact ⟨t, _, rfl, ht⟩
  | memberName _ _ _ ih | memberCall _ _ _ ih | memberIndex _ _ _ _ _ _ ih =>
    obtain ⟨t, us, rfl, ht⟩ := ih hfits
    exact ⟨t, _, rfl, ht⟩
  | members _ ih =>
    cases hfits
    obtain ⟨t, us, rfl, ht⟩ := ih rfl
    exact ⟨t, us, rfl, startsExpression_of_startsPrimary ht⟩
  | primary _ ih => exact ih hfits
  | called _ ih | mapping _ ih | branchBlock _ ih | branchIf _ ih | conditional _ ih =>
    cases hfits
    obtain ⟨t, us, hts, ht⟩ := ih rfl
    refine ⟨t, us, hts, ?_⟩
    rw [of_decide_eq_true ht]
    rfl
  | minus isToken _ _ | not isToken _ _ | integer isToken _ | string isToken | trueWord isToken
  | falseWord isToken | var isToken | parenthesized isToken _ _ _ _ _ | list isToken _ _ _
  | call isToken _ _ _ _ | block isToken _ _ _ | ifThen isToken _ _ _ _
  | ifThenElse isToken _ _ _ _ _ _ _ | loop isToken _ _ _ _ _ _
  | indexedLoop isToken _ _ _ _ _ _ _ _ | exit isToken | exitWith isToken _ _ | stop isToken
  | skip isToken | definition isToken _ _ _ _ _ =>
    cases hfits
    exact ⟨_, _, rfl, by rw [isToken]; rfl⟩
  | noArguments _ | lastArgument _ _ _ _ | moreArguments _ _ _ _ _ _ _ _ | noStatements
  | newLine _ _ _ | comment _ _ _ | next _ _ _ _ _ => cases hfits
  | assign _ _ _ _ ih _ =>
    cases hfits
    obtain ⟨t, us, rfl, ht⟩ := ih rfl
    exact ⟨t, _, rfl, startsStatement_of_startsExpression ht⟩
  | expression _ ih =>
    cases hfits
    obtain ⟨t, us, rfl, ht⟩ := ih rfl
    exact ⟨t, us, rfl, startsStatement_of_startsExpression ht⟩

/-- Statements, if there are any, start with a line break, a comment or another statement. -/
theorem Derives.statements_starts {ss : List Statement} {ts : List Token}
    (h : Derives (.statements ss) ts) :
    ts = [] ∨ ∃ t us, ts = t :: us ∧
      (t.kind = .newLine ∨ t.kind = .comment ∨ startsStatement t.kind = true) := by
  cases h with
  | noStatements => exact .inl rfl
  | newLine isNewLine _ => exact .inr ⟨_, _, rfl, .inl isNewLine⟩
  | comment isComment _ => exact .inr ⟨_, _, rfl, .inr (.inl isComment)⟩
  | next h _ _ =>
    obtain ⟨t, us, rfl, ht⟩ := h.starts rfl
    exact .inr ⟨t, _, rfl, .inr (.inr ht)⟩

/-- The two kinds of tokens up to which statements are read. -/
def Closes (k : Token.Kind) : Prop :=
  k = .rightBrace ∨ k = .endOfInput

instance (k : Token.Kind) : Decidable (Closes k) :=
  inferInstanceAs (Decidable (k = .rightBrace ∨ k = .endOfInput))

theorem not_closes_of_startsStatement {k : Token.Kind} (h : startsStatement k = true) :
    ¬ Closes k := by
  rintro (rfl | rfl)
  · cases h
  · cases h

/-- Where a statement may end before further statements, a line break or a comment stands between
them. -/
theorem separated_of_endsStatement {closing : Token.Kind} (hclosing : Closes closing)
    {ss : List Statement} {ts rest : List Token} (h : Derives (.statements ss) ts)
    (hends : endsStatement closing (ts ++ rest) = true) : Separated ts := by
  rcases h.statements_starts with rfl | ⟨t, us, rfl, hline | hcomment | hstarts⟩
  · exact .inl rfl
  · exact .inr (.inl hline)
  · exact .inr (.inr hcomment)
  · have hne : t.kind ≠ closing := by
      rintro rfl
      exact not_closes_of_startsStatement hstarts hclosing
    simp only [endsStatement, List.cons_append, peekKind] at hends
    split at hends
    · exact .inr (.inl ‹_›)
    · exact .inr (.inr ‹_›)
    · rename_i hend
      exact absurd (.inr hend) (not_closes_of_startsStatement hstarts)
    · exact absurd (of_decide_eq_true hends) hne

/-! ## Definitions and calls -/

/-- Phrases that are no statements. -/
def Phrase.isExpression : Phrase → Bool
  | .tier _ _ | .members _ | .primary _ | .call _ => true
  | _ => false

theorem peekKind_append {ts rest : List Token} (h : ts ≠ []) :
    peekKind (ts ++ rest) = peekKind ts := by
  cases ts with
  | nil => exact absurd rfl h
  | cons t ts => rfl

theorem startsDefinition_of_ne {t : Token} (h : t.kind ≠ .name) (rest : List Token) :
    startsDefinition (t :: rest) = false := by
  cases rest <;> simp [startsDefinition, h]

/-- The head of a definition looks like one: no parenthesis is among the names, so the search for
the brace passes over them. -/
theorem startsDefinition_eq_true {parameters : List Variable} {n opening closing : Token}
    {ts rest : List Token} (isName : n.kind = .name) (opens : opening.kind = .leftParen)
    (names : Listed Named parameters ts) (closes : closing.kind = .rightParen)
    (hbrace : peekKind rest = .leftBrace) :
    startsDefinition (n :: opening :: (ts ++ closing :: rest)) = true := by
  have hnames : Balanced ts := names.balanced fun _ _ => Named.balanced
  simp [startsDefinition, isName, opens, hnames 0, braceFollows_cons, closes, hbrace]

/-- An expression does not look like a definition, unless what follows looks like arguments or a
body. -/
theorem Derives.startsDefinition_eq_false {phrase : Phrase} {ts : List Token}
    (h : Derives phrase ts) (he : phrase.isExpression = true) {rest : List Token}
    (hparen : peekKind rest ≠ .leftParen) (hbrace : peekKind rest ≠ .leftBrace) :
    startsDefinition (ts ++ rest) = false := by
  induction h generalizing rest with
  | operand _ ih | members _ ih | primary _ ih | called _ ih => exact ih rfl hparen hbrace
  | binary _ isOperator _ ih _ =>
    rw [List.append_assoc]
    refine ih rfl ?_ ?_ <;> simp only [List.cons_append, peekKind]
    · intro hk
      rw [hk] at isOperator
      cases isOperator
    · intro hk
      rw [hk] at isOperator
      cases isOperator
  | minus isToken _ _ | not isToken _ _ | integer isToken _ | string isToken | trueWord isToken
  | falseWord isToken | parenthesized isToken _ _ _ _ _ | list isToken _ _ _ =>
    exact startsDefinition_of_ne (by rw [isToken]; decide) _
  | mapping h _ =>
    obtain ⟨t, us, rfl, ht⟩ := h.starts rfl
    exact startsDefinition_of_ne (by rw [of_decide_eq_true ht]; decide) _
  | memberName _ isToken _ ih | memberCall _ isToken _ ih _ | memberIndex _ isToken _ _ _ _ ih _ =>
    rw [List.append_assoc]
    exact ih rfl (by simp [peekKind, isToken]) (by simp [peekKind, isToken])
  | @var t isName =>
    cases rest with
    | nil => rfl
    | cons u rest =>
      have hu : u.kind ≠ .leftParen := hparen
      simp [startsDefinition, hu]
  | call isName opens h closes _ =>
    -- A call does look like the head of a definition, up to the brace that is missing.
    simp only [List.cons_append, List.append_assoc, startsDefinition, h.balanced 0,
      List.nil_append, braceFollows_cons, closes]
    simp [hbrace]
  | _ => cases he

end Scriptlet.Grammar
