import Scriptlet.Proofs.Grammar.Acceptance
import Scriptlet.Proofs.Token.Proper

/-!
# Line breaks and comments

The tree of a program keeps all comments of its source and some of the line breaks
(`parse_keeps_trivia`). Which ones depends on the delimiter that they lie in: directly in
parentheses or brackets a line break is only a blank, and elsewhere it is a statement.

`triviaOfStatements` walks over a tree. `enclose` passes over tokens, with the delimiters that are
open, and finds the innermost one around each token. The proof is by induction on the derivation:
what spells a phrase leaves open what was open before, and the trivia among its tokens are those of
its tree (`Grammar.Derives.keeps`). For arguments this holds only in parentheses or brackets, and
for statements only elsewhere (`Grammar.Phrase.StandsIn`).
-/

namespace Scriptlet

/-! ## The trivia of a tree -/

mutual

/-- The line breaks and comments in an expression, which are those in its mappings. -/
def Expr.trivia : Expr → List Statement
  | .var _ => []
  | .literal _ _ => []
  | .binary left _ right _ => left.trivia ++ right.trivia
  | .list values _ => triviaOfAll values
  | .block b => b.trivia
  | .call c => c.trivia
  | .field object member _ => object.trivia ++ member.trivia

/-- The line breaks and comments in some expressions. -/
def triviaOfAll : List Expr → List Statement
  | [] => []
  | e :: es => e.trivia ++ triviaOfAll es

def Member.trivia : Member → List Statement
  | .name _ => []
  | .call c => c.trivia
  | .index key => key.trivia

def Call.trivia : Call → List Statement
  | ⟨_, arguments, _⟩ => triviaOfAll arguments

/-- The line breaks and comments that a statement is or contains. -/
def Statement.trivia : Statement → List Statement
  | .assign target value _ => target.trivia ++ value.trivia
  | .function f => f.trivia
  | .conditional condition body none _ => condition.trivia ++ body.trivia
  | .conditional condition body (some otherwise) _ =>
    condition.trivia ++ body.trivia ++ otherwise.trivia
  | .loop _ _ iterable body _ => iterable.trivia ++ body.trivia
  | .exit none _ => []
  | .exit (some value) _ => value.trivia
  | .stop _ => []
  | .skip _ => []
  | .expression e => e.trivia
  | .newLine p => [.newLine p]
  | .comment c => [.comment c]

/-- The line breaks and comments among some statements and in them. -/
def triviaOfStatements : List Statement → List Statement
  | [] => []
  | s :: ss => s.trivia ++ triviaOfStatements ss

def Block.trivia : Block → List Statement
  | ⟨statements, _⟩ => triviaOfStatements statements

/-- The line breaks and comments in the body of a function. -/
def Function.trivia : Function → List Statement
  | ⟨_, _, body, _⟩ => body.trivia

end

/-- The comment that a statement is. -/
def Statement.comment? : Statement → Option Comment
  | .comment c => some c
  | _ => none

/-- The place of the line break that a statement is. -/
def Statement.newLine? : Statement → Option Position
  | .newLine p => some p
  | _ => none

/-! ## The delimiters around a token -/

namespace Token.Kind

/-- The kinds of delimiters that open. -/
def opens : Token.Kind → Bool
  | .leftParen | .leftBrace | .leftBracket => true
  | _ => false

/-- The kind of delimiter that a delimiter closes. -/
def closes? : Token.Kind → Option Token.Kind
  | .rightParen => some .leftParen
  | .rightBrace => some .leftBrace
  | .rightBracket => some .leftBracket
  | _ => none

/-- The delimiters that are open behind a token if these are open in front of it, the innermost
first. Nothing can be closed but the innermost. -/
def openBehind (k : Token.Kind) (outer : List Token.Kind) : Option (List Token.Kind) :=
  match k.closes? with
  | some opening => if outer.head? = some opening then some outer.tail else none
  | none => some (if k.opens then k :: outer else outer)

/-- Tokens that are neither delimiters nor trivia. -/
def isInner (k : Token.Kind) : Bool :=
  !k.opens && k.closes?.isNone && k != .newLine && k != .comment

theorem openBehind_opening {k : Token.Kind} (h : k.opens = true) (outer : List Token.Kind) :
    k.openBehind outer = some (k :: outer) := by
  cases k <;> first | rfl | cases h

theorem openBehind_closing {k opening : Token.Kind} (h : k.closes? = some opening)
    (outer : List Token.Kind) : k.openBehind (opening :: outer) = some outer := by
  simp [openBehind, h]

theorem openBehind_inner {k : Token.Kind} (h : k.isInner = true) (outer : List Token.Kind) :
    k.openBehind outer = some outer := by
  cases k <;> first | rfl | cases h

/-- What is open behind a token is opened by delimiters, if what is open in front of it is. -/
theorem openBehind_opens {k : Token.Kind} {outer behind : List Token.Kind}
    (h : k.openBehind outer = some behind) (houter : ∀ d ∈ outer, d.opens = true) :
    ∀ d ∈ behind, d.opens = true := by
  unfold openBehind at h
  split at h
  · split at h <;> cases h
    exact fun d hd => houter d (List.mem_of_mem_tail hd)
  · cases h
    split
    · rename_i hk
      exact List.forall_mem_cons.mpr ⟨hk, houter⟩
    · exact houter

end Token.Kind

/-- A token and the innermost delimiter that is open in front of it. -/
structure Enclosed where
  token : Token
  delimiter : Option Token.Kind
deriving DecidableEq, Repr

/-- The tokens with the delimiters that they lie in, if `outer` is open in front of them, and what
is open behind them; nothing, if a delimiter closes another one than the innermost. -/
def enclose (outer : List Token.Kind) : List Token → Option (List Enclosed × List Token.Kind)
  | [] => some ([], outer)
  | t :: ts =>
    (t.kind.openBehind outer).bind fun behind =>
      (enclose behind ts).map fun (enclosed, left) => (⟨t, outer.head?⟩ :: enclosed, left)

/-- The comment that a token is. -/
def Token.comment? (t : Token) : Option Comment :=
  if t.kind = .comment then some ⟨t.data, t.position⟩ else none

/-- Directly in this delimiter, a line break is a statement. -/
def keepsLines (delimiter : Option Token.Kind) : Bool :=
  delimiter = none || delimiter = some .leftBrace

/-- The statement that a token is by itself. -/
def Enclosed.trivia? (x : Enclosed) : Option Statement :=
  if x.token.kind = .comment then some (.comment ⟨x.token.data, x.token.position⟩)
  else if x.token.kind = .newLine ∧ keepsLines x.delimiter then some (.newLine x.token.position)
  else none

theorem enclose_append {outer behind : List Token.Kind} {ts ts' : List Token}
    {enclosed : List Enclosed} (h : enclose outer ts = some (enclosed, behind)) :
    enclose outer (ts ++ ts') =
      (enclose behind ts').map fun (enclosed', left) => (enclosed ++ enclosed', left) := by
  induction ts generalizing outer enclosed with
  | nil =>
    cases h
    simp
  | cons t ts ih =>
    simp only [enclose, Option.bind_eq_some_iff, Option.map_eq_some_iff] at h
    obtain ⟨between, hbetween, ⟨tail, left⟩, htail, heq⟩ := h
    cases heq
    simp only [List.cons_append, enclose, hbetween, Option.bind_some, ih htail, Option.map_map]
    rfl

/-- No token is lost among the delimiters, and every delimiter is one that opens. -/
theorem enclose_spec {outer left : List Token.Kind} {ts : List Token} {enclosed : List Enclosed}
    (h : enclose outer ts = some (enclosed, left)) (houter : ∀ d ∈ outer, d.opens = true) :
    enclosed.map (·.token) = ts ∧ ∀ x ∈ enclosed, ∀ d ∈ x.delimiter, d.opens = true := by
  induction ts generalizing outer enclosed with
  | nil =>
    cases h
    simp
  | cons t ts ih =>
    simp only [enclose, Option.bind_eq_some_iff, Option.map_eq_some_iff] at h
    obtain ⟨behind, hbehind, ⟨tail, left⟩, htail, heq⟩ := h
    cases heq
    obtain ⟨htokens, hopens⟩ := ih htail (Token.Kind.openBehind_opens hbehind houter)
    refine ⟨by rw [List.map_cons, htokens], List.forall_mem_cons.mpr ⟨fun d hd => ?_, hopens⟩⟩
    exact houter d (List.mem_of_mem_head? hd)

namespace Grammar

/-! ## What tokens pass by -/

/-- The tokens lead from what is open in front of them to what is open behind them, and these are
the trivia among them. -/
def Crosses (outer : List Token.Kind) (ts : List Token) (trivia : List Statement)
    (behind : List Token.Kind) : Prop :=
  ∃ enclosed, enclose outer ts = some (enclosed, behind) ∧
    enclosed.filterMap Enclosed.trivia? = trivia

/-- The tokens leave open what is open in front of them, and these are the trivia among them. -/
abbrev Keeps (outer : List Token.Kind) (ts : List Token) (trivia : List Statement) : Prop :=
  Crosses outer ts trivia outer

namespace Crosses

variable {outer between behind : List Token.Kind} {t : Token} {ts ts' : List Token}
  {trivia trivia' : List Statement}

theorem append (h : Crosses outer ts trivia between) (h' : Crosses between ts' trivia' behind) :
    Crosses outer (ts ++ ts') (trivia ++ trivia') behind := by
  obtain ⟨enclosed, henclose, rfl⟩ := h
  obtain ⟨enclosed', henclose', rfl⟩ := h'
  refine ⟨enclosed ++ enclosed', ?_, List.filterMap_append⟩
  rw [enclose_append henclose, henclose']
  rfl

/-- A token adds what it is by itself. -/
theorem single (h : t.kind.openBehind outer = some behind) :
    Crosses outer [t] (Enclosed.trivia? ⟨t, outer.head?⟩).toList behind := by
  refine ⟨[⟨t, outer.head?⟩], ?_, ?_⟩
  · simp [enclose, h]
  · cases hx : Enclosed.trivia? ⟨t, outer.head?⟩ <;> simp [hx]

theorem silent (h : t.kind.openBehind outer = some behind) (hcomment : t.kind ≠ .comment)
    (hline : t.kind ≠ .newLine) : Crosses outer [t] [] behind := by
  have htrivia : Enclosed.trivia? ⟨t, outer.head?⟩ = none := by
    rw [Enclosed.trivia?, if_neg hcomment, if_neg fun hkind => hline hkind.1]
  have hsingle := single h
  rwa [htrivia] at hsingle

theorem opening (ht : t.kind.opens = true) : Crosses outer [t] [] (t.kind :: outer) := by
  refine silent (Token.Kind.openBehind_opening ht outer) ?_ ?_ <;>
    (intro hk; rw [hk] at ht; cases ht)

theorem closing {k : Token.Kind} (ht : t.kind.closes? = some k) :
    Crosses (k :: outer) [t] [] outer := by
  refine silent (Token.Kind.openBehind_closing ht outer) ?_ ?_ <;>
    (intro hk; rw [hk] at ht; cases ht)

theorem inner (ht : t.kind.isInner = true) : Keeps outer [t] [] := by
  refine silent (Token.Kind.openBehind_inner ht outer) ?_ ?_ <;>
    (intro hk; rw [hk] at ht; cases ht)

theorem nil : Keeps outer [] [] :=
  ⟨[], rfl, rfl⟩

theorem append_nil (h : Crosses outer ts trivia behind) :
    Crosses outer ts (trivia ++ []) behind := by
  rwa [List.append_nil]

theorem cons (ht : t.kind.isInner = true) (h : Keeps outer ts trivia) :
    Keeps outer (t :: ts) trivia :=
  (inner ht).append h

theorem comment (ht : t.kind = .comment) : Keeps outer [t] [.comment ⟨t.data, t.position⟩] := by
  have h : Crosses outer [t] _ outer := single (by rw [ht]; rfl)
  rwa [Enclosed.trivia?, ht] at h

theorem newLine (ht : t.kind = .newLine) (hkeeps : keepsLines outer.head? = true) :
    Keeps outer [t] [.newLine t.position] := by
  have h : Crosses outer [t] _ outer := single (by rw [ht]; rfl)
  rwa [Enclosed.trivia?, ht, hkeeps] at h

/-- Line breaks that are no statements leave no trace. -/
theorem breaks (hskips : keepsLines outer.head? = false) (h : LineBreaks ts) :
    Keeps outer ts [] := by
  induction ts with
  | nil => exact .nil
  | cons t ts ih =>
    have ht := h t List.mem_cons_self
    have hsingle : Crosses outer [t] _ outer := single (by rw [ht]; rfl)
    simp only [Enclosed.trivia?, ht, hskips] at hsingle
    exact hsingle.append (ih fun u hu => h u (List.mem_cons_of_mem t hu))

/-- Line breaks around a phrase leave no trace. -/
theorem padded {before after : List Token} (hskips : keepsLines outer.head? = false)
    (breaks : LineBreaks before) (h : Keeps outer ts trivia)
    (breaks' : LineBreaks after) : Keeps outer (before ++ ts ++ after) trivia := by
  have hpadded := ((Crosses.breaks hskips breaks).append h).append (.breaks hskips breaks')
  rwa [List.nil_append, List.append_nil] at hpadded

/-- What is opened is closed again. -/
theorem delimited {opening closing : Token} (opens : opening.kind.opens = true)
    (h : Keeps (opening.kind :: outer) ts trivia)
    (closes : closing.kind.closes? = some opening.kind) :
    Keeps outer (opening :: (ts ++ [closing])) trivia := by
  have hdelimited := ((Crosses.opening opens).append h).append (.closing closes)
  rwa [List.nil_append, List.append_nil] at hdelimited

end Crosses

/-! ## What phrases keep -/

theorem isInner_of_ofKind {k : Token.Kind} {o : Operator} (h : Operator.ofKind k = some o) :
    k.isInner = true := by
  cases k <;> first | rfl | cases h

/-- The line breaks and comments in what is spelled. -/
def Phrase.trivia : Phrase → List Statement
  | .tier _ e | .members e | .primary e => e.trivia
  | .arguments es => triviaOfAll es
  | .call c => c.trivia
  | .block b | .branch b => b.trivia
  | .statements ss => triviaOfStatements ss
  | .statement s | .conditional s => s.trivia

/-- The phrase can stand directly in this delimiter. -/
def Phrase.StandsIn : Phrase → Option Token.Kind → Prop
  | .arguments _, d => keepsLines d = false
  | .statements _, d => keepsLines d = true
  | _, _ => True

theorem Listed.keeps {parameters : List Variable} {ts : List Token} {outer : List Token.Kind}
    (h : Listed Named parameters ts) (hskips : keepsLines outer.head? = false) :
    Keeps outer ts [] := by
  have hname : ∀ {v us}, Named v us → Keeps outer us [] := by
    rintro v us ⟨n, isName, -, rfl⟩
    exact .inner (by rw [isName]; rfl)
  induction h with
  | none breaks => exact .breaks hskips breaks
  | last breaks element breaks' => exact .padded hskips breaks (hname element) breaks'
  | more breaks element breaks' isComma _ _ ih =>
    exact (Crosses.padded hskips breaks (hname element) breaks').append
      (.cons (by rw [isComma]; rfl) ih)

/-- What spells a phrase leaves open what was open before, and the trivia among its tokens are those
of its tree. -/
theorem Derives.keeps {phrase : Phrase} {ts : List Token} (h : Derives phrase ts)
    (outer : List Token.Kind) (hstands : phrase.StandsIn outer.head?) :
    Keeps outer ts phrase.trivia := by
  induction h generalizing outer with
  | operand _ ih | members _ ih | primary _ ih | called _ ih | mapping _ ih | branchBlock _ ih
  | conditional _ ih | expression _ ih => exact ih outer trivial
  | binary _ isOperator _ ih ih' =>
    exact (ih outer trivial).append ((ih' outer trivial).cons (isInner_of_ofKind isOperator))
  | minus isToken _ ih => exact (ih outer trivial).cons (by rw [isToken]; rfl)
  | not isToken _ ih => exact ((ih outer trivial).cons (by rw [isToken]; rfl)).append_nil
  | integer isToken _ | string isToken | trueWord isToken | falseWord isToken | var isToken
  | exit isToken | stop isToken | skip isToken => exact .inner (by rw [isToken]; rfl)
  | memberName _ isDot isName ih =>
    exact (ih outer trivial).append (.cons (by rw [isDot]; rfl) (.inner (by rw [isName]; rfl)))
  | memberCall _ isDot _ ih ih' =>
    exact (ih outer trivial).append ((ih' outer trivial).cons (by rw [isDot]; rfl))
  | memberIndex _ opens breaks _ breaks' closes ih ih' =>
    refine (ih outer trivial).append ?_
    refine .delimited (by rw [opens]; rfl) ?_ (by rw [opens, closes]; rfl)
    exact .padded (by rw [opens]; rfl) breaks (ih' _ trivial) breaks'
  | parenthesized opens breaks _ breaks' closes ih =>
    refine .delimited (by rw [opens]; rfl) ?_ (by rw [opens, closes]; rfl)
    exact .padded (by rw [opens]; rfl) breaks (ih _ trivial) breaks'
  | list opens _ closes ih | block opens _ closes ih =>
    exact .delimited (by rw [opens]; rfl) (ih _ (by rw [opens]; rfl)) (by rw [opens, closes]; rfl)
  | noArguments breaks => exact .breaks hstands breaks
  | lastArgument breaks _ breaks' ih =>
    exact (Crosses.padded hstands breaks (ih outer trivial) breaks').append_nil
  | moreArguments breaks _ breaks' isComma _ _ ih ih' =>
    exact (Crosses.padded hstands breaks (ih outer trivial) breaks').append
      ((ih' outer hstands).cons (by rw [isComma]; rfl))
  | call isName opens _ closes ih =>
    refine .cons (by rw [isName]; rfl) ?_
    exact .delimited (by rw [opens]; rfl) (ih _ (by rw [opens]; rfl)) (by rw [opens, closes]; rfl)
  | noStatements => exact .nil
  | newLine isNewLine _ ih => exact (Crosses.newLine isNewLine hstands).append (ih outer hstands)
  | comment isComment _ ih => exact (Crosses.comment isComment).append (ih outer hstands)
  | next _ _ _ ih ih' => exact (ih outer trivial).append (ih' outer hstands)
  | ifThen isIf _ _ ih ih' =>
    exact .cons (by rw [isIf]; rfl) ((ih outer trivial).append (ih' outer trivial))
  | ifThenElse isIf _ _ isElse _ ih ih' ih'' =>
    refine .cons (by rw [isIf]; rfl) (((ih outer trivial).append (ih' outer trivial)).append ?_)
    exact (ih'' outer trivial).cons (by rw [isElse]; rfl)
  | branchIf _ ih => exact (ih outer trivial).append_nil
  | loop isFor isItem isIn _ _ ih ih' =>
    refine .cons (by rw [isFor]; rfl) (.cons (by rw [isItem]; rfl) (.cons (by rw [isIn]; rfl) ?_))
    exact (ih outer trivial).append (ih' outer trivial)
  | indexedLoop isFor isIndex isComma isItem isIn _ _ ih ih' =>
    refine .cons (by rw [isFor]; rfl) (.cons (by rw [isIndex]; rfl) ?_)
    refine .cons (by rw [isComma]; rfl) (.cons (by rw [isItem]; rfl) (.cons (by rw [isIn]; rfl) ?_))
    exact (ih outer trivial).append (ih' outer trivial)
  | exitWith isReturn _ ih => exact (ih outer trivial).cons (by rw [isReturn]; rfl)
  | @definition _ _ n opening closing ts ts' isName opens names closes _ ih =>
    have hnames : Keeps (opening.kind :: outer) ts [] := names.keeps (by rw [opens]; rfl)
    have hparens : Keeps outer (opening :: (ts ++ [closing])) [] :=
      .delimited (by rw [opens]; rfl) hnames (by rw [opens, closes]; rfl)
    have htokens := hparens.append (ih outer trivial)
    rw [List.cons_append, List.append_assoc] at htokens
    exact htokens.cons (by rw [isName]; rfl)
  | assign _ _ isAssign _ ih ih' =>
    exact (ih outer trivial).append ((ih' outer trivial).cons (by rw [isAssign]; rfl))

end Grammar

/-! ## Sources -/

open Grammar

/-- The trivia of a program are those among the tokens of its source, in which every delimiter is
closed. -/
theorem keeps_of_parse {source : String} {program : Program} (h : parse source = .ok program) :
    ∃ tokens, tokenize source = .ok tokens ∧ Keeps [] tokens (triviaOfStatements program) := by
  unfold parse at h
  cases htokens : tokenize source with
  | error e =>
    rw [htokens] at h
    cases h
  | ok tokens =>
    rw [htokens] at h
    have hread : parseTokens tokens = .ok program := h
    obtain ⟨ts, t, rfl, hts, ht⟩ := Cursor.scan_ends (Cursor.scan_of_tokenize htokens)
    have hderives := (parseTokens_eq_ok_iff_derives hts ht program).mp hread
    have hkeeps := (hderives.keeps [] rfl).append (.inner (by rw [ht]; rfl))
    rw [List.append_nil] at hkeeps
    exact ⟨_, rfl, hkeeps⟩

theorem Enclosed.trivia?_bind_comment? (x : Enclosed) :
    x.trivia?.bind Statement.comment? = x.token.comment? := by
  unfold Enclosed.trivia? Token.comment?
  split
  · rfl
  · split <;> rfl

theorem Enclosed.trivia?_bind_newLine? (x : Enclosed) :
    x.trivia?.bind Statement.newLine? =
      if x.token.kind = .newLine ∧ keepsLines x.delimiter then some x.token.position else none := by
  unfold Enclosed.trivia?
  split
  · rename_i hkind
    rw [hkind, if_neg (fun h => by cases h.1)]
    rfl
  · split <;> rfl

/-- The comments of a program are the comments of its source, and its line breaks are those line
breaks of the source that do not lie directly in parentheses or brackets, both in the order of the
source and at their places. -/
theorem parse_keeps_trivia {source : String} {program : Program}
    (h : parse source = .ok program) :
    ∃ tokens enclosed, tokenize source = .ok tokens ∧ enclose [] tokens = some (enclosed, []) ∧
      enclosed.map (·.token) = tokens ∧
      (triviaOfStatements program).filterMap Statement.comment? =
        tokens.filterMap Token.comment? ∧
      (triviaOfStatements program).filterMap Statement.newLine? =
        (enclosed.filter fun x => x.token.kind = .newLine ∧
          (x.delimiter = none ∨ x.delimiter = some .leftBrace)).map (·.token.position) ∧
      ∀ x ∈ enclosed, x.token.kind = .newLine →
        x.delimiter = none ∨ x.delimiter = some .leftBrace ∨
          x.delimiter = some .leftParen ∨ x.delimiter = some .leftBracket := by
  obtain ⟨tokens, htokens, enclosed, henclose, htrivia⟩ := keeps_of_parse h
  obtain ⟨hmap, hopens⟩ := enclose_spec henclose (List.forall_mem_nil _)
  refine ⟨tokens, enclosed, htokens, henclose, hmap, ?_, ?_, fun x hx _ => ?_⟩
  · rw [← htrivia, ← hmap, List.filterMap_filterMap, List.filterMap_map]
    exact List.filterMap_congr fun x _ => x.trivia?_bind_comment?
  · rw [← htrivia, List.filterMap_filterMap, ← List.filterMap_eq_map, List.filterMap_filter]
    refine List.filterMap_congr fun x _ => ?_
    simp [x.trivia?_bind_newLine?, keepsLines]
  · cases hd : x.delimiter with
    | none => exact .inl rfl
    | some d =>
      have hd := hopens x hx d hd
      cases d <;> simp [Token.Kind.opens] at hd ⊢

/-- The line break in the mapping is kept and the one behind it, directly in the parentheses, is
not. -/
theorem parse_keeps_trivia_in_argument :
    let program : Program :=
      [.expression (.call ⟨"f", [.block ⟨[.newLine ⟨0, 3, 1⟩], ⟨0, 2, 1⟩⟩], ⟨0, 0, 1⟩⟩),
      .comment ⟨"c", ⟨2, 1, 3⟩⟩]
    parse "f(\x7b\n\x7d\n)//c" = .ok program ∧
      ∃ tokens enclosed, tokenize "f(\x7b\n\x7d\n)//c" = .ok tokens ∧
        enclose [] tokens = some (enclosed, []) ∧
        tokens.filterMap Token.comment? = [⟨"c", ⟨2, 1, 3⟩⟩] ∧
        (enclosed.filter fun x => x.token.kind = .newLine ∧
          (x.delimiter = none ∨ x.delimiter = some .leftBrace)).map (·.token.position) =
            [⟨0, 3, 1⟩] := by
  intro program
  have hparse : parse "f(\x7b\n\x7d\n)//c" = .ok program := by with_unfolding_all rfl
  obtain ⟨tokens, enclosed, htokens, henclose, -, hcomments, hlines, -⟩ :=
    parse_keeps_trivia hparse
  exact ⟨hparse, tokens, enclosed, htokens, henclose, hcomments.symm, hlines.symm⟩

end Scriptlet
