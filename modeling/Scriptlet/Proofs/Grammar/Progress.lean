import Scriptlet.Proofs.Grammar.EndOfInput
import Scriptlet.Proofs.Grammar.Trivia

/-!
# Progress

Reading gets on with any tokens, balanced or not, wherever they end. `Reading.Calls` has one rule
for each call that a reader makes, of another one or of itself for the next round of a loop. A call
is on fewer tokens, or on the same ones by a reader that is further down the order in which the
readers are built (`Reading.Calls.lighter`), so calls within calls come to an end, and there is a
bound for how many there are (`Reading.length_le_of_isChain`).

What an entry leaves is the rest of what it was given, and in front of it stands what the entry
took: the statements up to the end, something, or all up to the brace that closes a block
(`Grammar.Entry.Takes`). The brace is found by counting (`Grammar.behindMatching`). The lookahead
for definitions counts in the same way, and takes nothing.
-/

namespace Scriptlet

namespace Parsed.Sound

variable {α : Type} {tokens : List Token} {D : α → List Token → Prop}

/-- A reader that leaves fewer tokens than it was given has taken something. -/
theorem ne_nil {p : Parsed α tokens.length} (hp : p.Sound tokens D) :
    p.Sound tokens fun _ ts => ts ≠ [] := by
  intro a rest hlt hread
  obtain ⟨ts, rfl, -⟩ := hp a rest hlt hread
  refine ⟨ts, rfl, ?_⟩
  rintro rfl
  exact Nat.lt_irrefl _ hlt

theorem loosen {n : Nat} {p : Parsed α n} (hp : p.Sound tokens D) : p.loosen.Sound tokens D :=
  .within hp

end Parsed.Sound

namespace Grammar

variable {α : Type}

/-! ## Calls within calls -/

/-- A reader and the tokens that it reads. The list that is called `elements` or `parameters` has at
least one member. -/
inductive Reading
  | expression (tokens : List Token)
  | binary (level : Level) (tokens : List Token)
  | operand (level : Level) (tokens : List Token)
  | chain (level : Level) (tokens : List Token)
  | unary (tokens : List Token)
  | primary (t : Token) (tokens : List Token)
  | call (tokens : List Token)
  | postfixes (tokens : List Token)
  | elements (tokens : List Token)
  | parameters (tokens : List Token)
  | statements (closing : Token.Kind) (tokens : List Token)
  | firstStatement (tokens : List Token)
  | statement (t : Token) (tokens : List Token)
  | conditional (tokens : List Token)
  | otherwise (tokens : List Token)
  | loop (tokens : List Token)
  | definition (tokens : List Token)
  | assignmentOrExpression (tokens : List Token)
  | body (tokens : List Token)
  | block (tokens : List Token)

namespace Reading

/-- The first reading makes the second one, behind what has been read before. -/
inductive Calls : Reading → Reading → Prop
  | operations {ts} : Calls (.expression ts) (.binary .membership ts)
  | leftOperand {level ts} : Calls (.binary level ts) (.operand level ts)
  | operators {level left ts us} (isLeft : (Grammar.operand level ts).Yields left us) :
    Calls (.binary level ts) (.chain level us)
  | tighter {level tighter ts} (isTighter : level.tighter = some tighter) :
    Calls (.operand level ts) (.binary tighter ts)
  | tightest {level ts} (isTightest : level.tighter = none) : Calls (.operand level ts) (.unary ts)
  | rightOperand {o t ts} (isOperator : Operator.ofKind t.kind = some o) :
    Calls (.chain o.level (t :: ts)) (.operand o.level ts)
  | furtherOperators {o right t ts us} (isOperator : Operator.ofKind t.kind = some o)
    (isRight : (Grammar.operand o.level ts).Yields right us) :
    Calls (.chain o.level (t :: ts)) (.chain o.level us)
  | signed {t ts} (isSign : t.kind = .minus ∨ t.kind = .notWord) :
    Calls (.unary (t :: ts)) (.unary ts)
  | primary {t ts} (noMinus : t.kind ≠ .minus) (noNot : t.kind ≠ .notWord) :
    Calls (.unary (t :: ts)) (.primary t ts)
  | members {node t ts us} (noMinus : t.kind ≠ .minus) (noNot : t.kind ≠ .notWord)
    (isNode : (Grammar.primary t ts).Yields node us) : Calls (.unary (t :: ts)) (.postfixes us)
  | called {t ts} (isName : t.kind = .name) (opens : peekKind ts = .leftParen) :
    Calls (.primary t ts) (.call ts)
  | parenthesized {t ts} (opens : t.kind = .leftParen) :
    Calls (.primary t ts) (.expression (skipNewLines ts))
  | list {t ts} (opens : t.kind = .leftBracket)
    (nonempty : peekKind (skipNewLines ts) ≠ .rightBracket) : Calls (.primary t ts) (.elements ts)
  | mapping {t ts} (opens : t.kind = .leftBrace) : Calls (.primary t ts) (.block ts)
  | arguments {p ts} (opens : p.kind = .leftParen)
    (nonempty : peekKind (skipNewLines ts) ≠ .rightParen) : Calls (.call (p :: ts)) (.elements ts)
  | memberCall {t n ts} (isDot : t.kind = .dot) (isName : n.kind = .name)
    (opens : peekKind ts = .leftParen) : Calls (.postfixes (t :: n :: ts)) (.call ts)
  | behindMemberCall {call t n ts us} (isDot : t.kind = .dot) (isName : n.kind = .name)
    (opens : peekKind ts = .leftParen) (isCall : (Grammar.call n ts).Yields call us) :
    Calls (.postfixes (t :: n :: ts)) (.postfixes us)
  | behindMemberName {t n ts} (isDot : t.kind = .dot) (isName : n.kind = .name)
    (noCall : peekKind ts ≠ .leftParen) : Calls (.postfixes (t :: n :: ts)) (.postfixes ts)
  | memberIndex {t ts} (opens : t.kind = .leftBracket) :
    Calls (.postfixes (t :: ts)) (.expression (skipNewLines ts))
  | behindMemberIndex {key t c ts us vs} (opens : t.kind = .leftBracket)
    (isKey : (Grammar.expression (skipNewLines ts)).Yields key us)
    (behind : skipNewLines us = c :: vs) (closes : c.kind = .rightBracket) :
    Calls (.postfixes (t :: ts)) (.postfixes vs)
  | element {ts} : Calls (.elements ts) (.expression (skipNewLines ts))
  | furtherElements {e c ts us vs}
    (isElement : (Grammar.expression (skipNewLines ts)).Yields e us)
    (behind : skipNewLines us = c :: vs) (isComma : c.kind = .comma) :
    Calls (.elements ts) (.elements vs)
  | furtherParameters {parameter c ts us vs}
    (isParameter : (Grammar.parameter (skipNewLines ts)).Yields parameter us)
    (behind : skipNewLines us = c :: vs) (isComma : c.kind = .comma) :
    Calls (.parameters ts) (.parameters vs)
  | behindTrivia {closing t ts} (within : t.kind ≠ closing)
    (isTrivia : t.kind = .newLine ∨ t.kind = .comment) :
    Calls (.statements closing (t :: ts)) (.statements closing ts)
  | first {closing t ts} (starts : t.kind ∉ [closing, .endOfInput, .newLine, .comment]) :
    Calls (.statements closing (t :: ts)) (.statement t ts)
  | further {closing s t ts us} (starts : t.kind ∉ [closing, .endOfInput, .newLine, .comment])
    (isFirst : (Grammar.statement t ts).Yields s us)
    (ends : s.endsInBlock || endsStatement closing us) :
    Calls (.statements closing (t :: ts)) (.statements closing us)
  | some {t ts} : Calls (.firstStatement (t :: ts)) (.statement t ts)
  | conditional {t ts} (isIf : t.kind = .ifWord) : Calls (.statement t ts) (.conditional ts)
  | loop {t ts} (isFor : t.kind = .forWord) : Calls (.statement t ts) (.loop ts)
  | exit {t ts} (isReturn : t.kind = .returnWord) (value : returnsNothing ts = false) :
    Calls (.statement t ts) (.expression ts)
  | definition {t ts} (starts : startsDefinition (t :: ts)) :
    Calls (.statement t ts) (.definition ts)
  | other {t ts}
    (noKeyword : t.kind ∉ [.ifWord, .forWord, .returnWord, .breakWord, .continueWord])
    (noDefinition : startsDefinition (t :: ts) = false) :
    Calls (.statement t ts) (.assignmentOrExpression (t :: ts))
  | condition {ts} : Calls (.conditional ts) (.expression ts)
  | thenBody {e ts us} (isCondition : (Grammar.expression ts).Yields e us) :
    Calls (.conditional ts) (.body us)
  | otherwise {e b t ts us vs} (isCondition : (Grammar.expression ts).Yields e us)
    (isBody : (Grammar.body us).Yields b (t :: vs)) (isElse : t.kind = .elseWord) :
    Calls (.conditional ts) (.otherwise vs)
  | otherwiseIf {t ts} (isIf : t.kind = .ifWord) : Calls (.otherwise (t :: ts)) (.conditional ts)
  | otherwiseBlock {t ts} (opens : t.kind = .leftBrace) : Calls (.otherwise (t :: ts)) (.block ts)
  | iterable {names t ts us} (isNames : (loopNames ts).Yields names (t :: us))
    (isIn : t.kind = .inWord) : Calls (.loop ts) (.expression us)
  | loopBody {names e t ts us vs} (isNames : (loopNames ts).Yields names (t :: us))
    (isIn : t.kind = .inWord) (isIterable : (Grammar.expression us).Yields e vs) :
    Calls (.loop ts) (.body vs)
  | parameters {p ts} (opens : p.kind = .leftParen)
    (nonempty : peekKind (skipNewLines ts) ≠ .rightParen) :
    Calls (.definition (p :: ts)) (.parameters ts)
  | definitionBody {parameters p ts us} (opens : p.kind = .leftParen)
    (isParameters : (commaSeparated .rightParen ts fun us _ => parameter us).Yields parameters us) :
    Calls (.definition (p :: ts)) (.body us)
  | target {ts} : Calls (.assignmentOrExpression ts) (.expression ts)
  | value {e t ts us} (isTarget : (Grammar.expression ts).Yields e (t :: us))
    (isAssign : t.kind = .assign) (isPlace : e.isPlace) :
    Calls (.assignmentOrExpression ts) (.expression us)
  | braced {t ts} (opens : t.kind = .leftBrace) : Calls (.body (t :: ts)) (.block ts)
  | inBlock {ts} : Calls (.block ts) (.statements .rightBrace ts)

/-- Tokens count most. On the same tokens, a reader weighs more than those that it calls. -/
def weight : Reading → Nat
  | expression tokens => 32 * tokens.length + 14
  | binary level tokens => 32 * tokens.length + 2 * level.looseness + 5
  | operand level tokens => 32 * tokens.length + 2 * level.looseness + 4
  | chain _ tokens => 32 * tokens.length
  | unary tokens => 32 * tokens.length + 3
  | primary _ tokens => 32 * tokens.length + 20
  | call tokens => 32 * tokens.length
  | postfixes tokens => 32 * tokens.length
  | elements tokens => 32 * tokens.length + 15
  | parameters tokens => 32 * tokens.length
  | statements _ tokens => 32 * tokens.length + 17
  | firstStatement tokens => 32 * tokens.length + 17
  | statement _ tokens => 32 * tokens.length + 48
  | conditional tokens => 32 * tokens.length + 15
  | otherwise tokens => 32 * tokens.length
  | loop tokens => 32 * tokens.length
  | definition tokens => 32 * tokens.length
  | assignmentOrExpression tokens => 32 * tokens.length + 15
  | body tokens => 32 * tokens.length
  | block tokens => 32 * tokens.length + 19

theorem length_of_skipNewLines {c : Token} {us vs : List Token} (h : skipNewLines us = c :: vs) :
    vs.length < us.length := by
  have hle := skipNewLines_length us
  rw [h] at hle
  exact hle

/-- The second reading of a call has fewer tokens, or the same with a reader that weighs less. -/
theorem Calls.lighter {r r' : Reading} (h : r.Calls r') : r'.weight < r.weight := by
  cases h with
  | operations => exact Nat.lt_succ_self _
  | tighter isTighter =>
    have hlooseness := Level.looseness_of_tighter isTighter
    simp only [weight]
    omega
  | @rightOperand o =>
    have hlooseness := o.level.looseness_le
    simp only [weight, List.length_cons]
    omega
  -- Line breaks are skipped, or something has been taken, and possibly both.
  | @parenthesized _ ts | @memberIndex _ ts | @element ts =>
    have hskip := skipNewLines_length ts
    simp only [weight, List.length_cons]
    omega
  | operators hread | furtherOperators _ hread | members _ _ hread | behindMemberCall _ _ _ hread
  | further _ hread | thenBody hread | iterable hread | definitionBody _ hread | value hread =>
    obtain ⟨hlt, -⟩ := hread
    simp only [weight, List.length_cons] at *
    omega
  | otherwise hread hread' | loopBody hread _ hread' =>
    obtain ⟨hlt, -⟩ := hread
    obtain ⟨hlt', -⟩ := hread'
    simp only [weight, List.length_cons] at *
    omega
  | behindMemberIndex _ hread behind | furtherElements hread behind
  | furtherParameters hread behind =>
    obtain ⟨hlt, -⟩ := hread
    have hle := Nat.lt_of_lt_of_le hlt (skipNewLines_length _)
    have hbehind := length_of_skipNewLines behind
    simp only [weight, List.length_cons]
    omega
  | _ =>
    simp only [weight, List.length_cons]
    omega

/-- There are at most so many calls within one another. -/
theorem length_le_of_isChain {r : Reading} {calls : List Reading}
    (h : List.IsChain Calls (r :: calls)) : calls.length ≤ r.weight := by
  induction calls generalizing r with
  | nil => exact Nat.zero_le _
  | cons r' calls ih =>
    obtain ⟨hcall, hcalls⟩ := List.isChain_cons_cons.mp h
    exact Nat.lt_of_le_of_lt (ih hcalls) hcall.lighter

end Reading

/-! ## The delimiter that closes -/

/-- The tokens behind the one that closes a delimiter of the kind `opening`, if `inner` more of them
are open. Nothing is closed behind the end. -/
def behindMatching (opening closing : Token.Kind) : Nat → List Token → Option (List Token)
  | _, [] => none
  | inner, t :: rest =>
    if t.kind = .endOfInput then none
    else if t.kind = opening then behindMatching opening closing (inner + 1) rest
    else if t.kind = closing then
      if inner = 0 then some rest else behindMatching opening closing (inner - 1) rest
    else behindMatching opening closing inner rest

/-- The lookahead for definitions looks behind the parenthesis that closes. -/
theorem braceFollows_eq (inner : Nat) (ts : List Token) :
    braceFollows (inner + 1) ts =
      (behindMatching .leftParen .rightParen inner ts).any (peekKind · = .leftBrace) := by
  induction ts generalizing inner with
  | nil => rfl
  | cons t ts ih =>
    rw [braceFollows_cons, behindMatching]
    split
    · rename_i hkind
      simp [hkind, ih]
    · rename_i hkind
      cases inner with
      | zero => simp [hkind]
      | succ inner => simp [hkind, ih]
    · rename_i hkind
      simp [hkind]
    · rename_i hleft hright hend
      rw [if_neg hend, if_neg hleft, if_neg hright, ih]

/-- How a definition is recognised: a name, an opening parenthesis, the one that closes it, and an
opening brace. -/
def OpensDefinition (tokens : List Token) : Prop :=
  ∃ n p rest behind, tokens = n :: p :: rest ∧ n.kind = .name ∧ p.kind = .leftParen ∧
    behindMatching .leftParen .rightParen 0 rest = some behind ∧ peekKind behind = .leftBrace

theorem startsDefinition_iff (tokens : List Token) :
    startsDefinition tokens = true ↔ OpensDefinition tokens := by
  match tokens with
  | [] | [_] => simp [startsDefinition, OpensDefinition]
  | n :: p :: rest =>
    rw [startsDefinition, braceFollows_eq]
    cases hbehind : behindMatching .leftParen .rightParen 0 rest with
    | none => simp [OpensDefinition, hbehind]
    | some behind => simp [OpensDefinition, hbehind, and_assoc]

theorem count_of_openBehind {k : Token.Kind} {outer behind : List Token.Kind}
    (h : k.openBehind outer = some behind) (hopen : k ≠ .leftBrace) (hclose : k ≠ .rightBrace) :
    behind.count .leftBrace = outer.count .leftBrace := by
  unfold Token.Kind.openBehind at h
  split at h
  · rename_i opening hcloses
    have hne : opening ≠ .leftBrace := by
      rintro rfl
      cases k <;> first | exact hclose rfl | cases hcloses
    split at h
    · rename_i hhead
      cases h
      obtain ⟨tail, rfl⟩ := List.head?_eq_some_iff.mp hhead
      rw [List.tail_cons, List.count_cons_of_ne hne]
    · cases h
  · cases h
    split
    · rw [List.count_cons_of_ne hopen]
    · rfl

/-- Of the braces among some tokens, those count that stay open. -/
theorem behindMatching_append {outer behind : List Token.Kind} {ts : List Token}
    {enclosed : List Enclosed} (h : enclose outer ts = some (enclosed, behind))
    (hts : ∀ t ∈ ts, t.kind ≠ .endOfInput) (rest : List Token) :
    behindMatching .leftBrace .rightBrace (outer.count .leftBrace) (ts ++ rest) =
      behindMatching .leftBrace .rightBrace (behind.count .leftBrace) rest := by
  induction ts generalizing outer enclosed with
  | nil =>
    cases h
    rfl
  | cons t ts ih =>
    simp only [enclose, Option.bind_eq_some_iff, Option.map_eq_some_iff] at h
    obtain ⟨between, hbetween, ⟨enclosed', left⟩, henclose, heq⟩ := h
    cases heq
    obtain ⟨ht, hts⟩ := List.forall_mem_cons.mp hts
    rw [← ih henclose hts, List.cons_append, behindMatching, if_neg ht]
    by_cases hopen : t.kind = .leftBrace
    · rw [if_pos hopen]
      rw [Token.Kind.openBehind_opening (by rw [hopen]; rfl)] at hbetween
      cases hbetween
      rw [hopen, List.count_cons_self]
    · rw [if_neg hopen]
      by_cases hclose : t.kind = .rightBrace
      · rw [if_pos hclose]
        simp only [hclose, Token.Kind.openBehind, Token.Kind.closes?] at hbetween
        split at hbetween
        · rename_i hhead
          cases hbetween
          obtain ⟨tail, rfl⟩ := List.head?_eq_some_iff.mp hhead
          rw [List.count_cons_self, if_neg (Nat.succ_ne_zero _), List.tail_cons]
          rfl
        · cases hbetween
      · rw [if_neg hclose, count_of_openBehind hbetween hopen hclose]

/-- A block ends with the brace that closes it. -/
theorem behindMatching_of_derives {b : Block} {t : Token} {ts : List Token}
    (h : Derives (.block b) (t :: ts)) (rest : List Token) :
    behindMatching .leftBrace .rightBrace 0 (ts ++ rest) = some rest := by
  cases h with
  | @block ss _ closing ts _ hss closes =>
    obtain ⟨enclosed, henclose, -⟩ := hss.keeps [] rfl
    have hts : ∀ t ∈ ts, t.kind ≠ .endOfInput := fun t => hss.balanced.kind_ne
    rw [List.append_assoc]
    refine (behindMatching_append henclose hts _).trans ?_
    simp [behindMatching, closes]

theorem firstStatement_sound (tokens : List Token) :
    (firstStatement tokens).Sound tokens fun s => Derives (.statement s) := by
  cases tokens with
  | nil => exact .fail
  | cons t rest => exact .cons (statement_sound t rest)

/-- What starts neither with a keyword nor like a definition is an assignment or an expression. -/
theorem statement_eq_assignmentOrExpression {t : Token} {ts : List Token}
    (hkind : t.kind ∉ [.ifWord, .forWord, .returnWord, .breakWord, .continueWord])
    (hdefinition : ¬ OpensDefinition (t :: ts)) :
    statement t ts = assignmentOrExpression (t :: ts) := by
  rw [← startsDefinition_iff, Bool.not_eq_true] at hdefinition
  rw [statement]
  split <;> simp_all

/-! ## Entries -/

namespace Entry

/-- The reader of an entry. -/
def reading : {α : Type} → Entry α → List Token → Reading
  | _, .program, tokens => .statements .endOfInput tokens
  | _, .statement, tokens => .firstStatement tokens
  | _, .expression, tokens => .expression tokens
  | _, .binary level, tokens => .binary level tokens
  | _, .unary, tokens => .unary tokens
  | _, .conditional _, tokens => .conditional tokens
  | _, .loop _, tokens => .loop tokens
  | _, .block _, tokens => .block tokens

/-- What an entry takes, in front of what it leaves: a program all up to the end, a block all up to
the brace that closes it, and any other at least one token. -/
def Takes : {α : Type} → Entry α → (taken rest : List Token) → Prop
  | _, .program, _, rest => ∀ t ∈ rest.head?, t.kind = .endOfInput
  | _, .block _, taken, rest =>
    behindMatching .leftBrace .rightBrace 0 (taken ++ rest) = some rest
  | _, .statement, taken, _ | _, .expression, taken, _ | _, .binary _, taken, _
  | _, .unary, taken, _ | _, .conditional _, taken, _ | _, .loop _, taken, _ => taken ≠ []

theorem reading_weight_le (entry : Entry α) (tokens : List Token) :
    (entry.reading tokens).weight ≤ 32 * tokens.length + 19 := by
  cases entry with
  | binary level =>
    have hlooseness := level.looseness_le
    simp only [reading, Reading.weight]
    omega
  | _ =>
    simp only [reading, Reading.weight]
    omega

/-- What an entry takes is not the end. -/
theorem read_kind_ne (entry : Entry α) (tokens : List Token) :
    (entry.read tokens).Sound tokens fun _ ts => ∀ t ∈ ts, t.kind ≠ .endOfInput := by
  have hderives : ∀ {phrase : Phrase} {ts : List Token}, Derives phrase ts →
      ∀ t ∈ ts, t.kind ≠ .endOfInput := fun h t => h.balanced.kind_ne
  have hbehind : ∀ {phrase : Phrase} {t : Token} {ts : List Token}, Derives phrase (t :: ts) →
      ∀ t ∈ ts, t.kind ≠ .endOfInput := fun h t ht => hderives h t (List.mem_cons_of_mem _ ht)
  cases entry with
  | program => exact (statements_sound .endOfInput (.inr rfl) tokens).mono fun _ _ => hderives
  | statement => exact ((firstStatement_sound tokens).mono fun _ _ => hderives).loosen
  | expression => exact ((expression_sound tokens).mono fun _ _ => hderives).loosen
  | binary level => exact ((binary_sound level tokens).mono fun _ _ => hderives).loosen
  | unary => exact ((unary_sound tokens).mono fun _ _ => hderives).loosen
  | conditional position =>
    have hconditional := conditional_sound ⟨.ifWord, "", position⟩ rfl tokens
    exact (hconditional.mono fun _ _ => hbehind).loosen
  | loop position =>
    have hloop := loop_sound ⟨.forWord, "", position⟩ rfl tokens
    exact (hloop.mono fun _ _ => hbehind).loosen
  | block position =>
    have hblock := block_sound ⟨.leftBrace, "", position⟩ rfl tokens
    exact (hblock.mono fun _ _ => hbehind).loosen

theorem read_takes (entry : Entry α) {tokens taken rest : List Token} {a : α}
    {h : rest.length < tokens.length + 1} (hread : entry.read tokens = .ok a rest h)
    (htaken : tokens = taken ++ rest) : entry.Takes taken rest := by
  have htakes : ∀ {D : α → List Token → Prop}, (entry.read tokens).Sound tokens D → D a taken := by
    intro D hsound
    obtain ⟨ts, hts, hD⟩ := hsound a rest h hread
    rwa [← List.append_cancel_right (hts.symm.trans htaken)]
  cases entry with
  | program =>
    have hend := (statements_leaves .endOfInput tokens a rest h hread).elim id id
    intro t ht
    obtain ⟨us, rfl⟩ := List.head?_eq_some_iff.mp ht
    exact hend
  | statement => exact htakes (firstStatement_sound tokens).ne_nil.loosen
  | expression => exact htakes (expression_sound tokens).ne_nil.loosen
  | binary level => exact htakes (binary_sound level tokens).ne_nil.loosen
  | unary => exact htakes (unary_sound tokens).ne_nil.loosen
  | conditional position =>
    exact htakes (conditional_sound ⟨.ifWord, "", position⟩ rfl tokens).ne_nil.loosen
  | loop position =>
    exact htakes (loop_sound ⟨.forWord, "", position⟩ rfl tokens).ne_nil.loosen
  | block position =>
    have hblock := block_sound ⟨.leftBrace, "", position⟩ rfl tokens
    exact behindMatching_of_derives (htakes hblock.loosen) rest

/-- Every entry gets on with any tokens. There is a bound for the calls within one another. In the
end the reading fails, or something is read; then what is left is the rest of the tokens, and in
front of it stands what the entry takes, without the end of the tokens. And what starts neither with
a keyword nor like a definition is read from its first token, as an assignment or an expression. -/
theorem read_progresses (entry : Entry α) (tokens : List Token) :
    (∀ calls, List.IsChain Reading.Calls (entry.reading tokens :: calls) →
      calls.length ≤ 32 * tokens.length + 19) ∧
    ((∃ e us, entry.read tokens = .fail e us) ∨
      ∃ a taken rest h, entry.read tokens = .ok a rest h ∧ tokens = taken ++ rest ∧
        (∀ t ∈ taken, t.kind ≠ .endOfInput) ∧ entry.Takes taken rest) ∧
    ∀ t us, tokens = t :: us →
      t.kind ∉ [.ifWord, .forWord, .returnWord, .breakWord, .continueWord] →
      ¬ OpensDefinition tokens → firstStatement tokens = assignmentOrExpression tokens := by
  refine ⟨fun calls hcalls => ?_, ?_, ?_⟩
  · exact (Reading.length_le_of_isChain hcalls).trans (entry.reading_weight_le tokens)
  · cases hread : entry.read tokens with
    | fail e us => exact .inl ⟨e, us, rfl⟩
    | ok a rest h =>
      obtain ⟨taken, htaken, hkinds⟩ := entry.read_kind_ne tokens a rest h hread
      exact .inr ⟨a, taken, rest, h, rfl, htaken, hkinds, entry.read_takes hread htaken⟩
  · rintro t us rfl hkind hdefinition
    exact statement_eq_assignmentOrExpression hkind hdefinition

/-- The tokens of `f(a) )`, with nothing behind them: a call is read, and a parenthesis is left that
closes nothing. -/
theorem read_progresses_to_stray_parenthesis :
    let closing : Token := ⟨.rightParen, ")", ⟨0, 5, 1⟩⟩
    let call : List Token := [⟨.name, "f", ⟨0, 0, 1⟩⟩, ⟨.leftParen, "(", ⟨0, 1, 1⟩⟩,
      ⟨.name, "a", ⟨0, 2, 1⟩⟩, ⟨.rightParen, ")", ⟨0, 3, 1⟩⟩]
    let tokens := call ++ [closing]
    List.IsChain Reading.Calls [.expression tokens, .binary .membership tokens] ∧
      1 ≤ 32 * tokens.length + 19 ∧
      (∃ a h, Entry.expression.read tokens = .ok a [closing] h) ∧
      Entry.expression.Takes call [closing] ∧ ¬ OpensDefinition tokens ∧
      firstStatement tokens = assignmentOrExpression tokens := by
  intro closing call tokens
  obtain ⟨hcalls, htakes, hlookahead⟩ := Entry.expression.read_progresses tokens
  have hchain : List.IsChain Reading.Calls [.expression tokens, .binary .membership tokens] :=
    .cons_cons .operations (.singleton _)
  have hdefinition : ¬ OpensDefinition tokens := by
    rw [← startsDefinition_iff]
    decide
  obtain ⟨a, h, hok⟩ : ∃ a h, Entry.expression.read tokens = .ok a [closing] h :=
    ⟨_, _, by with_unfolding_all rfl⟩
  refine ⟨hchain, hcalls _ hchain, ⟨a, h, hok⟩, ?_, hdefinition,
    hlookahead _ _ rfl (by decide) hdefinition⟩
  rcases htakes with ⟨e, us, hfail⟩ | ⟨a', taken, rest, h', hok', heq, -, htaken⟩
  · cases hok.symm.trans hfail
  · cases hok.symm.trans hok'
    rwa [List.append_cancel_right heq]

end Entry

end Grammar

end Scriptlet
