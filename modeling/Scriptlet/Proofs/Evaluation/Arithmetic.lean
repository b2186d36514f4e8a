import Scriptlet.Interpreter
import Scriptlet.Proofs.Calls.Sight
import Scriptlet.Proofs.Evaluation.Remainder
import Scriptlet.Proofs.Grammar.Failure
import Scriptlet.Proofs.Rendering.RoundTrip

/-!
# Arithmetic on integers that are written out

What a program gives that applies an operator of arithmetic to two integers of 64 bits, each of them
written out (`Environment.run_arithmetic`): the exact result where it has 64 bits, an overflow where
it has more, and an error where it is a division by zero. A negative integer is written as its sign
and its digits, which is read as a difference, so the result takes three operations on the way.

One integer cannot be written out so: the digits of the least one stand for a number that is beyond
64 bits, and no sign in front of them helps.
-/

namespace Scriptlet

open Grammar

/-! ## Integers as tokens -/

/-- The tokens of an integer that is written out: its digits, behind a sign if it is negative. -/
inductive Written : Int → List Token → Prop
  | ofNat {n : Nat} {t : Token} (isInteger : t.kind = .integer)
    (digits : t.data = toString (n : Int)) : Written (.ofNat n) [t]
  | negSucc {n : Nat} {sign t : Token} (isMinus : sign.kind = .minus)
    (isInteger : t.kind = .integer) (digits : t.data = toString ((n + 1 : Nat) : Int)) :
    Written (.negSucc n) [sign, t]

theorem Spells.written (i : Int) : Spells Breaks (toString i).toList (Written i) := by
  have hdigits : ∀ (n : Nat) {D : List Token → Prop},
      (∀ t : Token, t.kind = .integer → t.data = toString (n : Int) → D [t]) →
      Spells Breaks (toString (n : Int)).toList D := by
    intro n D hD
    rw [← List.append_nil (toString (n : Int)).toList]
    exact .integer (fun c hc => Decimal.isDigit_of_mem_toString hc) (Decimal.toString_ne_nil n)
      (fun _ hrest => hrest) fun t ht hdata => .nil (hD t ht hdata)
  cases i with
  | ofNat n => exact hdigits n fun t ht hdata => .ofNat ht hdata
  | negSucc n =>
    have htext : (toString (Int.negSucc n)).toList =
        '-' :: (toString ((n + 1 : Nat) : Int)).toList := by
      show ("-" ++ Nat.repr (n + 1)).toList = _
      rw [String.toList_append]
      rfl
    rw [htext]
    exact .sign .minus rfl fun sign hsign =>
      hdigits (n + 1) fun t ht hdata => .negSucc hsign ht hdata

/-- The first token is one with which an expression starts. -/
theorem Written.starts {i : Int} {ts : List Token} (h : Written i ts) :
    ∃ t us, ts = t :: us ∧ startsExpression t.kind = true := by
  cases h with
  | ofNat isInteger _ => exact ⟨_, _, rfl, by rw [isInteger]; rfl⟩
  | negSucc isMinus _ _ => exact ⟨_, _, rfl, by rw [isMinus]; rfl⟩

/-- Every integer of 64 bits but the least is read as an operand that has it as its value. -/
theorem Written.derives {a : Int64} {ts : List Token} (h : Written a.toInt ts)
    (ha : a ≠ Int64.minValue) :
    ∃ e, Derives (.tier none e) ts ∧
      ∀ calls m, (evalExpr calls e).on m = (.ok (.int a), m) := by
  have hself := Decimal.int64?_toInt a
  have hmin := a.minValue_le_toInt
  have hmax := a.toInt_le
  have hne : a.toInt ≠ Int64.minValue.toInt := fun heq => ha (Int64.toInt_inj.mp heq)
  generalize a.toInt = i at h hself hmin hmax hne
  cases h with
  | @ofNat n t isInteger digits =>
    have hread : Decimal.readInt64? t.data = some a := by
      rw [digits, Decimal.readInt64?_toString_natCast]
      exact hself
    refine ⟨_, (Derives.primary (.integer isInteger hread)).tier_of_members none, fun calls m => ?_⟩
    rw [evalExpr]
    rfl
  | @negSucc n sign t isMinus isInteger digits =>
    -- The digits stand for the absolute value, which is in range as the integer is not the least.
    obtain ⟨c, hc⟩ : ∃ c, Decimal.int64? ((n + 1 : Nat) : Int) = some c := by
      have hlow : Int64.minValue.toInt = -2 ^ 63 := rfl
      have hhigh : Int64.maxValue.toInt = 2 ^ 63 - 1 := rfl
      exact ⟨_, if_pos (by omega)⟩
    have hread : Decimal.readInt64? t.data = some c := by
      rw [digits, Decimal.readInt64?_toString_natCast, hc]
    have hprimary := (Derives.primary (.integer isInteger hread)).tier_of_members none
    refine ⟨_, .minus isMinus hprimary, fun calls m => ?_⟩
    have hneg : Operator.sub.inRange ((0 : Int64).toInt - c.toInt) sign.position =
        .ok (.int a) := by
      have hdiff : (0 : Int64).toInt - c.toInt = .negSucc n := by
        rw [Decimal.toInt_of_int64? hc]
        have hzero : (0 : Int64).toInt = 0 := rfl
        omega
      rw [hdiff, Operator.inRange, hself]
    rw [evalExpr, evalExpr, evalExpr]
    exact congrArg (·, m) hneg

/-- The digits of the least integer of 64 bits are too large for one. -/
theorem Written.unary_fails {ts : List Token} (h : Written Int64.minValue.toInt ts) :
    ∃ p, ∀ rest,
      (unary (ts ++ rest)).Fails (.literalTooLarge "9223372036854775808" p) := by
  have hmin : Int64.minValue.toInt = .negSucc 9223372036854775807 := rfl
  rw [hmin] at h
  cases h with
  | @negSucc _ sign t isMinus isInteger digits =>
    have hdata : t.data = "9223372036854775808" := digits.trans (by decide)
    have hread : Decimal.readInt64? t.data = none := by
      rw [digits, Decimal.readInt64?_toString_natCast]
      decide
    refine ⟨t.position, fun rest => ?_⟩
    have hprimary : (primary t rest).Fails (.literalTooLarge t.data t.position) := by
      rw [primary]
      simp only [isInteger, hread]
      exact .fail
    have hoperand : (unary (t :: rest)).Fails (.literalTooLarge t.data t.position) := by
      rw [unary]
      simp only [isInteger, reduceCtorEq, if_false]
      exact .andThen hprimary
    rw [← hdata, List.cons_append, List.singleton_append, unary, if_pos isMinus]
    exact .within (.map _ hoperand)

/-! ## Operations on two of them -/

/-- What an operator of arithmetic is on integers of any size. Division rounds toward zero. -/
def Operator.arithmetic? : Operator → Option (Int → Int → Int)
  | .add => some (· + ·)
  | .sub => some (· - ·)
  | .mul => some (· * ·)
  | .div => some Int.tdiv
  | _ => none

variable {o : Operator} {f : Int → Int → Int} {a b : Int64}

theorem Operator.apply_int (ho : o.arithmetic? = some f) (a b : Int64) (p : Position) :
    o.apply (.int a) (.int b) p =
      if o = .div ∧ b = 0 then .error (.divisionByZero p)
      else o.inRange (f a.toInt b.toInt) p := by
  cases o with
  | add | sub | mul =>
    cases ho
    rfl
  | div =>
    cases ho
    have hzero : b.toInt = (0 : Int64).toInt ↔ b = 0 := Int64.toInt_inj
    simp only [apply, Value.onInts, true_and, ← hzero]
    rfl
  | _ => cases ho

/-- The source that returns the value of an operation on two integers. -/
def Operator.source (o : Operator) (a b : Int) : String :=
  "return " ++ toString a ++ " " ++ o.symbol ++ " " ++ toString b

/-- The source is scanned as the word `return`, the integers, and the operator between them. -/
theorem Operator.scan_source (o : Operator) (a b : Int) :
    ∃ word sign last ts us, word.kind = .returnWord ∧ Operator.ofKind sign.kind = some o ∧
      last.kind = .endOfInput ∧ Written a ts ∧ Written b us ∧
      (Cursor.start (o.source a b).toList).scan = (word :: (ts ++ sign :: us) ++ [last], none) := by
  have htext : (o.source a b).toList = "return".toList ++ ' ' :: ((toString a).toList ++
      ' ' :: (o.symbol.toList ++ ' ' :: (toString b).toList)) := by
    simp [source]
  have hspells : Spells Breaks (o.source a b).toList fun all => ∃ word sign ts us,
      word.kind = .returnWord ∧ Operator.ofKind sign.kind = some o ∧ Written a ts ∧
      Written b us ∧ all = word :: (ts ++ sign :: us) := by
    rw [htext]
    refine .keyword _ .returnWord (fun _ => rfl) rfl fun word hword => ?_
    refine .andThen (.written a) (fun _ _ => .cons rfl) fun ts hts => ?_
    refine .operator o fun sign hsign => (Spells.written b).imp (fun _ hrest => hrest) ?_
    intro us hus
    exact ⟨word, sign, ts, us, hword, hsign, hts, hus, rfl⟩
  obtain ⟨all, after, hafter, ⟨word, sign, ts, us, hword, hsign, hts, hus, rfl⟩, hscan⟩ :=
    hspells (Cursor.start (o.source a b).toList) [] (List.append_nil _).symm .nil
  obtain ⟨last, hlast, hend⟩ := Cursor.scan_nil hafter
  rw [hend] at hscan
  exact ⟨word, sign, last, ts, us, hword, hsign, hlast, hts, hus, hscan⟩

/-- If neither integer is the least, the source is read as a `return` of the operation. -/
theorem Operator.parse_source (o : Operator) (ha : a ≠ Int64.minValue) (hb : b ≠ Int64.minValue) :
    ∃ e e' p p', parse (o.source a.toInt b.toInt) = .ok [.exit (some (.binary e o e' p)) p'] ∧
      (∀ calls m, (evalExpr calls e).on m = (.ok (.int a), m)) ∧
      ∀ calls m, (evalExpr calls e').on m = (.ok (.int b), m) := by
  obtain ⟨word, sign, last, ts, us, hword, hsign, hlast, hts, hus, hscan⟩ :=
    o.scan_source a.toInt b.toInt
  obtain ⟨e, he, hvalue⟩ := hts.derives ha
  obtain ⟨e', he', hvalue'⟩ := hus.derives hb
  have hbinary : Derives (.tier (some o.level) (.binary e o e' sign.position)) (ts ++ sign :: us) :=
    .binary (he.tier_of_unary _) hsign (he'.tier_of_unary _)
  have hstatement : Derives (.statement (.exit (some (.binary e o e' sign.position)) word.position))
      (word :: (ts ++ sign :: us)) := .exitWith hword hbinary.expression_of_tier
  have hprogram := Derives.next hstatement (.inr (.inl rfl)) .noStatements
  rw [List.append_nil] at hprogram
  exact ⟨e, e', _, _, parse_of_derives hscan hlast hprogram, hvalue, hvalue'⟩

/-- If one of the integers is the least, the source is no program: its digits are too large. -/
theorem Operator.parse_source_of_minValue (o : Operator)
    (h : a = Int64.minValue ∨ b = Int64.minValue) :
    ∃ p, parse (o.source a.toInt b.toInt) =
      .error (.literalTooLarge "9223372036854775808" p) := by
  obtain ⟨word, sign, last, ts, us, hword, hsign, hlast, hts, hus, hscan⟩ :=
    o.scan_source a.toInt b.toInt
  obtain ⟨t, ts', hcons, hstarts⟩ := hts.starts
  have hvalue : returnsNothing (ts ++ sign :: us ++ [last]) = false := by
    rw [hcons]
    exact returnsNothing_eq_false hstarts _
  have hbinary : ∃ p, (binary o.level (ts ++ sign :: us ++ [last])).Fails
      (.literalTooLarge "9223372036854775808" p) := by
    rw [List.append_assoc, List.cons_append]
    by_cases ha : a = Int64.minValue
    · subst ha
      obtain ⟨p, hp⟩ := hts.unary_fails
      exact ⟨p, binary_fails_of_unary (hp _) _⟩
    · obtain rfl := h.resolve_left ha
      obtain ⟨e, he, -⟩ := hts.derives ha
      obtain ⟨p, hp⟩ := hus.unary_fails
      exact ⟨p, binary_fails_of_right (he.tier_of_unary _).readOff hsign
        (operand_fails_of_unary (hp _) _)⟩
  obtain ⟨p, hp⟩ := hbinary
  refine ⟨p, parse_of_fails hscan ?_⟩
  rw [List.cons_append]
  exact program_fails_of_return hword hvalue (expression_fails_of_binary hp)

/-- A `return` gives the value of its expression. -/
theorem runProgram_exit (calls : Calls) (e : Expr) (p : Position) (m : Machine) :
    ((runProgram calls [.exit (some e) p]).on m).1 =
      ((evalExpr calls e).on (m.record (.statement p.line))).1 := by
  rw [runProgram, evalStatements, Exec.on_bind, Exec.on_bind_ok (Exec.on_record _ _), execute]
  simp only [Exec.on_bind, Statement.position]
  generalize (evalExpr calls e).on (m.record (.statement p.line)) = r
  obtain ⟨o, m'⟩ := r
  cases o <;> rfl

/-- What the source gives is what the operator gives on the two integers. -/
theorem Environment.run_source (env : Environment) (m : Machine) (o : Operator)
    (ha : a ≠ Int64.minValue) (hb : b ≠ Int64.minValue) :
    ∃ p, ((env.run (o.source a.toInt b.toInt)).on m).1 =
      (o.apply (.int a) (.int b) p).mapError .runtime := by
  obtain ⟨e, e', p, p', hparse, hvalue, hvalue'⟩ := o.parse_source ha hb
  refine ⟨p, ?_⟩
  rw [run, on_runSource, hparse]
  show ((runProgram _ _).on _).1.mapError _ = _
  rw [runProgram_exit, evalExpr, Exec.on_bind_ok (hvalue _ _), Exec.on_bind_ok (hvalue' _ _)]
  rfl

/-! ## The result -/

theorem Operator.inRange_of_eq {c : Int64} {i : Int} (o : Operator) (h : c.toInt = i)
    (p : Position) : o.inRange i p = .ok (.int c) := by
  rw [← h, inRange, Decimal.int64?_toInt]

theorem Operator.inRange_of_ne {i : Int} (o : Operator) (h : ∀ c : Int64, c.toInt ≠ i)
    (p : Position) : o.inRange i p = .error (.overflow o p) := by
  rw [inRange]
  cases hi : Decimal.int64? i with
  | some c => exact absurd (Decimal.toInt_of_int64? hi) (h c)
  | none => rfl

/-- What is no division by zero has the exact result if this has 64 bits, and overflows if not. -/
theorem Operator.apply_int_cases (ho : o.arithmetic? = some f) (a b : Int64) (p : Position) :
    ((o = .div ∧ b = 0) ∧ o.apply (.int a) (.int b) p = .error (.divisionByZero p)) ∨
      ¬(o = .div ∧ b = 0) ∧
        ((∃ c : Int64, c.toInt = f a.toInt b.toInt ∧ o.apply (.int a) (.int b) p = .ok (.int c)) ∨
          (∀ c : Int64, c.toInt ≠ f a.toInt b.toInt) ∧
            o.apply (.int a) (.int b) p = .error (.overflow o p)) := by
  rw [Operator.apply_int ho]
  by_cases hzero : o = .div ∧ b = 0
  · exact .inl ⟨hzero, if_pos hzero⟩
  · refine .inr ⟨hzero, ?_⟩
    rw [if_neg hzero]
    by_cases hfits : ∃ c : Int64, c.toInt = f a.toInt b.toInt
    · obtain ⟨c, hc⟩ := hfits
      exact .inl ⟨c, hc, o.inRange_of_eq hc p⟩
    · have hnone := not_exists.mp hfits
      exact .inr ⟨hnone, o.inRange_of_ne hnone p⟩

/-- What is returned by a program that applies an operator of arithmetic to two integers of 64 bits
which it writes out. If neither is the least of them, the program fails with a division by zero
where it divides by zero and nowhere else; apart from that it returns the exact result if this has
64 bits, and fails with an overflow if not. If one of them is the least, its digits are refused. -/
theorem Environment.run_arithmetic (env : Environment) (m : Machine)
    (ho : o.arithmetic? = some f) (a b : Int64) :
    let outcome := ((env.run (o.source a.toInt b.toInt)).on m).1
    (a ≠ Int64.minValue → b ≠ Int64.minValue →
      ((∃ p, outcome = .error (.runtime (.divisionByZero p))) ↔ o = .div ∧ b = 0) ∧
      (¬(o = .div ∧ b = 0) →
        (∀ c : Int64, c.toInt = f a.toInt b.toInt → outcome = .ok (.int c)) ∧
        ((∀ c : Int64, c.toInt ≠ f a.toInt b.toInt) →
          ∃ p, outcome = .error (.runtime (.overflow o p))))) ∧
    (a = Int64.minValue ∨ b = Int64.minValue →
      ∃ p, outcome = .error (.parse (.literalTooLarge "9223372036854775808" p))) := by
  intro outcome
  refine ⟨fun ha hb => ?_, fun hmin => ?_⟩
  · obtain ⟨p, hp⟩ := env.run_source m o ha hb
    rcases Operator.apply_int_cases ho a b p with
      ⟨hzero, happly⟩ | ⟨hzero, ⟨c, hc, happly⟩ | ⟨hnone, happly⟩⟩
    · rw [happly] at hp
      exact ⟨⟨fun _ => hzero, fun _ => ⟨p, hp⟩⟩, fun hne => absurd hzero hne⟩
    · have hexact : outcome = .ok (.int c) := by
        rw [happly] at hp
        exact hp
      refine ⟨⟨fun ⟨q, hq⟩ => ?_, fun hdiv => absurd hdiv hzero⟩, fun _ => ⟨fun d hd => ?_,
        fun hnone => absurd hc (hnone c)⟩⟩
      · cases hexact.symm.trans hq
      · rwa [Int64.toInt_inj.mp (hd.trans hc.symm)]
    · have hoverflow : outcome = .error (.runtime (.overflow o p)) := by
        rw [happly] at hp
        exact hp
      refine ⟨⟨fun ⟨q, hq⟩ => ?_, fun hdiv => absurd hdiv hzero⟩, fun _ =>
        ⟨fun c hc => absurd hc (hnone c), fun _ => ⟨p, hoverflow⟩⟩⟩
      cases hoverflow.symm.trans hq
  · obtain ⟨p, hp⟩ := o.parse_source_of_minValue hmin
    refine ⟨p, ?_⟩
    show ((env.run _).on m).1 = _
    rw [run, on_runSource, hp]

/-- Division rounds toward zero. -/
theorem Environment.run_arithmetic_of_quotient :
    ((Environment.bare.run "return -7 / 2").on (.initial {})).1 = .ok (.int (-3)) ∧
      ∃ p, ((Environment.bare.run "return 4 / 0").on (.initial {})).1 =
        .error (.runtime (.divisionByZero p)) := by
  have hdiv : Operator.div.arithmetic? = some Int.tdiv := rfl
  have hquotient := (run_arithmetic .bare (.initial {}) hdiv (-7) 2).1 (by decide) (by decide)
  have hzero := (run_arithmetic .bare (.initial {}) hdiv 4 0).1 (by decide) (by decide)
  exact ⟨(hquotient.2 (by decide)).1 (-3) (by decide), hzero.1.mpr (by decide)⟩

/-- The sum of the least integer and zero has 64 bits, but it is not computed. -/
theorem Environment.run_source_of_minValue :
    Operator.add.source Int64.minValue.toInt (0 : Int64).toInt =
        "return -9223372036854775808 + 0" ∧
      Int64.minValue.toInt + (0 : Int64).toInt = Int64.minValue.toInt ∧
      ((Environment.bare.run "return -9223372036854775808 + 0").on (.initial {})).1 ≠
        .ok (.int Int64.minValue) := by
  have hsource : Operator.add.source Int64.minValue.toInt (0 : Int64).toInt =
      "return -9223372036854775808 + 0" := by decide
  obtain ⟨p, hp⟩ := Operator.add.parse_source_of_minValue (b := 0) (.inl rfl)
  rw [hsource] at hp
  refine ⟨hsource, by decide, ?_⟩
  rw [run, on_runSource, hp]
  nofun

end Scriptlet
