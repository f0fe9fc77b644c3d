import PageComponent.Expr.Evaluation
import PageComponent.Proofs.Number.Halves

/-!
# Operations on integers

Sums, differences and products of integers are exact. A remainder and a rounded integer are computed
on binary numbers, so that they are exact as far as the integers are such numbers.
-/

namespace PageComponent.Expr

open Binary

variable {params : Params} {e left right : Expr} {v w : Value} {x y : Located} {a b : Int}

/-! ## Values -/

/-- The expression has the value. -/
def Gives (params : Params) (e : Expr) (v : Value) : Prop :=
  ∃ r, e.evaluate params = .ok r ∧ r.value = v

theorem gives_of_computed {result : Except EvalError Value}
    (h : e.evaluate params = do return .computed (← result)) :
    Gives params e v ↔ result = .ok v := by
  rw [Gives, h]
  constructor
  · rintro ⟨_, eq, rfl⟩
    obtain ⟨w, done, ⟨⟩⟩ := bind_eq_ok.mp eq
    exact done
  · rintro rfl
    exact ⟨_, rfl, rfl⟩

theorem evaluate_binary {op : BinaryOp} (hl : left.evaluate params = .ok x)
    (hr : right.evaluate params = .ok y) (both : op.decides x.value = .ok false) :
    (binary op left right).evaluate params = op.apply x y := by
  rw [evaluate, hl, hr]
  dsimp only [bind, Except.bind]
  rw [both]
  rfl

theorem number_eq_ok {result : Except TooLarge Number} :
    (do return .number (← result) : Except EvalError Value) = .ok v ↔
      ∃ n, result = .ok n ∧ v = .number n := by
  cases result with
  | error failure =>
    refine iff_of_false nofun ?_
    rintro ⟨n, done, -⟩
    cases done
  | ok n =>
    constructor
    · rintro ⟨⟩
      exact ⟨n, rfl, rfl⟩
    · rintro ⟨_, ⟨⟩, rfl⟩
      rfl

theorem remainder_eq_ok {m n : Number} (nonzero : n.isZero = false) :
    Value.remainder m n = .ok v ↔ ∃ r, m.rem n = .ok r ∧ v = .number r := by
  rw [Value.remainder, nonzero]
  exact number_eq_ok

theorem applyFunction_round_eq_ok :
    applyFunction "round" [w] = .ok v ↔ ∃ n, w.toNumber.round = .ok n ∧ v = .number n := by
  rw [applyFunction, if_neg (by decide), if_neg (by decide), if_neg (by decide), if_pos rfl]
  exact number_eq_ok

/-! ## Integers -/

section

variable (hl : Gives params left (.int a)) (hr : Gives params right (.int b))

include hl

theorem gives_round : Gives params (.call "round" [left]) v ↔
    ∃ n, (Number.int a).round = .ok n ∧ v = .number n := by
  obtain ⟨⟨_, place⟩, left_eq, rfl⟩ := hl
  have step : (call "round" [left]).evaluate params =
      do return .computed (← applyFunction "round" [.int a]) := by
    rw [evaluate, evaluateAll, evaluateAll, left_eq]
    rfl
  rw [gives_of_computed step, applyFunction_round_eq_ok]
  rfl

include hr

/-- An operator on two integers. -/
theorem gives_binary {op : BinaryOp} {result : Except EvalError Value}
    (both : op.decides (.int a) = .ok false)
    (apply_eq : ∀ place place' : Option Place,
      op.apply ⟨.int a, place⟩ ⟨.int b, place'⟩ = do return .computed (← result)) :
    Gives params (.binary op left right) v ↔ result = .ok v := by
  obtain ⟨⟨_, place⟩, left_eq, rfl⟩ := hl
  obtain ⟨⟨_, place'⟩, right_eq, rfl⟩ := hr
  exact gives_of_computed ((evaluate_binary left_eq right_eq both).trans (apply_eq place place'))

theorem gives_exact :
    (Gives params (.binary .add left right) v ↔ v = .int (a + b)) ∧
      (Gives params (.binary .sub left right) v ↔ v = .int (a - b)) ∧
      (Gives params (.binary .mul left right) v ↔ v = .int (a * b)) := by
  have same (i : Int) : (.ok (.int i) : Except EvalError Value) = .ok v ↔ v = .int i := by
    rw [Except.ok.injEq, eq_comm]
  refine ⟨.trans ?_ (same _), .trans ?_ (same _), .trans ?_ (same _)⟩ <;>
    exact gives_binary hl hr rfl fun _ _ => rfl

theorem gives_rem (hb : b ≠ 0) : Gives params (.binary .rem left right) v ↔
    ∃ n, (Number.int a).rem (.int b) = .ok n ∧ v = .number n := by
  have nonzero : (Number.int b).isZero = false := by simpa [Number.isZero] using hb
  rw [← remainder_eq_ok nonzero]
  exact gives_binary hl hr rfl fun _ _ => rfl

end

/-- Sums, differences and products of two integers are those of the integers. A remainder is the one
of the integers that the nearest binary numbers hold: there is none if an integer is too large for
the format, and it is exact if both are binary numbers themselves. An integer is rounded to itself
exactly if it is a binary number and has a bit left for the half or is even. -/
theorem integer_operations (hl : Gives params left (.int a)) (hr : Gives params right (.int b))
    (hb : b ≠ 0) :
    (∀ v, Gives params (.binary .add left right) v ↔ v = .int (a + b)) ∧
      (∀ v, Gives params (.binary .sub left right) v ↔ v = .int (a - b)) ∧
      (∀ v, Gives params (.binary .mul left right) v ↔ v = .int (a * b)) ∧
      (∀ v, Gives params (.binary .rem left right) v ↔
        ∃ a' b' r, RoundsTo a a' ∧ RoundsTo b b' ∧ IsRemainder a' b' r ∧ v = .int r) ∧
      ((∃ v, Gives params (.binary .rem left right) v) ↔
        a.natAbs < overflow ∧ b.natAbs < overflow) ∧
      ((∃ x : Binary, x.Holds a) → (∃ y : Binary, y.Holds b) →
        ∃ r, Gives params (.binary .rem left right) (.int r) ∧ IsRemainder a b r) ∧
      (Gives params (.call "round" [left]) (.int a) ↔
        (∃ x : Binary, x.Holds a) ∧ (-2 ^ 52 ≤ a ∧ a < 2 ^ 52 ∨ a % 2 = 0)) := by
  have remainder (v : Value) : Gives params (.binary .rem left right) v ↔
      ∃ a' b' r, RoundsTo a a' ∧ RoundsTo b b' ∧ IsRemainder a' b' r ∧ v = .int r := by
    rw [gives_rem hl hr hb]
    constructor
    · rintro ⟨n, done, rfl⟩
      obtain ⟨a', b', r, roundsa, roundsb, isRemainder, rfl⟩ :=
        (Number.rem_int_eq_ok_iff hb).mp done
      exact ⟨a', b', r, roundsa, roundsb, isRemainder, rfl⟩
    · rintro ⟨a', b', r, roundsa, roundsb, isRemainder, rfl⟩
      exact ⟨_, (Number.rem_int_eq_ok_iff hb).mpr ⟨a', b', r, roundsa, roundsb, isRemainder, rfl⟩,
        rfl⟩
  refine ⟨fun _ => (gives_exact hl hr).1, fun _ => (gives_exact hl hr).2.1,
    fun _ => (gives_exact hl hr).2.2, remainder, ?_, ?_, ?_⟩
  · simp only [remainder]
    constructor
    · rintro ⟨_, a', b', r, roundsa, roundsb, -, -⟩
      exact ⟨roundsa.inRange, roundsb.inRange⟩
    · rintro ⟨rangea, rangeb⟩
      obtain ⟨a', roundsa⟩ := exists_roundsTo rangea
      obtain ⟨b', roundsb⟩ := exists_roundsTo rangeb
      exact ⟨_, a', b', _, roundsa, roundsb, isRemainder_tmod a' (roundsb.ne_zero hb), rfl⟩
  · intro helda heldb
    have isRemainder := isRemainder_tmod a hb
    exact ⟨_, (remainder _).mpr ⟨a, b, _, roundsTo_self_iff.mpr helda, roundsTo_self_iff.mpr heldb,
      isRemainder, rfl⟩, isRemainder⟩
  · rw [gives_round hl, ← Number.round_int_self_iff]
    constructor
    · rintro ⟨n, done, same⟩
      rwa [← Value.number.inj same] at done
    · exact fun done => ⟨_, done, rfl⟩

/-- The first integer behind the fifty-three bits loses its last digit, so that its remainder is two
and not three, and an odd one of fifty-three bits is rounded to the next. -/
theorem integer_operations_of_last_digits :
    let params : Params := [("a", .int 9007199254740993), ("b", .int 10),
      ("n", .int 4503599627370497)]
    let remainder : Expr := .binary .rem (.ref "a" []) (.ref "b" [])
    (10 : Int) ≠ 0 ∧ Gives params remainder (.int 2) ∧ ¬IsRemainder 9007199254740993 10 2 ∧
      Gives params (.binary .sub (.ref "a" []) (.ref "b" [])) (.int 9007199254740983) ∧
      ¬Gives params (.call "round" [.ref "n" []]) (.int 4503599627370497) := by
  intro params remainder
  have given (name : String) (i : Int) (h : Entries.get? params name = some (.int i)) :
      Gives params (.ref name []) (.int i) := by
    refine ⟨⟨.int i, some ⟨name, []⟩⟩, ?_, rfl⟩
    rw [evaluate, Located.ofParameter, h]
    rfl
  have nonzero : (10 : Int) ≠ 0 := by decide
  obtain ⟨-, sub, -, rem, -, -, -⟩ := integer_operations (given "a" 9007199254740993 (by decide))
    (given "b" 10 (by decide)) nonzero
  obtain ⟨-, -, -, -, -, -, round⟩ := integer_operations (given "n" 4503599627370497 (by decide))
    (given "b" 10 (by decide)) nonzero
  have first : RoundsTo 9007199254740993 9007199254740992 := by
    have inRange : (9007199254740993 : Int).natAbs < overflow := by decide +kernel
    have eq : ofInt 9007199254740993 = .finite false (2 ^ 52) 1 (by decide) := by decide +kernel
    refine ⟨inRange, _, nearest_ofInt inRange, ?_⟩
    rw [eq]
    exact ⟨rfl, by norm_num [value]⟩
  have second : RoundsTo 10 10 := roundsTo_self_iff.mpr (exists_holds_of_small (by decide))
  have two : IsRemainder 9007199254740992 10 2 := ⟨by decide, by decide, by decide⟩
  refine ⟨nonzero, (rem _).mpr ⟨_, _, 2, first, second, two, rfl⟩, fun three => ?_,
    (sub _).mpr rfl, fun same => ?_⟩
  · exact absurd three.dvd (by decide)
  · obtain ⟨-, bits | even⟩ := round.mp same
    · exact absurd bits.2 (by decide)
    · exact absurd even (by decide)

end PageComponent.Expr
