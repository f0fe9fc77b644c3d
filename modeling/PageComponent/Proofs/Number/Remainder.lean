import PageComponent.Proofs.Number.Nearest

/-!
# Integers on the way through binary numbers

The remainder of two integers is computed on the binary numbers nearest to them. It is the
remainder of the integers that these hold, so that it is exact for integers that are binary numbers
themselves.
-/

namespace PageComponent

namespace Binary

variable {x y : Binary} {n : Nat} {e : Int} {i j k : Int} {q : ℚ}

/-! ## Large numbers -/

theorem abs_cast_le (small : i.natAbs < 2 ^ 53) : |(i : ℚ)| + 1 ≤ 2 ^ 53 := by
  rw [← Int.cast_abs, ← Nat.cast_natAbs]
  exact_mod_cast small

theorem abs_value_le (hx : x.isFinite = true) : |x.value| + 1 ≤ overflow := by
  obtain ⟨i, e, small, -, greatest, eq, -⟩ := exists_value_eq hx
  have bits := le_sub_iff_add_le.mpr (abs_cast_le small)
  have power : (2 : ℚ) ^ e ≤ 2 ^ (970 : Int) * 2 := by
    rw [← zpow_add_one₀ two_ne_zero]
    exact zpow_le_zpow_right₀ one_le_two greatest
  have one : (1 : ℚ) ≤ 2 ^ (970 : Int) := one_le_zpow₀ one_le_two (by decide)
  have product := mul_le_mul bits power (two_zpow_pos e).le (by norm_num)
  rw [eq, abs_mul, abs_of_pos (two_zpow_pos e), cast_overflow]
  generalize (2 : ℚ) ^ (970 : Int) = p at *
  linarith

/-- A number without bits behind the point is an integer, and an even one if its last bit is zero or
stands behind the first place. -/
theorem holds_of_large (hx : x.isFinite = true) (large : 2 ^ 52 ≤ |x.value|) :
    ∃ i, x.Holds i ∧ (x.EndsEven ∨ 2 ^ 53 ≤ |x.value| → i % 2 = 0) := by
  obtain ⟨k, e, small, -, -, eq, even⟩ := exists_value_eq hx
  have bits := (lt_add_one |(k : ℚ)|).trans_le (abs_cast_le small)
  rw [eq, abs_mul, abs_of_pos (two_zpow_pos e)] at large ⊢
  have upper := mul_lt_mul_of_pos_right bits (two_zpow_pos e)
  have whole : 0 ≤ e := by
    by_contra negative
    have := zpow_le_zpow_right₀ (one_le_two (α := ℚ)) (show e ≤ -1 by omega)
    rw [zpow_neg_one] at this
    linarith
  refine ⟨k * 2 ^ e.toNat, ⟨hx, ?_⟩, ?_⟩
  · rw [eq, mul_zpow_eq k whole, sub_zero, zpow_zero, mul_one]
  · rintro (last | higher)
    · rw [Int.mul_emod, even last, zero_mul, Int.zero_emod]
    · have above : e ≠ 0 := by
        rintro rfl
        rw [zpow_zero] at upper higher
        linarith
      obtain ⟨shift, hshift⟩ : ∃ shift, e.toNat = shift + 1 := ⟨e.toNat - 1, by omega⟩
      rw [hshift, pow_succ, ← mul_assoc, Int.mul_emod_left]

/-! ## Nearest integers -/

/-- The second integer is the value of the binary number nearest to the first one. -/
structure RoundsTo (i j : Int) : Prop where
  inRange : i.natAbs < overflow
  nearest : ∃ x : Binary, Nearest i x ∧ x.Holds j

theorem nearest_ofInt (inRange : i.natAbs < overflow) : Nearest i (ofInt i) := by
  have nearest := nearest_ofFraction (i < 0) Nat.one_pos (by rwa [Nat.mul_one])
  rwa [Nat.cast_one, div_one, ← cast_signed, signed_of_natAbs] at nearest

theorem Nearest.lower (hx : Nearest q x) (hy : y.isFinite = true) (le : y.value ≤ q) :
    y.value ≤ x.value := by
  have near := hx.le y hy
  rw [abs_of_nonneg (sub_nonneg.mpr le)] at near
  linarith [(abs_le.mp near).2]

theorem Nearest.upper (hx : Nearest q x) (hy : y.isFinite = true) (le : q ≤ y.value) :
    x.value ≤ y.value := by
  have near := hx.le y hy
  rw [abs_sub_comm q y.value, abs_of_nonneg (sub_nonneg.mpr le)] at near
  linarith [(abs_le.mp near).1]

/-- An integer of fifty-three bits is a binary number. -/
theorem exists_holds_of_small (small : i.natAbs < 2 ^ 53) : ∃ x : Binary, x.Holds i := by
  obtain ⟨x, finite, eq⟩ := exists_finite (e := 0) i small (by decide) (by decide)
  exact ⟨x, finite, by rw [eq, zpow_zero, mul_one]⟩

/-- A number nearest to an integer holds an integer. -/
theorem Nearest.exists_holds (h : Nearest i x) : ∃ j, x.Holds j := by
  by_cases small : i.natAbs < 2 ^ 53
  · obtain ⟨y, holds⟩ := exists_holds_of_small small
    have nearest := nearest_value holds.finite
    rw [holds.value] at nearest
    exact ⟨i, h.finite, (h.value_eq nearest).trans holds.value⟩
  · obtain ⟨y, finite, eq⟩ := exists_finite (e := 1) (2 ^ 52) (by decide) (by decide) (by decide)
    have bound : y.value = ((2 ^ 53 : Int) : ℚ) := by
      rw [eq]
      norm_num
    have large : 2 ^ 52 ≤ |x.value| := by
      rcases Int.le_total 0 i with nonneg | neg
      · have := h.lower finite (by rw [bound]; exact_mod_cast (show 2 ^ 53 ≤ i by omega))
        rw [bound] at this
        push_cast at this
        exact le_abs.mpr (.inl (by linarith))
      · have := h.upper (y.isFinite_neg.trans finite) (by
          rw [value_neg, bound]
          exact_mod_cast (show i ≤ -2 ^ 53 by omega))
        rw [value_neg, bound] at this
        push_cast at this
        exact le_abs.mpr (.inr (by linarith))
    obtain ⟨j, holds, -⟩ := holds_of_large h.finite large
    exact ⟨j, holds⟩

theorem RoundsTo.holds (h : RoundsTo i j) : (ofInt i).Holds j := by
  obtain ⟨x, nearest, holds⟩ := h.nearest
  have ofInt_nearest := nearest_ofInt h.inRange
  exact ⟨ofInt_nearest.finite, (ofInt_nearest.value_eq nearest).trans holds.value⟩

theorem RoundsTo.unique {j' : Int} (h : RoundsTo i j) (h' : RoundsTo i j') : j = j' := by
  have same : (j : ℚ) = j' := h.holds.value.symm.trans h'.holds.value
  exact_mod_cast same

theorem exists_roundsTo (inRange : i.natAbs < overflow) : ∃ j, RoundsTo i j := by
  have nearest := nearest_ofInt inRange
  obtain ⟨j, holds⟩ := nearest.exists_holds
  exact ⟨j, inRange, _, nearest, holds⟩

/-- An integer that is a binary number stays. -/
theorem Holds.roundsTo (h : x.Holds i) : RoundsTo i i := by
  refine ⟨?_, x, h.value ▸ nearest_value h.finite, h⟩
  have := abs_value_le h.finite
  rw [h.value, ← Int.cast_abs, ← Nat.cast_natAbs] at this
  exact_mod_cast this

theorem roundsTo_self_iff : RoundsTo i i ↔ ∃ x : Binary, x.Holds i := by
  constructor
  · exact fun h => ⟨_, h.holds⟩
  · exact fun ⟨_, h⟩ => h.roundsTo

theorem RoundsTo.ne_zero (h : RoundsTo i j) (hi : i ≠ 0) : j ≠ 0 := by
  rintro rfl
  obtain ⟨x, nearest, holds⟩ := h.nearest
  have zero : x.value = 0 := holds.value.trans Int.cast_zero
  obtain ⟨y, one⟩ := exists_holds_of_small (i := 1) (by decide)
  have one_eq : y.value = 1 := one.value.trans Int.cast_one
  rcases lt_or_gt_of_ne hi with neg | pos
  · have := nearest.upper (y.isFinite_neg.trans one.finite) (by
      rw [value_neg, one_eq]
      exact_mod_cast (show i ≤ -1 by omega))
    rw [value_neg, one_eq, zero] at this
    norm_num at this
  · have := nearest.lower one.finite (by
      rw [one_eq]
      exact_mod_cast (show 1 ≤ i by omega))
    rw [one_eq, zero] at this
    norm_num at this

/-! ## Remainders -/

/-- The remainder of two multiples of a unit is the multiple of it by the remainder. -/
theorem mod_scaled {a b m n : Nat} {u : ℚ} (ha : (a : ℚ) = m * u)
    (hb : (b : ℚ) = n * u) : ((a % b : Nat) : ℚ) = (m % n : Nat) * u := by
  rcases Nat.eq_zero_or_pos n with rfl | hn
  · obtain rfl : b = 0 := by simpa using hb
    rw [Nat.mod_zero, Nat.mod_zero, ha]
  · have cross : a * n = m * b := by
      have : (a : ℚ) * n = m * b := by
        rw [ha, hb]
        ring
      exact_mod_cast this
    have scaled : a % b * n = m % n * b := by
      rw [← Nat.mul_mod_mul_right, cross, Nat.mul_comm b n, Nat.mul_mod_mul_right]
    have hn' : (n : ℚ) ≠ 0 := by exact_mod_cast hn.ne'
    refine mul_right_cancel₀ hn' ?_
    rw [mul_assoc, mul_comm u, ← hb]
    exact_mod_cast scaled

theorem signed_tmod (negative : Bool) (n : Nat) (j : Int) :
    (signed negative n).tmod j = signed negative (n % j.natAbs) := by
  have positive : (n : Int).tmod j = (n % j.natAbs : Nat) := by
    rcases Int.natAbs_eq j with eq | eq <;> rw [eq]
    · rw [Int.natAbs_natCast, Int.ofNat_tmod]
    · rw [Int.tmod_neg, Int.natAbs_neg, Int.natAbs_natCast, Int.ofNat_tmod]
  cases negative with
  | false => exact positive
  | true => rw [signed, signed, if_pos rfl, if_pos rfl, Int.neg_tmod, positive]

theorem ofScaled_small (negative : Bool) (small : n < 2 ^ 53) (least : -1074 ≤ e)
    (greatest : e ≤ 971) : (ofScaled negative n e).isFinite = true ∧
      (ofScaled negative n e).value = (if negative then -1 else 1) * (n * 2 ^ e) := by
  obtain ⟨y, finite, eq⟩ := exists_finite (signed negative n)
    (by rwa [natAbs_signed]) least greatest
  rw [cast_signed, mul_assoc] at eq
  have inRange : (n : ℚ) * 2 ^ e < overflow := by
    have bound := abs_value_le finite
    have sign : |if negative = true then (-1 : ℚ) else 1| = 1 := by cases negative <;> simp
    rw [eq, abs_mul, sign, one_mul] at bound
    linarith [le_abs_self ((n : ℚ) * 2 ^ e)]
  have nearest := nearest_ofScaled negative inRange
  exact ⟨nearest.finite, (nearest.value_eq (eq ▸ nearest_value finite)).trans eq⟩

theorem units_value (m : Nat) {unit : Int} (h : unit ≤ e) :
    ((m * Nat.pow 2 (e - unit).toNat : Nat) : ℚ) * 2 ^ unit = m * 2 ^ e := by
  have shifted := mul_zpow_eq m h
  push_cast at shifted
  rw [shifted, Nat.pow_eq]
  push_cast
  ring

/-- In the common unit the remainder has no more bits than the operand with the smaller exponent. -/
theorem mod_units_lt {m : Nat} {f : Int} (hm : m < 2 ^ 53) (hn : n < 2 ^ 53) (nonzero : n ≠ 0) :
    m * Nat.pow 2 (e - min e f).toNat % (n * Nat.pow 2 (f - min e f).toNat) < 2 ^ 53 := by
  rcases le_total e f with he | hf
  · rw [min_eq_left he, sub_self]
    exact (Nat.mod_le _ _).trans_lt ((Nat.mul_one m).symm ▸ hm)
  · rw [min_eq_right hf, sub_self]
    have own : n * Nat.pow 2 (0 : Int).toNat = n := Nat.mul_one n
    rw [own]
    exact (Nat.mod_lt _ (Nat.pos_of_ne_zero nonzero)).trans hn

/-- The remainder of integers is exact. -/
theorem Holds.rem (hx : x.Holds i) (hy : y.Holds j) (hj : j ≠ 0) :
    (x.rem y).Holds (i.tmod j) := by
  cases x with
  | nan => cases hx.finite
  | infinite => cases hx.finite
  | finite s m e h =>
    cases y with
    | nan => cases hy.finite
    | infinite => cases hy.finite
    | finite t n f h' =>
      obtain ⟨hi, signi⟩ :=
        of_sign_mul (mul_nonneg (Nat.cast_nonneg m) (two_zpow_pos e).le) hx.value
      have hj' := (of_sign_mul (mul_nonneg (Nat.cast_nonneg n) (two_zpow_pos f).le) hy.value).1
      have nonzero : n ≠ 0 := by
        rintro rfl
        rw [Nat.cast_zero, zero_mul] at hj'
        exact hj (Int.natAbs_eq_zero.mp (by exact_mod_cast hj'.symm))
      rw [← units_value m (min_le_left e f)] at hi
      rw [← units_value n (min_le_right e f)] at hj'
      obtain ⟨finite, eq⟩ := ofScaled_small s (mod_units_lt h.1 h'.1 nonzero)
        (le_min h.2.1 h'.2.1) ((min_le_left e f).trans h.2.2.1)
      rw [Binary.rem, if_neg nonzero]
      refine ⟨finite, eq.trans ?_⟩
      rw [← mod_scaled hi.symm hj'.symm, ← cast_signed, ← signed_tmod, signi]

theorem Holds.truncate? (h : x.Holds i) : x.truncate? = some i := by
  cases x with
  | nan => cases h.finite
  | infinite => cases h.finite
  | finite s m e canonical =>
    rw [Binary.truncate?]
    split
    next whole =>
      have := signedUnits_value s m whole
      rw [zpow_zero, mul_one] at this
      exact congrArg some (by exact_mod_cast this.trans h.value)
    next part =>
      have units : signedUnits s m e e = i * (Nat.pow 2 (-e).toNat : Nat) := by
        have eq : (signedUnits s m e e : ℚ) * 2 ^ e = i :=
          (signedUnits_value s m le_rfl).trans h.value
        have product : (i : ℚ) * (Nat.pow 2 (-e).toNat : Nat) = signedUnits s m e e := by
          rw [← eq, mul_assoc, mul_comm ((2 : ℚ) ^ e), Nat.pow_eq, two_zpow_neg_toNat (by omega),
            mul_one]
        exact_mod_cast product.symm
      rw [units, Int.mul_tdiv_cancel _ (by exact_mod_cast (Nat.pow_pos two_pos).ne')]

end Binary

/-- The remainder of a division that truncates: what a multiple of the divisor leaves, smaller than
the divisor and with the sign of the dividend. -/
structure IsRemainder (a b r : Int) : Prop where
  dvd : b ∣ a - r
  lt : r.natAbs < b.natAbs
  sign : r = 0 ∨ r.sign = a.sign

theorem isRemainder_tmod (a : Int) {b : Int} (hb : b ≠ 0) : IsRemainder a b (a.tmod b) where
  dvd := Int.dvd_self_sub_of_tmod_eq rfl
  lt := by
    rw [Int.natAbs_tmod]
    exact Nat.mod_lt _ (Int.natAbs_pos.mpr hb)
  sign := by
    rw [← Int.sign_eq_zero_iff_zero, Int.sign_tmod]
    split
    · exact .inl rfl
    · exact .inr rfl

theorem IsRemainder.unique {a b r r' : Int} (h : IsRemainder a b r) (h' : IsRemainder a b r') :
    r = r' := by
  have dvd : b ∣ r' - r := by
    have := dvd_sub h.dvd h'.dvd
    rwa [sub_sub_sub_cancel_left] at this
  have near : (r' - r).natAbs < b.natAbs := by
    have lt := h.lt
    have lt' := h'.lt
    have sign := h.sign
    have sign' := h'.sign
    rcases lt_trichotomy a 0 with neg | rfl | pos
    · rw [Int.sign_eq_neg_one_of_neg neg, Int.sign_eq_neg_one_iff_neg] at sign sign'
      omega
    · rw [Int.sign_zero, Int.sign_eq_zero_iff_zero] at sign sign'
      omega
    · rw [Int.sign_eq_one_of_pos pos, Int.sign_eq_one_iff_pos] at sign sign'
      omega
  have := Int.eq_zero_of_dvd_of_natAbs_lt_natAbs dvd near
  omega

namespace Number

open Binary

theorem toBinary_int {i : Int} (inRange : i.natAbs < overflow) :
    (int i).toBinary = .ok (ofInt i) :=
  if_pos ((isFinite_ofInt i).mpr inRange)

theorem inRange_of_toBinary {i : Int} {x : Binary} (h : (int i).toBinary = .ok x) :
    i.natAbs < overflow :=
  not_le.mp fun huge => not_fails_iff.mpr ⟨x, h⟩ ((fails_toBinary (int i)).mpr huge)

theorem rem_int {a b a' b' : Int} (roundsa : RoundsTo a a') (roundsb : RoundsTo b b')
    (hb : b ≠ 0) : (int a).rem (int b) = .ok (int (a'.tmod b')) := by
  have holds := roundsa.holds.rem roundsb.holds (roundsb.ne_zero hb)
  have finitea := roundsa.holds.finite
  have finiteb := roundsb.holds.finite
  rw [rem, toBinary_int roundsa.inRange, toBinary_int roundsb.inRange]
  generalize ofInt a = x at *
  generalize ofInt b = y at *
  cases x with
  | nan => cases finitea
  | infinite => cases finitea
  | finite s m e h =>
    cases y with
    | nan => cases finiteb
    | infinite => cases finiteb
    | finite t n f h' =>
      show Except.ok (int (((finite s m e h).rem (finite t n f h')).truncate?.getD 0)) = _
      rw [holds.truncate?, Option.getD_some]

/-- The remainder of integers is the one of the integers that they are rounded to. -/
theorem rem_int_eq_ok_iff {a b : Int} {r : Number} (hb : b ≠ 0) :
    (int a).rem (int b) = .ok r ↔
      ∃ a' b' r', RoundsTo a a' ∧ RoundsTo b b' ∧ IsRemainder a' b' r' ∧ r = int r' := by
  constructor
  · intro eq
    obtain ⟨x, first, rest⟩ := bind_eq_ok.mp eq
    have rangea := inRange_of_toBinary first
    obtain rfl := Except.ok.inj ((toBinary_int rangea).symm.trans first)
    have finite := (isFinite_ofInt a).mpr rangea
    have rangeb : b.natAbs < overflow := by
      cases x_eq : ofInt a with
      | nan => rw [x_eq] at finite; cases finite
      | infinite => rw [x_eq] at finite; cases finite
      | finite =>
        rw [x_eq] at rest
        obtain ⟨y, second, -⟩ := bind_eq_ok.mp rest
        exact inRange_of_toBinary second
    obtain ⟨a', roundsa⟩ := exists_roundsTo rangea
    obtain ⟨b', roundsb⟩ := exists_roundsTo rangeb
    rw [rem_int roundsa roundsb hb] at eq
    exact ⟨a', b', _, roundsa, roundsb, isRemainder_tmod a' (roundsb.ne_zero hb),
      (Except.ok.inj eq).symm⟩
  · rintro ⟨a', b', r', roundsa, roundsb, remainder, rfl⟩
    rw [rem_int roundsa roundsb hb,
      remainder.unique (isRemainder_tmod a' (roundsb.ne_zero hb))]

end Number

end PageComponent
