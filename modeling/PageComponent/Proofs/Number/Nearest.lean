import PageComponent.Proofs.Number.Integers

/-!
# Nearest numbers

A fraction is rounded to the finite number nearest to it, and of two equally near ones to the one
whose last bit is zero. There is just one such value.
-/

namespace PageComponent.Binary

variable {x y : Binary} {n d c m : Nat} {e unit : Int} {i j : Int} {q : ℚ}

/-- A finite number whose last bit is zero. -/
def EndsEven : Binary → Prop
  | .finite _ m _ _ => m % 2 = 0
  | _ => False

/-- No finite number is nearer to the rational number, and one that is as near has its last bit
set. -/
structure Nearest (q : ℚ) (x : Binary) : Prop where
  finite : x.isFinite = true
  le : ∀ y : Binary, y.isFinite = true → |q - x.value| ≤ |q - y.value|
  even : ∀ y : Binary, y.isFinite = true → |q - y.value| = |q - x.value| → y.value ≠ x.value →
    x.EndsEven

/-! ## Values -/

/-- A finite number is an integer of fifty-three bits, scaled by a power of two. -/
theorem exists_value_eq (hx : x.isFinite = true) :
    ∃ k e : Int, k.natAbs < 2 ^ 53 ∧ -1074 ≤ e ∧ e ≤ 971 ∧ x.value = k * 2 ^ e ∧
      (x.EndsEven → k % 2 = 0) := by
  cases x with
  | nan => cases hx
  | infinite => cases hx
  | finite s m e h =>
    obtain ⟨hlt, hleast, hgreatest, -⟩ := h
    refine ⟨signed s m, e, by rwa [natAbs_signed], hleast, hgreatest, ?_, fun even => ?_⟩
    · rw [cast_signed, mul_assoc]
      rfl
    · have : m % 2 = 0 := even
      cases s <;> simp only [signed] <;> omega

/-- Each such integer is a finite number, unless the power is too small or too large. -/
theorem exists_finite (i : Int) (small : i.natAbs < 2 ^ 53) (least : -1074 ≤ e)
    (greatest : e ≤ 971) : ∃ x : Binary, x.isFinite = true ∧ x.value = i * 2 ^ e := by
  rcases Nat.eq_zero_or_pos i.natAbs with zero | pos
  · rw [Int.natAbs_eq_zero.mp zero]
    exact ⟨Binary.zero false, rfl, by simp [Binary.zero, value]⟩
  · obtain ⟨m, e', canonical, -, eq⟩ := exists_canonical pos.ne' small least greatest
    refine ⟨.finite (i < 0) m e' canonical, rfl, ?_⟩
    rw [value, ← eq, ← mul_assoc, ← cast_signed, signed_of_natAbs]

/-! ## Multiples of a unit -/

theorem mul_zpow_eq (i : Int) (h : unit ≤ e) :
    (i : ℚ) * 2 ^ e = ((i * 2 ^ (e - unit).toNat : Int) : ℚ) * 2 ^ unit := by
  have shift : ((2 ^ (e - unit).toNat : Nat) : ℚ) * 2 ^ unit = 2 ^ e := by
    rw [two_zpow_toNat (by omega), ← zpow_add₀ two_ne_zero, sub_add_cancel]
  rw [← shift]
  push_cast
  ring

/-- The quotient is off by half at most, and by half only if it is even. -/
theorem divHalfEven_near (hd : 0 < d) :
    2 * ((n : Int) - divHalfEven n d * d).natAbs ≤ d ∧
      (2 * ((n : Int) - divHalfEven n d * d).natAbs = d → divHalfEven n d % 2 = 0) := by
  have whole : n / d * d + n % d = n := Nat.div_add_mod' n d
  have part : n % d < d := Nat.mod_lt n hd
  unfold divHalfEven
  dsimp only
  split
  next down =>
    have off : (n : Int) - (n / d : Nat) * d = (n % d : Nat) := by
      rw [← Nat.cast_mul]
      omega
    rw [off, Int.natAbs_natCast]
    omega
  next up =>
    have off : (n : Int) - (n / d + 1 : Nat) * d = (n % d : Nat) - (d : Int) := by
      rw [← Nat.cast_mul, Nat.add_mul]
      omega
    rw [off]
    omega

/-- The magnitude and the multiple of a unit that it is rounded to. The unit is so small that the
magnitude has fifty-three bits before the point, unless it is the smallest one. -/
structure NearestMultiple (q : ℚ) (c : Nat) (unit : Int) : Prop where
  least : -1074 ≤ unit
  near : |q - c * 2 ^ unit| ≤ 2 ^ unit / 2
  tie : |q - c * 2 ^ unit| = 2 ^ unit / 2 → c % 2 = 0
  full : -1074 < unit → 2 ^ 52 * 2 ^ unit ≤ q

/-- No multiple of the unit is nearer. -/
theorem NearestMultiple.multiple (h : NearestMultiple q c unit) (i : Int) :
    |q - c * 2 ^ unit| ≤ |q - i * 2 ^ unit| ∧
      (|q - i * 2 ^ unit| = |q - c * 2 ^ unit| → (i : ℚ) * 2 ^ unit ≠ c * 2 ^ unit →
        c % 2 = 0) := by
  by_cases same : i = c
  · rw [same, Int.cast_natCast]
    exact ⟨le_rfl, fun _ other => absurd rfl other⟩
  · have hu := two_zpow_pos unit
    have apart : (2 : ℚ) ^ unit ≤ |(c : ℚ) * 2 ^ unit - i * 2 ^ unit| := by
      have one : (1 : ℚ) ≤ |((c - i : Int) : ℚ)| := by
        exact_mod_cast Int.one_le_abs (show (c : Int) - i ≠ 0 by omega)
      rw [← sub_mul, abs_mul, abs_of_pos hu]
      rw [Int.cast_sub, Int.cast_natCast] at one
      exact le_mul_of_one_le_left hu.le one
    have triangle := abs_sub_le ((c : ℚ) * 2 ^ unit) q (i * 2 ^ unit)
    rw [abs_sub_comm _ q] at triangle
    have near := h.near
    exact ⟨by linarith, fun tie _ => h.tie (by linarith)⟩

/-- No finite number is nearer: one that is no multiple of the unit is too small. -/
theorem NearestMultiple.finite (h : NearestMultiple q c unit) (small : i.natAbs < 2 ^ 53)
    (least : -1074 ≤ e) :
    |q - c * 2 ^ unit| ≤ |q - i * 2 ^ e| ∧
      (|q - i * 2 ^ e| = |q - c * 2 ^ unit| → (i : ℚ) * 2 ^ e ≠ c * 2 ^ unit → c % 2 = 0) := by
  rcases le_or_gt unit e with above | below
  · rw [mul_zpow_eq i above]
    exact h.multiple _
  · have full := h.full (by omega)
    have nearer := (h.multiple (2 ^ 52)).1
    rw [Int.cast_pow, Int.cast_ofNat, abs_of_nonneg (sub_nonneg.mpr full)] at nearer
    have lower : (i : ℚ) * 2 ^ e < 2 ^ 52 * 2 ^ unit :=
      calc (i : ℚ) * 2 ^ e < 2 ^ 53 * 2 ^ e := by
            refine mul_lt_mul_of_pos_right ?_ (two_zpow_pos e)
            exact_mod_cast (show i < 2 ^ 53 by omega)
        _ = 2 ^ 52 * 2 ^ (e + 1) := by
            rw [zpow_add₀ two_ne_zero]
            ring
        _ ≤ 2 ^ 52 * 2 ^ unit := by
            have := zpow_le_zpow_right₀ (one_le_two (α := ℚ)) (show e + 1 ≤ unit by omega)
            linarith
    have farther : |q - c * 2 ^ unit| < |q - i * 2 ^ e| := by
      rw [abs_of_nonneg (show 0 ≤ q - i * 2 ^ e by linarith)]
      linarith
    exact ⟨farther.le, fun tie => absurd tie farther.ne'⟩

/-! ## Fractions -/

theorem cast_overflow : (overflow : ℚ) = (2 ^ 54 - 1) * 2 ^ (970 : Int) := by
  obtain ⟨k, hk, bound⟩ := exists_overflow_eq
  have bits : 2 * (2 ^ 53 - 1) + 1 = 18014398509481983 := by decide
  have power : (2 : ℚ) ^ (970 : Int) = ((2 ^ k : Nat) : ℚ) := by
    rw [Nat.cast_pow, Nat.cast_ofNat, ← zpow_natCast, hk]
    rfl
  rw [bound, bits, Nat.cast_mul, power]
  norm_num

/-- Fifty-three bits, or the power behind them, are a finite number up to the highest exponent. -/
theorem ofParts_inRange (least : -1074 ≤ e) (bounded : m ≤ 2 ^ 53)
    (normal : 2 ^ 52 ≤ m ∨ e = -1074) (inRange : e ≤ 970 ∨ e = 971 ∧ m ≠ 2 ^ 53) :
    (ofParts false m e).isFinite = true ∧ (ofParts false m e).value = m * 2 ^ e ∧
      (m % 2 = 0 → (ofParts false m e).EndsEven) := by
  by_cases top : m = Nat.pow 2 53
  · have canonical : Canonical (Nat.pow 2 52) (e + 1) := by
      rw [Nat.pow_eq] at top
      exact ⟨by decide, by omega, by omega, .inl le_rfl⟩
    have parts : ofParts false m e = .finite false (Nat.pow 2 52) (e + 1) canonical := by
      simp only [ofParts, top, if_true, canonical, dif_pos]
    rw [parts]
    refine ⟨rfl, ?_, fun _ => show Nat.pow 2 52 % 2 = 0 by decide⟩
    rw [value, top, Nat.pow_eq, Nat.pow_eq, zpow_add₀ two_ne_zero]
    push_cast
    ring
  · have canonical : Canonical m e := by
      rw [Nat.pow_eq] at top
      exact ⟨lt_of_le_of_ne bounded top, least, by omega, normal⟩
    rw [ofParts_canonical false canonical]
    exact ⟨rfl, one_mul _, id⟩

/-- In the unit that its logarithm asks for, a fraction has at most fifty-three bits before the
point, and so many unless the unit is the smallest one. -/
theorem unit_bounds (hn : n ≠ 0) (hd : 0 < d)
    (hunit : unit = max (floorLog2 n d - 52) (-1074)) :
    (n : ℚ) / d < 2 ^ 53 * 2 ^ unit ∧ (-1074 < unit → 2 ^ 52 * 2 ^ unit ≤ (n : ℚ) / d) := by
  have hd' : (0 : ℚ) < d := by exact_mod_cast hd
  obtain ⟨lower, upper⟩ := floorLog2_spec (Nat.pos_of_ne_zero hn) hd
  rw [← zpow_natCast, ← zpow_natCast, ← zpow_add₀ two_ne_zero, ← zpow_add₀ two_ne_zero]
  constructor
  · refine ((div_lt_iff₀ hd').mpr upper).trans_le (zpow_le_zpow_right₀ one_le_two ?_)
    push_cast
    omega
  · intro above
    have power : ((52 : Nat) : Int) + unit = floorLog2 n d := by
      push_cast
      omega
    rw [power]
    exact (le_div_iff₀ hd').mpr lower

/-- In parts of the unit, rounding half to even gives the nearest multiple. -/
theorem nearestMultiple_divHalfEven {a b : Nat} {part : ℚ} (hb : 0 < b) (pos : 0 < part)
    (unit_eq : 2 ^ unit = part * b) (least : -1074 ≤ unit)
    (full : -1074 < unit → 2 ^ 52 * 2 ^ unit ≤ a * part) :
    NearestMultiple (a * part) (divHalfEven a b) unit := by
  obtain ⟨off, tie⟩ := @divHalfEven_near a b hb
  generalize divHalfEven a b = c at *
  have distance : |a * part - c * 2 ^ unit| = (((a : Int) - c * b).natAbs : ℚ) * part := by
    rw [unit_eq, Nat.cast_natAbs, Int.cast_abs, ← abs_of_pos pos, ← abs_mul, abs_of_pos pos]
    push_cast
    ring_nf
  refine ⟨least, ?_, fun half => tie ?_, full⟩
  · rw [distance, unit_eq]
    have : ((2 * ((a : Int) - c * b).natAbs : Nat) : ℚ) * part ≤ b * part :=
      mul_le_mul_of_nonneg_right (by exact_mod_cast off) pos.le
    push_cast at this
    linarith
  · rw [distance, unit_eq] at half
    have : ((2 * ((a : Int) - c * b).natAbs : Nat) : ℚ) * part = b * part := by
      push_cast
      linarith
    exact_mod_cast mul_right_cancel₀ pos.ne' this

/-- Below the bound the multiple does not go beyond the highest exponent. -/
theorem NearestMultiple.inRange (h : NearestMultiple q c unit) (below : q < overflow) :
    unit ≤ 970 ∨ unit = 971 ∧ c ≠ 2 ^ 53 := by
  rw [cast_overflow] at below
  have second : (2 : ℚ) ^ (971 : Int) = 2 ^ (970 : Int) * 2 := zpow_add_one₀ two_ne_zero 970
  have third (h : 972 ≤ unit) : (2 : ℚ) ^ (970 : Int) * 4 ≤ 2 ^ unit :=
    calc (2 : ℚ) ^ (970 : Int) * 4 = 2 ^ (972 : Int) := by
          rw [show (4 : ℚ) = 2 ^ (2 : Int) by norm_num, ← zpow_add₀ two_ne_zero]
          rfl
      _ ≤ 2 ^ unit := zpow_le_zpow_right₀ one_le_two h
  have first := two_zpow_pos 970
  generalize (2 : ℚ) ^ (970 : Int) = first_unit at *
  rcases lt_trichotomy unit 971 with lower | rfl | higher
  · exact .inl (by omega)
  · refine .inr ⟨rfl, ?_⟩
    rintro rfl
    have near := (abs_le.mp h.near).1
    rw [second] at near
    push_cast at near
    linarith
  · have large := h.full (by omega)
    have := third higher
    linarith only [large, this, below, first]

/-- A fraction below the bound is rounded to a multiple of a unit, which is a finite number. -/
theorem exists_nearestMultiple (hd : 0 < d) (inRange : n < overflow * d) :
    ∃ c unit, NearestMultiple ((n : ℚ) / d) c unit ∧ (ofFraction false n d).isFinite = true ∧
      (ofFraction false n d).value = c * 2 ^ unit ∧
      (c % 2 = 0 → (ofFraction false n d).EndsEven) := by
  by_cases hn : n = 0
  · have zero_eq : ofFraction false n d = zero false := if_pos hn
    rw [zero_eq, hn, Nat.cast_zero, zero_div]
    refine ⟨0, -1074, ⟨le_rfl, ?_, fun _ => rfl, fun above => absurd above (by decide)⟩, rfl,
      one_mul _, fun _ => rfl⟩
    rw [Nat.cast_zero, zero_mul, sub_zero, abs_zero]
    exact (div_pos (two_zpow_pos _) two_pos).le
  obtain ⟨unit, hunit⟩ : ∃ unit, unit = max (floorLog2 n d - 52) (-1074) := ⟨_, rfl⟩
  obtain ⟨upper, full⟩ := unit_bounds hn hd hunit
  have hd' : (0 : ℚ) < d := by exact_mod_cast hd
  rw [ofFraction, if_neg hn]
  dsimp only
  rw [← hunit]
  have whole := @inUnits_value n d unit
  have hb := @inUnits_snd_pos n d unit hd
  generalize (inUnits n d unit).1 = a at whole ⊢
  generalize (inUnits n d unit).2 = b at whole hb ⊢
  have hb' : (0 : ℚ) < b := by exact_mod_cast hb
  -- One part in `b` of the unit, so that the fraction and the unit are multiples of it.
  obtain ⟨part, pos, unit_eq⟩ : ∃ part : ℚ, 0 < part ∧ 2 ^ unit = part * b :=
    ⟨2 ^ unit / b, div_pos (two_zpow_pos unit) hb', (div_mul_cancel₀ _ hb'.ne').symm⟩
  have quotient : (n : ℚ) / d = a * part := by
    rw [div_eq_iff hd'.ne']
    rw [unit_eq] at whole
    exact mul_right_cancel₀ hb'.ne' (by linarith)
  have below : (n : ℚ) / d < overflow := by
    rw [div_lt_iff₀ hd']
    exact_mod_cast inRange
  rw [quotient] at upper full below ⊢
  have bounded : divHalfEven a b ≤ 2 ^ 53 := by
    refine divHalfEven_le hb (Nat.cast_le (α := ℚ) |>.mp ?_)
    rw [unit_eq] at upper
    push_cast
    exact le_of_mul_le_mul_right (by linarith) pos
  have normal : 2 ^ 52 ≤ divHalfEven a b ∨ unit = -1074 := by
    by_cases lowest : unit = -1074
    · exact .inr lowest
    · left
      have full := full (by omega)
      refine le_divHalfEven hb (Nat.cast_le (α := ℚ) |>.mp ?_)
      rw [unit_eq] at full
      push_cast
      exact le_of_mul_le_mul_right (by linarith) pos
  have nearest := nearestMultiple_divHalfEven hb pos unit_eq (by omega) full
  exact ⟨_, unit, nearest, ofParts_inRange nearest.least bounded normal (nearest.inRange below)⟩

/-! ## Signs -/

theorem endsEven_neg (x : Binary) : x.neg.EndsEven ↔ x.EndsEven := by
  cases x <;> exact Iff.rfl

theorem ofParts_neg (m : Nat) (e : Int) : ofParts true m e = (ofParts false m e).neg := by
  unfold ofParts
  generalize (if m = Nat.pow 2 53 then (Nat.pow 2 52, e + 1) else (m, e)) = parts
  dsimp only
  by_cases canonical : Canonical parts.1 parts.2
  · rw [dif_pos canonical, dif_pos canonical]
    rfl
  · rw [dif_neg canonical, dif_neg canonical]
    rfl

theorem ofFraction_neg (n d : Nat) : ofFraction true n d = (ofFraction false n d).neg := by
  unfold ofFraction
  split
  · rfl
  · exact ofParts_neg _ _

theorem Nearest.neg (h : Nearest q x) : Nearest (-q) x.neg := by
  have mirrored (y : Binary) : |-q - y.value| = |q - y.neg.value| := by
    rw [value_neg, ← abs_neg]
    ring_nf
  have back : x.neg.neg.value = x.value := by rw [value_neg, value_neg, neg_neg]
  refine ⟨x.isFinite_neg.trans h.finite, fun y hy => ?_, fun y hy tie other => ?_⟩
  · rw [mirrored, mirrored, back]
    exact h.le _ (y.isFinite_neg.trans hy)
  · rw [mirrored, mirrored, back] at tie
    rw [endsEven_neg]
    refine h.even _ (y.isFinite_neg.trans hy) tie fun same => other ?_
    rw [value_neg, ← same, value_neg, neg_neg]

/-- What is the value of a finite number has no nearer one. -/
theorem nearest_value (hx : x.isFinite = true) : Nearest x.value x := by
  have none : |x.value - x.value| = 0 := by rw [sub_self, abs_zero]
  refine ⟨hx, fun y _ => none.trans_le (abs_nonneg _), fun y _ tie other => ?_⟩
  rw [none, abs_eq_zero, sub_eq_zero] at tie
  exact absurd tie.symm other

/-- A fraction below the bound is rounded to the nearest number. -/
theorem nearest_ofFraction (negative : Bool) (hd : 0 < d) (inRange : n < overflow * d) :
    Nearest ((if negative then -1 else 1) * ((n : ℚ) / d)) (ofFraction negative n d) := by
  have positive : Nearest ((n : ℚ) / d) (ofFraction false n d) := by
    obtain ⟨c, unit, nearest, finite, eq, even⟩ := exists_nearestMultiple hd inRange
    refine ⟨finite, fun y hy => ?_, fun y hy tie other => even ?_⟩
    · obtain ⟨k, e, small, least, -, value_eq, -⟩ := exists_value_eq hy
      rw [eq, value_eq]
      exact (nearest.finite small least).1
    · obtain ⟨k, e, small, least, -, value_eq, -⟩ := exists_value_eq hy
      rw [eq, value_eq] at tie other
      exact (nearest.finite small least).2 tie other
  cases negative with
  | false => simpa using positive
  | true =>
    rw [ofFraction_neg]
    simpa using positive.neg

/-- A number in units of a power of two is rounded to the nearest number. -/
theorem nearest_ofScaled (negative : Bool) (inRange : (n : ℚ) * 2 ^ e < overflow) :
    Nearest ((if negative then -1 else 1) * (n * 2 ^ e)) (ofScaled negative n e) := by
  unfold ofScaled
  by_cases he : 0 ≤ e
  · have cast : ((n * Nat.pow 2 e.toNat : Nat) : ℚ) = n * 2 ^ e := by
      rw [Nat.pow_eq, Nat.cast_mul, two_zpow_toNat he]
    rw [← cast, Nat.cast_lt] at inRange
    have below : n * Nat.pow 2 e.toNat < overflow * 1 := by rwa [Nat.mul_one]
    have nearest := nearest_ofFraction negative Nat.one_pos below
    rw [if_pos he]
    rwa [cast, Nat.cast_one, div_one] at nearest
  · have hd : 0 < Nat.pow 2 (-e).toNat := Nat.pow_pos two_pos
    have hd' : (0 : ℚ) < (Nat.pow 2 (-e).toNat : Nat) := by exact_mod_cast hd
    have cast : (n : ℚ) / (Nat.pow 2 (-e).toNat : Nat) = n * 2 ^ e := by
      rw [div_eq_iff hd'.ne', mul_assoc, mul_comm ((2 : ℚ) ^ e), Nat.pow_eq,
        two_zpow_neg_toNat (by omega), mul_one]
    rw [← cast, div_lt_iff₀ hd', ← Nat.cast_mul, Nat.cast_lt] at inRange
    have nearest := nearest_ofFraction negative hd inRange
    rw [if_neg he]
    rwa [cast] at nearest

/-! ## Sums -/

/-- The sum is the number nearest to the exact sum. -/
theorem nearest_add (hx : x.isFinite = true) (hy : y.isFinite = true)
    (inRange : |x.value + y.value| < overflow) : Nearest (x.value + y.value) (x.add y) := by
  cases x with
  | nan => cases hx
  | infinite => cases hx
  | finite s m e h =>
    cases y with
    | nan => cases hy
    | infinite => cases hy
    | finite t n f h' =>
      rw [add]
      generalize sum_eq : signedUnits s m e (min e f) + signedUnits t n f (min e f) = sum
      have total : (finite s m e h).value + (finite t n f h').value = sum * 2 ^ min e f := by
        rw [← sum_eq, Int.cast_add, add_mul, signedUnits_value s m (min_le_left e f),
          signedUnits_value t n (min_le_right e f), value, value]
      rw [total] at inRange ⊢
      split
      next none =>
        rw [none, Int.cast_zero, zero_mul]
        have zeroes := nearest_value (x := zero (s && t)) rfl
        rwa [(holds_zero _).value, Int.cast_zero] at zeroes
      next =>
        have signs :
            (if decide (sum < 0) then -1 else 1) * ((sum.natAbs : ℚ) * 2 ^ min e f) =
              sum * 2 ^ min e f := by
          rw [← mul_assoc, ← cast_signed, signed_of_natAbs]
        rw [← signs]
        refine nearest_ofScaled _ ?_
        rwa [abs_mul, abs_of_pos (two_zpow_pos _), ← Int.cast_abs, ← Nat.cast_natAbs] at inRange

/-! ## Uniqueness -/

/-- Between two numbers whose last bits are zero there is another one. -/
theorem exists_between (hx : x.isFinite = true) (hy : y.isFinite = true) (evenx : x.EndsEven)
    (eveny : y.EndsEven) (lt : x.value < y.value) :
    ∃ z : Binary, z.isFinite = true ∧ x.value < z.value ∧ z.value < y.value := by
  obtain ⟨k, e, hk, leaste, greateste, xeq, xeven⟩ := exists_value_eq hx
  obtain ⟨l, f, hl, leastf, greatestf, yeq, yeven⟩ := exists_value_eq hy
  have hk' := xeven evenx
  have hl' := yeven eveny
  -- Both values are even multiples of the smaller unit, so that two of these lie between them.
  have apart (unit : Int) (he : unit ≤ e) (hf : unit ≤ f) : 2 * 2 ^ unit ≤ y.value - x.value := by
    obtain ⟨k', rfl⟩ := Int.dvd_of_emod_eq_zero hk'
    obtain ⟨l', rfl⟩ := Int.dvd_of_emod_eq_zero hl'
    rw [Int.cast_mul, mul_assoc, mul_zpow_eq k' he] at xeq
    rw [Int.cast_mul, mul_assoc, mul_zpow_eq l' hf] at yeq
    generalize k' * 2 ^ (e - unit).toNat = a at xeq
    generalize l' * 2 ^ (f - unit).toNat = b at yeq
    have hu := two_zpow_pos unit
    rw [xeq, yeq, mul_lt_mul_iff_right₀ (by norm_num), mul_lt_mul_iff_left₀ hu, Int.cast_lt] at lt
    rw [xeq, yeq, ← mul_sub, ← sub_mul]
    have one : (1 : ℚ) ≤ b - a := by exact_mod_cast (show 1 ≤ b - a by omega)
    have := le_mul_of_one_le_left hu.le one
    push_cast
    linarith
  rcases le_total e f with he | hf
  · obtain ⟨z, finite, zeq⟩ := exists_finite (k + 1) (by omega) leaste greateste
    have := apart e le_rfl he
    have := two_zpow_pos e
    push_cast at zeq
    exact ⟨z, finite, by linarith, by linarith⟩
  · obtain ⟨z, finite, zeq⟩ := exists_finite (l - 1) (by omega) leastf greatestf
    have := apart f hf le_rfl
    have := two_zpow_pos f
    push_cast at zeq
    exact ⟨z, finite, by linarith, by linarith⟩

theorem Nearest.le_value (hx : Nearest q x) (hy : Nearest q y) : y.value ≤ x.value := by
  by_contra lt
  rw [not_le] at lt
  have tie : |q - x.value| = |q - y.value| :=
    le_antisymm (hx.le y hy.finite) (hy.le x hx.finite)
  obtain ⟨z, finite, above, below⟩ := exists_between hx.finite hy.finite
    (hx.even y hy.finite tie.symm lt.ne') (hy.even x hx.finite tie lt.ne) lt
  have middle : q - x.value = y.value - q := by
    rcases abs_eq_abs.mp tie with same | mirrored <;> linarith
  have nearer : |q - z.value| < |q - x.value| :=
    calc |q - z.value| < q - x.value := abs_lt.mpr ⟨by linarith, by linarith⟩
      _ ≤ |q - x.value| := le_abs_self _
  exact absurd (hx.le z finite) (not_le.mpr nearer)

/-- Two numbers nearest to the same rational number have the same value. -/
theorem Nearest.value_eq (hx : Nearest q x) (hy : Nearest q y) : x.value = y.value :=
  le_antisymm (hy.le_value hx) (hx.le_value hy)

end PageComponent.Binary
