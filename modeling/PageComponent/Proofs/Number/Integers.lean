import PageComponent.Proofs.Number.Decimals
import PageComponent.Proofs.Number.Overflow

/-!
# Integers among binary numbers

Integers of fifty-three bits are binary numbers. Operations on binary numbers give them exactly,
and so does rounding to decimal places.
-/

namespace PageComponent.Binary

variable {x y : Binary} {n d k m : Nat} {e : Int} {i j : Int}

/-- The value of a finite number. -/
def value : Binary → ℚ
  | .finite negative m e _ => (if negative then -1 else 1) * (m * 2 ^ e)
  | _ => 0

/-- The number is finite, and an integer is its value. -/
structure Holds (x : Binary) (i : Int) : Prop where
  finite : x.isFinite = true
  value : x.value = i

/-- The integers of at most fifty-three bits. -/
def Small (i : Int) : Prop :=
  i.natAbs < 2 ^ 53

def signed (negative : Bool) (n : Nat) : Int :=
  if negative then -n else n

theorem natAbs_signed (negative : Bool) (n : Nat) : (signed negative n).natAbs = n := by
  cases negative <;> simp [signed]

theorem cast_signed (negative : Bool) (n : Nat) :
    (signed negative n : ℚ) = (if negative then -1 else 1) * n := by
  cases negative <;> simp [signed]

theorem signed_of_natAbs (i : Int) : signed (i < 0) i.natAbs = i := by
  unfold signed
  by_cases h : i < 0
  · rw [if_pos (decide_eq_true h)]
    omega
  · rw [if_neg (by simpa using h)]
    omega

/-- An integer by its sign and its magnitude. -/
theorem of_sign_mul {negative : Bool} {q : ℚ} (nonneg : 0 ≤ q)
    (eq : (if negative then -1 else 1) * q = i) : q = i.natAbs ∧ signed negative i.natAbs = i := by
  have magnitude : q = i.natAbs := by
    rw [Nat.cast_natAbs, Int.cast_abs, ← eq]
    cases negative <;> simp [abs_of_nonneg nonneg]
  refine ⟨magnitude, ?_⟩
  have same : ((signed negative i.natAbs : Int) : ℚ) = i := by
    rw [cast_signed, ← magnitude, eq]
  exact_mod_cast same

theorem holds_zero (negative : Bool) : (zero negative).Holds 0 :=
  ⟨rfl, by simp [zero, value]⟩

/-! ## Rounding -/

/-- A number of fifty-three bits has a canonical form, with as much of its exponent in the mantissa
as fits. -/
theorem exists_canonical (hn : n ≠ 0) (small : n < 2 ^ 53) (least : -1074 ≤ e)
    (greatest : e ≤ 971) :
    ∃ m e', Canonical m e' ∧ m ≠ 0 ∧ (n : ℚ) * 2 ^ e = m * 2 ^ e' := by
  have hle : 2 ^ n.log2 ≤ n := Nat.log2_self_le hn
  have hlt : n < 2 ^ (n.log2 + 1) := Nat.lt_log2_self
  have hlog : n.log2 < 53 := (Nat.log2_lt hn).mpr small
  obtain ⟨shift, hshift⟩ : ∃ shift, shift = min (52 - n.log2) (e + 1074).toNat := ⟨_, rfl⟩
  have bounded : n * 2 ^ shift < 2 ^ 53 :=
    calc n * 2 ^ shift < 2 ^ (n.log2 + 1) * 2 ^ shift :=
          Nat.mul_lt_mul_of_pos_right hlt (Nat.two_pow_pos shift)
      _ = 2 ^ (n.log2 + 1 + shift) := (Nat.pow_add ..).symm
      _ ≤ 2 ^ 53 := Nat.pow_le_pow_right two_pos (by omega)
  have normal : 2 ^ 52 ≤ n * 2 ^ shift ∨ e - shift = -1074 := by
    by_cases lowest : e - shift = -1074
    · exact .inr lowest
    · left
      rw [show 52 = n.log2 + shift by omega, Nat.pow_add]
      exact Nat.mul_le_mul_right _ hle
  refine ⟨n * 2 ^ shift, e - shift, ⟨bounded, by omega, by omega, normal⟩, ?_, ?_⟩
  · exact Nat.mul_ne_zero hn (Nat.two_pow_pos shift).ne'
  · rw [Nat.cast_mul, Nat.cast_pow, Nat.cast_ofNat, mul_assoc, ← zpow_natCast,
      ← zpow_add₀ two_ne_zero, add_sub_cancel]

/-- A fraction that is a small integer is rounded to it. -/
theorem holds_ofFraction (negative : Bool) (hd : 0 < d) (small : k < 2 ^ 53)
    (eq : (n : ℚ) = k * d) : (ofFraction negative n d).Holds (signed negative k) := by
  have hd' : (d : ℚ) ≠ 0 := by exact_mod_cast hd.ne'
  rcases Nat.eq_zero_or_pos k with rfl | hk
  · obtain rfl : n = 0 := by simpa using eq
    have zero_eq : ofFraction negative 0 d = zero negative := if_pos rfl
    rw [zero_eq]
    exact ⟨rfl, by cases negative <;> simp [zero, value, signed]⟩
  · have least : (-1074 : Int) ≤ 0 := by decide
    obtain ⟨m, e, canonical, hm, hv⟩ := exists_canonical hk.ne' small least (by decide)
    rw [zpow_zero, mul_one] at hv
    have rounded := ofFraction_exact negative hd hm canonical (by rw [eq, hv])
    rw [rounded]
    exact ⟨rfl, by rw [value, cast_signed, hv]⟩

theorem holds_ofScaled (negative : Bool) (small : k < 2 ^ 53) (eq : (n : ℚ) * 2 ^ e = k) :
    (ofScaled negative n e).Holds (signed negative k) := by
  unfold ofScaled
  split
  next he =>
    refine holds_ofFraction negative one_pos small ?_
    rw [Nat.pow_eq, Nat.cast_mul, two_zpow_toNat he, Nat.cast_one, mul_one, eq]
  next he =>
    refine holds_ofFraction negative (Nat.pow_pos (by decide)) small ?_
    rw [← eq, Nat.pow_eq, mul_assoc, mul_comm ((2 : ℚ) ^ e), two_zpow_neg_toNat (by omega), mul_one]

/-! ## Operations -/

theorem signedUnits_value (negative : Bool) (m : Nat) {e unit : Int} (h : unit ≤ e) :
    (signedUnits negative m e unit : ℚ) * 2 ^ unit =
      (if negative then -1 else 1) * (m * 2 ^ e) := by
  have shift : ((Nat.pow 2 (e - unit).toNat : Nat) : ℚ) * 2 ^ unit = 2 ^ e := by
    rw [Nat.pow_eq, two_zpow_toNat (by omega), ← zpow_add₀ two_ne_zero, sub_add_cancel]
  rw [← shift]
  cases negative with
  | true =>
    simp only [signedUnits, if_true]
    push_cast
    ring
  | false =>
    simp only [signedUnits, Bool.false_eq_true, if_false]
    push_cast
    ring

/-- A sum that is a small integer is exact. -/
theorem holds_add (hx : x.isFinite = true) (hy : y.isFinite = true) (small : Small i)
    (eq : x.value + y.value = i) : (x.add y).Holds i := by
  cases x with
  | nan => cases hx
  | infinite => cases hx
  | finite s m e h =>
    cases y with
    | nan => cases hy
    | infinite => cases hy
    | finite t n f h' =>
      rw [add]
      generalize sum_eq : signedUnits s m e (min e f) + signedUnits t n f (min e f) = sum
      have total : (sum : ℚ) * 2 ^ min e f = i := by
        rw [← eq, ← sum_eq, Int.cast_add, add_mul, signedUnits_value s m (min_le_left e f),
          signedUnits_value t n (min_le_right e f), value, value]
      split
      next zero =>
        obtain rfl : i = 0 := by
          rw [zero, Int.cast_zero, zero_mul] at total
          exact_mod_cast total.symm
        exact holds_zero _
      next =>
        have signs :
            (if decide (sum < 0) then -1 else 1) * ((sum.natAbs : ℚ) * 2 ^ min e f) = i := by
          rw [← total, ← mul_assoc, ← cast_signed, signed_of_natAbs]
        obtain ⟨magnitude, sign⟩ :=
          of_sign_mul (mul_nonneg (Nat.cast_nonneg _) (two_zpow_pos _).le) signs
        exact sign ▸ holds_ofScaled _ small magnitude

theorem value_neg (x : Binary) : x.neg.value = -x.value := by
  cases x with
  | nan => simp [neg, value]
  | infinite => simp [neg, value]
  | finite s m e h => cases s <;> simp [neg, value]

theorem isFinite_neg (x : Binary) : x.neg.isFinite = x.isFinite := by
  cases x <;> rfl

theorem holds_sub (hx : x.isFinite = true) (hy : y.isFinite = true) (small : Small i)
    (eq : x.value - y.value = i) : (x.sub y).Holds i := by
  refine holds_add hx (y.isFinite_neg.trans hy) small ?_
  rw [value_neg, ← sub_eq_add_neg, eq]

/-- A product that is a small integer is exact. -/
theorem holds_mul (hx : x.isFinite = true) (hy : y.isFinite = true) (small : Small i)
    (eq : x.value * y.value = i) : (x.mul y).Holds i := by
  cases x with
  | nan => cases hx
  | infinite => cases hx
  | finite s m e h =>
    cases y with
    | nan => cases hy
    | infinite => cases hy
    | finite t n f h' =>
      have signs : (if s != t then -1 else 1) * (((m * n : Nat) : ℚ) * 2 ^ (e + f)) = i := by
        rw [← eq, value, value, zpow_add₀ two_ne_zero, Nat.cast_mul]
        cases s <;> cases t <;> simp <;> ring
      obtain ⟨magnitude, sign⟩ :=
        of_sign_mul (mul_nonneg (Nat.cast_nonneg _) (two_zpow_pos _).le) signs
      exact sign ▸ holds_ofScaled _ small magnitude

/-- A number that holds a small integer is not changed by rounding to decimal places. -/
theorem Holds.roundToPlaces (h : x.Holds i) (small : Small i) (places : Nat) :
    (x.roundToPlaces places).Holds i := by
  cases x with
  | nan => cases h.finite
  | infinite => cases h.finite
  | finite s m e canonical =>
    rw [Binary.roundToPlaces]
    split
    next => exact h
    next he =>
      obtain ⟨magnitude, sign⟩ :=
        of_sign_mul (mul_nonneg (Nat.cast_nonneg m) (two_zpow_pos e).le) h.value
      have whole : m = i.natAbs * 2 ^ (-e).toNat := by
        have : (m : ℚ) = i.natAbs * ((2 ^ (-e).toNat : Nat) : ℚ) := by
          rw [← magnitude, mul_assoc, mul_comm ((2 : ℚ) ^ e), two_zpow_neg_toNat (by omega),
            mul_one]
        exact_mod_cast this
      have multiple : divHalfEven (m * Nat.pow 10 places) (Nat.pow 2 (-e).toNat) =
          i.natAbs * 10 ^ places := by
        rw [whole, Nat.mul_right_comm, Nat.pow_eq, Nat.pow_eq,
          divHalfEven_exact (Nat.two_pow_pos _)]
      dsimp only
      rw [multiple]
      have exact := holds_ofFraction s (Nat.pow_pos (Nat.succ_pos 9)) small
        (Nat.cast_mul i.natAbs (10 ^ places))
      rwa [sign] at exact

/-! ## Decimal numerals -/

theorem ofDecimal_zero_exponent (negative : Bool) (n : Nat) :
    ofDecimal negative n 0 = if 330 ≤ (Nat.toDigits 10 n).length then .infinite negative
      else ofFraction negative n 1 := by
  unfold ofDecimal
  rcases Nat.eq_zero_or_pos n with rfl | hn
  · rfl
  · have hn : ¬(n = 0 ∨ ((Nat.toDigits 10 n).length : Int) + 0 ≤ -330) := by omega
    simp only [hn, if_false, le_refl, if_true, Int.toNat_zero, Nat.pow_eq, pow_zero, mul_one]
    split <;> split <;> first | rfl | omega

theorem overflow_le : overflow ≤ 10 ^ 329 := by
  decide +kernel

theorem small_lt_overflow : 2 ^ 53 < overflow := by
  decide +kernel

theorem eq_infinite_of_ofParts {negative : Bool}
    (h : (ofParts negative m e).isFinite ≠ true) : ofParts negative m e = .infinite negative := by
  unfold ofParts at h ⊢
  generalize (if m = Nat.pow 2 53 then (Nat.pow 2 52, e + 1) else (m, e)) = parts at h ⊢
  dsimp only at h ⊢
  split
  next canonical =>
    rw [dif_pos canonical] at h
    exact absurd rfl h
  next => rfl

theorem eq_infinite_of_ofFraction {negative : Bool}
    (h : (ofFraction negative n d).isFinite ≠ true) :
    ofFraction negative n d = .infinite negative := by
  unfold ofFraction at h ⊢
  split at h
  next => exact absurd rfl h
  next hn =>
    rw [if_neg hn]
    exact eq_infinite_of_ofParts h

/-- An integer that is not too large is read as a finite number, and a small one as itself. -/
theorem ofDecimal_integer (negative : Bool) (n : Nat) :
    (n < overflow → (ofDecimal negative n 0).isFinite = true) ∧
      (overflow ≤ n → ofDecimal negative n 0 = .infinite negative) ∧
      (n < 2 ^ 53 → (ofDecimal negative n 0).Holds (signed negative n)) := by
  rw [ofDecimal_zero_exponent]
  split
  next long =>
    have large : overflow ≤ n := by
      by_contra h
      have := Decimal.length_toDigits_le (by decide) ((not_le.mp h).trans_le overflow_le)
      omega
    have := small_lt_overflow
    exact ⟨fun h => by omega, fun _ => rfl, fun h => by omega⟩
  next =>
    have finite := isFinite_ofFraction_one negative n
    refine ⟨finite.mpr, fun large => ?_, fun small => ?_⟩
    · exact eq_infinite_of_ofFraction fun h => absurd (finite.mp h) (not_lt.mpr large)
    · exact holds_ofFraction negative one_pos small (by simp)

theorem le_of_ofParts {negative : Bool} {m' : Nat} {e' : Int} {canonical : Canonical m' e'}
    (eq : ofParts negative m e = .finite negative m' e' canonical) (large : 2 ^ 52 ≤ m) :
    2 ^ 52 ≤ m' ∧ e ≤ e' := by
  unfold ofParts at eq
  have parts_le : 2 ^ 52 ≤ (if m = Nat.pow 2 53 then (Nat.pow 2 52, e + 1) else (m, e)).1 ∧
      e ≤ (if m = Nat.pow 2 53 then (Nat.pow 2 52, e + 1) else (m, e)).2 := by
    split
    · exact ⟨le_rfl, by dsimp only; omega⟩
    · exact ⟨large, le_rfl⟩
  generalize (if m = Nat.pow 2 53 then (Nat.pow 2 52, e + 1) else (m, e)) = parts at eq parts_le
  dsimp only at eq
  split at eq
  · cases eq
    exact parts_le
  · cases eq

/-- An integer of more bits is not rounded to one of at most fifty-three bits. -/
theorem le_value_of_ofFraction {negative : Bool} (large : 2 ^ 53 ≤ n)
    {canonical : Canonical m e} (eq : ofFraction negative n 1 = .finite negative m e canonical) :
    (2 : ℚ) ^ 53 ≤ m * 2 ^ e := by
  have hn : n ≠ 0 := by
    have := Nat.two_pow_pos 53
    omega
  have bits : 53 ≤ n.log2 := (Nat.le_log2 hn).mpr large
  have unit_eq : max (floorLog2 n 1 - 52) (-1074) = (n.log2 : Int) - 52 := by
    rw [floorLog2_one hn]
    omega
  rw [ofFraction, if_neg hn] at eq
  dsimp only at eq
  rw [unit_eq] at eq
  cases units : inUnits n 1 ((n.log2 : Int) - 52) with
  | mk a b =>
    obtain ⟨hb, hge, _⟩ := inUnits_bounds hn units
    rw [units] at eq
    obtain ⟨hm, he⟩ := le_of_ofParts eq (le_divHalfEven hb hge)
    have hm' : (2 : ℚ) ^ 52 ≤ m := by exact_mod_cast hm
    have he' : (2 : ℚ) ^ (1 : Int) ≤ 2 ^ e := zpow_le_zpow_right₀ one_le_two (by omega)
    calc (2 : ℚ) ^ 53 = 2 ^ 52 * 2 ^ (1 : Int) := by norm_num
      _ ≤ (m : ℚ) * 2 ^ e := mul_le_mul hm' he' (two_zpow_pos 1).le (Nat.cast_nonneg m)

/-- Zero and an infinity have no product. -/
theorem mul_infinite_of_zero {negative : Bool} (h : x.Holds 0) :
    x.mul (.infinite negative) = .nan := by
  cases x with
  | nan => rfl
  | infinite => cases h.finite
  | finite s m e canonical =>
    have zero : m = 0 := by
      have magnitude := (of_sign_mul (mul_nonneg (Nat.cast_nonneg m) (two_zpow_pos e).le) h.value).1
      simpa [(two_zpow_pos e).ne'] using magnitude
    rw [mul, if_pos zero]

theorem add_nan (x : Binary) : x.add .nan = .nan := by
  cases x <;> rfl

theorem sub_nan (x : Binary) : x.sub .nan = .nan :=
  x.add_nan

/-- The number holds an integer under the condition, and else it is not a number. -/
structure HoldsIf (P : Prop) (x : Binary) (i : Int) : Prop where
  holds : P → x.Holds i
  nan : ¬P → x = .nan

/-- An operation that is exact on two integers, and gives no number if an operand is none. -/
theorem HoldsIf.combine {P Q : Prop} {op : Binary → Binary → Binary} {result : Int}
    (hx : HoldsIf P x i) (hy : HoldsIf Q y j)
    (exact : x.Holds i → y.Holds j → (op x y).Holds result) (left : ∀ y, op .nan y = .nan)
    (right : ∀ x, op x .nan = .nan) : HoldsIf (P ∧ Q) (op x y) result := by
  refine ⟨fun both => exact (hx.holds both.1) (hy.holds both.2), fun other => ?_⟩
  by_cases first : P
  · rw [hy.nan fun second => other ⟨first, second⟩, right]
  · rw [hx.nan first, left]

end PageComponent.Binary
