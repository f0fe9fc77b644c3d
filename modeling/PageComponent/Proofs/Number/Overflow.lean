import PageComponent.Number.Basic
import PageComponent.Proofs.Number.Rounding
import PageComponent.Proofs.Outcome

/-!
# Overflow

An integer is too large for the binary format from half a unit below `2 ^ 1024` on. There the
nearest number of fifty-three bits, with a tie going to the even one, is `2 ^ 1024` itself.
-/

namespace PageComponent

namespace Binary

variable {n d m unit : Nat} {e : Int}

/-! ## Rounded quotients -/

theorem le_divHalfEven (hd : 0 < d) (h : m * d ≤ n) : m ≤ divHalfEven n d := by
  have hq : m ≤ n / d := (Nat.le_div_iff_mul_le hd).mpr h
  unfold divHalfEven
  dsimp only
  split <;> omega

theorem divHalfEven_le (hd : 0 < d) (h : n ≤ m * d) : divHalfEven n d ≤ m := by
  have hq : n / d ≤ m := Nat.div_le_of_le_mul (by rwa [Nat.mul_comm])
  rcases Nat.lt_or_eq_of_le hq with hlt | heq
  · unfold divHalfEven
    dsimp only
    split <;> omega
  · have hr : n % d = 0 := by
      have := Nat.div_add_mod n d
      rw [heq, Nat.mul_comm] at this
      omega
    unfold divHalfEven
    simp only [hr, heq, Nat.mul_zero, hd, true_or, if_true, le_refl]

/-- What is half a unit below an even number is rounded to it, and so is all behind it. -/
theorem divHalfEven_eq_succ_iff (odd : m % 2 = 1) (hunit : 0 < unit)
    (h : n ≤ (m + 1) * (2 * unit)) :
    divHalfEven n (2 * unit) = m + 1 ↔ (2 * m + 1) * unit ≤ n := by
  have hd : 0 < 2 * unit := Nat.mul_pos two_pos hunit
  have split : (2 * m + 1) * unit = m * (2 * unit) + unit := by ring
  rw [split]
  rcases Nat.lt_or_ge n (m * (2 * unit)) with below | above
  · have := divHalfEven_le hd below.le
    omega
  · rcases Nat.lt_or_eq_of_le h with inside | rfl
    · have hq : n / (2 * unit) = m := Nat.div_eq_of_lt_le above inside
      have hr := Nat.div_add_mod n (2 * unit)
      rw [hq, Nat.mul_comm] at hr
      unfold divHalfEven
      simp only [hq, odd, one_ne_zero, and_false, or_false]
      split <;> omega
    · rw [divHalfEven_exact hd, Nat.add_mul]
      exact iff_of_true rfl (by omega)

/-! ## Rounded integers -/

theorem floorLog2_one (hn : n ≠ 0) : floorLog2 n 1 = n.log2 := by
  refine floorLog2_eq one_pos ?_ ?_
  · rw [Nat.cast_one, mul_one]
    exact_mod_cast Nat.log2_self_le hn
  · rw [Nat.cast_one, mul_one]
    exact_mod_cast Nat.lt_log2_self

/-- In units of its last place, an integer has fifty-three bits before the point. -/
theorem inUnits_bounds (hn : n ≠ 0) {a b : Nat} (h : inUnits n 1 ((n.log2 : Int) - 52) = (a, b)) :
    0 < b ∧ 2 ^ 52 * b ≤ a ∧ a < 2 ^ 53 * b := by
  have hle : 2 ^ n.log2 ≤ n := Nat.log2_self_le hn
  have hlt : n < 2 ^ (n.log2 + 1) := Nat.lt_log2_self
  unfold inUnits at h
  split at h
  next he =>
    obtain ⟨rfl, rfl⟩ := Prod.mk.inj h
    obtain ⟨k, hk⟩ : ∃ k, n.log2 = 52 + k := ⟨n.log2 - 52, by omega⟩
    have hunit : ((n.log2 : Int) - 52).toNat = k := by omega
    rw [hunit, Nat.pow_eq, one_mul]
    rw [hk] at hle hlt
    refine ⟨Nat.two_pow_pos k, ?_, ?_⟩
    · rwa [← Nat.pow_add]
    · rwa [← Nat.pow_add, show 53 + k = 52 + k + 1 by omega]
  next he =>
    obtain ⟨rfl, rfl⟩ := Prod.mk.inj h
    obtain ⟨k, hk⟩ : ∃ k, n.log2 + k = 52 := ⟨52 - n.log2, by omega⟩
    have hunit : (-((n.log2 : Int) - 52)).toNat = k := by omega
    rw [hunit, Nat.pow_eq, mul_one, mul_one]
    refine ⟨one_pos, ?_, ?_⟩
    · rw [← hk, Nat.pow_add]
      exact Nat.mul_le_mul_right _ hle
    · rw [show 53 = n.log2 + 1 + k by omega, Nat.pow_add]
      exact Nat.mul_lt_mul_of_pos_right hlt (Nat.two_pow_pos k)

theorem isFinite_dite (s : Bool) :
    (if h : Canonical m e then Binary.finite s m e h else .infinite s).isFinite = true ↔
      Canonical m e := by
  split
  next canonical => exact iff_of_true rfl canonical
  next other => exact iff_of_false Bool.false_ne_true other

/-- Fifty-three bits overflow from the exponent 972 on, and at 971 if they were rounded up. -/
theorem isFinite_ofParts (s : Bool) (hge : 2 ^ 52 ≤ m) (hle : m ≤ 2 ^ 53) (he : -1074 ≤ e) :
    (ofParts s m e).isFinite = true ↔ e ≤ 970 ∨ e = 971 ∧ m ≠ 2 ^ 53 := by
  unfold ofParts
  by_cases top : m = Nat.pow 2 53
  · simp only [top, if_true]
    rw [isFinite_dite, Canonical]
    simp only [Nat.pow_eq]
    omega
  · simp only [top, if_false]
    rw [isFinite_dite, Canonical]
    simp only [Nat.pow_eq] at top ⊢
    omega

/-- The least integer too large for the format. -/
def overflow : Nat :=
  2 ^ 1024 - 2 ^ 970

/-- The bound is half a unit below the power of two. The exponent has a name here because nothing
may compute the power. -/
theorem exists_overflow_eq : ∃ k, k = 970 ∧ overflow = (2 * (2 ^ 53 - 1) + 1) * 2 ^ k :=
  ⟨970, rfl, by decide +kernel⟩

theorem ten_pow_le_overflow : 10 ^ 21 ≤ overflow := by
  decide +kernel

/-- A natural number has a finite binary number nearest to it if it is below the bound. -/
theorem isFinite_ofFraction_one (s : Bool) (n : Nat) :
    (ofFraction s n 1).isFinite = true ↔ n < overflow := by
  obtain ⟨k, hk, bound⟩ := exists_overflow_eq
  have hunit : 0 < 2 ^ k := Nat.two_pow_pos k
  unfold ofFraction
  split
  next zero =>
    subst zero
    exact iff_of_true rfl (by omega)
  next hn =>
    have unit_eq : max (floorLog2 n 1 - 52) (-1074) = (n.log2 : Int) - 52 := by
      rw [floorLog2_one hn]
      omega
    dsimp only
    rw [unit_eq]
    cases units : inUnits n 1 ((n.log2 : Int) - 52) with
    | mk a b =>
      obtain ⟨hb, hge, hlt⟩ := inUnits_bounds hn units
      rw [isFinite_ofParts s (le_divHalfEven hb hge) (divHalfEven_le hb hlt.le) (by omega)]
      rcases Nat.lt_trichotomy n.log2 (53 + k) with lower | last | higher
      · have small : n < 2 ^ (53 + k) := (Nat.log2_lt hn).mp lower
        rw [Nat.pow_add] at small
        exact iff_of_true (.inl (by omega)) (by omega)
      · have top : (n.log2 : Int) - 52 = k + 1 := by omega
        rw [top, inUnits, if_pos (by omega)] at units
        obtain ⟨rfl, rfl⟩ := Prod.mk.inj units
        have unit_eq : 1 * Nat.pow 2 ((k : Int) + 1).toNat = 2 * 2 ^ k := by
          rw [one_mul, Nat.pow_eq, Int.toNat_natCast_add_one, Nat.pow_succ']
        rw [unit_eq] at hlt ⊢
        have rounds_up : divHalfEven n (2 * 2 ^ k) = 2 ^ 53 ↔ overflow ≤ n := by
          rw [bound]
          exact divHalfEven_eq_succ_iff (by decide) hunit hlt.le
        rw [ne_eq, rounds_up, Nat.not_le]
        omega
      · have large : 2 ^ (54 + k) ≤ n := (Nat.le_log2 hn).mp (by omega)
        rw [Nat.pow_add] at large
        exact iff_of_false (by omega) (by omega)

theorem isFinite_ofInt (n : Int) : (ofInt n).isFinite = true ↔ n.natAbs < overflow := by
  rw [ofInt, isFinite_ofFraction_one]

end Binary

namespace Number

/-- An integer too large for the binary format. -/
def IsHuge : Number → Prop
  | .int n => Binary.overflow ≤ n.natAbs
  | .float _ => False

instance : DecidablePred IsHuge
  | .int _ => inferInstanceAs (Decidable (_ ≤ _))
  | .float _ => inferInstanceAs (Decidable False)

theorem fails_toBinary (a : Number) : Fails a.toBinary ↔ a.IsHuge := by
  cases a with
  | float x => exact iff_of_false (not_fails_ok x) id
  | int n =>
    rw [toBinary, IsHuge, ← Nat.not_lt, ← Binary.isFinite_ofInt]
    split
    next finite => exact iff_of_false (not_fails_ok _) (not_not_intro finite)
    next infinite => exact iff_of_true ⟨_, rfl⟩ infinite

theorem fails_isNaN (a : Number) : Fails a.isNaN ↔ a.IsHuge :=
  (fails_bind_of_total fun _ => not_fails_ok _).trans (fails_toBinary a)

theorem not_isHuge_of_isZero {a : Number} (h : a.isZero = true) : ¬a.IsHuge := by
  cases a with
  | float => exact id
  | int n =>
    obtain rfl : n = 0 := beq_iff_eq.mp h
    exact Nat.not_le.mpr (Nat.lt_of_lt_of_le (by decide) Binary.ten_pow_le_overflow)

end Number

end PageComponent
