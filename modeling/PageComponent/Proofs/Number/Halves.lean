import PageComponent.Proofs.Number.Remainder
import Mathlib.Data.Rat.Floor

/-!
# Integers and halves

An integer is rounded by adding a half to the binary number nearest to it and taking the floor. In
fifty-two bits the half fits behind the integer. Beyond them the sum is rounded to an even integer,
so that an odd one becomes the next.
-/

namespace PageComponent

namespace Binary

variable {x y : Binary} {i j : Int} {q : ℚ}

theorem floor?_eq (hx : x.isFinite = true) : x.floor? = some ⌊x.value⌋ := by
  cases x with
  | nan => cases hx
  | infinite => cases hx
  | finite s m e h =>
    rw [floor?]
    split
    next whole =>
      have eq := signedUnits_value s m whole
      rw [zpow_zero, mul_one] at eq
      rw [value, ← eq, Int.floor_intCast]
    next part =>
      have quotient : (finite s m e h).value =
          (signedUnits s m e e : ℚ) / (Nat.pow 2 (-e).toNat : Nat) := by
        have hd : ((Nat.pow 2 (-e).toNat : Nat) : ℚ) ≠ 0 := by
          exact_mod_cast (Nat.pow_pos two_pos).ne'
        rw [eq_div_iff hd, value, ← signedUnits_value s m le_rfl, mul_assoc,
          mul_comm ((2 : ℚ) ^ e), Nat.pow_eq, two_zpow_neg_toNat (by omega), mul_one]
      rw [quotient, Rat.floor_intCast_div_natCast, Int.fdiv_eq_ediv_of_nonneg _ (Nat.cast_nonneg _)]

theorem ofFraction_half : ofFraction false 1 2 = .finite false (2 ^ 52) (-53) (by decide) := by
  decide +kernel

theorem half_value :
    (ofFraction false 1 2).isFinite = true ∧ (ofFraction false 1 2).value = 1 / 2 := by
  rw [ofFraction_half, value]
  exact ⟨rfl, by norm_num⟩

theorem nearest_add_half (hx : x.Holds i) :
    Nearest (i + 1 / 2) (x.add (ofFraction false 1 2)) := by
  obtain ⟨finite, eq⟩ := half_value
  have bound := abs_value_le hx.finite
  have nearest := nearest_add hx.finite finite (by
    rw [eq]
    have := abs_add_le x.value (1 / 2)
    rw [abs_of_pos (show (0 : ℚ) < 1 / 2 by norm_num)] at this
    linarith)
  rwa [eq, hx.value] at nearest

/-- An even integer is a binary number up to the power behind the fifty-three bits. -/
theorem exists_holds_of_even (small : i.natAbs ≤ 2 ^ 53) (even : i % 2 = 0) :
    ∃ x : Binary, x.Holds i := by
  obtain ⟨k, rfl⟩ := Int.dvd_of_emod_eq_zero even
  obtain ⟨y, finite, eq⟩ := exists_finite (e := 1) k (by omega) (by decide) (by decide)
  refine ⟨y, finite, eq.trans ?_⟩
  push_cast
  ring

/-- An odd integer that is a binary number has fifty-three bits. -/
theorem Holds.small_of_odd (hx : x.Holds i) (odd : i % 2 ≠ 0) : i.natAbs < 2 ^ 53 := by
  by_contra large
  have bound : (2 : ℚ) ^ 53 ≤ |x.value| := by
    rw [hx.value, ← Int.cast_abs, ← Nat.cast_natAbs]
    exact_mod_cast not_lt.mp large
  obtain ⟨k, holds, even⟩ := holds_of_large hx.finite (le_trans (by norm_num) bound)
  have same : k = i := by exact_mod_cast holds.value.symm.trans hx.value
  exact odd (same ▸ even (.inr bound))

/-- With less than fifty-two bits before the point there is one left for the half. -/
theorem value_add_half (small : -2 ^ 52 ≤ i ∧ i < 2 ^ 52) (h : Nearest (i + 1 / 2) y) :
    y.value = i + 1 / 2 := by
  obtain ⟨z, finite, eq⟩ := exists_finite (e := -1) (2 * i + 1) (by omega) (by decide) (by decide)
  have exact : z.value = i + 1 / 2 := by
    rw [eq, zpow_neg_one]
    push_cast
    ring
  rw [← exact] at h ⊢
  exact h.value_eq (nearest_value finite)

/-- Beyond, the sum is the even one of the integer and the next. -/
theorem holds_add_half (hx : x.Holds i) (large : ¬(-2 ^ 52 ≤ i ∧ i < 2 ^ 52))
    (h : Nearest (i + 1 / 2) y) : y.Holds (if i % 2 = 0 then i else i + 1) := by
  have lower : (i : ℚ) ≤ y.value := by
    rw [← hx.value]
    exact h.lower hx.finite (by rw [hx.value]; linarith)
  have near := h.le x hx.finite
  rw [hx.value, add_sub_cancel_left, abs_of_pos (show (0 : ℚ) < 1 / 2 by norm_num)] at near
  have upper : y.value ≤ i + 1 := by linarith [(abs_le.mp near).1]
  have bound : 2 ^ 52 ≤ |y.value| := by
    rcases le_or_gt 0 i with nonneg | neg
    · have : ((2 ^ 52 : Int) : ℚ) ≤ i := by exact_mod_cast (show 2 ^ 52 ≤ i by omega)
      push_cast at this
      exact le_abs.mpr (.inl (by linarith))
    · have : ((i + 1 : Int) : ℚ) ≤ (-2 ^ 52 : Int) := by
        exact_mod_cast (show i + 1 ≤ -2 ^ 52 by omega)
      push_cast at this
      exact le_abs.mpr (.inr (by linarith))
  obtain ⟨k, holds, parity⟩ := holds_of_large h.finite bound
  rw [holds.value] at lower upper
  have lower : i ≤ k := by exact_mod_cast lower
  have upper : k ≤ i + 1 := by exact_mod_cast upper
  have even : k % 2 = 0 := by
    by_contra odd
    -- The other one of the two integers is as near and a binary number, too.
    obtain ⟨z, hz⟩ : ∃ z : Binary, z.Holds (2 * i + 1 - k) := by
      by_cases same : k = i
      · have := hx.small_of_odd (same ▸ odd)
        exact exists_holds_of_even (by omega) (by omega)
      · exact ⟨x, by rwa [show 2 * i + 1 - k = i by omega]⟩
    have tie : |(i + 1 / 2 : ℚ) - z.value| = |(i + 1 / 2 : ℚ) - y.value| := by
      rw [hz.value, holds.value, ← abs_neg]
      congr 1
      push_cast
      ring
    have other : z.value ≠ y.value := by
      rw [hz.value, holds.value]
      exact_mod_cast (show 2 * i + 1 - k ≠ k by omega)
    exact odd (parity (.inl (h.even z hz.finite tie other)))
  rwa [show (if i % 2 = 0 then i else i + 1) = k by split <;> omega]

/-- The integer that the sum with a half has for its floor. -/
theorem floor_add_half (hx : x.Holds i) (h : Nearest (i + 1 / 2) y) :
    ⌊y.value⌋ = if -2 ^ 52 ≤ i ∧ i < 2 ^ 52 ∨ i % 2 = 0 then i else i + 1 := by
  by_cases small : -2 ^ 52 ≤ i ∧ i < 2 ^ 52
  · rw [if_pos (.inl small), value_add_half small h, Int.floor_eq_iff]
    constructor <;> linarith
  · simp only [small, false_or]
    rw [(holds_add_half hx small h).value, Int.floor_intCast]

end Binary

namespace Number

open Binary

/-- An integer is rounded to the one that the binary number nearest to it holds, or else to the next
one. -/
theorem round_int_eq_ok_iff {i : Int} {r : Number} :
    (int i).round = .ok r ↔ ∃ j, RoundsTo i j ∧
      r = int (if -2 ^ 52 ≤ j ∧ j < 2 ^ 52 ∨ j % 2 = 0 then j else j + 1) := by
  have rounded {j : Int} (h : RoundsTo i j) : (int i).round =
      .ok (int (if -2 ^ 52 ≤ j ∧ j < 2 ^ 52 ∨ j % 2 = 0 then j else j + 1)) := by
    have sum := nearest_add_half h.holds
    rw [round, toBinary_int h.inRange, ← floor_add_half h.holds sum]
    show Except.ok (int (((ofInt i).add (ofFraction false 1 2)).floor?.getD 0)) = _
    rw [floor?_eq sum.finite, Option.getD_some]
  constructor
  · intro eq
    obtain ⟨x, first, -⟩ := bind_eq_ok.mp eq
    obtain ⟨j, rounds⟩ := exists_roundsTo (inRange_of_toBinary first)
    rw [rounded rounds] at eq
    exact ⟨j, rounds, (Except.ok.inj eq).symm⟩
  · rintro ⟨j, rounds, rfl⟩
    exact rounded rounds

/-- An integer is rounded to itself exactly if it is a binary number and has a bit left for the half
or is even. -/
theorem round_int_self_iff {i : Int} :
    (int i).round = .ok (int i) ↔
      (∃ x : Binary, x.Holds i) ∧ (-2 ^ 52 ≤ i ∧ i < 2 ^ 52 ∨ i % 2 = 0) := by
  rw [round_int_eq_ok_iff]
  constructor
  · rintro ⟨j, rounds, eq⟩
    have eq := Number.int.inj eq
    split at eq
    next stays =>
      subst eq
      exact ⟨roundsTo_self_iff.mp rounds, stays⟩
    next moves =>
      -- The next integer is a binary number as well, so that it would have been its own nearest.
      have small := rounds.holds.small_of_odd (by omega)
      obtain ⟨x, held⟩ := exists_holds_of_even (i := i) (by omega) (by omega)
      have := rounds.unique held.roundsTo
      omega
  · rintro ⟨⟨x, held⟩, stays⟩
    exact ⟨i, held.roundsTo, by rw [if_pos stays]⟩

end Number

end PageComponent
