import PageComponent.Number.Binary
import Mathlib.Algebra.Order.Field.Power
import Mathlib.Data.Rat.Cast.Order
import Mathlib.Tactic.Linarith
import Mathlib.Tactic.NormNum
import Mathlib.Tactic.Ring

/-!
# Rounding to binary numbers

Rounding depends on the value of a fraction only, and a fraction that a binary number has for its
value is rounded to that number.
-/

namespace PageComponent.Binary

variable {n d m k : Nat} {e : Int}

theorem two_zpow_pos (e : Int) : (0 : ℚ) < 2 ^ e := zpow_pos two_pos e

theorem two_zpow_toNat (h : 0 ≤ e) : ((2 ^ e.toNat : Nat) : ℚ) = 2 ^ e := by
  rw [Nat.cast_pow, Nat.cast_ofNat, ← zpow_natCast, Int.toNat_of_nonneg h]

theorem two_zpow_neg_toNat (h : e < 0) : ((2 ^ (-e).toNat : Nat) : ℚ) * 2 ^ e = 1 := by
  rw [two_zpow_toNat (by omega), ← zpow_add₀ two_ne_zero, neg_add_cancel, zpow_zero]

/-! ## Units -/

theorem inUnits_snd_pos (hd : 0 < d) : 0 < (inUnits n d e).2 := by
  unfold inUnits
  split
  · exact Nat.mul_pos hd (Nat.pow_pos (by decide))
  · exact hd

/-- The fraction in units of `2 ^ e`, multiplied by the unit, is the fraction. -/
theorem inUnits_value : ((inUnits n d e).1 : ℚ) * 2 ^ e * d = n * (inUnits n d e).2 := by
  unfold inUnits
  split
  next h =>
    rw [Nat.pow_eq, Nat.cast_mul, two_zpow_toNat h]
    ring
  next h =>
    rw [Nat.pow_eq, Nat.cast_mul, mul_assoc (n : ℚ), two_zpow_neg_toNat (by omega)]
    ring

theorem inUnits_mul :
    inUnits (n * k) (d * k) e = ((inUnits n d e).1 * k, (inUnits n d e).2 * k) := by
  unfold inUnits
  split
  · rw [Nat.mul_right_comm]
  · rw [Nat.mul_right_comm]

theorem inUnits_lt_iff (hd : 0 < d) :
    (inUnits n d e).1 < (inUnits n d e).2 ↔ (n : ℚ) < 2 ^ e * d := by
  have hv := @inUnits_value n d e
  have hd' : (0 : ℚ) < (inUnits n d e).2 := by exact_mod_cast inUnits_snd_pos hd
  have hu : (0 : ℚ) < 2 ^ e * d := mul_pos (two_zpow_pos e) (by exact_mod_cast hd)
  rw [mul_assoc] at hv
  rw [← @Nat.cast_lt ℚ, ← mul_lt_mul_iff_left₀ hu, hv, mul_comm, mul_lt_mul_iff_right₀ hd']

theorem divHalfEven_mul (hk : 0 < k) : divHalfEven (n * k) (d * k) = divHalfEven n d := by
  unfold divHalfEven
  simp only [Nat.mul_div_mul_right n d hk, Nat.mul_mod_mul_right, ← Nat.mul_assoc,
    Nat.mul_lt_mul_right hk, Nat.mul_left_inj (Nat.ne_of_gt hk)]

theorem divHalfEven_exact (hd : 0 < d) : divHalfEven (m * d) d = m := by
  simp [divHalfEven, Nat.mul_div_cancel m hd, hd]

/-! ## The binary logarithm -/

theorem floorLog2_spec (hn : 0 < n) (hd : 0 < d) :
    (2 : ℚ) ^ floorLog2 n d * d ≤ n ∧ (n : ℚ) < 2 ^ (floorLog2 n d + 1) * d := by
  have hn₁ : (2 : ℚ) ^ (n.log2 : Int) ≤ n := by
    exact_mod_cast Nat.log2_self_le (Nat.ne_of_gt hn)
  have hn₂ : (n : ℚ) < 2 ^ ((n.log2 : Int) + 1) := by exact_mod_cast Nat.lt_log2_self
  have hd₁ : (2 : ℚ) ^ (d.log2 : Int) ≤ d := by
    exact_mod_cast Nat.log2_self_le (Nat.ne_of_gt hd)
  have hd₂ : (d : ℚ) < 2 ^ ((d.log2 : Int) + 1) := by exact_mod_cast Nat.lt_log2_self
  have hlt := @inUnits_lt_iff n d ((n.log2 : Int) - d.log2) hd
  unfold floorLog2
  simp only [hlt]
  split
  next h =>
    refine ⟨?_, by rwa [sub_add_cancel]⟩
    calc (2 : ℚ) ^ ((n.log2 : Int) - d.log2 - 1) * d
        ≤ 2 ^ ((n.log2 : Int) - d.log2 - 1) * 2 ^ ((d.log2 : Int) + 1) :=
          mul_le_mul_of_nonneg_left hd₂.le (two_zpow_pos _).le
      _ = 2 ^ (n.log2 : Int) := by
          rw [← zpow_add₀ two_ne_zero]
          congr 1
          omega
      _ ≤ n := hn₁
  next h =>
    refine ⟨not_lt.mp h, ?_⟩
    calc (n : ℚ) < 2 ^ ((n.log2 : Int) + 1) := hn₂
      _ = 2 ^ ((n.log2 : Int) - d.log2 + 1) * 2 ^ (d.log2 : Int) := by
          rw [← zpow_add₀ two_ne_zero]
          congr 1
          omega
      _ ≤ 2 ^ ((n.log2 : Int) - d.log2 + 1) * d :=
          mul_le_mul_of_nonneg_left hd₁ (two_zpow_pos _).le

theorem floorLog2_eq (hd : 0 < d) {e : Int} (hle : (2 : ℚ) ^ e * d ≤ n)
    (hlt : (n : ℚ) < 2 ^ (e + 1) * d) : floorLog2 n d = e := by
  have hd' : (0 : ℚ) < d := by exact_mod_cast hd
  have hn : 0 < n := by exact_mod_cast lt_of_lt_of_le (mul_pos (two_zpow_pos e) hd') hle
  obtain ⟨hle', hlt'⟩ := floorLog2_spec hn hd
  have h₁ : e < floorLog2 n d + 1 :=
    (zpow_lt_zpow_iff_right₀ one_lt_two).mp
      ((mul_lt_mul_iff_left₀ hd').mp (hle.trans_lt hlt'))
  have h₂ : floorLog2 n d < e + 1 :=
    (zpow_lt_zpow_iff_right₀ one_lt_two).mp
      ((mul_lt_mul_iff_left₀ hd').mp (hle'.trans_lt hlt))
  omega

theorem floorLog2_mul (hn : 0 < n) (hd : 0 < d) (hk : 0 < k) :
    floorLog2 (n * k) (d * k) = floorLog2 n d := by
  obtain ⟨hle, hlt⟩ := floorLog2_spec hn hd
  have hk' : (0 : ℚ) < k := by exact_mod_cast hk
  refine floorLog2_eq (Nat.mul_pos hd hk) ?_ ?_
  · rw [Nat.cast_mul, Nat.cast_mul, ← mul_assoc]
    exact mul_le_mul_of_nonneg_right hle hk'.le
  · rw [Nat.cast_mul, Nat.cast_mul, ← mul_assoc]
    exact mul_lt_mul_of_pos_right hlt hk'

/-! ## Fractions -/

theorem ofFraction_mul (negative : Bool) (hd : 0 < d) (hk : 0 < k) :
    ofFraction negative (n * k) (d * k) = ofFraction negative n d := by
  unfold ofFraction
  rcases Nat.eq_zero_or_pos n with rfl | hn
  · simp
  · have hnk : n * k ≠ 0 := Nat.ne_of_gt (Nat.mul_pos hn hk)
    simp only [hnk, Nat.ne_of_gt hn, if_false, floorLog2_mul hn hd hk, inUnits_mul,
      divHalfEven_mul hk]

theorem ofParts_canonical (negative : Bool) (h : Canonical m e) :
    ofParts negative m e = .finite negative m e h := by
  have hm : m ≠ Nat.pow 2 53 := Nat.ne_of_lt h.1
  simp only [ofParts, hm, if_false, h, dif_pos]

theorem floorLog2_of_value (hd : 0 < d) (hm : m ≠ 0) (hv : (n : ℚ) = m * 2 ^ e * d) :
    floorLog2 n d = m.log2 + e := by
  have hle : (2 : ℚ) ^ (m.log2 : Int) ≤ m := by exact_mod_cast Nat.log2_self_le hm
  have hlt : (m : ℚ) < 2 ^ ((m.log2 : Int) + 1) := by exact_mod_cast Nat.lt_log2_self
  have hu : (0 : ℚ) < 2 ^ e * d := mul_pos (two_zpow_pos e) (by exact_mod_cast hd)
  refine floorLog2_eq hd ?_ ?_
  · rw [hv, zpow_add₀ two_ne_zero, mul_assoc, mul_assoc]
    exact mul_le_mul_of_nonneg_right hle hu.le
  · rw [hv, add_right_comm, zpow_add₀ two_ne_zero, mul_assoc, mul_assoc]
    exact mul_lt_mul_of_pos_right hlt hu

theorem unit_of_canonical (hm : m ≠ 0) (h : Canonical m e) :
    max ((m.log2 : Int) + e - 52) (-1074) = e := by
  obtain ⟨hlt, hleast, -, hnormal⟩ := h
  have hlog : m.log2 < 53 := (Nat.log2_lt hm).mpr hlt
  rcases hnormal with hge | rfl
  · have : 52 ≤ m.log2 := (Nat.le_log2 hm).mpr hge
    omega
  · omega

/-- A fraction is rounded to the binary number that has its value. -/
theorem ofFraction_exact (negative : Bool) (hd : 0 < d) (hm : m ≠ 0) (h : Canonical m e)
    (hv : (n : ℚ) = m * 2 ^ e * d) : ofFraction negative n d = .finite negative m e h := by
  have hd' : (0 : ℚ) < d := by exact_mod_cast hd
  have hn : n ≠ 0 := by
    rintro rfl
    have hm' : (0 : ℚ) < m := by exact_mod_cast Nat.pos_of_ne_zero hm
    exact absurd hv (ne_of_lt (by simpa using mul_pos (mul_pos hm' (two_zpow_pos e)) hd'))
  have hunits : (inUnits n d e).1 = m * (inUnits n d e).2 := by
    have hval := @inUnits_value n d e
    have hu : (2 : ℚ) ^ e * d ≠ 0 := (mul_pos (two_zpow_pos e) hd').ne'
    have : ((inUnits n d e).1 : ℚ) * (2 ^ e * d) = m * (inUnits n d e).2 * (2 ^ e * d) := by
      rw [← mul_assoc, hval, hv]
      ring
    exact_mod_cast mul_right_cancel₀ hu this
  unfold ofFraction
  simp only [hn, if_false, floorLog2_of_value hd hm hv, unit_of_canonical hm h, hunits,
    divHalfEven_exact (inUnits_snd_pos hd)]
  exact ofParts_canonical negative h

theorem ofScaled_canonical (negative : Bool) (hm : m ≠ 0) (h : Canonical m e) :
    ofScaled negative m e = .finite negative m e h := by
  unfold ofScaled
  split
  next he =>
    refine ofFraction_exact negative one_pos hm h ?_
    rw [Nat.pow_eq, Nat.cast_mul, two_zpow_toNat he, Nat.cast_one, mul_one]
  next he =>
    refine ofFraction_exact negative (Nat.pow_pos (by decide)) hm h ?_
    rw [mul_assoc, mul_comm ((2 : ℚ) ^ e), two_zpow_neg_toNat (by omega), mul_one]

end PageComponent.Binary
