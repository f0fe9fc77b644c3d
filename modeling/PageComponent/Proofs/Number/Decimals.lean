import PageComponent.Number.Shortest
import PageComponent.Proofs.Number.Rounding

/-!
# Decimals of binary numbers

What a decimal reads as does not depend on its trailing zeros, and the shortest decimal of a number
reads as the number.
-/

namespace PageComponent

namespace Binary

variable {n : Nat}

theorem length_toDigits_mul_ten (hn : 0 < n) :
    (Nat.toDigits 10 (n * 10)).length = (Nat.toDigits 10 n).length + 1 := by
  have h := @Nat.toDigits_append_toDigits 10 n 0 (by decide) hn (by decide)
  rw [Nat.add_zero, Nat.mul_comm] at h
  rw [← h, List.length_append, Nat.toDigits_zero]
  rfl

theorem ofDecimal_mul_ten (negative : Bool) (n : Nat) (e : Int) :
    ofDecimal negative (n * 10) e = ofDecimal negative n (e + 1) := by
  rcases Nat.eq_zero_or_pos n with rfl | hn
  · simp [ofDecimal]
  · have hpoint : ((Nat.toDigits 10 (n * 10)).length : Int) + e
        = (Nat.toDigits 10 n).length + (e + 1) := by
      rw [length_toDigits_mul_ten hn]
      omega
    have hne : n * 10 ≠ 0 := by omega
    unfold ofDecimal
    simp only [hpoint, hne, Nat.ne_of_gt hn, false_or]
    split
    · rfl
    split
    · rfl
    rcases lt_trichotomy e (-1) with he | rfl | he
    · have hexp : (-e).toNat = (-(e + 1)).toNat + 1 := by omega
      rw [if_neg (by omega), if_neg (by omega), hexp, Nat.pow_eq, Nat.pow_eq, Nat.pow_succ]
      exact ofFraction_mul negative (Nat.pow_pos (by decide)) (Nat.succ_pos 9)
    · have hexp : (-1 + 1 : Int).toNat = 0 := rfl
      rw [if_neg (by decide), if_pos (by decide), hexp]
      exact (ofFraction_mul negative one_pos (Nat.succ_pos 9)).trans (by simp)
    · have hexp : (e + 1).toNat = e.toNat + 1 := by omega
      rw [if_pos (by omega), if_pos (by omega), hexp, Nat.pow_eq, Nat.pow_eq, Nat.pow_succ,
        Nat.mul_assoc, Nat.mul_comm 10]

theorem ofDecimal_mul_pow (negative : Bool) (n k : Nat) (e : Int) :
    ofDecimal negative (n * 10 ^ k) e = ofDecimal negative n (e + k) := by
  induction k generalizing e with
  | zero => simp
  | succ k ih =>
    rw [Nat.pow_succ, ← Nat.mul_assoc, ofDecimal_mul_ten, ih]
    congr 1
    omega

/-- Between the bounds on its point, a decimal is rounded as the fraction that it is. -/
theorem ofDecimal_of_point {negative : Bool} {e : Int} (hn : n ≠ 0)
    (least : -330 < ((Nat.toDigits 10 n).length : Int) + e)
    (greatest : ((Nat.toDigits 10 n).length : Int) + e < 330) :
    ofDecimal negative n e =
      if 0 ≤ e then ofFraction negative (n * 10 ^ e.toNat) 1
      else ofFraction negative n (10 ^ (-e).toNat) := by
  have h₁ : ¬(n = 0 ∨ ((Nat.toDigits 10 n).length : Int) + e ≤ -330) := by omega
  have h₂ : ¬330 ≤ ((Nat.toDigits 10 n).length : Int) + e := by omega
  simp only [ofDecimal, h₁, h₂, if_false, Nat.pow_eq]

end Binary

namespace Decimal

open PageComponent.Binary

variable {m : Nat} {e : Int}

theorem trimZeros_toBinary (d : Decimal) (negative : Bool) :
    d.trimZeros.toBinary negative = d.toBinary negative := by
  fun_induction trimZeros d with
  | case1 d h ih =>
    rw [ih, toBinary, toBinary, ← ofDecimal_mul_ten,
      Nat.div_mul_cancel (Nat.dvd_of_mod_eq_zero h.2)]
  | case2 => rfl

theorem lt_length_toDigits {n k : Nat} (h : 10 ^ k ≤ n) : k < (Nat.toDigits 10 n).length := by
  rcases Nat.eq_zero_or_pos k with rfl | hk
  · exact Nat.length_toDigits_pos
  · exact not_le.mp fun hle =>
      absurd ((Nat.length_toDigits_le_iff (by decide) hk).mp hle) (not_lt.mpr h)

theorem length_toDigits_le {n k : Nat} (hk : 0 < k) (h : n < 10 ^ k) :
    (Nat.toDigits 10 n).length ≤ k :=
  (Nat.length_toDigits_le_iff (by decide) hk).mpr h

theorem point_of_whole (h : Canonical m e) (he : 0 ≤ e) :
    ((Nat.toDigits 10 (m * 2 ^ e.toNat)).length : Int) < 330 := by
  obtain ⟨hlt, -, hgreatest, -⟩ := h
  have hbound : m * 2 ^ e.toNat < 10 ^ 329 :=
    calc m * 2 ^ e.toNat
        ≤ 2 ^ 53 * 2 ^ 971 := Nat.mul_le_mul hlt.le (Nat.pow_le_pow_right (by decide) (by omega))
      _ < 10 ^ 329 := by decide +kernel
  have := length_toDigits_le (by decide) hbound
  omega

theorem point_of_fraction (hm : m ≠ 0) (h : Canonical m e) {k : Nat} (hk : e = -k) :
    -330 < ((Nat.toDigits 10 (m * 5 ^ k)).length : Int) + e ∧
      ((Nat.toDigits 10 (m * 5 ^ k)).length : Int) + e < 330 := by
  obtain ⟨hlt, hleast, -, -⟩ := h
  have hlow : 10 ^ (k - 330) ≤ m * 5 ^ k := by
    rcases Nat.le_total k 330 with hle | hle
    · rw [Nat.sub_eq_zero_of_le hle]
      exact Nat.mul_pos (Nat.pos_of_ne_zero hm) (Nat.pow_pos (by decide))
    · have hsplit : 10 ^ (k - 330) * 10 ^ 330 = 5 ^ k * 2 ^ k := by
        rw [← Nat.pow_add, Nat.sub_add_cancel hle, ← Nat.mul_pow]
      have htwo : 2 ^ k ≤ 10 ^ 330 :=
        (Nat.pow_le_pow_right (by decide) (by omega)).trans
          (show 2 ^ 1074 ≤ 10 ^ 330 by decide +kernel)
      have hpos : 0 < 10 ^ 330 := by positivity
      generalize 10 ^ 330 = b at hsplit htwo hpos
      refine Nat.le_of_mul_le_mul_right ?_ hpos
      calc 10 ^ (k - 330) * b
          = 5 ^ k * 2 ^ k := hsplit
        _ ≤ m * 5 ^ k * b :=
            Nat.mul_le_mul (Nat.le_mul_of_pos_left _ (Nat.pos_of_ne_zero hm)) htwo
  have hhigh : m * 5 ^ k < 10 ^ (16 + k) :=
    calc m * 5 ^ k
        ≤ m * 10 ^ k := Nat.mul_le_mul_left m (Nat.pow_le_pow_left (by decide) k)
      _ < 10 ^ 16 * 10 ^ k :=
          Nat.mul_lt_mul_of_pos_right (hlt.trans (by norm_num)) (Nat.pow_pos (by decide))
      _ = 10 ^ (16 + k) := (Nat.pow_add 10 16 k).symm
  have h₁ := lt_length_toDigits hlow
  have h₂ := length_toDigits_le (by omega) hhigh
  omega

theorem exact_toBinary (hm : m ≠ 0) (h : Canonical m e) :
    (exact m e).toBinary false = .finite false m e h := by
  unfold exact
  split
  next he =>
    have hne : m * 2 ^ e.toNat ≠ 0 := Nat.mul_ne_zero hm (Nat.pow_pos (by decide)).ne'
    have greatest := point_of_whole h he
    rw [Nat.pow_eq, toBinary]
    simp only
    rw [ofDecimal_of_point hne (by omega) (by omega), if_pos le_rfl]
    refine ofFraction_exact false one_pos hm h ?_
    rw [Int.toNat_zero, pow_zero, mul_one, Nat.cast_mul, two_zpow_toNat he, Nat.cast_one, mul_one]
  next he =>
    obtain ⟨k, hk⟩ : ∃ k : Nat, e = -k := ⟨(-e).toNat, by omega⟩
    have hkn : (-e).toNat = k := by omega
    have hne : m * 5 ^ k ≠ 0 := Nat.mul_ne_zero hm (Nat.pow_pos (by decide)).ne'
    obtain ⟨least, greatest⟩ := point_of_fraction hm h hk
    rw [hkn, Nat.pow_eq, toBinary]
    simp only
    rw [ofDecimal_of_point hne least greatest, if_neg he, hkn]
    refine ofFraction_exact false (Nat.pow_pos (by decide)) hm h ?_
    have htwo : ((2 ^ k : Nat) : ℚ) * 2 ^ e = 1 := hkn ▸ two_zpow_neg_toNat (by omega)
    rw [show (10 : Nat) = 5 * 2 from rfl, Nat.mul_pow, Nat.cast_mul, Nat.cast_mul]
    calc (m : ℚ) * ((5 ^ k : Nat) : ℚ)
        = m * ((5 ^ k : Nat) : ℚ) * (((2 ^ k : Nat) : ℚ) * 2 ^ e) := by rw [htwo, mul_one]
      _ = m * 2 ^ e * (((5 ^ k : Nat) : ℚ) * ((2 ^ k : Nat) : ℚ)) := by ring

theorem shortest_toBinary (hm : m ≠ 0) (h : Canonical m e) :
    (shortest m e).toBinary false = .finite false m e h := by
  unfold shortest
  simp only
  split
  next c hc =>
    have := List.find?_some hc
    rw [trimZeros_toBinary, of_decide_eq_true this, ofScaled_canonical false hm h]
  next => rw [trimZeros_toBinary, exact_toBinary hm h]

end Decimal

end PageComponent
