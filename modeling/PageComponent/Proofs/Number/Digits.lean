import PageComponent.Number.Format
import PageComponent.Proofs.Number.Integers

/-!
# Digits of integers

A binary number that holds an integer of at most fifty-three bits is written with the digits of the
integer. The grids of its shortest decimal get finer, and no grid behind the one of the units is
needed.
-/

namespace PageComponent

namespace Decimal

open PageComponent.Binary

variable {n d k m : Nat} {e : Int} {c : Decimal}

/-- The decimal is the natural number `k`, with no digits behind the point. -/
structure Equals (c : Decimal) (k : Nat) : Prop where
  whole : 0 ≤ c.exponent
  value : c.coefficient * 10 ^ c.exponent.toNat = k

theorem Equals.trimZeros (h : c.Equals k) : c.trimZeros.Equals k := by
  fun_induction Decimal.trimZeros c with
  | case1 c trim ih =>
    obtain ⟨whole, value⟩ := h
    have exponent : (c.exponent + 1).toNat = c.exponent.toNat + 1 := by omega
    refine ih ⟨by dsimp only; omega, ?_⟩
    dsimp only
    rw [exponent, Nat.pow_succ', ← Nat.mul_assoc,
      Nat.div_mul_cancel (Nat.dvd_of_mod_eq_zero trim.2), value]
  | case2 => exact h

/-! ## The point -/

theorem length_toDigits_mono (h : d ≤ n) :
    (Nat.toDigits 10 d).length ≤ (Nat.toDigits 10 n).length := by
  rcases Nat.lt_or_ge 1 (Nat.toDigits 10 d).length with long | short
  · have least : 10 ^ ((Nat.toDigits 10 d).length - 1) ≤ d := by
      by_contra below
      have := length_toDigits_le (by omega) (not_le.mp below)
      omega
    have := lt_length_toDigits (least.trans h)
    omega
  · exact short.trans Nat.length_toDigits_pos

/-- The point of a small integer stands behind one to sixteen digits. -/
theorem pointOf_bounds (hd : 0 < d) (hk : 0 < k) (small : k < 10 ^ 16) :
    1 ≤ pointOf (k * d) d ∧ pointOf (k * d) d ≤ 16 := by
  have longer := length_toDigits_mono (Nat.le_mul_of_pos_left d hk)
  have d_lt : d < 10 ^ (Nat.toDigits 10 d).length :=
    (Nat.length_toDigits_le_iff (by decide) Nat.length_toDigits_pos).mp le_rfl
  have shorter : (Nat.toDigits 10 (k * d)).length ≤ 16 + (Nat.toDigits 10 d).length := by
    refine length_toDigits_le (by omega) ?_
    rw [Nat.pow_add]
    exact Nat.mul_lt_mul'' small d_lt
  unfold pointOf
  dsimp only
  generalize exponent : ((Nat.toDigits 10 (k * d)).length : Int) - (Nat.toDigits 10 d).length = e
  have least : 0 ≤ e := by omega
  have greatest : e ≤ 16 := by omega
  rw [inUnits, if_pos least]
  dsimp only
  split
  next below =>
    refine ⟨?_, greatest⟩
    by_contra h
    obtain rfl : e = 0 := by omega
    rw [Int.toNat_zero, Nat.pow_eq, Nat.pow_zero, Nat.mul_one] at below
    exact absurd (Nat.le_mul_of_pos_left d hk) (not_le.mpr below)
  next above =>
    refine ⟨by omega, ?_⟩
    by_contra h
    obtain rfl : e = 16 := by omega
    refine above ?_
    rw [Nat.mul_comm]
    exact Nat.mul_lt_mul_of_pos_left small hd

/-! ## Grids -/

theorem exponent_of_mem_neighbours {unit : Int} (mem : c ∈ neighbours n d unit) :
    c.exponent = unit := by
  unfold neighbours at mem
  dsimp only at mem
  split at mem
  · simp only [List.mem_cons, List.not_mem_nil, or_false] at mem
    rcases mem with rfl | rfl <;> rfl
  · simp only [List.mem_cons, List.not_mem_nil, or_false] at mem
    rcases mem with rfl | rfl <;> rfl

theorem mem_neighbours_zero (hd : 0 < d) : ⟨k, 0⟩ ∈ neighbours (k * d) d 0 := by
  have units : inUnits (k * d) d 0 = (k * d, d) := by
    rw [inUnits, if_pos le_rfl, Int.toNat_zero, Nat.pow_eq, Nat.pow_zero, Nat.mul_one]
  simp [neighbours, units, Nat.mul_div_cancel k hd, hd]

/-- An integer is found on a grid that is no finer than that of the units. -/
theorem exists_find?_grids {point : Int} (least : 1 ≤ point) (greatest : point ≤ 16) (hd : 0 < d)
    {p : Decimal → Bool} (accepted : p ⟨k, 0⟩ = true) :
    ∃ c, ((List.range 17).map fun j : Nat =>
        neighbours (k * d) d (point - (j + 1))).flatten.find? p = some c ∧
      p c = true ∧ 0 ≤ c.exponent := by
  generalize grids_eq : ((List.range 17).map fun j : Nat =>
    neighbours (k * d) d (point - (j + 1))).flatten = grids
  have finer : grids.Pairwise fun c c' => c'.exponent ≤ c.exponent := by
    rw [← grids_eq, List.pairwise_flatten, List.forall_mem_map, List.pairwise_map]
    constructor
    · intro j _
      refine List.pairwise_of_forall_mem_list fun c mem c' mem' => ?_
      rw [exponent_of_mem_neighbours mem, exponent_of_mem_neighbours mem']
    · refine List.pairwise_lt_range.imp fun {j j'} lt c mem c' mem' => ?_
      rw [exponent_of_mem_neighbours mem, exponent_of_mem_neighbours mem']
      omega
  have units : (⟨k, 0⟩ : Decimal) ∈ grids := by
    rw [← grids_eq, List.mem_flatten]
    refine ⟨_, List.mem_map.mpr ⟨(point - 1).toNat, by simp; omega, rfl⟩, ?_⟩
    rw [show point - ((point - 1).toNat + 1) = 0 by omega]
    exact mem_neighbours_zero hd
  obtain ⟨c, found⟩ := Option.isSome_iff_exists.mp
    (List.find?_isSome.mpr ⟨_, units, accepted⟩)
  refine ⟨c, found, List.find?_some found, ?_⟩
  obtain ⟨_, before, behind, rfl, refused⟩ := List.find?_eq_some_iff_append.mp found
  rcases List.mem_append.mp units with early | late
  · have other := refused _ early
    rw [accepted] at other
    cases other
  · have finer := (List.pairwise_append.mp finer).2.1
    rcases List.mem_cons.mp late with rfl | late
    · exact le_rfl
    · exact List.rel_of_pairwise_cons finer late

/-! ## Reading back -/

/-- A decimal without digits behind the point that reads as a small integer is the integer. -/
theorem equals_of_toBinary (whole : 0 ≤ c.exponent) (small : k < 2 ^ 53)
    {canonical : Canonical m e} (value : (k : ℚ) = m * 2 ^ e)
    (read : c.toBinary false = .finite false m e canonical) : c.Equals k := by
  refine ⟨whole, ?_⟩
  have exponent : c.exponent = 0 + (c.exponent.toNat : Int) := by omega
  rw [toBinary, exponent, ← ofDecimal_mul_pow] at read
  generalize c.coefficient * 10 ^ c.exponent.toNat = n at read ⊢
  obtain ⟨-, -, exact⟩ := ofDecimal_integer false n
  rcases Nat.lt_or_ge n (2 ^ 53) with below | above
  · have held := exact below
    rw [read] at held
    have same : ((n : Int) : ℚ) = k := by
      rw [value, ← one_mul ((m : ℚ) * 2 ^ e)]
      exact held.value.symm
    exact_mod_cast same
  · rw [ofDecimal_zero_exponent] at read
    split at read
    · cases read
    · have large := le_value_of_ofFraction above read
      rw [← value] at large
      exact absurd small (not_lt.mpr (by exact_mod_cast large))

/-- The shortest decimal of an integer has no digits behind the point. -/
theorem shortest_equals (hm : m ≠ 0) (canonical : Canonical m e) (small : k < 2 ^ 53)
    (value : (k : ℚ) = m * 2 ^ e) : (shortest m e).Equals k := by
  have hk : 0 < k := by
    have pos : (0 : ℚ) < k := by
      rw [value]
      exact mul_pos (by exact_mod_cast Nat.pos_of_ne_zero hm) (two_zpow_pos e)
    exact_mod_cast pos
  unfold shortest
  cases units : Binary.inUnits m 1 (-e) with
  | mk n d =>
    have hd : 0 < d := by
      have := Binary.inUnits_snd_pos (n := m) (e := -e) one_pos
      rwa [units] at this
    have multiple : n = k * d := by
      have scaled := Binary.inUnits_value (n := m) (d := 1) (e := -e)
      rw [units, Nat.cast_one, mul_one, zpow_neg] at scaled
      have : (n : ℚ) = k * d := by
        rw [value, ← mul_right_comm, ← scaled, mul_assoc, inv_mul_cancel₀ (two_zpow_pos e).ne',
          mul_one]
      exact_mod_cast this
    subst multiple
    obtain ⟨least, greatest⟩ := pointOf_bounds hd hk (small.trans (by norm_num))
    have accepted : (⟨k, 0⟩ : Decimal).toBinary false = Binary.ofScaled false m e := by
      have short := length_toDigits_le (by decide) (small.trans (by norm_num : 2 ^ 53 < 10 ^ 16))
      have short : ¬330 ≤ (Nat.toDigits 10 k).length := by omega
      rw [toBinary, ofDecimal_zero_exponent, if_neg short, ofScaled_canonical false hm canonical,
        ofFraction_exact false one_pos hm canonical (by rw [value, Nat.cast_one, mul_one])]
    obtain ⟨c, found, read, whole⟩ := exists_find?_grids least greatest hd
      (p := fun c => decide (c.toBinary false = Binary.ofScaled false m e))
      (decide_eq_true accepted)
    dsimp only
    rw [found]
    have read : c.toBinary false = .finite false m e canonical := by
      rw [of_decide_eq_true read, ofScaled_canonical false hm canonical]
    exact (equals_of_toBinary whole small value read).trimZeros

end Decimal

namespace NumberFormat

open PageComponent.Binary Decimal

variable {c : Decimal} {k : Nat} {x : Binary} {i : Int}

theorem toDigits_mul_pow {n : Nat} (hn : 0 < n) (e : Nat) :
    Nat.toDigits 10 (n * 10 ^ e) = Nat.toDigits 10 n ++ List.replicate e '0' := by
  induction e with
  | zero => simp
  | succ e ih =>
    have pos : 0 < n * 10 ^ e := Nat.mul_pos hn (Nat.pow_pos (by decide))
    have step := @Nat.toDigits_append_toDigits 10 (n * 10 ^ e) 0 (by decide) pos (by decide)
    rw [ih, Nat.add_zero, Nat.toDigits_zero, List.append_assoc] at step
    rw [Nat.pow_succ', Nat.mul_left_comm, ← step, List.replicate_succ']

theorem layout_plain (h : c.Equals k) (hk : 0 < k) (small : k < 10 ^ 16) :
    plain.layout c = Nat.toDigits 10 k := by
  obtain ⟨whole, value⟩ := h
  have filled : 0 < c.coefficient := by
    by_contra zero
    rw [Nat.eq_zero_of_not_pos zero, Nat.zero_mul] at value
    omega
  have digits := toDigits_mul_pow filled c.exponent.toNat
  rw [value] at digits
  have length : (Nat.toDigits 10 k).length = c.digits.length + c.exponent.toNat := by
    rw [digits, List.length_append, List.length_replicate, Decimal.digits]
  have short := length_toDigits_le (by decide) small
  have point : c.point = c.digits.length + c.exponent := rfl
  have within : plain.leastPoint ≤ c.point ∧ c.point ≤ plain.greatestPoint := by
    simp only [plain]
    omega
  have zeros : (c.point - c.digits.length).toNat = c.exponent.toNat := by omega
  rw [layout, if_pos within, positional, if_pos (by omega), zeros, digits, Decimal.digits]
  simp [plain]

/-- A number that holds a small integer is written as the integer. -/
theorem write_plain (h : x.Holds i) (small : Binary.Small i) : plain.write x = toString i := by
  cases x with
  | nan => cases h.finite
  | infinite => cases h.finite
  | finite s m e canonical =>
    obtain ⟨magnitude, sign⟩ :=
      of_sign_mul (mul_nonneg (Nat.cast_nonneg m) (two_zpow_pos e).le) h.value
    rcases Nat.eq_zero_or_pos m with rfl | hm
    · obtain rfl : i = 0 := by
        rw [Nat.cast_zero, zero_mul] at magnitude
        have : i.natAbs = 0 := by exact_mod_cast magnitude.symm
        exact Int.natAbs_eq_zero.mp this
      cases s <;> rfl
    · have hi : 0 < i.natAbs := by
        have : (0 : ℚ) < i.natAbs := by
          rw [← magnitude]
          exact mul_pos (by exact_mod_cast hm) (two_zpow_pos e)
        exact_mod_cast this
      have shown := layout_plain (shortest_equals hm.ne' canonical small magnitude.symm) hi
        (lt_trans small (by norm_num))
      rw [Int.toString_eq_repr, Int.repr_eq_if, write, if_neg hm.ne', shown]
      refine String.toList_inj.mp ?_
      cases s with
      | false =>
        have nonneg : (i.natAbs : Int) = i := sign
        have digits : i.toNat = i.natAbs := by omega
        rw [if_pos (by omega), digits, Nat.toList_repr]
        exact String.toList_ofList
      | true =>
        have negative : -(i.natAbs : Int) = i := sign
        have digits : (-i).toNat = i.natAbs := by omega
        rw [if_neg (by omega), digits, String.toList_append, Nat.toList_repr]
        exact String.toList_ofList

end NumberFormat

end PageComponent
