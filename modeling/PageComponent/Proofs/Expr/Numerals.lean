import PageComponent.Number.Format
import PageComponent.Proofs.Expr.Scanning
import PageComponent.Proofs.Number.Decimals

/-!
# Written numbers are numerals

A finite number that is not negative, written without an exponent, is a numeral that denotes it.
-/

namespace PageComponent.Grammar

/-- The characters are a numeral of the literal. -/
def Denotes (cs : List Char) (value : Literal) : Prop :=
  Numeral cs ∧ numeral cs = value

theorem denotes_natural (n : Nat) : Denotes (Nat.toDigits 10 n) (.int n) := by
  have digits : ∀ c ∈ Nat.toDigits 10 n, c.isDigit :=
    fun c => Nat.isDigit_of_mem_toDigits (by decide) (by decide)
  refine ⟨.whole Nat.toDigits_ne_nil digits, ?_⟩
  rw [numeral_whole digits, Nat.ofDigitChars_toDigits (by decide) (by decide)]

theorem isDigit_of_mem_zeros {k : Nat} {c : Char} (h : c ∈ List.replicate k '0') : c.isDigit := by
  rw [List.eq_of_mem_replicate h]
  rfl

section Positional

variable (d : Decimal)

theorem isDigit_of_mem_digits {c : Char} (h : c ∈ d.digits) : c.isDigit :=
  Nat.isDigit_of_mem_toDigits (by decide) (by decide) h

theorem ofDigitChars_digits : Nat.ofDigitChars 10 d.digits 0 = d.coefficient :=
  Nat.ofDigitChars_toDigits (by decide) (by decide)

/-- All digits stand before the point. -/
theorem denotes_padded {k : Nat} (hk : d.exponent = k) :
    Denotes (d.digits ++ List.replicate k '0' ++ ".0".toList) (.float (d.toBinary false)) := by
  have digits : ∀ c ∈ d.digits ++ List.replicate k '0', c.isDigit :=
    List.forall_mem_append.mpr
      ⟨fun c => isDigit_of_mem_digits d, fun c => isDigit_of_mem_zeros⟩
  have hzeros : d.digits ++ List.replicate k '0' ++ ['0']
      = d.digits ++ List.replicate (k + 1) '0' := by
    rw [List.append_assoc, List.replicate_succ']
  refine ⟨.pointed digits (List.cons_ne_nil '0' []) (List.forall_mem_singleton.mpr rfl), ?_⟩
  rw [show ".0".toList = '.' :: ['0'] from rfl, numeral_pointed digits, hzeros,
    Nat.ofDigitChars_append, ofDigitChars_digits, Nat.ofDigitChars_replicate_zero, Nat.mul_comm,
    Binary.ofDecimal_mul_pow, Decimal.toBinary, hk]
  congr 2
  simp

/-- The point stands among the digits. -/
theorem denotes_split {k : Nat} (hk : k < d.digits.length) (he : d.exponent = k - d.digits.length) :
    Denotes (d.digits.take k ++ '.' :: d.digits.drop k) (.float (d.toBinary false)) := by
  have digits : ∀ c ∈ d.digits.take k, c.isDigit :=
    fun c hc => isDigit_of_mem_digits d (List.mem_of_mem_take hc)
  have digits' : ∀ c ∈ d.digits.drop k, c.isDigit :=
    fun c hc => isDigit_of_mem_digits d (List.mem_of_mem_drop hc)
  refine ⟨.pointed digits (by simpa using hk) digits', ?_⟩
  rw [numeral_pointed digits, List.take_append_drop, ofDigitChars_digits, Decimal.toBinary, he,
    List.length_drop]
  congr 2
  omega

/-- All digits stand behind the point. -/
theorem denotes_fraction {k : Nat} (he : d.exponent = -(k + d.digits.length : Nat)) :
    Denotes ('0' :: '.' :: List.replicate k '0' ++ d.digits) (.float (d.toBinary false)) := by
  have digits : ∀ c ∈ ['0'], c.isDigit := List.forall_mem_singleton.mpr rfl
  have digits' : ∀ c ∈ List.replicate k '0' ++ d.digits, c.isDigit :=
    List.forall_mem_append.mpr
      ⟨fun c => isDigit_of_mem_zeros, fun c => isDigit_of_mem_digits d⟩
  have hne : List.replicate k '0' ++ d.digits ≠ [] :=
    List.append_ne_nil_of_right_ne_nil _ Nat.toDigits_ne_nil
  have hzeros : ['0'] ++ (List.replicate k '0' ++ d.digits)
      = List.replicate (k + 1) '0' ++ d.digits := rfl
  refine ⟨.pointed digits hne digits', ?_⟩
  have hnum := @numeral_pointed ['0'] (List.replicate k '0' ++ d.digits) digits
  rw [hzeros, Nat.ofDigitChars_append, Nat.ofDigitChars_replicate_zero, Nat.mul_zero,
    ofDigitChars_digits, List.length_append, List.length_replicate, ← he] at hnum
  exact hnum

theorem denotes_positional :
    Denotes (NumberFormat.precise.positional d.digits d.point) (.float (d.toBinary false)) := by
  have hpoint : d.point = d.digits.length + d.exponent := rfl
  unfold NumberFormat.positional
  simp only
  split
  next h => exact denotes_padded d (by omega)
  split
  next h h' => exact denotes_split d (by omega) (by omega)
  next h h' => exact denotes_fraction d (by omega)

end Positional

theorem denotes_zero : Denotes "0.0".toList (.float (.zero false)) := by
  have digits : ∀ c ∈ ['0'], c.isDigit := List.forall_mem_singleton.mpr rfl
  exact ⟨.pointed digits (List.cons_ne_nil '0' []) digits, numeral_pointed digits⟩

theorem denotes_write {x : Binary} (finite : x.isFinite) (positive : x.isNegative = false)
    (noExponent : 'e' ∉ (NumberFormat.precise.write x).toList) :
    Denotes (NumberFormat.precise.write x).toList (.float x) := by
  cases x with
  | nan => cases finite
  | infinite s => cases finite
  | finite s m e h =>
    obtain rfl : s = false := positive
    by_cases hm : m = 0
    · subst hm
      obtain rfl : e = -1074 := h.2.2.2.resolve_left (by decide)
      exact denotes_zero
    · simp only [NumberFormat.write, hm, if_false, Bool.false_eq_true, String.toList_ofList]
        at noExponent ⊢
      unfold NumberFormat.layout at noExponent ⊢
      split at noExponent
      next hpoint =>
        rw [if_pos hpoint, ← Decimal.shortest_toBinary hm h]
        exact denotes_positional _
      next => exact absurd (by simp [NumberFormat.scientific]) noExponent

end PageComponent.Grammar
