import Mathlib.Tactic.NormNum
import PageComponent.Number.Format
import PageComponent.Proofs.Number.Decimals
import PageComponent.Proofs.Number.Numerals

/-!
# Layouts of digits

A number is written with the digits of its shortest decimal, which neither start nor end with a
zero. What a text denotes determines such digits and the place of their point, so every notation
of a number lays out the same digits.
-/

namespace PageComponent

namespace Text

variable {digit : Char → Nat → Prop} {cs ds ds' fs text : List Char} {n n' : Int} {c c' : Nat}
  {e e' : Int} {q q' : ℚ}

/-! ## Significant digits -/

structure Significant (ds : List Char) : Prop where
  filled : ds ≠ []
  digits : ∀ d ∈ ds, d.isDigit = true
  head : ds.head? ≠ some '0'
  last : ds.getLast? ≠ some '0'

/-- The number `0.d₁d₂…` times ten to the power `n`. -/
def placed (ds : List Char) (n : Int) : ℚ :=
  Nat.ofDigitChars 10 ds 0 * 10 ^ (n - ds.length)

theorem ofDigitChars_snoc (ds : List Char) (d : Char) :
    Nat.ofDigitChars 10 (ds ++ [d]) 0 = 10 * Nat.ofDigitChars 10 ds 0 + (d.toNat - '0'.toNat) := by
  rw [Nat.ofDigitChars_append, Nat.ofDigitChars_cons, Nat.ofDigitChars_nil]

/-- Digits that end with no zero spell no multiple of ten. -/
theorem mod_ten_of_last (filled : ds ≠ []) (digits : ∀ d ∈ ds, d.isDigit = true)
    (last : ds.getLast? ≠ some '0') : Nat.ofDigitChars 10 ds 0 % 10 ≠ 0 := by
  obtain ⟨front, d, rfl⟩ := (List.eq_nil_or_concat' ds).resolve_left filled
  have range := ascii_isDigit_iff.mp (digits d (by simp))
  have zero : '0'.toNat = 48 := rfl
  have nonzero : d.toNat ≠ 48 := by
    intro same
    obtain rfl : d = '0' := Char.toNat_inj.mp same
    exact last List.getLast?_concat
  rw [ofDigitChars_snoc]
  omega

theorem Significant.mod_ten (h : Significant ds) : Nat.ofDigitChars 10 ds 0 % 10 ≠ 0 :=
  mod_ten_of_last h.filled h.digits h.last

/-- A number that is no multiple of ten stands at the greatest power of ten. -/
theorem exponent_le (indivisible : c % 10 ≠ 0) (same : (c : ℚ) * 10 ^ e = c' * 10 ^ e') :
    e' ≤ e := by
  -- otherwise the powers of ten between the exponents divide the first number
  by_contra above
  obtain ⟨k, rfl⟩ : ∃ k : Nat, e' = e + (k + 1 : Nat) := ⟨(e' - e - 1).toNat, by omega⟩
  have ten : (10 : ℚ) ≠ 0 := by norm_num
  have multiple : (c : ℚ) = (c' * 10 ^ (k + 1) : Nat) := by
    apply mul_right_cancel₀ (zpow_ne_zero e ten)
    rw [same, zpow_add₀ ten, zpow_natCast, Nat.cast_mul, Nat.cast_pow]
    push_cast
    ring
  have multiple : c = c' * 10 ^ (k + 1) := by exact_mod_cast multiple
  rw [Nat.pow_succ, ← Nat.mul_assoc] at multiple
  omega

/-- Numbers that are no multiples of ten stand at different powers of ten, unless they are one. -/
theorem eq_of_mod_ten (indivisible : c % 10 ≠ 0) (indivisible' : c' % 10 ≠ 0)
    (same : (c : ℚ) * 10 ^ e = c' * 10 ^ e') : c = c' ∧ e = e' := by
  obtain rfl : e = e' := by
    apply le_antisymm
    · exact exponent_le indivisible' same.symm
    · exact exponent_le indivisible same
  have ten : (10 : ℚ) ^ e ≠ 0 := zpow_ne_zero e (by norm_num)
  exact ⟨by exact_mod_cast mul_right_cancel₀ ten same, rfl⟩

/-- What a number is determines its significant digits and the place of its point. -/
theorem Significant.unique (h : Significant ds) (h' : Significant ds')
    (same : placed ds n = placed ds' n') : ds = ds' ∧ n = n' := by
  obtain ⟨spelled, exponents⟩ := eq_of_mod_ten h.mod_ten h'.mod_ten same
  have digits : ds = ds' := by
    rw [← toDigits_ofDigitChars h.filled h.digits (.inr h.head), spelled,
      toDigits_ofDigitChars h'.filled h'.digits (.inr h'.head)]
  subst digits
  exact ⟨rfl, by omega⟩

theorem getLast?_toDigits (n : Nat) : (Nat.toDigits 10 n).getLast? = some (n % 10).digitChar := by
  rcases Nat.lt_or_ge n 10 with small | large
  · rw [Nat.toDigits_of_lt_base small, Nat.mod_eq_of_lt small]
    rfl
  · rw [Nat.toDigits_of_base_le (by decide) large, List.getLast?_concat]

theorem significant_toDigits (indivisible : c % 10 ≠ 0) : Significant (Nat.toDigits 10 c) where
  filled := Nat.toDigits_ne_nil
  digits := fun _ => Nat.isDigit_of_mem_toDigits (by decide) (by decide)
  head := head?_toDigits (by omega)
  last := by
    rw [getLast?_toDigits, ne_eq, Option.some.injEq, Nat.digitChar_eq_zero]
    exact indivisible

/-! ## Signed decimals -/

/-- A decimal with a sign or none, in digits of ASCII, and the number that it denotes. -/
inductive Denotes : List Char → ℚ → Prop where
  | mk {sign cs : List Char} {negative : Bool} {q : ℚ} (signed : IsSign sign negative)
      (decimal : IsDecimal (IsDigitOf 10) cs q) :
      Denotes (sign ++ cs) ((if negative then -1 else 1) * q)

theorem IsDecimal.isScriptDigit (h : IsDecimal (IsDigitOf 10) cs q) :
    IsDecimal IsScriptDigit cs q :=
  h.mono fun _ _ _ => IsDigitOf.isScriptDigit

theorem Denotes.unique (h : Denotes text q) (h' : Denotes text q') : q = q' := by
  cases h with
  | @mk sign cs negative q signed decimal =>
    generalize eq : sign ++ cs = text at h'
    cases h' with
    | @mk sign' cs' negative' q' signed' decimal' =>
      have taken := takeSign_numeral signed decimal.isScriptDigit
      rw [eq, takeSign_numeral signed' decimal'.isScriptDigit] at taken
      obtain ⟨rfl, rfl⟩ := Prod.mk.inj taken
      rw [decimal.unique decimal' fun _ _ => IsDigitOf.isScriptDigit]

theorem IsDecimal.natural (filled : ds ≠ []) (spelled : Spells digit 10 ds c) :
    IsDecimal digit ds c := by
  have decimal := IsDecimal.whole filled spelled .none
  rwa [List.append_nil, zpow_zero, mul_one] at decimal

theorem IsDecimal.fraction (filled : ds ++ fs ≠ []) (spelled : Spells digit 10 (ds ++ fs) c) :
    IsDecimal digit (ds ++ '.' :: fs) (c * 10 ^ (-fs.length : Int)) := by
  have decimal := IsDecimal.pointed filled spelled .none
  rwa [List.append_nil, Int.zero_sub] at decimal

/-- A zero behind the point changes nothing. -/
theorem IsDecimal.integral (filled : ds ≠ []) (spelled : Spells (IsDigitOf 10) 10 ds c) :
    IsDecimal (IsDigitOf 10) (ds ++ ".0".toList) c := by
  have filled : ds ++ ['0'] ≠ [] := List.append_ne_nil_of_left_ne_nil filled _
  have decimal := IsDecimal.fraction filled (spelled.append (spells_zeros 1))
  have value : ((c * 10 ^ 1 + 0 : Nat) : ℚ) * 10 ^ (-1 : Int) = c := by
    push_cast
    ring
  exact value ▸ decimal

end Text

namespace NumberFormat

open PageComponent.Text

variable {f : NumberFormat} {ds : List Char} {n : Int} {c : Nat}

/-! ## Denotations -/

/-- Digits with their point at `n`: behind zeros that follow them, inside them, or in front of zeros
that lead to them. An integer has an ending of its own. -/
inductive Pointed (ending : List Char) : List Char → Int → List Char → Prop where
  | padded {ds : List Char} {k : Nat} :
      Pointed ending ds (ds.length + k) (ds ++ List.replicate k '0' ++ ending)
  | inside {ds fs : List Char} (filled : ds ≠ []) (filled' : fs ≠ []) :
      Pointed ending (ds ++ fs) ds.length (ds ++ '.' :: fs)
  | behind {ds : List Char} {k : Nat} :
      Pointed ending ds (-k) ('0' :: '.' :: List.replicate k '0' ++ ds)

theorem pointed_positional (f : NumberFormat) (ds : List Char) (n : Int) :
    Pointed f.integerEnd.toList ds n (f.positional ds n) := by
  unfold positional
  dsimp only
  split
  next long =>
    obtain ⟨k, rfl⟩ : ∃ k : Nat, n = ds.length + k := ⟨(n - ds.length).toNat, by omega⟩
    rw [add_sub_cancel_left, Int.toNat_natCast]
    exact .padded
  next short =>
    split
    next pos =>
      obtain ⟨k, rfl⟩ : ∃ k : Nat, n = k := ⟨n.toNat, by omega⟩
      rw [Int.toNat_natCast]
      have length : (ds.take k).length = k := List.length_take_of_le (by omega)
      have front : ds.take k ≠ [] := List.ne_nil_of_length_pos (by omega)
      have back : ds.drop k ≠ [] := by
        rw [ne_eq, List.drop_eq_nil_iff]
        omega
      have inside := @Pointed.inside f.integerEnd.toList _ _ front back
      rwa [List.take_append_drop, length] at inside
    next nonpos =>
      obtain ⟨k, rfl⟩ : ∃ k : Nat, n = -k := ⟨(-n).toNat, by omega⟩
      rw [neg_neg, Int.toNat_natCast]
      exact .behind

theorem Pointed.isDecimal {ending text : List Char} (h : Pointed ending ds n text)
    (ends : ending ∈ [[], ".0".toList]) (filled : ds ≠ [])
    (spelled : Spells (IsDigitOf 10) 10 ds c) :
    IsDecimal (IsDigitOf 10) text (c * 10 ^ (n - ds.length)) := by
  cases h with
  | @padded _ k =>
    have filled : ds ++ List.replicate k '0' ≠ [] := List.append_ne_nil_of_left_ne_nil filled _
    have spelled := spelled.append (spells_zeros k)
    rw [List.length_replicate, Nat.add_zero] at spelled
    have value : (c : ℚ) * 10 ^ ((ds.length + k : Int) - ds.length) = (c * 10 ^ k : Nat) := by
      rw [add_sub_cancel_left, zpow_natCast]
      push_cast
      rfl
    rw [value]
    rcases List.mem_pair.mp ends with rfl | rfl
    · rw [List.append_nil]
      exact .natural filled spelled
    · exact .integral filled spelled
  | @inside ds fs front back =>
    have length : (ds.length : Int) - (ds ++ fs).length = -fs.length := by
      rw [List.length_append]
      omega
    rw [length]
    exact .fraction filled spelled
  | @behind _ k =>
    have spelled := (spells_zeros (1 + k)).append spelled
    rw [Nat.zero_mul, Nat.zero_add, List.replicate_add, List.append_assoc] at spelled
    have length : (-k : Int) - ds.length = -(List.replicate k '0' ++ ds).length := by
      rw [List.length_append, List.length_replicate]
      omega
    rw [length]
    exact .fraction (List.cons_ne_nil '0' _) spelled

theorem isExponent_scientific (width : Nat) (e : Int) : IsExponent (IsDigitOf 10)
    ('e' :: (if e < 0 then '-' else '+') :: paddedDigits 10 width e.natAbs) e := by
  have signed : IsSign [if e < 0 then '-' else '+'] (decide (e < 0)) := by
    split
    next negative =>
      rw [decide_eq_true negative]
      exact .minus
    next nonneg =>
      rw [decide_eq_false nonneg]
      exact .plus
  have spelled := (spells_zeros (width - (Nat.toDigits 10 e.natAbs).length)).append
    (spells_toDigits e.natAbs)
  rw [Nat.zero_mul, Nat.zero_add] at spelled
  have letter : 'e' ∈ ['e', 'E'] := by decide
  have raised := IsExponent.some letter signed
    (List.append_ne_nil_of_right_ne_nil _ Nat.toDigits_ne_nil) spelled
  rwa [Binary.signed_of_natAbs] at raised

theorem isDecimal_scientific (f : NumberFormat) (filled : ds ≠ [])
    (spelled : Spells (IsDigitOf 10) 10 ds c) :
    IsDecimal (IsDigitOf 10) (f.scientific ds n) (c * 10 ^ (n - ds.length)) := by
  have raised := isExponent_scientific f.exponentWidth (n - 1)
  unfold scientific
  match ds with
  | [] => exact absurd rfl filled
  | [d] => exact .whole filled spelled raised
  | d :: d' :: rest =>
    have decimal := @IsDecimal.pointed _ [d] (d' :: rest) _ _ _ filled spelled raised
    have length : n - 1 - (d' :: rest).length = n - (d :: d' :: rest).length := by
      simp only [List.length_cons]
      omega
    rw [length] at decimal
    exact decimal

theorem isDecimal_layout (ends : f.integerEnd.toList ∈ [[], ".0".toList]) (d : Decimal) :
    IsDecimal (IsDigitOf 10) (f.layout d) (placed d.digits d.point) := by
  have filled : d.digits ≠ [] := Nat.toDigits_ne_nil
  have spelled : Spells (IsDigitOf 10) 10 d.digits (Nat.ofDigitChars 10 d.digits 0) :=
    spells_ten_iff.mpr ⟨fun _ => Nat.isDigit_of_mem_toDigits (by decide) (by decide), rfl⟩
  unfold layout
  split
  · exact (pointed_positional f _ _).isDecimal ends filled spelled
  · exact isDecimal_scientific f filled spelled

end NumberFormat

namespace Decimal

open PageComponent.Text

variable {m : Nat} {e : Int} {d : Decimal}

/-! ## Shortest digits -/

theorem trimZeros_mod (d : Decimal) (nonzero : d.trimZeros.coefficient ≠ 0) :
    d.trimZeros.coefficient % 10 ≠ 0 := by
  fun_induction trimZeros d with
  | case1 d trim ih => exact ih nonzero
  | case2 d done => exact fun multiple => done ⟨nonzero, multiple⟩

theorem exists_shortest_eq (m : Nat) (e : Int) : ∃ d, shortest m e = trimZeros d := by
  unfold shortest
  dsimp only
  split
  · exact ⟨_, rfl⟩
  · exact ⟨_, rfl⟩

theorem coefficient_ne_zero {h : Canonical m e} (hm : m ≠ 0)
    (read : d.toBinary false = .finite false m e h) : d.coefficient ≠ 0 := by
  intro zero
  rw [toBinary, Binary.ofDecimal, zero] at read
  exact hm (Binary.finite.inj read).2.1.symm

theorem shortest_mod_ten (hm : m ≠ 0) (h : Canonical m e) :
    (shortest m e).coefficient % 10 ≠ 0 := by
  have nonzero := coefficient_ne_zero hm (shortest_toBinary hm h)
  obtain ⟨d, eq⟩ := exists_shortest_eq m e
  rw [eq] at nonzero ⊢
  exact trimZeros_mod d nonzero

/-- The decimal with the given digits and the given place of its point. -/
def ofDigits (ds : List Char) (n : Int) : Decimal :=
  ⟨Nat.ofDigitChars 10 ds 0, n - ds.length⟩

theorem ofDigits_digits (d : Decimal) : ofDigits d.digits d.point = d := by
  have coefficient : Nat.ofDigitChars 10 d.digits 0 = d.coefficient :=
    Nat.ofDigitChars_toDigits (by decide) (by decide)
  have exponent : d.point - d.digits.length = d.exponent := add_sub_cancel_left _ _
  rw [ofDigits, coefficient, exponent]

theorem placed_digits (d : Decimal) :
    placed d.digits d.point = d.coefficient * 10 ^ d.exponent := by
  have parts (ds : List Char) (n : Int) :
      placed ds n = (ofDigits ds n).coefficient * 10 ^ (ofDigits ds n).exponent := rfl
  rw [parts, ofDigits_digits]

end Decimal

namespace NumberFormat

open PageComponent.Text

variable {f : NumberFormat} {ds ds' text : List Char} {n n' : Int} {negative : Bool}

/-! ## Written numbers -/

/-- A text of a number with the significant digits `ds` and the point at `n`. -/
structure Shows (text : List Char) (negative : Bool) (ds : List Char) (n : Int) : Prop where
  significant : Significant ds
  denotes : Denotes text ((if negative then -1 else 1) * placed ds n)

def minus (negative : Bool) : List Char :=
  if negative then ['-'] else []

/-- The layouts of the digits of `0.d₁d₂…` times ten to the power `n` in a page. -/
inductive LaidOut : List Char → Int → List Char → Prop where
  | pointed {ds text : List Char} {n : Int} (least : -6 < n) (greatest : n ≤ 21)
      (pointed : Pointed [] ds n text) : LaidOut ds n text
  | single {d : Char} {n : Int} (outside : n ≤ -6 ∨ 21 < n) :
      LaidOut [d] n (d :: 'e' :: (if n - 1 < 0 then '-' else '+') ::
        Nat.toDigits 10 (n - 1).natAbs)
  | several {d : Char} {ds : List Char} {n : Int} (filled : ds ≠ []) (outside : n ≤ -6 ∨ 21 < n) :
      LaidOut (d :: ds) n (d :: '.' :: ds ++ 'e' :: (if n - 1 < 0 then '-' else '+') ::
        Nat.toDigits 10 (n - 1).natAbs)

theorem laidOut_scientific (filled : ds ≠ []) (outside : n ≤ -6 ∨ 21 < n) :
    LaidOut ds n (plain.scientific ds n) := by
  have unpadded (k : Nat) : paddedDigits 10 1 k = Nat.toDigits 10 k := by
    have pos : 0 < (Nat.toDigits 10 k).length := Nat.length_toDigits_pos
    rw [paddedDigits, Nat.sub_eq_zero_of_le pos]
    rfl
  have width : plain.exponentWidth = 1 := rfl
  unfold scientific
  dsimp only
  rw [width, unpadded]
  match ds with
  | [] => exact absurd rfl filled
  | [d] => exact .single outside
  | d :: d' :: rest => exact .several (List.cons_ne_nil d' rest) outside

theorem laidOut_layout (d : Decimal) : LaidOut d.digits d.point (plain.layout d) := by
  unfold layout
  split
  next within => exact .pointed within.1 within.2 (pointed_positional plain _ _)
  next outside =>
    refine laidOut_scientific Nat.toDigits_ne_nil ?_
    simp only [plain] at outside
    omega

theorem toList_write {s : Bool} {m : Nat} {e : Int} {h : Canonical m e} (hm : m ≠ 0) :
    (f.write (.finite s m e h)).toList = minus s ++ f.layout (.shortest m e) := by
  rw [write, if_neg hm, String.toList_ofList]
  cases s <;> rfl

theorem isSign_minus (negative : Bool) : IsSign (minus negative) negative := by
  cases negative with
  | false => exact .none
  | true => exact .minus

theorem shows_write {s : Bool} {m : Nat} {e : Int} {h : Canonical m e} (hm : m ≠ 0)
    (ends : f.integerEnd.toList ∈ [[], ".0".toList]) : Shows (f.write (.finite s m e h)).toList s
      (Decimal.shortest m e).digits (Decimal.shortest m e).point := by
  refine ⟨significant_toDigits (Decimal.shortest_mod_ten hm h), ?_⟩
  rw [toList_write hm]
  exact .mk (isSign_minus s) (isDecimal_layout ends _)

theorem Shows.unique (h : Shows text negative ds n) (h' : Shows text negative ds' n') :
    ds = ds' ∧ n = n' := by
  apply h.significant.unique h'.significant
  have sign : (if negative then (-1 : ℚ) else 1) ≠ 0 := by cases negative <;> decide
  exact mul_left_cancel₀ sign (h.denotes.unique h'.denotes)

end NumberFormat

end PageComponent
