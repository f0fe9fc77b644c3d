import Mathlib.Data.List.DropRight
import PageComponent.Proofs.Number.Layout

/-!
# Digits of a written number

The shortest decimal of a number is recovered from a text of it: the digits around the point are
joined, and the zeros in front of them and behind them only move the point. So a page may lay out
the digits that another notation shows.
-/

namespace PageComponent

namespace Decimal

open PageComponent.Text

variable {cs ds fs exponent text : List Char} {n : Nat} {e : Int} {q : ℚ}

/-- The digits of a whole part and of a fraction, without the zeros around them. -/
def ofParts (whole fraction : List Char) (e : Int) : Decimal :=
  let combined := whole ++ fraction
  let behind := combined.dropWhile (· = '0')
  let digits := behind.rdropWhile (· = '0')
  ofDigits digits (whole.length + e - (combined.length - behind.length))

/-- The decimal of a text without sign. -/
def recover (text : List Char) : Decimal :=
  let mantissa := text.takeWhile (· ∉ ['e', 'E'])
  let (negative, exponent) := takeSign ((text.dropWhile (· ∉ ['e', 'E'])).drop 1)
  ofParts (mantissa.takeWhile (· ≠ '.')) ((mantissa.dropWhile (· ≠ '.')).drop 1)
    (Binary.signed negative (Nat.ofDigitChars 10 exponent 0))

/-! ## Zeros around digits -/

theorem ofDigitChars_dropWhile (ds : List Char) :
    Nat.ofDigitChars 10 (ds.dropWhile (· = '0')) 0 = Nat.ofDigitChars 10 ds 0 := by
  induction ds with
  | nil => rfl
  | cons d ds ih =>
    by_cases zero : d = '0'
    · subst zero
      rw [List.dropWhile_cons_of_pos (p := (· = '0')) rfl, ih, Nat.ofDigitChars_cons]
      rfl
    · rw [List.dropWhile_cons_of_neg (by simpa using zero)]

theorem ofDigitChars_rdropWhile (ds : List Char) : Nat.ofDigitChars 10 ds 0 =
    Nat.ofDigitChars 10 (ds.rdropWhile (· = '0')) 0 *
      10 ^ (ds.length - (ds.rdropWhile (· = '0')).length) := by
  induction ds using List.reverseRecOn with
  | nil => rfl
  | append_singleton ds d ih =>
    by_cases zero : d = '0'
    · subst zero
      have shorter := (List.rdropWhile_prefix (· = '0') ds).length_le
      rw [List.rdropWhile_concat_pos (· = '0') ds '0' rfl, ofDigitChars_snoc, ih,
        List.length_append, List.length_singleton, Nat.sub_add_comm shorter, Nat.pow_succ,
        Nat.sub_self, Nat.add_zero, Nat.mul_comm 10, Nat.mul_assoc]
    · rw [List.rdropWhile_concat_neg _ _ _ (by simpa using zero), Nat.sub_self, Nat.pow_zero,
        Nat.mul_one]

/-- Dropping zeros around digits keeps the number. -/
theorem ofParts_value (whole fraction : List Char) (e : Int) :
    ((ofParts whole fraction e).coefficient : ℚ) * 10 ^ (ofParts whole fraction e).exponent =
      Nat.ofDigitChars 10 (whole ++ fraction) 0 * 10 ^ (e - fraction.length) := by
  unfold ofParts ofDigits
  dsimp only
  rw [← ofDigitChars_dropWhile (whole ++ fraction)]
  generalize (whole ++ fraction).dropWhile (· = '0') = behind
  have shorter := (List.rdropWhile_prefix (· = '0') behind).length_le
  rw [ofDigitChars_rdropWhile behind]
  generalize behind.rdropWhile (· = '0') = digits at shorter ⊢
  obtain ⟨k, length⟩ : ∃ k, behind.length = digits.length + k := Nat.exists_eq_add_of_le shorter
  have exponent : (whole.length : Int) + e - ((whole ++ fraction).length - behind.length) -
      digits.length = k + (e - fraction.length) := by
    rw [length, List.length_append]
    omega
  rw [exponent, length, Nat.add_sub_cancel_left, zpow_add₀ (by norm_num), zpow_natCast,
    Nat.cast_mul, Nat.cast_pow, mul_assoc]
  rfl

theorem ofParts_mod_ten (digits : ∀ d ∈ ds ++ fs, d.isDigit = true)
    (nonzero : Nat.ofDigitChars 10 (ds ++ fs) 0 ≠ 0) : (ofParts ds fs e).coefficient % 10 ≠ 0 := by
  unfold ofParts ofDigits
  dsimp only
  rw [← ofDigitChars_dropWhile, ofDigitChars_rdropWhile] at nonzero
  have inside := (List.rdropWhile_prefix (· = '0') ((ds ++ fs).dropWhile (· = '0'))).subset
  have last := List.rdropWhile_last_not (· = '0') ((ds ++ fs).dropWhile (· = '0'))
  generalize List.rdropWhile (· = '0') _ = kept at *
  -- digits are left, for zeros alone would spell zero
  have filled : kept ≠ [] := by
    rintro rfl
    exact nonzero (Nat.zero_mul _)
  refine mod_ten_of_last filled (fun d mem => digits d ?_) ?_
  · exact (List.dropWhile_suffix _).subset (inside mem)
  · rw [List.getLast?_eq_getLast_of_ne_nil filled]
    simpa using last filled

theorem ofParts_spec (spelled : Spells (IsDigitOf 10) 10 (ds ++ fs) n) :
    ((ofParts ds fs e).coefficient : ℚ) * 10 ^ (ofParts ds fs e).exponent =
        n * 10 ^ (e - fs.length) ∧
      ((n : ℚ) * 10 ^ (e - fs.length) ≠ 0 → (ofParts ds fs e).coefficient % 10 ≠ 0) := by
  obtain ⟨digits, rfl⟩ := spells_ten_iff.mp spelled
  refine ⟨ofParts_value ds fs e, fun nonzero => ofParts_mod_ten digits ?_⟩
  intro zero
  rw [zero, Nat.cast_zero, zero_mul] at nonzero
  exact nonzero rfl

/-! ## Texts -/

theorem recover_append (mantissa : ∀ c ∈ cs, c ∉ ['e', 'E'])
    (raised : IsExponent (IsDigitOf 10) exponent e) : recover (cs ++ exponent) =
      ofParts (cs.takeWhile (· ≠ '.')) ((cs.dropWhile (· ≠ '.')).drop 1) e := by
  have mantissa : ∀ c ∈ cs, decide (c ∉ ['e', 'E']) = true :=
    fun c mem => decide_eq_true (mantissa c mem)
  -- the mantissa ends at the letter of the exponent, or with the text
  have stop : ∀ c ∈ exponent.head?, decide (c ∉ ['e', 'E']) = false := by
    cases raised with
    | none => exact nofun
    | some mem =>
      rintro c ⟨⟩
      exact decide_eq_false (not_not_intro mem)
  unfold recover
  rw [takeWhile_append_of_head mantissa stop, dropWhile_append_of_head mantissa stop]
  cases raised with
  | none => rfl
  | @some letter sign ds negative n mem signed filled spelled =>
    have unsigned := unsigned_of_isScriptDigit (spelled.mono fun _ _ _ => IsDigitOf.isScriptDigit)
    rw [List.drop_one, List.tail_cons, takeSign_append signed unsigned]
    dsimp only
    rw [(spells_ten_iff.mp spelled).2]

theorem plain_of_isDigit {c : Char} (digit : c.isDigit = true) :
    c ∉ ['e', 'E'] ∧ decide (c ≠ '.') = true := by
  have marks : ∀ c ∈ ['e', 'E', '.'], c.isDigit = false := List.all_iff_forall_prop.mp (by decide)
  have other : c ∉ ['e', 'E', '.'] := fun mem => by
    rw [marks c mem] at digit
    cases digit
  simp only [List.mem_cons, List.not_mem_nil, or_false, not_or] at other ⊢
  exact ⟨⟨other.1, other.2.1⟩, decide_eq_true other.2.2⟩

/-- What is recovered from a decimal is the number that it denotes, with no zeros at the end. -/
theorem recover_spec (h : IsDecimal (IsDigitOf 10) text q) :
    ((recover text).coefficient : ℚ) * 10 ^ (recover text).exponent = q ∧
      (q ≠ 0 → (recover text).coefficient % 10 ≠ 0) := by
  cases h with
  | @whole ds exponent n e filled spelled raised =>
    have digits := (spells_ten_iff.mp spelled).1
    have all : ∀ d ∈ ds, decide (d ≠ '.') = true := fun d mem => (plain_of_isDigit (digits d mem)).2
    have parts : recover (ds ++ exponent) = ofParts ds [] e := by
      rw [recover_append (fun d mem => (plain_of_isDigit (digits d mem)).1) raised,
        List.takeWhile_eq_self_iff.mpr all, List.dropWhile_eq_nil_iff.mpr all, List.drop_nil]
    rw [← List.append_nil ds] at spelled
    have spec := @ofParts_spec ds [] n e spelled
    rw [List.length_nil, Nat.cast_zero, Int.sub_zero] at spec
    rw [parts]
    exact spec
  | @pointed ds fs exponent n e filled spelled raised =>
    obtain ⟨front, back⟩ := List.forall_mem_append.mp (spells_ten_iff.mp spelled).1
    have all : ∀ d ∈ ds, decide (d ≠ '.') = true := fun d mem => (plain_of_isDigit (front d mem)).2
    have stop : ∀ c ∈ ('.' :: fs).head?, decide (c ≠ '.') = false := by
      rintro c ⟨⟩
      rfl
    have mantissa : ∀ c ∈ ds ++ '.' :: fs, c ∉ ['e', 'E'] :=
      List.forall_mem_append.mpr ⟨fun d mem => (plain_of_isDigit (front d mem)).1,
        List.forall_mem_cons.mpr ⟨by decide, fun d mem => (plain_of_isDigit (back d mem)).1⟩⟩
    have parts : recover (ds ++ '.' :: (fs ++ exponent)) = ofParts ds fs e := by
      rw [← List.cons_append, ← List.append_assoc, recover_append mantissa raised,
        takeWhile_append_of_head all stop, dropWhile_append_of_head all stop, List.drop_one,
        List.tail_cons]
    rw [parts]
    exact ofParts_spec spelled

theorem recover_layout {f : NumberFormat} (ends : f.integerEnd.toList ∈ [[], ".0".toList])
    {d : Decimal} (indivisible : d.coefficient % 10 ≠ 0) : recover (f.layout d) = d := by
  obtain ⟨value, trimmed⟩ := recover_spec (NumberFormat.isDecimal_layout ends d)
  rw [placed_digits] at value trimmed
  have filled : (d.coefficient : ℚ) ≠ 0 := by
    intro zero
    rw [Nat.cast_eq_zero.mp zero] at indivisible
    exact indivisible rfl
  have nonzero := mul_ne_zero filled (zpow_ne_zero d.exponent (by norm_num : (10 : ℚ) ≠ 0))
  obtain ⟨coefficients, exponents⟩ := eq_of_mod_ten (trimmed nonzero) indivisible value
  calc recover (f.layout d)
      = ⟨(recover (f.layout d)).coefficient, (recover (f.layout d)).exponent⟩ := rfl
    _ = d := by rw [coefficients, exponents]

end Decimal

namespace NumberFormat

variable {x : Binary}

/-- A page lays out the significant digits that the precise text of a number shows. They are those
that are recovered from the text, and read back as the number. -/
theorem write_laidOut (finite : x.isFinite = true) (nonzero : x.isZero = false) :
    (∃ ds n, Shows (precise.write x).toList x.isNegative ds n) ∧
      ∀ ds n, Shows (precise.write x).toList x.isNegative ds n →
        Decimal.recover (precise.write x.abs).toList = .ofDigits ds n ∧
        (Decimal.ofDigits ds n).toBinary false = x.abs ∧
        Shows (plain.write x).toList x.isNegative ds n ∧
        ∃ body, LaidOut ds n body ∧ (plain.write x).toList = minus x.isNegative ++ body := by
  cases x with
  | nan | infinite => cases finite
  | finite s m e h =>
    have hm : m ≠ 0 := by simpa [Binary.isZero] using nonzero
    have shown := @shows_write precise s m e h hm (by decide)
    refine ⟨⟨_, _, shown⟩, fun ds n other => ?_⟩
    obtain ⟨rfl, rfl⟩ := shown.unique other
    rw [Decimal.ofDigits_digits]
    refine ⟨?_, Decimal.shortest_toBinary hm h, shows_write hm (by decide), _, laidOut_layout _,
      toList_write hm⟩
    have unsigned : minus false = [] := rfl
    rw [Binary.abs, toList_write hm, unsigned, List.nil_append]
    exact Decimal.recover_layout (by decide) (Decimal.shortest_mod_ten hm h)

end NumberFormat

end PageComponent
