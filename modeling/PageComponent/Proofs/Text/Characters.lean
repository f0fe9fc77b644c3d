import Mathlib
import PageComponent.Text.Blank

/-!
# Kinds of characters

There are few blank characters and few letters of ASCII, so what holds of them all can be tested.
-/

namespace PageComponent.Text

variable {c : Char}

def blankCodes : List Nat :=
  [9, 10, 11, 12, 13, 0x1C, 0x1D, 0x1E, 0x1F, 0x20, 0x85, 0xA0, 0x1680, 0x2000, 0x2001, 0x2002,
    0x2003, 0x2004, 0x2005, 0x2006, 0x2007, 0x2008, 0x2009, 0x200A, 0x2028, 0x2029, 0x202F, 0x205F,
    0x3000]

theorem isBlank_iff : isBlank c = true ↔ c.toNat ∈ blankCodes := by
  simp only [isBlank, Bool.or_eq_true, Bool.and_eq_true, decide_eq_true_eq, beq_iff_eq, blankCodes,
    List.mem_cons, List.not_mem_nil, or_false]
  omega

/-- A kind of characters to which no blank belongs. -/
theorem not_of_isBlank {p : Char → Bool} (none : ∀ n ∈ blankCodes, p (.ofNat n) = false)
    (blank : isBlank c = true) : p c = false := by
  rw [← Char.ofNat_toNat c]
  exact none _ (isBlank_iff.mp blank)

theorem isBlank_of {p : Char → Bool} (none : ∀ n ∈ blankCodes, p (.ofNat n) = false)
    (kind : p c = true) : isBlank c = false := by
  rw [Bool.eq_false_iff]
  intro blank
  rw [not_of_isBlank none blank] at kind
  cases kind

theorem toNat_lt_of_isAlpha (h : c.isAlpha = true) : c.toNat < 128 := by
  simp only [Char.isAlpha, Char.isUpper, Char.isLower, Bool.or_eq_true, Bool.and_eq_true,
    decide_eq_true_iff, ge_iff_le, UInt32.le_iff_toNat_le] at h
  rcases h with ⟨_, below⟩ | ⟨_, below⟩
  · exact Nat.lt_of_le_of_lt below (by decide)
  · exact Nat.lt_of_le_of_lt below (by decide)

end PageComponent.Text
