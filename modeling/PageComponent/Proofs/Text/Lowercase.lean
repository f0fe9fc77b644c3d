import Mathlib
import PageComponent.Proofs.Text.Characters
import PageComponent.Text.Lowercase

/-!
# Small letters

What a character becomes in lower case stays as it is, and it is no blank and no mark of markup
unless the character is one.
-/

namespace PageComponent.Text

/-! ## Runs -/

namespace CapitalRun

/-- Runs of characters that are no small letters beyond ASCII: capitals that no run of capitals
has, blanks, marks, and numbers of no character. -/
def others : List CapitalRun :=
  [⟨0x41, 0x5A, 1, 32⟩, ⟨0x130, 0x130, 1, 0⟩, ⟨0x0, 0x0, 1, 0⟩, ⟨0x9, 0xD, 1, 0⟩,
    ⟨0x1C, 0x20, 1, 0⟩, ⟨0x2F, 0x2F, 1, 0⟩, ⟨0x3D, 0x3E, 1, 0⟩, ⟨0x85, 0x85, 1, 0⟩,
    ⟨0xA0, 0xA0, 1, 0⟩, ⟨0x1680, 0x1680, 1, 0⟩, ⟨0x2000, 0x200A, 1, 0⟩, ⟨0x2028, 0x2029, 1, 0⟩,
    ⟨0x202F, 0x202F, 1, 0⟩, ⟨0x205F, 0x205F, 1, 0⟩, ⟨0x3000, 0x3000, 1, 0⟩,
    ⟨0xD800, 0xDFFF, 1, 0⟩]

/-- Whether a run has none of the numbers from `first` to `last`, or of every second one of them. -/
def isApart (first last : Nat) (sparse : Bool) (s : CapitalRun) : Bool :=
  last.blt s.first || s.last.blt first || (sparse && s.step == 2 && (first + s.first) % 2 == 1)

/-- Whether the small letters of a run are in no run of capitals and in none of the others. -/
def isProper (r : CapitalRun) : Bool :=
  match r.first + r.shift, r.last + r.shift with
  | .ofNat first, .ofNat last =>
    last.blt 0x110000 &&
      capitalRuns.all (isApart first last (r.step == 2 || r.first == r.last)) &&
      others.all (isApart first last false)
  | _, _ => false

theorem all_isProper : capitalRuns.all isProper = true := by
  decide +kernel

theorem contains_iff {r : CapitalRun} {n : Nat} :
    r.contains n = true ↔ r.first ≤ n ∧ n ≤ r.last ∧ (n - r.first) % r.step = 0 := by
  rw [contains, Bool.and_eq_true, Bool.and_eq_true, decide_eq_true_iff, decide_eq_true_iff,
    beq_iff_eq, and_assoc]

variable {r s : CapitalRun} {n first last : Nat} {sparse : Bool}

theorem contains_eq_false (apart : s.isApart first last sparse = true) (above : first ≤ n)
    (below : n ≤ last) (even : sparse = true → (n - first) % 2 = 0) : s.contains n = false := by
  rw [Bool.eq_false_iff, ne_eq, contains_iff]
  rintro ⟨above', below', even'⟩
  simp only [isApart, Bool.or_eq_true, Bool.and_eq_true, Nat.blt_eq, beq_iff_eq] at apart
  rcases apart with (before | behind) | ⟨⟨thin, two⟩, odd⟩
  · omega
  · omega
  · have even := even thin
    rw [two] at even'
    omega

/-- The small letter of a capital is a character in none of the runs. -/
theorem exists_small (mem : r ∈ capitalRuns) (capital : r.contains n = true) :
    ∃ m : Nat, n + r.shift = m ∧ m < 0x110000 ∧
      ∀ s ∈ capitalRuns ++ others, s.contains m = false := by
  have proper := List.all_eq_true.mp all_isProper r mem
  obtain ⟨above, below, even⟩ := contains_iff.mp capital
  rw [isProper] at proper
  split at proper
  next first last begins ends =>
    rw [Bool.and_eq_true, Bool.and_eq_true, Nat.blt_eq, List.all_eq_true, List.all_eq_true]
      at proper
    obtain ⟨⟨valid, capitals⟩, rest⟩ := proper
    have begins : (r.first : Int) + r.shift = first := begins
    have ends : (r.last : Int) + r.shift = last := ends
    refine ⟨(n + r.shift).toNat, by omega, by omega, ?_⟩
    refine List.forall_mem_append.mpr ⟨fun s mem => ?_, fun s mem => ?_⟩
    · refine contains_eq_false (capitals s mem) (by omega) (by omega) fun sparse => ?_
      rw [Bool.or_eq_true, beq_iff_eq, beq_iff_eq] at sparse
      rcases sparse with two | one
      · rw [two] at even
        omega
      · omega
    · exact contains_eq_false (rest s mem) (by omega) (by omega) nofun
  next => cases proper

theorem contains_step_one {shift : Int} :
    contains ⟨first, last, 1, shift⟩ n = false ↔ ¬(first ≤ n ∧ n ≤ last) := by
  rw [Bool.eq_false_iff, ne_eq, contains_iff, Nat.mod_one]
  simp only [and_true]

end CapitalRun

/-! ## Characters -/

/-- Blanks and the characters that end names. -/
def isMark (c : Char) : Bool :=
  isBlank c || ['/', '=', '>', '\x00'].contains c

theorem isMark_eq_false {c : Char} (h : ∀ s ∈ CapitalRun.others, s.contains c.toNat = false) :
    isMark c = false := by
  simp only [CapitalRun.others, List.forall_mem_cons, CapitalRun.contains_step_one] at h
  rw [Bool.eq_false_iff]
  intro mark
  simp only [isMark, isBlank, Bool.or_eq_true, Bool.and_eq_true, decide_eq_true_iff, beq_iff_eq,
    List.contains_iff_mem, List.mem_cons, List.not_mem_nil, or_false] at mark
  rcases mark with blank | rfl | rfl | rfl | rfl
  · omega
  · exact absurd h.2 (by decide)
  · exact absurd h.2 (by decide)
  · exact absurd h.2 (by decide)
  · exact absurd h.2 (by decide)

theorem lowerChar_ascii : ∀ n < 128, lowerChar (Char.ofNat n).toLower = [(Char.ofNat n).toLower] ∧
    ((Char.ofNat n).toLower = Char.ofNat n ∨ isMark (Char.ofNat n).toLower = false) := by
  decide

theorem isLower_toLower_ascii : ∀ n < 128, (Char.ofNat n).isAlpha = true →
    (Char.ofNat n).toLower.isLower = true := by
  decide

theorem toLower_ascii : ∀ n < 128, ¬(0x41 ≤ n ∧ n ≤ 0x5A) →
    (Char.ofNat n).toLower = Char.ofNat n := by
  decide

open CapitalRun in
theorem lowerChar_eq_self {c : Char}
    (h : ∀ s ∈ capitalRuns ++ others, s.contains c.toNat = false) : lowerChar c = [c] := by
  obtain ⟨noCapital, other⟩ := List.forall_mem_append.mp h
  have latin := contains_step_one.mp (other ⟨0x41, 0x5A, 1, 32⟩ (by simp [others]))
  have dotted := contains_step_one.mp (other ⟨0x130, 0x130, 1, 0⟩ (by simp [others]))
  have none : capitalRuns.find? (·.contains c.toNat) = none :=
    List.find?_eq_none.mpr fun s mem => Bool.eq_false_iff.mp (noCapital s mem)
  rw [lowerChar]
  split
  next ascii =>
    have same := toLower_ascii c.toNat ascii latin
    rw [Char.ofNat_toNat] at same
    rw [same]
  · rw [if_neg (by omega), none]

theorem lowerChar_of_isAlpha {c : Char} (h : c.isAlpha = true) :
    lowerChar c = [c.toLower] ∧ c.toLower.isLower = true := by
  have ascii : c.toNat < 128 := toNat_lt_of_isAlpha h
  have small := isLower_toLower_ascii c.toNat ascii
  rw [Char.ofNat_toNat] at small
  exact ⟨if_pos ascii, small h⟩

/-- What follows the first character of a character in lower case, if anything, is no mark. -/
theorem exists_lowerChar (c : Char) :
    ∃ d ds, lowerChar c = d :: ds ∧ ∀ e ∈ ds, isMark e = false := by
  rw [lowerChar]
  split
  next => exact ⟨_, [], rfl, nofun⟩
  split
  next => exact ⟨_, _, rfl, List.forall_mem_singleton.mpr (by decide)⟩
  split <;> exact ⟨_, [], rfl, nofun⟩

/-- A character of a text in lower case stays as it is, and it is a mark only if the character is
that it stands for. -/
theorem of_mem_lowerChar {c d : Char} (mem : d ∈ lowerChar c) :
    lowerChar d = [d] ∧ (d = c ∨ isMark d = false) := by
  rw [lowerChar] at mem
  split at mem
  next ascii =>
    have known := lowerChar_ascii c.toNat ascii
    rw [Char.ofNat_toNat] at known
    rw [List.mem_singleton.mp mem]
    exact known
  split at mem
  next =>
    rcases List.mem_cons.mp mem with rfl | mem
    · exact ⟨rfl, .inr rfl⟩
    · rw [List.mem_singleton.mp mem]
      exact ⟨by decide, .inr (by decide)⟩
  split at mem
  next r found =>
    have capital := @List.find?_some _ (fun r : CapitalRun => r.contains c.toNat) _ _ found
    obtain ⟨m, small, bound, apart⟩ :=
      CapitalRun.exists_small (List.mem_of_find?_eq_some found) capital
    have other := (List.forall_mem_append.mp apart).2
    have surrogate := CapitalRun.contains_step_one.mp
      (other ⟨0xD800, 0xDFFF, 1, 0⟩ (by simp [CapitalRun.others]))
    have valid : m.isValidChar := by
      rw [Nat.isValidChar]
      omega
    rw [small, Int.toNat_natCast, List.mem_singleton] at mem
    obtain rfl : d.toNat = m := by rw [mem, Char.toNat_ofNat, if_pos valid]
    exact ⟨lowerChar_eq_self apart, .inr (isMark_eq_false other)⟩
  next beyond undotted _ none =>
    obtain rfl := List.mem_singleton.mp mem
    rw [lowerChar, if_neg beyond, if_neg undotted, none]
    exact ⟨rfl, .inl rfl⟩

end PageComponent.Text
