import Mathlib.Data.List.Basic
import Mathlib.Data.List.Induction
import Mathlib.Tactic.ByContra
import Mathlib.Tactic.Ring
import PageComponent.Text.Digit

/-!
# Digits

Digits spell a number by their places. A number is spelled by one list of digits of ASCII that does
not start with a zero, the digits of other scripts give further spellings.
-/

namespace PageComponent.Text

variable {c : Char} {cs ds : List Char} {digit digit' : Char → Nat → Prop} {radix n m v : Nat}

/-! ## Characters -/

theorem digitValue?_of_isDigit {c : Char} (h : c.isDigit) :
    digitValue? c = some (c.toNat - '0'.toNat) := by
  simp [digitValue?, digitZeros, ascii_isDigit_iff.mp h]

theorem isDigit_of_isDigit {c : Char} (h : c.isDigit) : isDigit c := by
  simp [isDigit, digitValue?_of_isDigit h]

theorem isDigit_point : isDigit '.' = false := by decide

theorem isDigit_of_ascii {c : Char} (ascii : c.toNat < 0x80) (h : isDigit c = true) :
    c.isDigit = true := by
  obtain ⟨n, value⟩ := Option.isSome_iff_exists.mp h
  obtain ⟨z, found, _⟩ := Option.map_eq_some_iff.mp value
  have bounds := List.find?_some found
  simp only [Bool.and_eq_true, decide_eq_true_eq] at bounds
  -- of the runs of digits only the first one lies in ASCII
  have first : ∀ z ∈ digitZeros, z < 0x80 → z = 48 := by decide
  have zero := first z (List.mem_of_find?_eq_some found) (by omega)
  exact ascii_isDigit_iff.mpr (by omega)

/-- The digits of a radix up to sixteen, where letters of either case follow the nine. -/
structure IsDigitOf (radix : Nat) (c : Char) (v : Nat) : Prop where
  lt : v < radix
  shape : c.toLower = v.digitChar

/-- The decimal digits of every script. -/
def IsScriptDigit (c : Char) (v : Nat) : Prop :=
  digitValue? c = some v

theorem radixDigit?_ascii : ∀ n < 128, ∀ v < 16,
    radixDigit? 16 (Char.ofNat n) = some v ↔ (Char.ofNat n).toLower = v.digitChar := by
  decide +kernel

/-- The digits of a radix are those digits of sixteen that are below it. -/
theorem radixDigit?_sixteen :
    radixDigit? radix c = some v ↔ radixDigit? 16 c = some v ∧ v < radix := by
  constructor
  · intro digit
    unfold radixDigit? at digit ⊢
    grind
  · rintro ⟨digit, lt⟩
    unfold radixDigit? at digit ⊢
    grind

theorem toNat_lt_of_radixDigit? (h : radixDigit? 16 c = some v) : c.toNat < 128 := by
  unfold radixDigit? at h
  grind

theorem toNat_lt_of_toLower (lt : v < 16) (h : c.toLower = v.digitChar) : c.toNat < 128 := by
  have digit : ∀ v < 16, v.digitChar.toNat < 128 := by decide
  have lower := digit v lt
  rw [← h] at lower
  unfold Char.toLower at lower
  split at lower
  next capital =>
    rw [ge_iff_le, UInt32.le_iff_toNat_le, UInt32.le_iff_toNat_le] at capital
    exact Nat.lt_of_le_of_lt capital.2 (by decide)
  next => exact lower

theorem radixDigit?_eq_some_iff (h : radix ≤ 16) :
    radixDigit? radix c = some v ↔ IsDigitOf radix c v := by
  rw [radixDigit?_sixteen]
  constructor
  · rintro ⟨digit, lt⟩
    have shape := radixDigit?_ascii c.toNat (toNat_lt_of_radixDigit? digit) v (by omega)
    rw [Char.ofNat_toNat] at shape
    exact ⟨lt, shape.mp digit⟩
  · rintro ⟨lt, lower⟩
    have shape := radixDigit?_ascii c.toNat (toNat_lt_of_toLower (by omega) lower) v (by omega)
    rw [Char.ofNat_toNat] at shape
    exact ⟨shape.mpr lower, lt⟩

theorem isDigitOf_ten_iff : IsDigitOf 10 c v ↔ c.isDigit = true ∧ v = c.toNat - '0'.toNat := by
  rw [← radixDigit?_eq_some_iff (by decide), ascii_isDigit_iff]
  unfold radixDigit?
  have zero : '0'.toNat = 48 := rfl
  grind

theorem IsDigitOf.isScriptDigit (h : IsDigitOf 10 c v) : IsScriptDigit c v := by
  obtain ⟨ascii, value⟩ := isDigitOf_ten_iff.mp h
  exact value ▸ digitValue?_of_isDigit ascii

theorem IsScriptDigit.isDigitOf (h : IsScriptDigit c v) (ascii : c.toNat < 0x80) :
    IsDigitOf 10 c v := by
  have digit : c.isDigit = true := isDigit_of_ascii ascii (Option.isSome_iff_exists.mpr ⟨v, h⟩)
  have same := (digitValue?_of_isDigit digit).symm.trans h
  exact isDigitOf_ten_iff.mpr ⟨digit, (Option.some.inj same).symm⟩

theorem IsScriptDigit.isDigit (h : IsScriptDigit c v) : isDigit c = true :=
  Option.isSome_iff_exists.mpr ⟨v, h⟩

/-! ## Numbers -/

/-- The number that digits spell by their places. -/
inductive Spells (digit : Char → Nat → Prop) (radix : Nat) : List Char → Nat → Prop where
  | nil : Spells digit radix [] 0
  | snoc {ds : List Char} {n : Nat} {d : Char} {v : Nat} (rest : Spells digit radix ds n)
      (last : digit d v) : Spells digit radix (ds ++ [d]) (radix * n + v)

theorem Spells.mono (h : Spells digit radix ds n)
    (digits : ∀ d ∈ ds, ∀ v, digit d v → digit' d v) : Spells digit' radix ds n := by
  induction h with
  | nil => exact .nil
  | snoc rest last ih =>
    have inside := List.forall_mem_append.mp digits
    exact .snoc (ih inside.1) (List.forall_mem_singleton.mp inside.2 _ last)

theorem Spells.exists_digit (h : Spells digit radix ds n) : ∀ d ∈ ds, ∃ v, digit d v := by
  induction h with
  | nil => exact nofun
  | snoc rest last ih =>
    exact List.forall_mem_append.mpr ⟨ih, List.forall_mem_singleton.mpr ⟨_, last⟩⟩

theorem Spells.append (h : Spells digit radix ds n) (h' : Spells digit radix cs m) :
    Spells digit radix (ds ++ cs) (n * radix ^ cs.length + m) := by
  induction h' with
  | nil => simpa using h
  | @snoc cs m d v rest last ih =>
    have value : radix * (n * radix ^ cs.length + m) + v =
        n * radix ^ (cs ++ [d]).length + (radix * m + v) := by
      rw [List.length_append, List.length_singleton, Nat.pow_succ']
      ring
    rw [← List.append_assoc, ← value]
    exact .snoc ih last

/-- Digits are read from the front, and spell a number by their places. -/
theorem foldlM_eq_some_iff {value? : Char → Option Nat} :
    ds.foldlM (fun n c => (value? c).map (radix * n + ·)) 0 = some n ↔
      Spells (fun c v => value? c = some v) radix ds n := by
  constructor
  · intro read
    induction ds using List.reverseRecOn generalizing n with
    | nil =>
      obtain rfl : 0 = n := Option.some.inj read
      exact .nil
    | append_singleton ds d ih =>
      rw [List.foldlM_append, Option.bind_eq_bind, Option.bind_eq_some_iff] at read
      obtain ⟨m, front, back⟩ := read
      rw [List.foldlM_cons, Option.bind_eq_bind, Option.bind_eq_some_iff] at back
      obtain ⟨k, digit, eq⟩ := back
      obtain ⟨v, value, rfl⟩ := Option.map_eq_some_iff.mp digit
      obtain rfl := Option.some.inj eq
      exact .snoc (ih front) value
  · intro spelled
    induction spelled with
    | nil => rfl
    | snoc rest last ih =>
      rw [List.foldlM_append, ih]
      simp [last]

theorem digitsValue?_eq_some_iff : digitsValue? ds = some n ↔ Spells IsScriptDigit 10 ds n :=
  foldlM_eq_some_iff

theorem radixValue?_eq_some_iff (h : radix ≤ 16) :
    radixValue? radix ds = some n ↔ Spells (IsDigitOf radix) radix ds n := by
  have same : IsDigitOf radix = fun c v => radixDigit? radix c = some v := by
    funext c v
    exact propext (radixDigit?_eq_some_iff h).symm
  rw [same]
  exact foldlM_eq_some_iff

theorem spells_ten_iff :
    Spells (IsDigitOf 10) 10 ds n ↔
      (∀ d ∈ ds, d.isDigit = true) ∧ Nat.ofDigitChars 10 ds 0 = n := by
  constructor
  · intro spelled
    induction spelled with
    | nil => exact ⟨nofun, rfl⟩
    | snoc rest last ih =>
      obtain ⟨digits, value⟩ := ih
      obtain ⟨digit, rfl⟩ := isDigitOf_ten_iff.mp last
      refine ⟨List.forall_mem_append.mpr ⟨digits, List.forall_mem_singleton.mpr digit⟩, ?_⟩
      rw [Nat.ofDigitChars_append, value, Nat.ofDigitChars_cons, Nat.ofDigitChars_nil]
  · rintro ⟨digits, rfl⟩
    induction ds using List.reverseRecOn with
    | nil => exact .nil
    | append_singleton ds d ih =>
      obtain ⟨front, back⟩ := List.forall_mem_append.mp digits
      have last := isDigitOf_ten_iff.mpr ⟨back d List.mem_cons_self, rfl⟩
      rw [Nat.ofDigitChars_append, Nat.ofDigitChars_cons, Nat.ofDigitChars_nil]
      exact .snoc (ih front) last

theorem spells_toDigits (n : Nat) : Spells (IsDigitOf 10) 10 (Nat.toDigits 10 n) n :=
  spells_ten_iff.mpr ⟨fun _ => Nat.isDigit_of_mem_toDigits (by decide) (by decide),
    Nat.ofDigitChars_toDigits (by decide) (by decide)⟩

theorem spells_zeros (k : Nat) : Spells (IsDigitOf 10) 10 (List.replicate k '0') 0 := by
  refine spells_ten_iff.mpr ⟨fun d mem => ?_, ?_⟩
  · rw [List.eq_of_mem_replicate mem]
    rfl
  · rw [Nat.ofDigitChars_replicate_zero, Nat.mul_zero]

theorem digitsValue?_of_isDigit {ds : List Char} (h : ∀ c ∈ ds, c.isDigit) :
    digitsValue? ds = some (Nat.ofDigitChars 10 ds 0) :=
  digitsValue?_eq_some_iff.mpr
    ((spells_ten_iff.mpr ⟨h, rfl⟩).mono fun _ _ _ => IsDigitOf.isScriptDigit)

/-! ## One spelling -/

theorem toDigits_of_isDigit (digit : c.isDigit = true) :
    Nat.toDigits 10 (c.toNat - '0'.toNat) = [c] := by
  have range := ascii_isDigit_iff.mp digit
  have shape : ∀ v < 10, Nat.toDigits 10 v = [Char.ofNat (v + 48)] := by decide
  have zero : '0'.toNat = 48 := rfl
  rw [zero, shape (c.toNat - 48) (by omega), Nat.sub_add_cancel range.1, Char.ofNat_toNat]

/-- Digits of ASCII that do not start with a zero are the digits of the number that they spell. -/
theorem toDigits_ofDigitChars (ne : ds ≠ []) (digits : ∀ d ∈ ds, d.isDigit = true)
    (leading : ds = ['0'] ∨ ds.head? ≠ some '0') :
    Nat.toDigits 10 (Nat.ofDigitChars 10 ds 0) = ds := by
  induction ds using List.reverseRecOn with
  | nil => exact absurd rfl ne
  | append_singleton ds d ih =>
    obtain ⟨front, back⟩ := List.forall_mem_append.mp digits
    have last : d.isDigit = true := back d List.mem_cons_self
    rw [Nat.ofDigitChars_append, Nat.ofDigitChars_cons, Nat.ofDigitChars_nil]
    cases ds with
    | nil =>
      rw [Nat.ofDigitChars_nil, Nat.mul_zero, Nat.zero_add, toDigits_of_isDigit last,
        List.nil_append]
    | cons c cs =>
      have head : c ≠ '0' := by
        rintro rfl
        rcases leading with one | other
        · simp at one
        · exact other rfl
      have same := ih (List.cons_ne_nil c cs) front (.inr fun eq => head (Option.some.inj eq))
      -- a number that is not spelled with a zero in front is not zero
      have pos : 0 < Nat.ofDigitChars 10 (c :: cs) 0 := by
        by_contra zero
        rw [Nat.eq_zero_of_not_pos zero, Nat.toDigits_zero] at same
        exact head (List.cons.inj same).1.symm
      have range := ascii_isDigit_iff.mp last
      have zero : '0'.toNat = 48 := rfl
      rw [← Nat.toDigits_append_toDigits (by decide) pos (by omega), same, toDigits_of_isDigit last]

theorem head?_toDigits (pos : 0 < n) : (Nat.toDigits 10 n).head? ≠ some '0' := by
  induction n using Nat.strongRecOn with
  | ind n ih =>
    rcases Nat.lt_or_ge n 10 with small | large
    · rw [Nat.toDigits_of_lt_base small, List.head?_cons, ne_eq, Option.some.injEq,
        Nat.digitChar_eq_zero]
      omega
    · have front : Nat.toDigits 10 (n / 10) ≠ [] := Nat.toDigits_ne_nil
      rw [Nat.toDigits_of_base_le (by decide) large, List.head?_append_of_ne_nil _ front]
      exact ih (n / 10) (by omega) (by omega)

end PageComponent.Text
