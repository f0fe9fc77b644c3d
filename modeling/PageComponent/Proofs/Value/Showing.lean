import PageComponent.Proofs.Number.Overflow
import PageComponent.Value.Conversion

/-!
# What cannot be shown

A value has no text if it is an integer too large for the binary format, or a list with such an
integer at any depth. A mapping has a text whatever it contains. Only the integer itself has no
truth.
-/

namespace PageComponent

namespace Value

inductive Unshowable : Value → Prop where
  | number {n : Number} (huge : n.IsHuge) : Unshowable (.number n)
  | list {items : List Value} {item : Value} (mem : item ∈ items) (within : Unshowable item) :
      Unshowable (.list items)

/-- A value that cannot be tested for truth. -/
def Untestable : Value → Prop
  | .number n => n.IsHuge
  | _ => False

theorem Unshowable.not_isNullish {v : Value} (h : v.Unshowable) : v.isNullish = false := by
  cases h <;> rfl

theorem unshowable_number_iff {n : Number} : (Value.number n).Unshowable ↔ n.IsHuge := by
  constructor
  · rintro ⟨huge⟩
    exact huge
  · exact .number

theorem unshowable_list_iff {items : List Value} :
    (Value.list items).Unshowable ↔ ∃ item ∈ items, item.Unshowable := by
  constructor
  · intro h
    cases h with
    | list mem within => exact ⟨_, mem, within⟩
  · rintro ⟨item, mem, within⟩
    exact .list mem within

end Value

theorem Number.fails_toText (n : Number) : Fails n.toText ↔ n.IsHuge := by
  cases n with
  | float x => exact iff_of_false (not_fails_ok _) id
  | int n =>
    rw [toText]
    split
    next short =>
      exact iff_of_false (not_fails_ok _)
        (Nat.not_le.mpr (Nat.lt_of_lt_of_le short Binary.ten_pow_le_overflow))
    next => exact (fails_bind_of_total fun _ => not_fails_ok _).trans (fails_toBinary _)

namespace Value

theorem fails_display_of_toText {v : Value} (h : Fails v.toText ↔ v.Unshowable) :
    Fails v.display ↔ v.Unshowable := by
  rw [display]
  split
  next nullish =>
    refine iff_of_false (not_fails_ok _) fun unshowable => ?_
    rw [unshowable.not_isNullish] at nullish
    cases nullish
  next => exact h

/-- An item of a list is shown as it is alone. -/
theorem itemTexts_cons (item : Value) (items : List Value) :
    itemTexts (item :: items) = do return (← item.display) :: (← itemTexts items) := by
  rw [itemTexts, display]
  split <;> rfl

mutual

theorem fails_toText : ∀ v : Value, Fails v.toText ↔ v.Unshowable
  | .undefined | .null | .bool _ | .text _ | .mapping _ => iff_of_false (not_fails_ok _) nofun
  | .number n => n.fails_toText.trans unshowable_number_iff.symm
  | .list items => by
    rw [unshowable_list_iff, ← fails_itemTexts items]
    exact fails_bind_of_total fun _ => not_fails_ok _

theorem fails_itemTexts : ∀ items : List Value,
    Fails (itemTexts items) ↔ ∃ item ∈ items, item.Unshowable
  | [] => iff_of_false (not_fails_ok _) (by simp)
  | item :: items => by
    have others (text : String) : Fails (do return text :: (← itemTexts items)) ↔
        ∃ item ∈ items, item.Unshowable :=
      (fails_bind_of_total fun _ => not_fails_ok _).trans (fails_itemTexts items)
    rw [itemTexts_cons, fails_bind_of_iff others, fails_display_of_toText (fails_toText item)]
    simp only [List.mem_cons, exists_eq_or_imp]

end

theorem fails_display (v : Value) : Fails v.display ↔ v.Unshowable :=
  fails_display_of_toText (fails_toText v)

theorem fails_isTruthy (v : Value) : Fails v.isTruthy ↔ v.Untestable := by
  cases v with
  | number n =>
    rw [isTruthy, Untestable]
    split
    next zero => exact iff_of_false (not_fails_ok _) (Number.not_isHuge_of_isZero zero)
    next => exact (fails_bind_of_total fun _ => not_fails_ok _).trans n.fails_isNaN
  | _ => exact iff_of_false (not_fails_ok _) id

end Value

/-! ## Texts of numbers -/

theorem NumberFormat.layout_ne_nil (f : NumberFormat) (d : Decimal) : f.layout d ≠ [] := by
  have digits : d.digits ≠ [] := Nat.toDigits_ne_nil
  rw [layout]
  split
  next =>
    simp only [positional]
    split
    next => simp [digits]
    next => split <;> simp
  next =>
    unfold scientific
    simp

theorem NumberFormat.write_ne_empty {f : NumberFormat}
    (named : "" ∉ [f.zero, f.negativeZero, f.nan, f.infinity]) (x : Binary) : f.write x ≠ "" := by
  simp only [List.mem_cons, List.not_mem_nil, or_false, not_or, ne_comm (a := "")] at named
  obtain ⟨zero, negativeZero, nan, infinity⟩ := named
  cases x with
  | nan => exact nan
  | infinite s => cases s <;> simp [write, infinity]
  | finite s m e =>
    unfold write
    dsimp only
    split
    next => cases s <;> simp [zero, negativeZero]
    next =>
      intro empty
      have none := String.ofList_eq_empty_iff.mp empty
      split at none
      next => cases none
      next => exact layout_ne_nil _ _ none

theorem toString_int_ne_empty (n : Int) : toString n ≠ "" := by
  rw [Int.toString_eq_repr, Int.repr_eq_if]
  split
  next => exact Nat.repr_ne_empty
  next => simp

/-- A number is never shown as nothing. -/
theorem Number.toText_ne_empty {n : Number} {text : String} (h : n.toText = .ok text) :
    text ≠ "" := by
  cases n with
  | float x =>
    obtain rfl := Except.ok.inj h
    exact NumberFormat.plain.write_ne_empty (by decide) x
  | int n =>
    rw [toText] at h
    split at h
    next =>
      obtain rfl := Except.ok.inj h
      exact toString_int_ne_empty n
    next =>
      cases big : toBinary (.int n) with
      | error =>
        rw [big] at h
        cases h
      | ok x =>
        rw [big] at h
        obtain rfl := Except.ok.inj h
        exact NumberFormat.plain.write_ne_empty (by decide) x

/-! ## Characters of numbers -/

namespace NumberFormat

/-- Characters of written numbers: digits, points, signs, and letters. -/
def isMark (c : Char) : Bool :=
  c.isAlphanum || ['.', '+', '-'].contains c

variable {c : Char} {d : Decimal}

theorem isMark_of_isDigit (digit : c.isDigit = true) : isMark c = true := by
  simp [isMark, Char.isAlphanum, digit]

theorem isMark_of_mem_toDigits {n : Nat} (mem : c ∈ Nat.toDigits 10 n) : isMark c = true :=
  isMark_of_isDigit (Nat.isDigit_of_mem_toDigits (by decide) (by decide) mem)

theorem isMark_of_mem_zeros {k : Nat} (mem : c ∈ List.replicate k '0') : isMark c = true := by
  rw [List.eq_of_mem_replicate mem]
  rfl

theorem isMark_of_mem_positional (mem : c ∈ plain.positional d.digits d.point) :
    isMark c = true := by
  have digits (inside : c ∈ d.digits) : isMark c = true := isMark_of_mem_toDigits inside
  unfold positional at mem
  dsimp only at mem
  split at mem
  next =>
    rw [List.append_assoc, List.mem_append, List.mem_append] at mem
    rcases mem with mem | mem | mem
    · exact digits mem
    · exact isMark_of_mem_zeros mem
    · cases mem
  next =>
    split at mem
    next =>
      rw [List.mem_append, List.mem_cons] at mem
      rcases mem with mem | rfl | mem
      · exact digits (List.mem_of_mem_take mem)
      · rfl
      · exact digits (List.mem_of_mem_drop mem)
    next =>
      rw [List.cons_append, List.cons_append, List.mem_cons, List.mem_cons, List.mem_append] at mem
      rcases mem with rfl | rfl | mem | mem
      · rfl
      · rfl
      · exact isMark_of_mem_zeros mem
      · exact digits mem

theorem isMark_of_mem_scientific (f : NumberFormat) {digits : List Char} {point : Int}
    (marks : ∀ c ∈ digits, isMark c = true) (mem : c ∈ f.scientific digits point) :
    isMark c = true := by
  unfold scientific at mem
  rw [List.mem_append, List.mem_cons, List.mem_cons, Text.paddedDigits, List.mem_append] at mem
  rcases mem with mem | rfl | rfl | mem | mem
  · rcases digits with _ | ⟨first, _ | ⟨second, others⟩⟩
    · cases mem
    · exact marks c mem
    · obtain ⟨leading, behind⟩ := List.forall_mem_cons.mp marks
      rcases List.mem_cons.mp mem with rfl | mem
      · exact leading
      · rcases List.mem_cons.mp mem with rfl | mem
        · rfl
        · exact behind c mem
  · rfl
  · split <;> rfl
  · exact isMark_of_mem_zeros mem
  · exact isMark_of_mem_toDigits mem

theorem isMark_of_mem_write (x : Binary) : ∀ c ∈ (plain.write x).toList, isMark c = true := by
  cases x with
  | nan => exact List.all_eq_true.mp (by decide)
  | infinite s => cases s <;> exact List.all_eq_true.mp (by decide)
  | finite s m e =>
    unfold write
    dsimp only
    split
    next => cases s <;> exact List.all_eq_true.mp (by decide)
    next =>
      have body : ∀ c ∈ plain.layout (.shortest m e), isMark c = true := by
        intro c mem
        rw [layout] at mem
        split at mem
        next => exact isMark_of_mem_positional mem
        next => exact isMark_of_mem_scientific plain (fun _ => isMark_of_mem_toDigits) mem
      rw [String.toList_ofList]
      cases s with
      | false => exact body
      | true => exact List.forall_mem_cons.mpr ⟨rfl, body⟩

end NumberFormat

theorem isMark_of_mem_toString (n : Int) :
    ∀ c ∈ (toString n).toList, NumberFormat.isMark c = true := by
  have digits (k : Nat) : ∀ c ∈ k.repr.toList, NumberFormat.isMark c = true := by
    rw [Nat.toList_repr]
    exact fun c => NumberFormat.isMark_of_mem_toDigits
  rw [Int.toString_eq_repr, Int.repr_eq_if]
  split
  next => exact digits _
  next =>
    rw [String.toList_append]
    exact List.forall_mem_append.mpr ⟨List.all_eq_true.mp (by decide), digits _⟩

/-- A number is written without parentheses or other punctuation that encloses. -/
theorem Number.isMark_of_toText {n : Number} {text : String} (h : n.toText = .ok text) :
    ∀ c ∈ text.toList, NumberFormat.isMark c = true := by
  cases n with
  | float x =>
    obtain rfl := Except.ok.inj h
    exact NumberFormat.isMark_of_mem_write x
  | int n =>
    rw [toText] at h
    split at h
    next =>
      obtain rfl := Except.ok.inj h
      exact isMark_of_mem_toString n
    next =>
      cases big : toBinary (.int n) with
      | error =>
        rw [big] at h
        cases h
      | ok x =>
        rw [big] at h
        obtain rfl := Except.ok.inj h
        exact NumberFormat.isMark_of_mem_write x

end PageComponent
