import Mathlib.Data.Bool.AllAny
import Mathlib.Data.Set.Function
import PageComponent.Expr.Member
import PageComponent.Proofs.Text.Digits

/-!
# Items by name

A list or a text has a length and its items, each under the numeral of its index. A name in digits
of another script is taken for an index as well, and a name of characters that only look like digits
has no answer; every other name is that of nothing.
-/

namespace PageComponent

theorem toList_toString (i : Nat) : (toString i).toList = Nat.toDigits 10 i := by
  rw [Nat.toString_eq_repr, Nat.toList_repr]

theorem toString_injective : Function.Injective (toString : Nat → String) := by
  intro i j same
  have digits : Nat.toDigits 10 i = Nat.toDigits 10 j := by
    rw [← toList_toString, ← toList_toString, same]
  rw [← Nat.ofDigitChars_ten_toDigits (n := i), digits, Nat.ofDigitChars_ten_toDigits]

namespace Located

variable {target r : Located} {items : List Located} {key : String} {i n : Nat}

/-! ## What a name stands for -/

/-- The items of a list at their places, and the characters of a text. -/
def items? (target : Located) : Option (List Located) :=
  match target.value with
  | .list items => some (items.mapIdx fun i v => target.child (.index i) v)
  | .text s => some (s.toList.map fun c => computed (.text (.singleton c)))
  | _ => none

/-- What stands under a name: the length, the item whose index the name is the numeral of, or
nothing. -/
inductive Lookup (items : List Located) : String → Located → Prop where
  | length : Lookup items "length" (computed (Value.int items.length))
  | item (i : Nat) (inside : i < items.length) : Lookup items (toString i) items[i]
  | other {key : String} (noLength : key ≠ "length")
      (noIndex : ∀ i < items.length, key ≠ toString i) : Lookup items key undefined

/-- The name looks like an index: digits, or characters like them, and no zero in front. -/
structure LooksIndexed (key : String) : Prop where
  filled : key.toList ≠ []
  digits : ∀ c ∈ key.toList, Text.isDigitLike c = true
  leading : key = "0" ∨ key.toList.head? ≠ some '0'

/-- The name has a character beyond ASCII. -/
def IsForeign (key : String) : Prop :=
  ∃ c ∈ key.toList, 0x80 ≤ c.toNat

instance (key : String) : Decidable (LooksIndexed key) :=
  decidable_of_iff (key.toList ≠ [] ∧ key.toList.all Text.isDigitLike = true ∧
    (key = "0" ∨ key.toList.head? ≠ some '0'))
    ⟨fun h => ⟨h.1, List.all_eq_true.mp h.2.1, h.2.2⟩,
      fun h => ⟨h.filled, List.all_eq_true.mpr h.digits, h.leading⟩⟩

instance (key : String) : Decidable (IsForeign key) :=
  decidable_of_iff (key.toList.any (0x80 ≤ ·.toNat) = true) (by simp [IsForeign])

/-- The names that do not stand for what they should. -/
inductive Misread (items : List Located) (key : String) : Prop where
  /-- Some character has no value as a digit. -/
  | valueless (looks : LooksIndexed key) (none : Text.digitsValue? key.toList = none)
  /-- The digits spell an index, but are not its numeral. -/
  | foreign {i : Nat} (looks : LooksIndexed key) (value : Text.digitsValue? key.toList = some i)
      (foreign : IsForeign key) (inside : i < items.length) (present : items[i] ≠ undefined)

/-! ## Indices -/

theorem memberIndex?_of_value (looks : LooksIndexed key)
    (value : Text.digitsValue? key.toList = some i) : memberIndex? key = .ok (some i) := by
  unfold memberIndex?
  rw [if_pos ⟨looks.filled, List.all_eq_true.mpr looks.digits, looks.leading⟩, value]

theorem memberIndex?_of_valueless (looks : LooksIndexed key)
    (none : Text.digitsValue? key.toList = none) :
    memberIndex? key = .error .indexWithoutValue := by
  unfold memberIndex?
  rw [if_pos ⟨looks.filled, List.all_eq_true.mpr looks.digits, looks.leading⟩, none]

theorem memberIndex?_of_not_looks (other : ¬LooksIndexed key) : memberIndex? key = .ok none := by
  unfold memberIndex?
  rw [if_neg]
  rintro ⟨filled, digits, leading⟩
  exact other ⟨filled, List.all_eq_true.mp digits, leading⟩

theorem not_looksIndexed_length : ¬LooksIndexed "length" :=
  fun looks => absurd (looks.digits 'l' (by decide)) (by decide)

theorem looksIndexed_toString (i : Nat) : LooksIndexed (toString i) := by
  have digits : ∀ c ∈ Nat.toDigits 10 i, c.isDigit = true :=
    fun c => Nat.isDigit_of_mem_toDigits (by decide) (by decide)
  refine ⟨?_, ?_, ?_⟩
  · rw [toList_toString]
    exact Nat.toDigits_ne_nil
  · rw [toList_toString]
    intro c mem
    rw [Text.isDigitLike, Text.isDigit_of_isDigit (digits c mem), Bool.true_or]
  · rcases Nat.eq_zero_or_pos i with rfl | pos
    · exact .inl rfl
    · rw [toList_toString]
      exact .inr (Text.head?_toDigits pos)

theorem toString_ne_length (i : Nat) : toString i ≠ "length" := by
  intro same
  exact not_looksIndexed_length (same ▸ looksIndexed_toString i)

theorem digitsValue?_toString (i : Nat) : Text.digitsValue? (toString i).toList = some i := by
  have digits : ∀ c ∈ Nat.toDigits 10 i, c.isDigit = true :=
    fun c => Nat.isDigit_of_mem_toDigits (by decide) (by decide)
  rw [toList_toString, Text.digitsValue?_of_isDigit digits, Nat.ofDigitChars_ten_toDigits]

theorem not_isForeign_toString (i : Nat) : ¬IsForeign (toString i) := by
  rintro ⟨c, mem, beyond⟩
  rw [toList_toString] at mem
  have digit := Nat.isDigit_of_mem_toDigits (by decide) (by decide) mem
  have range := Text.ascii_isDigit_iff.mp digit
  omega

theorem not_isForeign_length : ¬IsForeign "length" := by
  rintro ⟨c, mem, beyond⟩
  have ascii : ∀ c ∈ "length".toList, c.toNat < 0x80 := List.all_iff_forall_prop.mp (by decide)
  have := ascii c mem
  omega

/-- An index in digits of ASCII is the numeral of its value. -/
theorem exists_eq_toString (looks : LooksIndexed key) (ascii : ¬IsForeign key) :
    ∃ i : Nat, key = toString i := by
  have ascii : ∀ c ∈ key.toList, c.toNat < 0x80 :=
    fun c mem => Nat.lt_of_not_le fun beyond => ascii ⟨c, mem, beyond⟩
  have digits : ∀ c ∈ key.toList, c.isDigit = true := by
    intro c mem
    have like := looks.digits c mem
    rw [Text.isDigitLike, Bool.or_eq_true] at like
    rcases like with digit | enclosed
    · exact Text.isDigit_of_ascii (ascii c mem) digit
    · obtain ⟨range, inside, bounds⟩ := Text.inRanges_iff.mp enclosed
      have beyond : ∀ range ∈ Text.digitLikeRanges, 0x80 ≤ range.1 := by decide
      have := beyond range inside
      have := ascii c mem
      omega
  have leading : key.toList = ['0'] ∨ key.toList.head? ≠ some '0' := by
    rcases looks.leading with rfl | other
    · exact .inl rfl
    · exact .inr other
  refine ⟨Nat.ofDigitChars 10 key.toList 0, String.toList_inj.mp ?_⟩
  rw [toList_toString, Text.toDigits_ofDigitChars looks.filled digits leading]

theorem itemMember_length (item? : Nat → Option Located) :
    itemMember "length" n item? = .ok (computed (Value.int n)) :=
  if_pos rfl

theorem itemMember_of_memberIndex? {item? : Nat → Option Located} {index? : Option Nat}
    (noLength : key ≠ "length") (index : memberIndex? key = .ok index?) :
    itemMember key n item? = .ok ((index?.bind item?).getD undefined) := by
  rw [itemMember, if_neg noLength, index]
  cases index? <;> rfl

theorem LooksIndexed.ne_length (looks : LooksIndexed key) : key ≠ "length" :=
  fun same => not_looksIndexed_length (same ▸ looks)

theorem itemMember_of_valueless {item? : Nat → Option Located} (looks : LooksIndexed key)
    (none : Text.digitsValue? key.toList = none) :
    itemMember key n item? = .error .indexWithoutValue := by
  rw [itemMember, if_neg looks.ne_length, memberIndex?_of_valueless looks none]
  rfl

/-! ## Answers -/

theorem lookup_numeral (items : List Located) (i : Nat) :
    Lookup items (toString i) (items[i]?.getD undefined) := by
  rcases Nat.lt_or_ge i items.length with inside | outside
  · rw [List.getElem?_eq_getElem inside, Option.getD_some]
    exact .item i inside
  · rw [List.getElem?_eq_none outside, Option.getD_none]
    refine .other (toString_ne_length i) fun j inside same => ?_
    have := toString_injective same
    omega

/-- One thing stands under a name. -/
theorem Lookup.unique {r' : Located} (h : Lookup items key r) (h' : Lookup items key r') :
    r = r' := by
  cases h with
  | length =>
    generalize same : "length" = key at h'
    cases h' with
    | length => rfl
    | item j => exact absurd same.symm (toString_ne_length j)
    | other noLength => exact absurd same.symm noLength
  | item i inside =>
    generalize same : toString i = key at h'
    cases h' with
    | length => exact absurd same (toString_ne_length i)
    | item j =>
      obtain rfl := toString_injective same
      rfl
    | other _ noIndex => exact absurd same.symm (noIndex i inside)
  | other noLength noIndex =>
    cases h' with
    | length => exact absurd rfl noLength
    | item j inside => exact absurd rfl (noIndex j inside)
    | other => rfl

/-- Nothing stands under a name with a character beyond ASCII. -/
theorem lookup_foreign_iff (foreign : IsForeign key) : Lookup items key r ↔ r = undefined := by
  constructor
  · intro lookup
    cases lookup with
    | length => exact absurd foreign not_isForeign_length
    | item i => exact absurd foreign (not_isForeign_toString i)
    | other => rfl
  · rintro rfl
    refine .other ?_ ?_
    · rintro rfl
      exact not_isForeign_length foreign
    · rintro i - rfl
      exact not_isForeign_toString i foreign

/-- The name is answered by what stands under it. -/
def Answered (items : List Located) (key : String) : Prop :=
  ∃ r, itemMember key items.length (items[·]?) = .ok r ∧ Lookup items key r

theorem answered_of_not_looks (items : List Located) (noLength : key ≠ "length")
    (plain : ¬LooksIndexed key) : Answered items key := by
  refine ⟨_, itemMember_of_memberIndex? noLength (memberIndex?_of_not_looks plain),
    .other noLength ?_⟩
  rintro i - rfl
  exact plain (looksIndexed_toString i)

theorem answered_of_ascii (items : List Located) (ascii : ¬IsForeign key) :
    Answered items key := by
  by_cases noLength : key = "length"
  · subst noLength
    exact ⟨_, itemMember_length _, .length⟩
  by_cases looks : LooksIndexed key
  · obtain ⟨i, rfl⟩ := exists_eq_toString looks ascii
    have index := memberIndex?_of_value looks (digitsValue?_toString i)
    exact ⟨_, itemMember_of_memberIndex? noLength index, lookup_numeral items i⟩
  · exact answered_of_not_looks items noLength looks

theorem not_misread_of_ascii (ascii : ¬IsForeign key) : ¬Misread items key := by
  rintro (⟨looks, none⟩ | ⟨_, _, foreign, _, _⟩)
  · obtain ⟨i, rfl⟩ := exists_eq_toString looks ascii
    rw [digitsValue?_toString] at none
    cases none
  · exact ascii foreign

/-- A name is answered by what stands under it, unless it is misread. -/
theorem answered_iff (items : List Located) (key : String) :
    Answered items key ↔ ¬Misread items key := by
  by_cases foreign : IsForeign key
  swap
  · exact iff_of_true (answered_of_ascii items foreign) (not_misread_of_ascii foreign)
  have noLength : key ≠ "length" := by
    rintro rfl
    exact not_isForeign_length foreign
  by_cases looks : LooksIndexed key
  swap
  · refine iff_of_true (answered_of_not_looks items noLength looks) ?_
    rintro (⟨looks', _⟩ | ⟨looks', _, _, _, _⟩)
    · exact looks looks'
    · exact looks looks'
  cases value : Text.digitsValue? key.toList with
  | none =>
    refine iff_of_false ?_ (not_not_intro (.valueless looks value))
    rintro ⟨r, answer, _⟩
    rw [itemMember_of_valueless looks value] at answer
    cases answer
  | some i =>
    have answer : itemMember key items.length (items[·]?) = .ok (items[i]?.getD undefined) :=
      itemMember_of_memberIndex? noLength (memberIndex?_of_value looks value)
    have answered : Answered items key ↔ items[i]?.getD undefined = undefined := by
      simp only [Answered, lookup_foreign_iff foreign, answer, Except.ok.injEq, exists_eq_right]
    rw [answered, iff_not_comm]
    constructor
    · intro misread
      cases misread with
      | valueless _ none => rw [value] at none; cases none
      | @foreign j _ value' _ inside present =>
        obtain rfl := Option.some.inj (value.symm.trans value')
        rwa [List.getElem?_eq_getElem inside, Option.getD_some]
    · intro present
      rcases Nat.lt_or_ge i items.length with inside | outside
      · rw [List.getElem?_eq_getElem inside, Option.getD_some] at present
        exact .foreign looks value foreign inside present
      · rw [List.getElem?_eq_none outside] at present
        exact absurd rfl present

/-! ## Members -/

theorem member_eq_itemMember (h : target.items? = some items) (key : String) :
    target.member (.text key) = itemMember key items.length (items[·]?) := by
  unfold items? at h
  cases value : target.value with
  | list vs =>
    rw [value] at h
    obtain rfl := Option.some.inj h
    simp only [member, Value.toText, value, List.length_mapIdx, List.getElem?_mapIdx]
    rfl
  | text s =>
    rw [value] at h
    obtain rfl := Option.some.inj h
    simp only [member, Value.toText, value, List.length_map, List.getElem?_map]
    rfl
  | _ => rw [value] at h; cases h

theorem fails_itemMember_iff {item? : Nat → Option Located} :
    (∃ e, itemMember key n item? = .error e) ↔
      LooksIndexed key ∧ Text.digitsValue? key.toList = none := by
  constructor
  · rintro ⟨e, fails⟩
    have total {index? : Option Nat} (index : memberIndex? key = .ok index?) : False := by
      by_cases noLength : key = "length"
      · rw [noLength, itemMember_length] at fails
        cases fails
      · rw [itemMember_of_memberIndex? noLength index] at fails
        cases fails
    by_cases looks : LooksIndexed key
    · refine ⟨looks, ?_⟩
      cases value : Text.digitsValue? key.toList with
      | none => rfl
      | some i => exact (total (memberIndex?_of_value looks value)).elim
    · exact (total (memberIndex?_of_not_looks looks)).elim
  · rintro ⟨looks, none⟩
    exact ⟨_, itemMember_of_valueless looks none⟩

/-- The name of the length, or of an item. -/
def nameOf (n : Nat) : Option (Fin n) → String
  | none => "length"
  | some i => toString i.val

theorem injective_nameOf (n : Nat) : Function.Injective (nameOf n) := by
  intro i j same
  cases i with
  | none =>
    cases j with
    | none => rfl
    | some j => exact absurd same.symm (toString_ne_length j)
  | some i =>
    cases j with
    | none => exact absurd same (toString_ne_length i)
    | some j => exact congrArg some (Fin.ext (toString_injective same))

theorem not_isForeign_nameOf (n : Nat) (i : Option (Fin n)) : ¬IsForeign (nameOf n i) := by
  cases i with
  | none => exact not_isForeign_length
  | some i => exact not_isForeign_toString i

/-- Of items that are all something, just these and the length have a name. -/
theorem exists_nameOf_iff (present : ∀ item ∈ items, item.value ≠ .undefined) :
    (∃ i, nameOf items.length i = key) ↔ ∃ r, Lookup items key r ∧ r.value ≠ .undefined := by
  constructor
  · rintro ⟨i, rfl⟩
    cases i with
    | none => exact ⟨_, .length, nofun⟩
    | some i => exact ⟨_, .item i i.isLt, present _ (List.getElem_mem i.isLt)⟩
  · rintro ⟨r, lookup, something⟩
    cases lookup with
    | length => exact ⟨none, rfl⟩
    | item i inside => exact ⟨some ⟨i, inside⟩, rfl⟩
    | other => exact absurd rfl something

theorem bijOn_nameOf (present : ∀ item ∈ items, item.value ≠ .undefined) :
    Set.BijOn (nameOf items.length) Set.univ {key | ¬Misread items key ∧
      ∃ r, itemMember key items.length (items[·]?) = .ok r ∧ r.value ≠ .undefined} := by
  refine ⟨fun i _ => ?_, (injective_nameOf items.length).injOn, ?_⟩
  · have ascii := not_isForeign_nameOf items.length i
    obtain ⟨r, answer, lookup⟩ := answered_of_ascii items ascii
    obtain ⟨r', lookup', something⟩ := (exists_nameOf_iff present).mp ⟨i, rfl⟩
    exact ⟨not_misread_of_ascii ascii, r, answer, lookup.unique lookup' ▸ something⟩
  · rintro key ⟨read, r, answer, something⟩
    obtain ⟨r', answer', lookup⟩ := (answered_iff items key).mpr read
    obtain rfl : r = r' := Except.ok.inj (answer.symm.trans answer')
    obtain ⟨i, name⟩ := (exists_nameOf_iff present).mpr ⟨r, lookup, something⟩
    exact ⟨i, Set.mem_univ i, name⟩

/-- A name is answered by what stands under it exactly if it is not misread, and has no answer
exactly if it looks like an index without being one; the other names that stand for something are
those of the length and of the items. -/
theorem member_answered_iff (h : target.items? = some items) :
    (∀ key, (∃ r, target.member (.text key) = .ok r ∧ Lookup items key r) ↔ ¬Misread items key) ∧
      (∀ key, (∃ e, target.member (.text key) = .error e) ↔
        LooksIndexed key ∧ Text.digitsValue? key.toList = none) ∧
      ((∀ item ∈ items, item.value ≠ .undefined) →
        Set.BijOn (nameOf items.length) Set.univ
          {key | ¬Misread items key ∧
            ∃ r, target.member (.text key) = .ok r ∧ r.value ≠ .undefined}) := by
  simp only [member_eq_itemMember h]
  exact ⟨answered_iff items, fun key => fails_itemMember_iff, bijOn_nameOf⟩

/-- A list at its place: one in Arabic digits is misread, a raised two has no answer, and two in
digits of ASCII has one. -/
theorem member_answered_of_list :
    let target : Located := ⟨.list [.text "x", .text "y", .null], some ⟨"items", []⟩⟩
    ∃ items, target.items? = some items ∧ (∀ item ∈ items, item.value ≠ .undefined) ∧
      ¬(∃ r, target.member (.text "١") = .ok r ∧ Lookup items "١" r) ∧
      (∃ e, target.member (.text "²") = .error e) ∧
      ∃ r, target.member (.text "2") = .ok r ∧ r.value ≠ .undefined := by
  intro target
  let place (i : Nat) : Option Place := some ⟨"items", [.index i]⟩
  let items : List Located := [⟨.text "x", place 0⟩, ⟨.text "y", place 1⟩, ⟨.null, place 2⟩]
  have present : ∀ item ∈ items, item.value ≠ .undefined := by simp [items]
  obtain ⟨answered, fails, named⟩ := member_answered_iff (show target.items? = some items from rfl)
  have misread : Misread items "١" :=
    .foreign (i := 1) (by decide) (by decide) (by decide) (by decide) nofun
  have two : nameOf items.length (some 2) = "2" := by decide
  refine ⟨items, rfl, present, fun looked => (answered "١").mp looked misread,
    (fails "²").mpr ⟨by decide, by decide⟩, ?_⟩
  rw [← two]
  exact ((named present).mapsTo (Set.mem_univ (some 2))).2

end Located

end PageComponent
