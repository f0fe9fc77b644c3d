import PageComponent.Directive.TagStyle
import PageComponent.Proofs.Text.Words

/-!
# Attributes of a tag

What a change to a tag leaves alone. Changes to classes and styles are seen in one attribute only,
and they depend on no other.
-/

namespace PageComponent

namespace Tag

variable {keys keys' : List String} {tag tag' tag'' : Tag}

theorem get?_set (tag : Tag) (key value other : String) :
    (tag.set key value).get? other = if key = other then some value else tag.get? other :=
  Entries.get?_set tag.attributes key value other

theorem get?_erase (tag : Tag) (key other : String) :
    (tag.erase key).get? other = if key = other then none else tag.get? other :=
  Entries.get?_erase tag.attributes key other

theorem set_of_get? {key value : String} (h : tag.get? key = some value) :
    tag.set key value = tag := by
  rw [set, Entries.set_of_get? h]

/-! ## Agreement -/

/-- The tags have one name, and the same attributes besides those of the given keys. -/
structure AgreeOff (keys : List String) (tag tag' : Tag) : Prop where
  name : tag'.name = tag.name
  get? : ∀ key ∉ keys, tag'.get? key = tag.get? key

namespace AgreeOff

theorem refl (keys : List String) (tag : Tag) : AgreeOff keys tag tag :=
  ⟨rfl, fun _ _ => rfl⟩

theorem trans (h : AgreeOff keys tag tag') (h' : AgreeOff keys tag' tag'') :
    AgreeOff keys tag tag'' :=
  ⟨h'.name.trans h.name, fun key other => (h'.get? key other).trans (h.get? key other)⟩

theorem mono (h : AgreeOff keys tag tag') (sub : keys ⊆ keys') : AgreeOff keys' tag tag' :=
  ⟨h.name, fun key other => h.get? key fun mem => other (sub mem)⟩

end AgreeOff

theorem agreeOff_set (tag : Tag) {key : String} (value : String) (mem : key ∈ keys) :
    AgreeOff keys tag (tag.set key value) where
  name := rfl
  get? other notMem := by
    rw [get?_set, if_neg]
    rintro rfl
    exact notMem mem

theorem agreeOff_erase (tag : Tag) {key : String} (mem : key ∈ keys) :
    AgreeOff keys tag (tag.erase key) where
  name := rfl
  get? other notMem := by
    rw [get?_erase, if_neg]
    rintro rfl
    exact notMem mem

theorem agreeOff_setClasses (tag : Tag) (names : List String) :
    AgreeOff ["class"] tag (tag.setClasses names) := by
  rw [setClasses]
  split
  next => exact agreeOff_set tag _ List.mem_cons_self
  next => exact .refl _ tag

theorem agreeOff_addClasses (tag : Tag) (names : String) :
    AgreeOff ["class"] tag (tag.addClasses names) :=
  agreeOff_setClasses tag _

theorem agreeOff_removeClasses (tag : Tag) (names : String) :
    AgreeOff ["class"] tag (tag.removeClasses names) := by
  rw [removeClasses]
  split
  next => exact agreeOff_setClasses tag _
  next => exact .refl _ tag

theorem agreeOff_appendStyle (tag : Tag) (declarations : List String) (terminated : Bool) :
    AgreeOff ["style"] tag (tag.appendStyle declarations terminated) :=
  agreeOff_set tag _ List.mem_cons_self

/-! ## Classes -/

theorem classes_congr (h : tag'.get? "class" = tag.get? "class") : tag'.classes = tag.classes := by
  rw [classes, classes, h]

theorem has_congr {key : String} (h : tag'.get? key = tag.get? key) :
    tag'.has key = tag.has key := by
  rw [has, has, Entries.contains, Entries.contains]
  exact congrArg Option.isSome h

theorem mem_insertClass {names : List String} {name other : String} :
    other ∈ insertClass names name ↔ other ∈ names ∨ other = name := by
  rw [insertClass]
  split
  next mem =>
    constructor
    · exact .inl
    · rintro (mem | rfl)
      · exact mem
      · exact List.contains_iff_mem.mp ‹_›
  next => rw [List.mem_append, List.mem_singleton]

theorem mem_foldl_insertClass {added : List String} {other : String} : ∀ {names : List String},
    other ∈ added.foldl insertClass names ↔ other ∈ names ∨ other ∈ added := by
  induction added with
  | nil => simp
  | cons name added ih =>
    intro names
    rw [List.foldl_cons, ih, mem_insertClass, List.mem_cons, or_assoc]

/-- Classes that are there are not added. -/
theorem foldl_insertClass_of_subset {added names : List String} (sub : added ⊆ names) :
    added.foldl insertClass names = names := by
  induction added with
  | nil => rfl
  | cons name added ih =>
    obtain ⟨mem, sub⟩ := List.cons_subset.mp sub
    rw [List.foldl_cons, insertClass, if_pos (List.contains_iff_mem.mpr mem), ih sub]

theorem isWord_of_mem_addedClasses {added : String} {name : String}
    (mem : name ∈ (blankWords added).foldl insertClass tag.classes) : Text.IsWord name.toList := by
  rcases mem_foldl_insertClass.mp mem with mem | mem <;> exact isWord_of_mem_blankWords mem

theorem setClasses_eq_self_iff {names : List String} :
    tag.setClasses names = tag ↔
      (names ≠ [] ∨ tag.has "class" → tag.get? "class" = some (" ".intercalate names)) := by
  rw [setClasses]
  split
  next written =>
    constructor
    · intro same _
      have read := get?_set tag "class" (" ".intercalate names) "class"
      rwa [same, if_pos rfl] at read
    · exact fun read => set_of_get? (read written)
  next untouched => exact ⟨fun _ written => absurd written untouched, fun _ => rfl⟩

theorem setClasses_setClasses (tag : Tag) (names : List String) :
    (tag.setClasses names).setClasses names = tag.setClasses names := by
  rw [setClasses_eq_self_iff]
  intro written
  rw [setClasses] at written ⊢
  split
  next => rw [get?_set, if_pos rfl]
  next untouched =>
    rw [if_neg untouched] at written
    exact absurd written untouched

theorem classes_setClasses {names : List String} (words : ∀ name ∈ names, Text.IsWord name.toList) :
    (tag.setClasses names).classes = names := by
  rw [setClasses]
  split
  next =>
    rw [classes, get?_set, if_pos rfl, Option.getD_some]
    exact blankWords_intercalate words
  next untouched =>
    obtain ⟨empty, absent⟩ := not_or.mp untouched
    obtain rfl := Classical.not_not.mp empty
    have missing : tag.get? "class" = none := by
      cases read : tag.get? "class" with
      | none => rfl
      | some value => exact absurd (congrArg Option.isSome read) absent
    rw [classes, missing]
    rfl

/-- Classes are added once. -/
theorem addClasses_addClasses (tag : Tag) (names : String) :
    (tag.addClasses names).addClasses names = tag.addClasses names := by
  have present : blankWords names ⊆ (blankWords names).foldl insertClass tag.classes :=
    fun _ mem => mem_foldl_insertClass.mpr (.inr mem)
  rw [addClasses, addClasses, classes_setClasses fun _ => isWord_of_mem_addedClasses,
    foldl_insertClass_of_subset present, setClasses_setClasses]

/-- Whether classes are there is seen in the class attribute alone. -/
theorem addClasses_eq_self_congr {names : String} (same : tag'.get? "class" = tag.get? "class")
    (h : tag.addClasses names = tag) : tag'.addClasses names = tag' := by
  rw [addClasses, setClasses_eq_self_iff] at h ⊢
  rw [classes_congr same, has_congr same, same]
  exact h

end Tag

end PageComponent
