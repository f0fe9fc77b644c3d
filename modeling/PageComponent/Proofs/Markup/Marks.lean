import Mathlib
import PageComponent.Markup.Event
import PageComponent.Proofs.Text.Spans

/-!
# Marks

A source is cut where a mark stands for the first time. What stands in front of that place does not
hold the mark, and it is cut off again if another ending of the mark follows it: no part of the
mark runs over into an ending.
-/

namespace PageComponent

theorem Tag.isRawName_iff {name : String} :
    isRawName name = true ↔ name = "script" ∨ name = "style" := by
  rw [isRawName, Bool.or_eq_true, beq_iff_eq, beq_iff_eq]

namespace Event

variable {mark : Mark} {c : Char} {cs ds rest content before ending : List Char}

theorem behindMark?_char_eq_none {m : Char} :
    behindMark? (some m :: mark) (c :: cs) = none ↔
      (c.toLower = m → behindMark? mark cs = none) := by
  rw [behindMark?]
  split
  next same => simp only [Option.map_eq_none_iff, same, forall_const]
  next other => simp only [other, false_implies]

theorem behindMark?_blanks_eq_none :
    behindMark? (none :: mark) cs = none ↔
      behindMark? mark (cs.dropWhile Text.isBlank) = none := by
  rw [behindMark?, Option.map_eq_none_iff]

/-- A mark that stands at the front stands there whatever follows. -/
theorem behindMark?_eq_none_of_append :
    ∀ {mark : Mark} {cs ds : List Char}, behindMark? mark (cs ++ ds) = none →
      behindMark? mark cs = none
  | [], _, _, h => by cases h
  | none :: mark, cs, ds, h => by
    rw [behindMark?_blanks_eq_none] at h ⊢
    rcases Text.dropWhile_append_eq Text.isBlank cs ds with ⟨behind, _⟩ | ⟨behind, empty⟩
    · rw [behind] at h
      exact behindMark?_eq_none_of_append h
    · rw [behind] at h
      rw [empty]
      exact @behindMark?_eq_none_of_append mark [] _ h
  | some _ :: _, [], _, _ => rfl
  | some _ :: mark, c :: cs, ds, h => by
    rw [List.cons_append] at h
    rw [behindMark?_char_eq_none] at h ⊢
    exact fun same => behindMark?_eq_none_of_append (h same)

/-- No part of the mark stands at the front. -/
def Mark.Apart (cs : List Char) : Mark → Prop
  | [] => True
  | m :: mark => behindMark? (m :: mark) cs = none ∧ Apart cs mark

/-- A mark does not run over into what follows if no part of it stands there. -/
theorem behindMark?_append_eq_none : ∀ {mark : Mark} {cs : List Char}, mark.Apart ds →
    behindMark? mark cs = none → behindMark? mark (cs ++ ds) = none
  | [], _, _, h => by cases h
  | none :: mark, cs, ⟨whole, parts⟩, h => by
    rw [behindMark?_blanks_eq_none] at h ⊢
    rcases Text.dropWhile_append_eq Text.isBlank cs ds with ⟨behind, _⟩ | ⟨behind, _⟩
    · rw [behind]
      exact behindMark?_append_eq_none parts h
    · rwa [behind, ← behindMark?_blanks_eq_none]
  | some _ :: _, [], ⟨whole, _⟩, _ => whole
  | some _ :: mark, c :: cs, ⟨_, parts⟩, h => by
    rw [List.cons_append]
    rw [behindMark?_char_eq_none] at h ⊢
    exact fun same => behindMark?_append_eq_none parts (h same)

/-! ## Cuts -/

theorem cutAt?_cons_eq_none :
    cutAt? mark (c :: cs) = none ↔ behindMark? mark (c :: cs) = none ∧ cutAt? mark cs = none := by
  rw [cutAt?]
  cases behindMark? mark (c :: cs) with
  | none => simp only [Option.map_eq_none_iff, true_and]
  | some rest => simp

/-- A mark stands only where its first character does. -/
theorem cutAt?_append_eq_none {m : Char} {front : List Char} (other : ∀ c ∈ front, c.toLower ≠ m)
    (unmarked : cutAt? (some m :: mark) cs = none) :
    cutAt? (some m :: mark) (front ++ cs) = none := by
  induction front with
  | nil => exact unmarked
  | cons c front ih =>
    obtain ⟨first, others⟩ := List.forall_mem_cons.mp other
    rw [List.cons_append, cutAt?_cons_eq_none, behindMark?_char_eq_none]
    exact ⟨fun same => absurd same first, ih others⟩

/-- The mark does not stand in what is cut off. -/
theorem cutAt?_before : ∀ {cs before : List Char} {rest : NotLonger cs},
    cutAt? mark cs = some (before, rest) → before <+: cs ∧ cutAt? mark before = none
  | [], _, _, h => by cases h
  | c :: cs, before, rest, h => by
    rw [cutAt?] at h
    cases here : behindMark? mark (c :: cs) with
    | some behind =>
      rw [here] at h
      obtain rfl : [] = before := congrArg Prod.fst (Option.some.inj h)
      exact ⟨List.nil_prefix, rfl⟩
    | none =>
      rw [here] at h
      obtain ⟨⟨before', rest'⟩, later, eq⟩ := Option.map_eq_some_iff.mp h
      obtain rfl : c :: before' = before := congrArg Prod.fst eq
      obtain ⟨⟨ds, rfl⟩, unmarked⟩ := cutAt?_before later
      refine ⟨⟨ds, rfl⟩, cutAt?_cons_eq_none.mpr ⟨?_, unmarked⟩⟩
      exact @behindMark?_eq_none_of_append _ (c :: before') ds here

theorem cutAt?_cons (here : behindMark? mark (c :: cs) = none)
    (later : ∃ short, cutAt? mark cs = some (before, ⟨rest, short⟩)) :
    ∃ short, cutAt? mark (c :: cs) = some (c :: before, ⟨rest, short⟩) := by
  obtain ⟨short, later⟩ := later
  rw [cutAt?, here, later]
  exact ⟨_, rfl⟩

theorem cutAt?_of_suffix (h : cutAt? mark cs = none) (suffix : ds <:+ cs) :
    cutAt? mark ds = none := by
  induction cs with
  | nil => rwa [List.suffix_nil.mp suffix]
  | cons c cs ih =>
    rcases List.suffix_cons_iff.mp suffix with rfl | suffix
    · exact h
    · exact ih (cutAt?_cons_eq_none.mp h).2 suffix

theorem cutAt?_nil_of_behindMark? (filled : cs ≠ [])
    (found : ∃ short, behindMark? mark cs = some ⟨rest, short⟩) :
    ∃ short, cutAt? mark cs = some ([], ⟨rest, short⟩) := by
  obtain ⟨short, found⟩ := found
  obtain ⟨c, cs, rfl⟩ := List.exists_cons_of_ne_nil filled
  rw [cutAt?, found]
  exact ⟨_, rfl⟩

/-- The ending of a mark that begins with a character: there the mark stands, and none of its other
parts does. -/
structure Mark.Closes (mark : Mark) (ending : List Char) : Prop where
  begins : ∃ m, mark.head? = some (some m)
  filled : ending ≠ []
  found : ∀ rest, ∃ short, behindMark? mark (ending ++ rest) = some ⟨rest, short⟩
  apart : ∀ rest, Mark.Apart (ending ++ rest) mark.tail

/-- What does not hold the mark is cut off in front of an ending. -/
theorem Mark.Closes.cutAt?_append (closes : mark.Closes ending)
    (unmarked : cutAt? mark content = none) (rest : List Char) :
    ∃ short, cutAt? mark (content ++ (ending ++ rest)) = some (content, ⟨rest, short⟩) := by
  induction content with
  | nil =>
    rw [List.nil_append]
    exact cutAt?_nil_of_behindMark? (List.append_ne_nil_of_left_ne_nil closes.filled _)
      (closes.found rest)
  | cons c cs ih =>
    obtain ⟨here, later⟩ := cutAt?_cons_eq_none.mp unmarked
    refine cutAt?_cons ?_ (ih later)
    obtain ⟨m, begins⟩ := closes.begins
    obtain ⟨tail, rfl⟩ : ∃ tail, mark = some m :: tail := List.head?_eq_some_iff.mp begins
    rw [behindMark?_char_eq_none] at here ⊢
    exact fun same => behindMark?_append_eq_none (closes.apart rest) (here same)

/-! ## The marks of markup -/

/-- No capital letter has the last character of a tag or a comment as its small letter. -/
theorem eq_of_toLower_eq (h : c.toLower = '>') : c = '>' := by
  rw [Char.toLower] at h
  split at h
  next upper =>
    have low := UInt32.le_iff_toNat_le.mp upper.1
    have high := UInt32.le_iff_toNat_le.mp upper.2
    have sum := congrArg (fun d : Char => d.val.toNat) h
    rw [UInt32.toNat_add] at sum
    simp at low high sum
    omega
  next => exact h

theorem cutAt?_tagEnd_eq_none : cutAt? tagEnd cs = none ↔ '>' ∉ cs := by
  induction cs with
  | nil => exact iff_of_true rfl List.not_mem_nil
  | cons c cs ih =>
    have here : behindMark? tagEnd (c :: cs) = none ↔ '>' ≠ c := by
      rw [tagEnd, behindMark?_char_eq_none]
      constructor
      · rintro other rfl
        cases other rfl
      · exact fun other same => absurd (eq_of_toLower_eq same).symm other
    rw [cutAt?_cons_eq_none, here, ih, List.mem_cons, not_or]

theorem behindMark?_of_not_mem (sign : some '>' ∈ mark) (h : '>' ∉ cs) :
    behindMark? mark cs = none := by
  induction mark generalizing cs with
  | nil => cases sign
  | cons first mark ih =>
    cases first with
    | none =>
      rw [behindMark?_blanks_eq_none]
      apply ih
      · simpa using sign
      · exact fun mem => h ((List.dropWhile_sublist _).subset mem)
    | some m =>
      cases cs with
      | nil => rw [behindMark?]
      | cons c cs =>
        rw [behindMark?_char_eq_none]
        intro same
        by_cases here : m = '>'
        · subst here
          exact absurd (eq_of_toLower_eq same).symm (List.ne_of_not_mem_cons h)
        · apply ih
          · simpa [Ne.symm here] using sign
          · exact List.not_mem_of_not_mem_cons h

/-- A text without the character that ends all constructs holds no mark of one. -/
theorem cutAt?_of_not_mem (sign : some '>' ∈ mark) (h : '>' ∉ content) :
    cutAt? mark content = none := by
  induction content with
  | nil => rfl
  | cons c cs ih =>
    exact cutAt?_cons_eq_none.mpr
      ⟨behindMark?_of_not_mem sign h, ih (List.not_mem_of_not_mem_cons h)⟩

/-- The end of a section holds that of a condition. -/
theorem cutAt?_sectionEnd_of_conditionEnd (h : cutAt? conditionEnd content = none) :
    cutAt? sectionEnd content = none := by
  induction content with
  | nil => rfl
  | cons c cs ih =>
    obtain ⟨_, later⟩ := cutAt?_cons_eq_none.mp h
    refine cutAt?_cons_eq_none.mpr ⟨?_, ih later⟩
    rw [sectionEnd, behindMark?_char_eq_none, behindMark?_blanks_eq_none]
    intro _
    have behind := cutAt?_of_suffix later (List.dropWhile_suffix Text.isBlank)
    cases rest_eq : cs.dropWhile Text.isBlank with
    | nil => rfl
    | cons d ds =>
      rw [rest_eq, cutAt?_cons_eq_none] at behind
      exact behind.1

theorem closes_tagEnd : tagEnd.Closes ['>'] where
  begins := ⟨_, rfl⟩
  filled := nofun
  found _ := ⟨_, rfl⟩
  apart _ := trivial

theorem closes_commentEnd : commentEnd.Closes ['-', '-', '>'] where
  begins := ⟨_, rfl⟩
  filled := nofun
  found _ := ⟨_, rfl⟩
  apart _ := ⟨rfl, rfl, rfl, trivial⟩

theorem closes_sectionEnd : sectionEnd.Closes [']', ']', '>'] where
  begins := ⟨_, rfl⟩
  filled := nofun
  found _ := ⟨_, rfl⟩
  apart _ := ⟨rfl, rfl, rfl, rfl, trivial⟩

theorem closes_elementEnd {name : String} (raw : Tag.isRawName name = true) :
    (elementEnd name).Closes ('<' :: '/' :: (name.toList ++ ['>'])) := by
  rcases Tag.isRawName_iff.mp raw with rfl | rfl
  · exact ⟨⟨_, rfl⟩, nofun, fun _ => ⟨_, rfl⟩,
      fun _ => ⟨rfl, rfl, rfl, rfl, rfl, rfl, rfl, rfl, rfl, rfl, trivial⟩⟩
  · exact ⟨⟨_, rfl⟩, nofun, fun _ => ⟨_, rfl⟩,
      fun _ => ⟨rfl, rfl, rfl, rfl, rfl, rfl, rfl, rfl, rfl, trivial⟩⟩

end Event

end PageComponent
