import PageComponent.Proofs.Markup.Constructs
import PageComponent.Proofs.Text.Lowercase

/-!
# What readings give

The events of a source name tags and attributes in small letters, and the texts of constructs that
are kept as they are do not end them. An element with raw text comes with its text and its end tag,
unless the source ends within it.
-/

namespace PageComponent

open Text (isMark of_mem_lowerChar)

theorem lowered_lowered (s : String) : lowered (lowered s) = lowered s := by
  have same : ∀ d ∈ s.toList.flatMap Text.lowerChar, Text.lowerChar d = [d] := by
    intro d mem
    obtain ⟨c, _, mem⟩ := List.mem_flatMap.mp mem
    exact (of_mem_lowerChar mem).1
  rw [lowered, lowered, String.toList_ofList, List.flatMap_congr same, List.flatMap_singleton']

/-! ## Names -/

namespace StartTag

variable {c : Char} {cs : List Char}

theorem isAttributeNamePart_of_not_isMark (h : isMark c = false) :
    isAttributeNamePart c = true := by
  simp only [isMark, Bool.or_eq_false_iff, List.contains_eq_mem, List.mem_cons, List.not_mem_nil,
    or_false, decide_eq_false_iff_not, not_or] at h
  simp [isAttributeNamePart, isAttributeStart, h]

theorem isAttributeStart_of_isAttributeNamePart (h : isAttributeNamePart c = true) :
    isAttributeStart c = true := by
  rw [isAttributeNamePart, Bool.and_eq_true] at h
  exact h.1

theorem not_isNameEnd_of_not_isMark (h : isMark c = false) : isNameEnd c = false := by
  rw [Bool.eq_false_iff] at h ⊢
  intro ends
  simp only [isNameEnd, List.contains_iff_mem, List.mem_cons, List.not_mem_nil, or_false] at ends
  rcases ends with rfl | rfl | rfl | rfl | rfl | rfl | rfl | rfl <;> exact h rfl

/-- What holds of the characters of a name and of all that are no marks holds of the characters of
the name in lower case. -/
theorem forall_lowered {p : Char → Prop} (unmarked : ∀ c, isMark c = false → p c)
    (h : ∀ c ∈ cs, p c) : ∀ d ∈ cs.flatMap Text.lowerChar, p d := by
  intro d mem
  obtain ⟨c, mem, small⟩ := List.mem_flatMap.mp mem
  rcases (of_mem_lowerChar small).2 with rfl | other
  · exact h d mem
  · exact unmarked d other

theorem toList_lowered (c : Char) (cs : List Char) :
    (lowered (.ofList (c :: cs))).toList = Text.lowerChar c ++ cs.flatMap Text.lowerChar := by
  rw [lowered, String.toList_ofList, String.toList_ofList, List.flatMap_cons]

theorem isKey_lowered (first : isAttributeStart c = true)
    (others : ∀ d ∈ cs, isAttributeNamePart d = true) : IsKey (lowered (.ofList (c :: cs))) where
  small := lowered_lowered _
  shape := by
    obtain ⟨d, ds, small, unmarked⟩ := Text.exists_lowerChar c
    have start := forall_lowered
      (fun _ other => isAttributeStart_of_isAttributeNamePart
        (isAttributeNamePart_of_not_isMark other)) (List.forall_mem_singleton.mpr first)
    rw [List.flatMap_singleton, small, List.forall_mem_cons] at start
    refine ⟨d, ds ++ cs.flatMap Text.lowerChar, ?_, start.1, List.forall_mem_append.mpr ⟨?_, ?_⟩⟩
    · rw [toList_lowered, small]
      rfl
    · exact fun e mem => isAttributeNamePart_of_not_isMark (unmarked e mem)
    · exact forall_lowered (fun _ => isAttributeNamePart_of_not_isMark) others

theorem isTagName_lowered (first : c.isAlpha = true) (others : ∀ d ∈ cs, isNameEnd d = false) :
    IsTagName (lowered (.ofList (c :: cs))) where
  small := lowered_lowered _
  shape := by
    obtain ⟨small, letter⟩ := Text.lowerChar_of_isAlpha first
    refine ⟨c.toLower, cs.flatMap Text.lowerChar, ?_, letter, ?_⟩
    · rw [toList_lowered, small]
      rfl
    · exact forall_lowered (fun _ => not_isNameEnd_of_not_isMark) others

/-- A start tag as it is read. -/
structure Named (tag : StartTag) : Prop where
  name : IsTagName tag.name
  keys : ∀ entry ∈ tag.attributes, IsKey entry.1

theorem isKey_readAttributes (previous : Char) (cs : List Char) :
    ∀ entry ∈ (readAttributes previous cs).1, IsKey entry.1 := by
  fun_induction readAttributes previous cs with
  | case1 => exact List.forall_mem_nil _
  | case2 previous c cs start _ _ _ name _ _ _ _ _ _ _ _ attributes _ _ read ih =>
    rw [read] at ih
    rw [Bool.and_eq_true] at start
    have key : IsKey (lowered (.ofList name)) :=
      isKey_lowered start.2 fun d mem => (List.mem_takeWhile_imp mem)
    exact List.forall_mem_cons.mpr ⟨key, ih⟩
  | case3 => exact List.forall_mem_nil _

theorem named_of_read {tag : StartTag} {rest : Shorter (c :: cs)} (first : c.isAlpha = true)
    (h : read c cs = .complete tag rest) : tag.Named := by
  have others : ∀ d ∈ cs.takeWhile (!isNameEnd ·), isNameEnd d = false := by
    intro d mem
    have inner : (!isNameEnd d) = true := @List.mem_takeWhile_imp _ (!isNameEnd ·) _ _ mem
    rwa [Bool.not_eq_true'] at inner
  unfold read at h
  dsimp only at h
  split at h
  next =>
    cases h
    exact ⟨isTagName_lowered first others, isKey_readAttributes _ _⟩
  split at h
  next =>
    cases h
    exact ⟨isTagName_lowered first others, isKey_readAttributes _ _⟩
  split at h
  next => cases h
  split at h <;> cases h

end StartTag

namespace Event

variable {mark : Mark} {c : Char} {cs content before : List Char} {event : Event}
  {events more : List Event}

/-! ## Constructs -/

/-- Start tags as they are read, unless raw text follows them, and constructs whose texts do not end
them. Sections are no exception to this only once they are printed. -/
def Lone : Event → Prop
  | .startTag tag => tag.Named ∧ (Tag.isRawName tag.name && !tag.selfClosing) = false
  | .verbatim kind content => kind ≠ .declaration → cutAt? kind.mark content.toList = none
  | .endTag _ | .text _ => True

/-- A reading whose events stand alone. -/
def Reading.Lone {cs : List Char} : Reading cs → Prop
  | .complete events _ => ∀ event ∈ events, event.Lone
  | .broken | .plain => True

theorem Reading.Lone.behind {n : Nat} {reading : Reading (cs.drop n)} (h : reading.Lone) :
    (reading.behind n).Lone := by
  cases reading with
  | complete events rest => exact h
  | broken | plain => trivial

theorem Reading.lone_ofCut {write : List Char → List Event}
    (h : ∀ before, cutAt? mark before = none → ∀ event ∈ write before, event.Lone)
    (cs : List Char) : (Reading.ofCut write (cutAt? mark cs)).Lone := by
  cases cut : cutAt? mark cs with
  | none => trivial
  | some result => exact h _ (cutAt?_before cut).2

theorem lone_verbatim (kind : Verbatim) (h : cutAt? kind.mark content = none) :
    (verbatim kind (.ofList content)).Lone := by
  intro _
  rwa [String.toList_ofList]

theorem lone_comment (h : cutAt? tagEnd content = none) :
    (verbatim .comment (.ofList content)).Lone :=
  lone_verbatim .comment (cutAt?_of_not_mem (by decide) (cutAt?_tagEnd_eq_none.mp h))

theorem lone_ofEndTag (h : cutAt? tagEnd content = none) :
    ∀ event ∈ ofEndTag content, event.Lone := by
  unfold ofEndTag
  dsimp only
  split
  next => exact List.forall_mem_singleton.mpr trivial
  split
  next => exact List.forall_mem_nil _
  split
  next => exact List.forall_mem_singleton.mpr trivial
  next => exact List.forall_mem_singleton.mpr (lone_comment h)

theorem lone_ofSection (h : cutAt? sectionEnd content = none) :
    ∀ event ∈ ofSection content, event.Lone := by
  rw [ofSection]
  split
  next =>
    have inner := cutAt?_of_suffix h (List.drop_suffix 6 content)
    exact List.forall_mem_singleton.mpr (lone_verbatim .characterData inner)
  next => exact List.forall_mem_singleton.mpr fun kept => absurd rfl kept

theorem lone_readSection? {reading : Reading cs} (h : readSection? cs = some reading) :
    reading.Lone := by
  rw [readSection?] at h
  split at h
  next =>
    cases h
    trivial
  split at h
  next =>
    cases h
    exact Reading.lone_ofCut (fun _ => lone_ofSection) cs
  split at h
  next =>
    cases h
    exact Reading.lone_ofCut
      (fun _ cut => lone_ofSection (cutAt?_sectionEnd_of_conditionEnd cut)) cs
  next => cases h

theorem lone_readDeclaration (cs : List Char) : (readDeclaration cs).Lone := by
  have bogus : (Reading.ofCut (fun content => [.verbatim .comment (.ofList content)])
      (cutAt? tagEnd cs)).Lone :=
    Reading.lone_ofCut (fun _ cut => List.forall_mem_singleton.mpr (lone_comment cut)) cs
  rw [readDeclaration]
  split
  next =>
    apply Reading.Lone.behind
    apply Reading.lone_ofCut
    exact fun _ cut => List.forall_mem_singleton.mpr (lone_verbatim .comment cut)
  split
  next =>
    split
    next reading eq => exact (lone_readSection? eq).behind
    next => exact bogus
  split
  next =>
    apply Reading.Lone.behind
    apply Reading.lone_ofCut
    intro before cut
    have inner := cutAt?_of_suffix cut (List.drop_suffix 1 before)
    exact List.forall_mem_singleton.mpr (lone_verbatim .doctype inner)
  next => exact bogus

/-! ## Sources -/

/-- Events that stand alone, and elements with raw text that does not end them. The source may end
within the last of these. -/
inductive Orderly : List Event → Prop where
  | nil : Orderly []
  | lone {event : Event} {events : List Event} (lone : event.Lone) (rest : Orderly events) :
      Orderly (event :: events)
  | raw {tag : StartTag} {content : List Char} {events : List Event} (named : tag.Named)
      (raw : (Tag.isRawName tag.name && !tag.selfClosing) = true)
      (unended : cutAt? (elementEnd tag.name) content = none) (rest : Orderly events) :
      Orderly (.startTag tag :: (texts content ++ .endTag tag.name :: events))
  | unended {tag : StartTag} (named : tag.Named)
      (raw : (Tag.isRawName tag.name && !tag.selfClosing) = true) : Orderly [.startTag tag]

theorem Orderly.append (h : ∀ event ∈ events, event.Lone) (rest : Orderly more) :
    Orderly (events ++ more) := by
  induction events with
  | nil => exact rest
  | cons event events ih =>
    obtain ⟨first, others⟩ := List.forall_mem_cons.mp h
    exact .lone first (ih others)

theorem orderly_texts (cs : List Char) : Orderly (texts cs) := by
  rw [texts]
  split
  next => exact .nil
  next => exact .lone trivial .nil

/-- What is read of an element is in order if nothing follows where the source ends. -/
theorem orderly_readElement {tag : StartTag} (named : tag.Named) (cs : List Char)
    (rest : Orderly more) (ended : (readElement tag cs).2.val = [] → more = []) :
    Orderly ((readElement tag cs).1 ++ more) := by
  rw [readElement] at ended ⊢
  split at ended
  next raw =>
    rw [if_pos raw]
    split at ended
    next content behind cut =>
      have whole := Orderly.raw named raw (cutAt?_before cut).2 rest
      simpa only [List.cons_append, List.append_assoc, List.nil_append] using whole
    next =>
      rw [ended rfl]
      exact .unended named raw
  next lone =>
    rw [if_neg lone]
    exact .lone ⟨named, Bool.eq_false_iff.mpr lone⟩ rest

theorem lone_readConstruct (notLetter : c.isAlpha = false) (cs : List Char) :
    (readConstruct (c :: cs)).Lone := by
  rw [readConstruct, if_neg (Bool.eq_false_iff.mp notLetter)]
  split
  next => exact (Reading.lone_ofCut (fun _ cut => lone_ofEndTag cut) cs).behind
  split
  next =>
    apply Reading.Lone.behind
    apply Reading.lone_ofCut
    exact fun _ cut => List.forall_mem_singleton.mpr (lone_verbatim .instruction cut)
  split
  next => exact (lone_readDeclaration cs).behind
  next => trivial

theorem orderly_readConstruct {rest : NotLonger cs}
    (h : readConstruct cs = .complete events rest) (behind : Orderly more)
    (ended : rest.val = [] → more = []) : Orderly (events ++ more) := by
  cases cs with
  | nil => cases h
  | cons c cs =>
    cases letter : c.isAlpha with
    | false =>
      have lone := lone_readConstruct letter cs
      rw [h] at lone
      exact .append lone behind
    | true =>
      rw [readConstruct, if_pos letter] at h
      split at h
      next tag behind' _ complete =>
        cases h
        exact orderly_readElement (StartTag.named_of_read letter complete) behind' behind ended
      next => cases h
      next =>
        cases h
        exact .lone trivial behind

/-- All that is read of a source is in order. -/
theorem orderly_read (broken : Bool) (cs : List Char) : Orderly (read broken cs) := by
  fun_induction read broken cs with
  | case1 => exact .nil
  | case2 broken cs events rest _ construct ih =>
    refine orderly_readConstruct construct ih ?_
    rintro rfl
    rw [read]
  | case3 broken cs _ _ ih | case4 broken cs _ ih | case5 broken cs _ _ _ _ ih
  | case6 broken cs _ _ ih | case9 broken cs _ _ _ ih =>
    exact .lone trivial ih
  | case7 | case8 | case10 => exact orderly_texts _
  | case11 broken c cs _ _ ih => exact .lone trivial ih

end Event

end PageComponent
