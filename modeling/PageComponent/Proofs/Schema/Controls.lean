import PageComponent.Proofs.Markup.Retagging
import PageComponent.Proofs.Schema.Targets
import PageComponent.Schema.Defaults

/-!
# Controls of a changed declaration

Which controls are kept depends on their names alone. So a declaration with one tag changed, where
its name is not, has the same controls but at most one.
-/

namespace PageComponent

open Node

namespace Schema

variable {c : Control} {seen : List String}

/-! ## Controls that are kept -/

theorem keep_cons (seen : List String) (c : Control) (cs : List Control) :
    (ofControls.keep seen (c :: cs)).1 =
      match c.name? with
      | some name =>
        if seen.contains name then (ofControls.keep seen cs).1
        else c :: (ofControls.keep (name :: seen) cs).1
      | none => c :: (ofControls.keep seen cs).1 := by
  rw [ofControls.keep]
  cases c.name? with
  | none => rfl
  | some name =>
    dsimp only
    split <;> rfl

/-- Whether a control of a name is left out behind others. -/
def IsTaken (name : Option String) (seen : List String) (front : List Control) : Prop :=
  ∃ n, name = some n ∧ (n ∈ seen ∨ name ∈ front.map Control.name?)

/-- In a place behind others, all controls of one name are kept between the same ones, or they are
left out since the name is taken. -/
theorem keep_place (name : Option String) (back : List Control) :
    ∀ (front : List Control) (seen : List String),
      (IsTaken name seen front ∧ ∃ kept, ∀ c : Control, c.name? = name →
        (ofControls.keep seen (front ++ c :: back)).1 = kept) ∨
      ∃ front' back', front' ⊆ front ∧ ∀ c : Control, c.name? = name →
        (ofControls.keep seen (front ++ c :: back)).1 = front' ++ c :: back'
  | [], seen => by
    cases name with
    | none =>
      refine .inr ⟨[], (ofControls.keep seen back).1, List.nil_subset _, fun c unnamed => ?_⟩
      rw [List.nil_append, keep_cons, unnamed]
      rfl
    | some name =>
      by_cases taken : name ∈ seen
      · refine .inl ⟨⟨name, rfl, .inl taken⟩, (ofControls.keep seen back).1, fun c named => ?_⟩
        rw [List.nil_append, keep_cons, named]
        exact if_pos (List.contains_iff_mem.mpr taken)
      · refine .inr ⟨[], (ofControls.keep (name :: seen) back).1, List.nil_subset _,
          fun c named => ?_⟩
        rw [List.nil_append, keep_cons, named]
        exact if_neg (mt List.contains_iff_mem.mp taken)
  | d :: front, seen => by
    by_cases repeated : ∃ other, d.name? = some other ∧ seen.contains other = true
    · obtain ⟨other, named, taken⟩ := repeated
      have left (c : Control) : (ofControls.keep seen (d :: front ++ c :: back)).1 =
          (ofControls.keep seen (front ++ c :: back)).1 := by
        rw [List.cons_append, keep_cons, named]
        exact if_pos taken
      simp only [left]
      rcases keep_place name back front seen with ⟨⟨n, same, mem⟩, out⟩ | ⟨front', back', sub, kept⟩
      · exact .inl ⟨⟨n, same, mem.imp_right (List.mem_cons_of_mem _)⟩, out⟩
      · exact .inr ⟨front', back', List.subset_cons_of_subset d sub, kept⟩
    · have kept (c : Control) : (ofControls.keep seen (d :: front ++ c :: back)).1 =
          d :: (ofControls.keep (d.name?.toList ++ seen) (front ++ c :: back)).1 := by
        rw [List.cons_append, keep_cons]
        cases named : d.name? with
        | none => rfl
        | some other => exact if_neg fun taken => repeated ⟨other, named, taken⟩
      simp only [kept]
      rcases keep_place name back front (d.name?.toList ++ seen) with
        ⟨⟨n, same, mem⟩, out, left⟩ | ⟨front', back', sub, between⟩
      · refine .inl ⟨⟨n, same, ?_⟩, d :: out, fun c named => congrArg (d :: ·) (left c named)⟩
        rcases mem with mem | mem
        · rcases List.mem_append.mp mem with own | mem
          · right
            rw [List.map_cons, same, Option.mem_toList.mp own]
            exact List.mem_cons_self
          · exact .inl mem
        · exact .inr (List.mem_cons_of_mem _ mem)
      · exact .inr ⟨d :: front', back', List.cons_subset_cons d sub,
          fun c named => congrArg (d :: ·) (between c named)⟩

end Schema

/-! ## Controls of retagged elements -/

namespace Control

variable {tag tag' : Tag} {node node' : Node} {inner : List Tag}

/-- Only an input has what edits write in its control. -/
theorem ofNode?_of_agreeOff (agree : Tag.AgreeOff Edit.written tag tag') (h : tag.name ≠ "input")
    (children : List Node) :
    ofNode? (.element tag' children) = ofNode? (.element tag children) := by
  have filled (key : String) (other : key ∉ Edit.written) : tag'.filled? key = tag.filled? key := by
    rw [Tag.filled?, Tag.filled?, agree.get? key other]
  have flag (key : String) (other : key ∉ Edit.written) : tag'.flag key = tag.flag key := by
    rw [Tag.flag, Tag.flag, agree.get? key other]
  rw [ofNode?, ofNode?, agree.name, if_neg h, if_neg h]
  split
  next => rw [ofHeader, ofHeader, filled "condition" (by decide)]
  split
  next => rw [ofSelect, ofSelect, filled "name" (by decide), filled "title" (by decide)]
  split
  next =>
    rw [ofFieldset, ofFieldset, filled "type" (by decide), filled "name" (by decide),
      flag "parallax" (by decide)]
  next => rfl

/-- What an edit writes changes neither whether an element declares a control nor its name. -/
theorem name?_ofNode? (agree : Tag.AgreeOff Edit.written tag tag')
    (h : Retagged tag tag' inner [node] [node']) :
    (ofNode? node').map name? = (ofNode? node).map name? := by
  cases h with
  | here children =>
    by_cases input : tag.name = "input"
    · have name_eq : tag'.filled? "name" = tag.filled? "name" := by
        rw [Tag.filled?, Tag.filled?, agree.get? "name" (by decide)]
      rw [ofNode?, ofNode?, agree.name, input]
      exact congrArg some name_eq
    · rw [ofNode?_of_agreeOff agree input]
  | within other =>
    rw [ofNode?, ofNode?]
    split
    next => rfl
    split
    next => rfl
    split
    next => rfl
    split <;> rfl
  | behind _ h => cases h

/-- The elements that declare controls, and the controls that they declare. -/
inductive Declares (tag : Tag) (children : List Node) : Control → Prop where
  | header (name : tag.name = "header") :
      Declares tag children (ofHeader tag (Node.textContents children))
  | input (name : tag.name = "input") : Declares tag children (ofInput tag)
  | select (name : tag.name = "select") : Declares tag children (ofSelect tag children)
  | fieldset (name : tag.name = "fieldset") : Declares tag children (ofFieldset tag children)

theorem declares_of_ofNode? {c : Control} (h : ofNode? node = some c) :
    ∃ tag children, node = .element tag children ∧ Declares tag children c := by
  cases node with
  | text | verbatim => cases h
  | element tag children =>
    refine ⟨tag, children, rfl, ?_⟩
    rw [ofNode?] at h
    split at h
    next name =>
      obtain rfl := Option.some.inj h
      exact .header name
    split at h
    next name =>
      obtain rfl := Option.some.inj h
      exact .input name
    split at h
    next name =>
      obtain rfl := Option.some.inj h
      exact .select name
    split at h
    next name =>
      obtain rfl := Option.some.inj h
      exact .fieldset name
    next => cases h

theorem isNamed_of_ofNode? {c : Control} {name : String} (declares : ofNode? node = some c)
    (named : c.name? = some name) :
    ∃ tag children, node = .element tag children ∧ tag.isNamed name = true := by
  obtain ⟨tag, children, rfl, kind⟩ := declares_of_ofNode? declares
  have of_filled (h : tag.filled? "name" = some name) : tag.isNamed name = true :=
    beq_iff_eq.mpr (Option.filter_eq_some_iff.mp h).1
  refine ⟨tag, children, rfl, ?_⟩
  cases kind with
  | header => cases named
  | input | select | fieldset => exact of_filled named

end Control

namespace Schema

variable {tag tag' : Tag} {inner : List Tag} {elements elements' : List Node}

/-- Controls that are the same besides one, whose element has the tag in it. -/
inductive Changed (tag : Tag) (elements : List Node) : List Control → List Control → Prop where
  | same (controls : List Control) : Changed tag elements controls controls
  | one {element : Node} {c c' : Control} (front back : List Control)
      (mem : element ∈ elements) (within : tag ∈ tagsNode element)
      (declares : Control.ofNode? element = some c) (named : c'.name? = c.name?) :
      Changed tag elements (front ++ c :: back) (front ++ c' :: back)

theorem changed_of_retagged (agree : Tag.AgreeOff Edit.written tag tag')
    (h : Retagged tag tag' inner elements elements') :
    Changed tag elements (ofControls (elements.filterMap Control.ofNode?)).controls
      (ofControls (elements'.filterMap Control.ofNode?)).controls := by
  obtain ⟨front, node, node', back, _, rfl, rfl, retagged⟩ := h.exists_node
  have names := Control.name?_ofNode? agree retagged
  obtain ⟨after, old, _⟩ := retagged.exists_tags
  have within : tag ∈ tagsNode node := by
    rw [tags, tags, List.append_nil] at old
    simp [old]
  rw [List.filterMap_append, List.filterMap_append, List.filterMap_cons, List.filterMap_cons]
  cases declares : Control.ofNode? node with
  | none =>
    rw [declares] at names
    rw [Option.map_eq_none_iff.mp names]
    exact .same _
  | some c =>
    rw [declares] at names
    obtain ⟨c', declares', named⟩ := Option.map_eq_some_iff.mp names
    rw [declares']
    rcases keep_place c.name? (back.filterMap Control.ofNode?) (front.filterMap Control.ofNode?) []
      with ⟨_, out, left⟩ | ⟨front', back', _, kept⟩
    · have old := left c rfl
      have new := left c' named
      rw [ofControls, ofControls]
      dsimp only
      rw [old, new]
      exact .same _
    · have old := kept c rfl
      have new := kept c' named
      rw [ofControls, ofControls]
      dsimp only
      rw [old, new]
      exact .one front' back' (List.mem_append_right _ List.mem_cons_self) within declares named

end Schema

/-! ## Defaults -/

/-- Entries with a value in the first place of its key. -/
theorem Entries.get?_place {α : Type} {key : String} (value : α) (back : Entries α) :
    ∀ {front : Entries α}, key ∉ keys front →
      get? (front ++ (key, value) :: back) key = some value ∧
      ∀ other ≠ key, get? (front ++ (key, value) :: back) other = get? (front ++ back) other
  | [], _ => ⟨if_pos rfl, fun _ distinct => if_neg (Ne.symm distinct)⟩
  | (first, held) :: front, absent => by
    obtain ⟨here, elsewhere⟩ := get?_place value back (List.not_mem_of_not_mem_cons absent)
    refine ⟨(if_neg (List.ne_of_not_mem_cons absent).symm).trans here, fun other distinct => ?_⟩
    rw [List.cons_append, List.cons_append, get?, get?, elsewhere other distinct]

namespace Schema

/-- The default that a control gives, with its name. -/
def given? (c : Control) : Option (String × Value) :=
  c.name?.bind fun name => c.default?.map (name, ·)

variable {front back : List Control} {name : String} {c c' : Control} {value value' : Value}

/-- The default of a control that is the first of its name stands between those of other ones. -/
theorem exists_defaults (back : List Control) (first : ∀ d ∈ front, d.name? ≠ some name) :
    ∃ before after : Params, name ∉ Entries.keys before ∧
      ∀ c value, c.name? = some name → c.default? = some value →
        (ofControls (front ++ c :: back)).defaults = before ++ (name, value) :: after := by
  rcases keep_place (some name) back front [] with ⟨⟨_, _, taken | mem⟩, _⟩ |
    ⟨front', back', sub, kept⟩
  · cases taken
  · obtain ⟨d, mem, same⟩ := List.mem_map.mp mem
    exact absurd same (first d mem)
  refine ⟨front'.filterMap given?, back'.filterMap given?, ?_, fun c value named given => ?_⟩
  · intro mem
    obtain ⟨entry, given, rfl⟩ := List.mem_map.mp mem
    obtain ⟨d, mem', gives⟩ := List.mem_filterMap.mp given
    obtain ⟨other, named, gives⟩ := Option.bind_eq_some_iff.mp gives
    obtain ⟨_, _, rfl⟩ := Option.map_eq_some_iff.mp gives
    exact first d (sub mem') named
  · have entry : given? c = some (name, value) := by
      rw [given?, named, Option.bind_some, given, Option.map_some]
    have defaults : (ofControls (front ++ c :: back)).defaults =
        (ofControls.keep [] (front ++ c :: back)).1.filterMap given? := rfl
    rw [defaults, kept c named, List.filterMap_append, List.filterMap_cons, entry]

/-- Another control of the name, which is the first of it, gives another default of that name
only. -/
theorem defaults_place (back : List Control) (first : ∀ d ∈ front, d.name? ≠ some name)
    (named : c.name? = some name) (given : c.default? = some value)
    (named' : c'.name? = some name) (given' : c'.default? = some value') :
    let old := (ofControls (front ++ c :: back)).defaults
    let new := (ofControls (front ++ c' :: back)).defaults
    Entries.keys new = Entries.keys old ∧
      (∀ other ≠ name, Entries.get? new other = Entries.get? old other) ∧
      Entries.get? old name = some value ∧ Entries.get? new name = some value' := by
  obtain ⟨before, after, fresh, defaults⟩ := exists_defaults back first
  intro old new
  have old_eq : old = before ++ (name, value) :: after := defaults c value named given
  have new_eq : new = before ++ (name, value') :: after := defaults c' value' named' given'
  obtain ⟨oldHere, oldElsewhere⟩ := Entries.get?_place value after fresh
  obtain ⟨newHere, newElsewhere⟩ := Entries.get?_place value' after fresh
  rw [old_eq, new_eq]
  refine ⟨by simp [Entries.keys], fun other distinct => ?_, oldHere, newHere⟩
  rw [newElsewhere other distinct, oldElsewhere other distinct]

end Schema

end PageComponent
