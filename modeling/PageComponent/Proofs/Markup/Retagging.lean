import PageComponent.Proofs.Markup.Shapes

/-!
# Retagged trees

A tree is retagged if one element has another tag of the same name. The prints of the two trees
nest alike by any rules, so what is read of them differs in that tag only.
-/

namespace PageComponent

/-- Two lists that differ in one place, each in two parts of the same lengths, differ in their first
parts or in their second parts. -/
theorem append_eq_of_one {α : Type} {xs xs' ys ys' before after : List α} {x x' : α}
    (old : xs ++ ys = before ++ x :: after) (new : xs' ++ ys' = before ++ x' :: after)
    (long : xs'.length = xs.length) :
    (∃ inner, xs = before ++ x :: inner ∧ xs' = before ++ x' :: inner ∧ ys' = ys) ∨
      ∃ mid, before = xs ++ mid ∧ xs' = xs ∧ ys = mid ++ x :: after ∧ ys' = mid ++ x' :: after := by
  induction xs generalizing xs' before with
  | nil =>
    obtain rfl := List.length_eq_zero_iff.mp long
    exact .inr ⟨before, rfl, rfl, old, new⟩
  | cons a xs ih =>
    obtain ⟨a', xs', rfl⟩ := List.exists_cons_of_length_eq_add_one long
    have shorter : xs'.length = xs.length := Nat.succ.inj long
    cases before with
    | nil =>
      obtain ⟨rfl, behind⟩ : a = x ∧ xs ++ ys = after := List.cons.inj old
      obtain ⟨rfl, behind'⟩ : a' = x' ∧ xs' ++ ys' = after := List.cons.inj new
      obtain ⟨rfl, rfl⟩ := List.append_inj (behind'.trans behind.symm) shorter
      exact .inl ⟨xs', rfl, rfl, rfl⟩
    | cons b before =>
      obtain ⟨rfl, behind⟩ : a = b ∧ xs ++ ys = before ++ x :: after := List.cons.inj old
      obtain ⟨rfl, behind'⟩ : a' = a ∧ xs' ++ ys' = before ++ x' :: after := List.cons.inj new
      rcases ih behind behind' shorter with ⟨inner, rfl, rfl, same⟩ | ⟨mid, rfl, rfl, rest⟩
      · exact .inl ⟨inner, rfl, rfl, same⟩
      · exact .inr ⟨mid, rfl, rfl, rest⟩

namespace Node

variable {tag tag' : Tag} {before : List Tag} {nodes nodes' : List Node} {keep : Bool}

theorem tags_map_text : ∀ contents : List String, tags (contents.map .text) = []
  | [] => rfl
  | _ :: contents => tags_map_text contents

/-- The nodes with one tag for another one, which stands behind the tags `before` in document
order. -/
inductive Retagged (tag tag' : Tag) : List Tag → List Node → List Node → Prop where
  | here (children nodes : List Node) :
      Retagged tag tag' [] (.element tag children :: nodes) (.element tag' children :: nodes)
  | within (other : Tag) {before : List Tag} {children children' : List Node} (nodes : List Node)
      (h : Retagged tag tag' before children children') :
      Retagged tag tag' (other :: before) (.element other children :: nodes)
        (.element other children' :: nodes)
  | behind (node : Node) {before : List Tag} {nodes nodes' : List Node}
      (h : Retagged tag tag' before nodes nodes') :
      Retagged tag tag' (tagsNode node ++ before) (node :: nodes) (node :: nodes')

namespace Retagged

theorem bare_eq (h : Retagged tag tag' before nodes nodes') (named : tag'.name = tag.name) :
    bare nodes' = bare nodes := by
  induction h with
  | here children nodes =>
    have same : tag'.bare = tag.bare := by rw [Tag.bare, Tag.bare, named]
    rw [bare, bare, bareNode, bareNode, same]
  | within other nodes _ ih => rw [bare, bare, bareNode, bareNode, ih]
  | behind node _ ih => rw [bare, bare, ih]

theorem exists_tags (h : Retagged tag tag' before nodes nodes') :
    ∃ after, tags nodes = before ++ tag :: after ∧ tags nodes' = before ++ tag' :: after := by
  induction h with
  | here children nodes => exact ⟨tags children ++ tags nodes, rfl, rfl⟩
  | within other nodes _ ih =>
    obtain ⟨after, old, new⟩ := ih
    refine ⟨after ++ tags nodes, ?_, ?_⟩
    · rw [tags, tagsNode, old, List.cons_append, List.cons_append, List.append_assoc,
        List.cons_append]
    · rw [tags, tagsNode, new, List.cons_append, List.cons_append, List.append_assoc,
        List.cons_append]
  | behind node _ ih =>
    obtain ⟨after, old, new⟩ := ih
    refine ⟨after, ?_, ?_⟩
    · rw [tags, old, List.append_assoc]
    · rw [tags, new, List.append_assoc]

/-- Trees of one shape whose tags differ in one place are retagged there. -/
theorem of_bare : ∀ {nodes nodes' : List Node} {before after : List Tag},
    bare nodes' = bare nodes → tags nodes = before ++ tag :: after →
    tags nodes' = before ++ tag' :: after → Retagged tag tag' before nodes nodes'
  | [], _, before, _, _, old, _ => by
    have none : before ++ tag :: _ = [] := old.symm
    simp at none
  | node :: nodes, [], _, _, shape, _, _ => by simp [bare] at shape
  | node :: nodes, node' :: nodes', before, after, shape, old, new => by
    obtain ⟨first, rest⟩ := List.cons.inj shape
    cases node with
    | text content =>
      cases node' with
      | text content' =>
        cases first
        exact .behind (.text content) (of_bare rest old new)
      | element | verbatim => cases first
    | verbatim kind content =>
      cases node' with
      | verbatim kind' content' =>
        cases first
        exact .behind (.verbatim kind content) (of_bare rest old new)
      | element | text => cases first
    | element other children =>
      cases node' with
      | text | verbatim => cases first
      | element other' children' =>
        obtain ⟨_, within⟩ := Node.element.inj first
        have long : (tagsNode (.element other' children')).length =
            (tagsNode (.element other children)).length :=
          congrArg Nat.succ (length_tags_of_bare within)
        rcases append_eq_of_one old new long with ⟨inner, here, here', outer⟩ |
          ⟨mid, rfl, same, outer, outer'⟩
        · obtain rfl := eq_of_bare_tags rest outer
          cases before with
          | nil =>
            obtain ⟨rfl, tags_eq⟩ : other = tag ∧ tags children = inner := List.cons.inj here
            obtain ⟨rfl, tags_eq'⟩ : other' = tag' ∧ tags children' = inner := List.cons.inj here'
            obtain rfl := eq_of_bare_tags within (tags_eq'.trans tags_eq.symm)
            exact .here _ _
          | cons first before =>
            obtain ⟨rfl, tags_eq⟩ : other = first ∧ tags children = before ++ tag :: inner :=
              List.cons.inj here
            obtain ⟨rfl, tags_eq'⟩ : other' = other ∧ tags children' = before ++ tag' :: inner :=
              List.cons.inj here'
            exact .within other' _ (of_bare within tags_eq tags_eq')
        · obtain ⟨rfl, inner⟩ : other' = other ∧ tags children' = tags children :=
            List.cons.inj same
          obtain rfl := eq_of_bare_tags within inner
          exact .behind (.element other' children') (of_bare rest outer outer')

theorem written (h : Retagged tag tag' before nodes nodes') (named : tag'.name = tag.name)
    (new : tag'.Written) (old : ∀ node ∈ nodes, node.Written keep) :
    ∀ node ∈ nodes', node.Written keep := by
  induction h generalizing keep with
  | here children nodes =>
    obtain ⟨first, others⟩ := List.forall_mem_cons.mp old
    refine List.forall_mem_cons.mpr ⟨?_, others⟩
    cases first with
    | element _ notRaw within =>
      rw [← named] at notRaw within
      exact .element new notRaw within
    | raw _ raw unended =>
      rw [← named] at raw unended
      exact .raw new raw unended
  | @within other _ children _ nodes inner ih =>
    obtain ⟨first, others⟩ := List.forall_mem_cons.mp old
    refine List.forall_mem_cons.mpr ⟨?_, others⟩
    cases first with
    | element tagged notRaw within => exact .element tagged notRaw (ih within)
    | raw =>
      obtain ⟨_, tags_eq, _⟩ := inner.exists_tags
      rw [tags_map_text] at tags_eq
      simp at tags_eq
  | behind node _ ih =>
    obtain ⟨first, others⟩ := List.forall_mem_cons.mp old
    exact List.forall_mem_cons.mpr ⟨first, ih others⟩

/-- One of the nodes is retagged. -/
theorem exists_node (h : Retagged tag tag' before nodes nodes') :
    ∃ front node node' back inner, nodes = front ++ node :: back ∧
      nodes' = front ++ node' :: back ∧ Retagged tag tag' inner [node] [node'] := by
  induction h with
  | here children nodes => exact ⟨[], _, _, nodes, [], rfl, rfl, .here children []⟩
  | within other nodes inner => exact ⟨[], _, _, nodes, _, rfl, rfl, .within other [] inner⟩
  | behind node _ ih =>
    obtain ⟨front, old, new, back, inner, rfl, rfl, retagged⟩ := ih
    exact ⟨node :: front, old, new, back, inner, rfl, rfl, retagged⟩

/-- If the tag is the first one that passes a test, it is that of the first element that does. -/
theorem of_first {test : Tag → Bool} (passed : test tag = true)
    (h : Retagged tag tag' before nodes nodes') {other : Tag} {children back : List Node}
    (other_passed : test other = true) :
    ∀ {front : List Node}, nodes = front ++ .element other children :: back →
      (∀ t ∈ before, test t = false) → (∀ t ∈ tags front, test t = false) →
      other = tag ∧ nodes' = front ++ .element tag' children :: back := by
  induction h with
  | here content nodes =>
    rintro (_ | ⟨node, front⟩) place _ failed
    · obtain ⟨same, rfl⟩ := List.cons.inj place
      obtain ⟨rfl, rfl⟩ := Node.element.inj same
      exact ⟨rfl, rfl⟩
    · obtain ⟨rfl, _⟩ := List.cons.inj place
      have mem : tag ∈ tags (.element tag content :: front) := List.mem_cons_self
      exact absurd passed (Bool.eq_false_iff.mp (failed tag mem))
  | @within owner _ content _ nodes inner =>
    rintro (_ | ⟨node, front⟩) place unpassed failed
    · obtain ⟨same, rfl⟩ := List.cons.inj place
      obtain ⟨rfl, rfl⟩ := Node.element.inj same
      exact absurd other_passed (Bool.eq_false_iff.mp (unpassed owner List.mem_cons_self))
    · obtain ⟨rfl, _⟩ := List.cons.inj place
      obtain ⟨after, old, _⟩ := inner.exists_tags
      have mem : tag ∈ tags (.element owner content :: front) := by
        rw [tags, tagsNode, old]
        simp
      exact absurd passed (Bool.eq_false_iff.mp (failed tag mem))
  | @behind node _ nodes nodes' inner ih =>
    rintro (_ | ⟨node, front⟩) place unpassed failed
    · obtain ⟨rfl, rfl⟩ := List.cons.inj place
      exact absurd other_passed (Bool.eq_false_iff.mp (unpassed other List.mem_cons_self))
    · obtain ⟨rfl, rest⟩ := List.cons.inj place
      rw [tags, List.forall_mem_append] at failed
      obtain ⟨same, rfl⟩ := ih rest (List.forall_mem_append.mp unpassed).2 failed.2
      exact ⟨same, rfl⟩

end Retagged

/-! ## Reading anew -/

theorem written_of_mem_tags : ∀ {nodes : List Node} {keep : Bool},
    (∀ node ∈ nodes, node.Written keep) → ∀ tag ∈ tags nodes, tag.Written
  | [], _, _ => nofun
  | .text _ :: nodes, _, h | .verbatim _ _ :: nodes, _, h =>
    @written_of_mem_tags nodes _ (List.forall_mem_cons.mp h).2
  | .element tag children :: nodes, keep, h => by
    obtain ⟨first, others⟩ := List.forall_mem_cons.mp h
    rw [tags, tagsNode, List.cons_append, List.forall_mem_cons, List.forall_mem_append]
    cases first with
    | element tagged _ within =>
      exact ⟨tagged, written_of_mem_tags within, written_of_mem_tags others⟩
    | raw tagged =>
      rw [tags_map_text]
      exact ⟨tagged, List.forall_mem_nil _, written_of_mem_tags others⟩

theorem filterMap_start (rules : NestingRules) {tag : Tag} (written : tag.Written)
    (events : List Event) :
    (.startTag tag.start :: events).filterMap (Event.begins? rules) =
      [tag].filter (fun tag => !rules.ignores tag.name) ++
        events.filterMap (Event.begins? rules) := by
  have attributes : TreeBuilder.attributesOf rules tag.start.attributes = tag.attributes :=
    Entries.attributesOf_eq_self rules written.distinct
  have name : tag.start.name = tag.name := rfl
  rw [List.filterMap_cons, Event.begins?, attributes, name]
  cases ignored : rules.ignores tag.name with
  | true => simp [ignored]
  | false => simp [ignored]

/-- The elements that a tree begins when it is nested anew are all but those whose start tags have
no effect. -/
theorem filterMap_events (rules : NestingRules) : ∀ nodes : List Node,
    (∀ tag ∈ tags nodes, tag.Written) →
    (events nodes).filterMap (Event.begins? rules) =
      (tags nodes).filter fun tag => !rules.ignores tag.name
  | [], _ => rfl
  | .element tag children :: nodes, written => by
    rw [tags, tagsNode, List.cons_append, List.forall_mem_cons, List.forall_mem_append] at written
    obtain ⟨start, within, after⟩ := written
    have inner := filterMap_events rules children within
    have outer := filterMap_events rules nodes after
    rw [events, List.filterMap_append, outer, tags, tagsNode, List.filter_append,
      ← List.singleton_append, List.filter_append, ← inner, eventsNode]
    split
    next empty =>
      obtain rfl : children = [] := List.isEmpty_iff.mp (Bool.and_eq_true_iff.mp empty).1
      rw [filterMap_start rules start]
      rfl
    next =>
      rw [filterMap_start rules start, List.filterMap_append]
      congr 2
      exact List.append_nil _
  | .text content :: nodes, written => by
    have none : (Event.texts content.toList).filterMap (Event.begins? rules) = [] := by
      rw [Event.texts]
      split <;> rfl
    rw [events, eventsNode, List.filterMap_append, none]
    exact filterMap_events rules nodes written
  | .verbatim kind content :: nodes, written => filterMap_events rules nodes written

/-- Printing makes no start tags and loses none. -/
theorem filterMap_printed (rules : NestingRules) (nodes : List Node) :
    (printed nodes).filterMap (Event.begins? rules) =
      (events nodes).filterMap (Event.begins? rules) := by
  have same (event : Event) :
      event.printed.filterMap (Event.begins? rules) = (event.begins? rules).toList := by
    cases event with
    | startTag tag => cases h : (Event.startTag tag).begins? rules <;> simp [Event.printed, h]
    | text => rfl
    | verbatim kind content => cases kind <;> rfl
    | endTag name =>
      rcases Event.ofEndTag_cases name.toList with none | ⟨_, one⟩ | ⟨_, one⟩
      · rw [Event.printed, none]
        rfl
      · rw [Event.printed, one]
        rfl
      · rw [Event.printed, one]
        rfl
  rw [printed, List.filterMap_flatMap, List.filterMap_eq_flatMap_toList]
  exact List.flatMap_congr fun event _ => same event

theorem tags_ofEvents_printed (rules : NestingRules) (h : ∀ node ∈ nodes, node.Written keep) :
    tags (ofEvents rules (printed nodes)) =
      (tags nodes).filter fun tag => !rules.ignores tag.name := by
  rw [tags_ofEvents, filterMap_printed, filterMap_events rules nodes (written_of_mem_tags h)]

namespace Retagged

variable {rules : NestingRules}

theorem bare_ofEvents_eq (h : Retagged tag tag' before nodes nodes')
    (named : tag'.name = tag.name) :
    bare (ofEvents rules (printed nodes')) = bare (ofEvents rules (printed nodes)) := by
  rw [bare_ofEvents, bare_ofEvents, ← printed_bare, ← printed_bare, h.bare_eq named]

/-- Trees that are retagged are so again after they are nested anew. -/
theorem ofEvents (h : Retagged tag tag' before nodes nodes') (named : tag'.name = tag.name)
    (old : ∀ node ∈ nodes, node.Written keep) (new : tag'.Written)
    (heeded : rules.ignores tag.name = false) :
    Retagged tag tag' (before.filter fun tag => !rules.ignores tag.name)
      (ofEvents rules (printed nodes)) (ofEvents rules (printed nodes')) := by
  obtain ⟨after, tags_eq, tags_eq'⟩ := h.exists_tags
  apply of_bare (h.bare_ofEvents_eq named)
  · rw [tags_ofEvents_printed rules old, tags_eq, List.filter_append, List.filter_cons_of_pos]
    rw [heeded, Bool.not_false]
  · rw [tags_ofEvents_printed rules (h.written named new old), tags_eq', List.filter_append,
      List.filter_cons_of_pos]
    rw [named, heeded, Bool.not_false]

/-- A tag that has no effect makes no difference. -/
theorem ofEvents_eq (h : Retagged tag tag' before nodes nodes') (named : tag'.name = tag.name)
    (old : ∀ node ∈ nodes, node.Written keep) (new : tag'.Written)
    (ignored : rules.ignores tag.name = true) :
    Node.ofEvents rules (printed nodes') = Node.ofEvents rules (printed nodes) := by
  obtain ⟨after, tags_eq, tags_eq'⟩ := h.exists_tags
  apply eq_of_bare_tags (h.bare_ofEvents_eq named)
  rw [tags_ofEvents_printed rules old, tags_ofEvents_printed rules (h.written named new old),
    tags_eq, tags_eq', List.filter_append, List.filter_append, List.filter_cons_of_neg,
    List.filter_cons_of_neg]
  · rw [ignored, Bool.not_true]
    exact Bool.false_ne_true
  · rw [named, ignored, Bool.not_true]
    exact Bool.false_ne_true

end Retagged

end Node

end PageComponent
