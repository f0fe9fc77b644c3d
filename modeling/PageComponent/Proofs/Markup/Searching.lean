import PageComponent.Proofs.Markup.Retagging

/-!
# The first element that passes a test

A search ends at the first tag in document order that passes, and a change is made there. What a
search finds in a retagged tree is retagged too, if the other tag lies within it.
-/

namespace PageComponent.Node

variable {test : Tag → Bool} {tag tag' : Tag} {before : List Tag} {node node' : Node}
  {nodes nodes' : List Node}

theorem findAmong?_element (test : Tag → Bool) (tag : Tag) (children nodes : List Node) :
    findAmong? test (.element tag children :: nodes) =
      if test tag then some (.element tag children)
      else (findAmong? test children).or (findAmong? test nodes) := by
  rw [findAmong?, find?]
  split
  next => exact Option.some_or
  next => rfl

theorem modifyAmong?_element (test : Tag → Bool) (f : Node → Node) (tag : Tag)
    (children nodes : List Node) :
    modifyAmong? test f (.element tag children :: nodes) =
      if test tag then some (f (.element tag children) :: nodes)
      else ((modifyAmong? test f children).map fun children => .element tag children :: nodes).or
        ((modifyAmong? test f nodes).map (.element tag children :: ·)) := by
  rw [modifyAmong?, modify?]
  by_cases passed : test tag = true
  · rw [if_pos passed, if_pos passed]
  · rw [if_neg passed, if_neg passed]
    cases modifyAmong? test f children <;> rfl

theorem findAmong?_eq_none_iff : ∀ {nodes : List Node},
    findAmong? test nodes = none ↔ ∀ tag ∈ tags nodes, test tag = false
  | [] => ⟨fun _ _ mem => (List.not_mem_nil mem).elim, fun _ => rfl⟩
  | .element tag children :: nodes => by
    rw [findAmong?_element, tags, tagsNode, List.cons_append, List.forall_mem_cons,
      List.forall_mem_append, ← findAmong?_eq_none_iff, ← findAmong?_eq_none_iff]
    cases test tag <;> simp
  | .text _ :: nodes | .verbatim _ _ :: nodes => @findAmong?_eq_none_iff nodes

theorem modifyAmong?_eq_none (f : Node → Node) : ∀ nodes : List Node,
    findAmong? test nodes = none → modifyAmong? test f nodes = none
  | [], _ => rfl
  | .element tag children :: nodes, absent => by
    rw [findAmong?_element] at absent
    rw [modifyAmong?_element]
    split at absent
    next => cases absent
    next failed =>
      obtain ⟨inner, outer⟩ := Option.or_eq_none_iff.mp absent
      rw [if_neg failed, modifyAmong?_eq_none f _ inner, modifyAmong?_eq_none f _ outer]
      rfl
  | .text _ :: nodes, absent | .verbatim _ _ :: nodes, absent => by
    have rest : modifyAmong? test f nodes = none := modifyAmong?_eq_none f nodes absent
    rw [modifyAmong?, modify?]
    dsimp only
    rw [rest]
    rfl

theorem exists_of_findAmong? : ∀ nodes : List Node, findAmong? test nodes = some node →
    ∃ tag children, node = .element tag children ∧ test tag = true ∧
      tag :: tags children ⊆ tags nodes
  | [], found => by cases found
  | .element tag children :: nodes, found => by
    rw [findAmong?_element] at found
    rw [tags, tagsNode]
    split at found
    next passed =>
      obtain rfl := Option.some.inj found
      exact ⟨tag, children, rfl, passed, List.subset_append_left _ _⟩
    next =>
      rcases Option.or_eq_some_iff.mp found with inner | ⟨_, outer⟩
      · obtain ⟨tag', children', same, passed, sub⟩ := exists_of_findAmong? _ inner
        exact ⟨tag', children', same, passed, fun _ mem =>
          List.mem_append_left _ (List.mem_cons_of_mem _ (sub mem))⟩
      · obtain ⟨tag', children', same, passed, sub⟩ := exists_of_findAmong? _ outer
        exact ⟨tag', children', same, passed, fun _ mem => List.mem_append_right _ (sub mem)⟩
  | .text _ :: nodes, found | .verbatim _ _ :: nodes, found =>
    exists_of_findAmong? nodes found

/-! ## Changes in one place -/

/-- The nodes with one node for another one, which stands behind the tags `before` in document
order. -/
inductive Replaced (node node' : Node) : List Tag → List Node → List Node → Prop where
  | here (nodes : List Node) : Replaced node node' [] (node :: nodes) (node' :: nodes)
  | within (other : Tag) {before : List Tag} {children children' : List Node} (nodes : List Node)
      (h : Replaced node node' before children children') :
      Replaced node node' (other :: before) (.element other children :: nodes)
        (.element other children' :: nodes)
  | behind (other : Node) {before : List Tag} {nodes nodes' : List Node}
      (h : Replaced node node' before nodes nodes') :
      Replaced node node' (tagsNode other ++ before) (other :: nodes) (other :: nodes')

theorem Retagged.append_right (h : Retagged tag tag' before nodes nodes') (more : List Node) :
    Retagged tag tag' before (nodes ++ more) (nodes' ++ more) := by
  induction h with
  | here children nodes => exact .here children (nodes ++ more)
  | within other nodes inner => exact .within other (nodes ++ more) inner
  | behind node _ ih => exact .behind node ih

theorem Replaced.retagged {within : List Tag} (h : Replaced node node' before nodes nodes')
    (inner : Retagged tag tag' within [node] [node']) :
    Retagged tag tag' (before ++ within) nodes nodes' := by
  induction h with
  | here nodes => exact inner.append_right nodes
  | within other nodes _ ih => exact .within other nodes ih
  | behind other _ ih =>
    rw [List.append_assoc]
    exact .behind other ih

/-- A change is made at the element that a search finds. -/
theorem exists_replaced (f : Node → Node) : ∀ nodes : List Node,
    findAmong? test nodes = some node →
    ∃ before nodes', modifyAmong? test f nodes = some nodes' ∧
      Replaced node (f node) before nodes nodes' ∧ ∀ tag ∈ before, test tag = false
  | [], found => by cases found
  | .element tag children :: nodes, found => by
    rw [findAmong?_element] at found
    rw [modifyAmong?_element]
    split at found
    next passed =>
      obtain rfl := Option.some.inj found
      exact ⟨[], _, if_pos passed, .here nodes, fun _ mem => (List.not_mem_nil mem).elim⟩
    next failed =>
      have tag_failed : test tag = false := Bool.eq_false_iff.mpr failed
      rw [if_neg failed]
      rcases Option.or_eq_some_iff.mp found with inner | ⟨absent, outer⟩
      · obtain ⟨before, children', changed, replaced, unpassed⟩ := exists_replaced f _ inner
        refine ⟨tag :: before, .element tag children' :: nodes, ?_, .within tag nodes replaced,
          List.forall_mem_cons.mpr ⟨tag_failed, unpassed⟩⟩
        rw [changed]
        rfl
      · obtain ⟨before, nodes', changed, replaced, unpassed⟩ := exists_replaced f _ outer
        refine ⟨_, .element tag children :: nodes', ?_, .behind _ replaced, ?_⟩
        · rw [modifyAmong?_eq_none f _ absent, changed]
          rfl
        · exact List.forall_mem_append.mpr ⟨List.forall_mem_cons.mpr
            ⟨tag_failed, findAmong?_eq_none_iff.mp absent⟩, unpassed⟩
  | .text content :: nodes, found => by
    obtain ⟨before, nodes', changed, replaced, unpassed⟩ :=
      exists_replaced f nodes found
    refine ⟨before, .text content :: nodes', ?_, .behind (.text content) replaced, unpassed⟩
    rw [modifyAmong?, modify?]
    dsimp only
    rw [changed]
    rfl
  | .verbatim kind content :: nodes, found => by
    obtain ⟨before, nodes', changed, replaced, unpassed⟩ :=
      exists_replaced f nodes found
    refine ⟨before, .verbatim kind content :: nodes', ?_, .behind (.verbatim kind content) replaced,
      unpassed⟩
    rw [modifyAmong?, modify?]
    dsimp only
    rw [changed]
    rfl

/-! ## Searches in retagged trees -/

theorem findAmong?_cons (test : Tag → Bool) (node : Node) (nodes : List Node) :
    findAmong? test (node :: nodes) = (findAmong? test [node]).or (findAmong? test nodes) := by
  rw [findAmong?, findAmong?, findAmong?, Option.or_none]

/-- A place in two lists behind one another is in the second or in the first one. -/
theorem append_eq_append_cons {α : Type} {xs ys outer inner : List α} {x : α}
    (h : xs ++ ys = outer ++ x :: inner) :
    (∃ mid, outer = xs ++ mid ∧ ys = mid ++ x :: inner) ∨
      ∃ rest, xs = outer ++ x :: rest ∧ inner = rest ++ ys := by
  rcases List.append_eq_append_iff.mp h with behind | ⟨rest, left, right⟩
  · exact .inl behind
  · cases rest with
    | nil => exact .inl ⟨[], by rw [left, List.append_nil, List.append_nil], right.symm⟩
    | cons y rest =>
      obtain ⟨rfl, same⟩ := List.cons.inj right
      exact .inr ⟨rest, left, same⟩

variable {first : Tag}

/-- The first tag that passes is that of the element that is found, and those that follow it are
the tags within the element and behind it. -/
theorem exists_findAmong? (passed : test first = true) :
    ∀ (nodes : List Node) {outer inner : List Tag}, (∀ tag ∈ outer, test tag = false) →
      tags nodes = outer ++ first :: inner →
      ∃ children more, findAmong? test nodes = some (.element first children) ∧
        inner = tags children ++ more
  | [], outer, inner, _, place => by
    have none : outer ++ first :: inner = [] := place.symm
    simp at none
  | .element tag children :: nodes, [], inner, _, place => by
    obtain ⟨rfl, rfl⟩ := List.cons.inj place
    rw [findAmong?_element]
    exact ⟨children, tags nodes, if_pos passed, rfl⟩
  | .element tag children :: nodes, other :: outer, inner, failed, place => by
    obtain ⟨rfl, behind⟩ : tag = other ∧ tags children ++ tags nodes = outer ++ first :: inner :=
      List.cons.inj place
    obtain ⟨tag_failed, outer_failed⟩ := List.forall_mem_cons.mp failed
    rw [findAmong?_element, tag_failed, if_neg Bool.false_ne_true]
    rcases append_eq_append_cons behind with ⟨mid, rfl, after⟩ | ⟨rest, within, rfl⟩
    · obtain ⟨skipped, mid_failed⟩ := List.forall_mem_append.mp outer_failed
      rw [findAmong?_eq_none_iff.mpr skipped, Option.none_or]
      exact exists_findAmong? passed nodes mid_failed after
    · obtain ⟨children', more, found, rfl⟩ :=
        exists_findAmong? passed children outer_failed within
      rw [found]
      exact ⟨children', more ++ tags nodes, Option.some_or, List.append_assoc ..⟩
  | .text _ :: nodes, _, _, failed, place | .verbatim _ _ :: nodes, _, _, failed, place =>
    exists_findAmong? passed nodes failed place

namespace Retagged

/-- The tag that is another one behind the first tag that passes is within the element of that tag
or behind it. -/
theorem exists_findAmong? (passed : test first = true) {place : List Tag}
    (h : Retagged tag tag' place nodes nodes') :
    ∀ {outer inner : List Tag}, place = outer ++ first :: inner →
      (∀ tag ∈ outer, test tag = false) →
      ∃ children, findAmong? test nodes = some (.element first children) ∧
        ((∃ children', findAmong? test nodes' = some (.element first children') ∧
            Retagged tag tag' inner children children') ∨
          ∃ more, inner = tags children ++ more) := by
  induction h with
  | here children nodes =>
    intro outer inner place
    have none : outer ++ first :: inner = [] := place.symm
    simp at none
  | @within other before children children' nodes h ih =>
    intro outer inner place failed
    rw [findAmong?_element, findAmong?_element]
    cases outer with
    | nil =>
      obtain ⟨rfl, rfl⟩ := List.cons.inj place
      rw [passed, if_pos rfl, if_pos rfl]
      exact ⟨children, rfl, .inl ⟨children', rfl, h⟩⟩
    | cons tag outer =>
      obtain ⟨rfl, behind⟩ : other = tag ∧ before = outer ++ first :: inner :=
        List.cons.inj place
      obtain ⟨other_failed, outer_failed⟩ := List.forall_mem_cons.mp failed
      rw [other_failed, if_neg Bool.false_ne_true, if_neg Bool.false_ne_true]
      obtain ⟨found, old, ⟨found', new, inner⟩ | after⟩ := ih behind outer_failed
      · exact ⟨found, Option.or_eq_some_iff.mpr (.inl old), .inl
          ⟨found', Option.or_eq_some_iff.mpr (.inl new), inner⟩⟩
      · exact ⟨found, Option.or_eq_some_iff.mpr (.inl old), .inr after⟩
  | @behind node before nodes nodes' h ih =>
    intro outer inner place failed
    rw [findAmong?_cons test node nodes, findAmong?_cons test node nodes']
    have only : tags [node] = tagsNode node := List.append_nil _
    rcases append_eq_append_cons place with ⟨mid, rfl, after⟩ | ⟨rest, within, rfl⟩
    · obtain ⟨skipped, mid_failed⟩ := List.forall_mem_append.mp failed
      rw [← only] at skipped
      rw [findAmong?_eq_none_iff.mpr skipped, Option.none_or, Option.none_or]
      exact ih after mid_failed
    · obtain ⟨children, more, found, rfl⟩ :=
        Node.exists_findAmong? passed [node] failed (only.trans within)
      rw [found]
      exact ⟨children, Option.some_or, .inr ⟨more ++ before, List.append_assoc ..⟩⟩

/-- The element that is found has the same children, or children that are retagged. -/
theorem findAmong?_children (same : test tag' = test tag)
    (h : Retagged tag tag' before nodes nodes') :
    (findAmong? test nodes').map children = (findAmong? test nodes).map children ∨
      ∃ first inner children children', findAmong? test nodes = some (.element first children) ∧
        findAmong? test nodes' = some (.element first children') ∧
        Retagged tag tag' inner children children' := by
  induction h with
  | here children nodes =>
    rw [findAmong?_element, findAmong?_element, same]
    left
    split <;> rfl
  | @within other _ children children' nodes h ih =>
    rw [findAmong?_element, findAmong?_element]
    split
    next => exact .inr ⟨other, _, children, children', rfl, rfl, h⟩
    next =>
      rcases ih with equal | ⟨first, inner, found, found', old, new, h⟩
      · left
        rw [Option.map_or, Option.map_or, equal]
      · exact .inr ⟨first, inner, found, found', Option.or_eq_some_iff.mpr (.inl old),
          Option.or_eq_some_iff.mpr (.inl new), h⟩
  | @behind node _ nodes nodes' _ ih =>
    rw [findAmong?_cons test node nodes, findAmong?_cons test node nodes']
    cases found : findAmong? test [node] with
    | some element => exact .inl (by rw [Option.some_or, Option.some_or])
    | none =>
      rw [Option.none_or, Option.none_or]
      exact ih

end Retagged

end PageComponent.Node
