import PageComponent.Proofs.Markup.Transform

/-!
# Outlines

The outline of a tree is its elements without attributes and texts. A tree is pruned by a test on
tags: an element that fails it goes with all that it contains. What is left is seen from the
lineages of the elements, which are the tags on the way to them.
-/

namespace PageComponent.Node

mutual

/-- The node, unless it is an element whose tag fails the test. -/
def pruneNode (keeps : Tag → Bool) : Node → List Node
  | .element tag children => if keeps tag then [.element tag (prune keeps children)] else []
  | .text content => [.text content]
  | .verbatim kind content => [.verbatim kind content]

def prune (keeps : Tag → Bool) : List Node → List Node
  | [] => []
  | node :: nodes => pruneNode keeps node ++ prune keeps nodes

end

mutual

def outlineNode : Node → List Node
  | .element tag children => [.element ⟨tag.name, []⟩ (outline children)]
  | .text _ => []
  | .verbatim _ _ => []

/-- The elements with their names only. -/
def outline : List Node → List Node
  | [] => []
  | node :: nodes => outlineNode node ++ outline nodes

end

mutual

def lineagesNode : Node → List (List Tag)
  | .element tag children => [tag] :: (lineages children).map (tag :: ·)
  | .text _ => []
  | .verbatim _ _ => []

/-- For every element, in document order, the tags of the elements around it and its own, from the
outermost one on. -/
def lineages : List Node → List (List Tag)
  | [] => []
  | node :: nodes => lineagesNode node ++ lineages nodes

end

mutual

def tagsNode : Node → List Tag
  | .element tag children => tag :: tags children
  | .text _ => []
  | .verbatim _ _ => []

/-- The tags of the elements, in document order. -/
def tags : List Node → List Tag
  | [] => []
  | node :: nodes => tagsNode node ++ tags nodes

end

/-! ## Thinning -/

/-- Nodes are thinned if the elements whose tags fail the test are gone, and the tags of the others
are changed within a relation; texts may change in any way. -/
inductive Thinned (keeps : Tag → Bool) (change : Tag → Tag → Prop) :
    List Node → List Node → Prop where
  | nil : Thinned keeps change [] []
  | kept {tag tag' : Tag} {children children' nodes nodes' : List Node} (keep : keeps tag = true)
      (tags : change tag tag') (within : Thinned keeps change children children')
      (after : Thinned keeps change nodes nodes') :
      Thinned keeps change (.element tag children :: nodes) (.element tag' children' :: nodes')
  | dropped {tag : Tag} {children nodes nodes' : List Node} (drop : keeps tag = false)
      (after : Thinned keeps change nodes nodes') :
      Thinned keeps change (.element tag children :: nodes) nodes'
  | text (content content' : String) {nodes nodes' : List Node}
      (after : Thinned keeps change nodes nodes') :
      Thinned keeps change (.text content :: nodes) (.text content' :: nodes')
  | verbatim (kind : Verbatim) (content : String) {nodes nodes' : List Node}
      (after : Thinned keeps change nodes nodes') :
      Thinned keeps change (.verbatim kind content :: nodes) (.verbatim kind content :: nodes')

variable {ε : Type} {onTag : Tag → Except ε (Option Tag)} {onText : String → Except ε String}
  {keeps keeps' : Tag → Bool} {change change' : Tag → Tag → Prop} {nodes nodes' nodes'' : List Node}

/-- A transformation thins a tree by the tags that it keeps. -/
theorem Becomes.thinned (h : Becomes onTag onText nodes nodes')
    (kept : ∀ tag tag', onTag tag = .ok (some tag') → keeps tag = true ∧ change tag tag')
    (dropped : ∀ tag, onTag tag = .ok none → keeps tag = false) :
    Thinned keeps change nodes nodes' := by
  induction h with
  | nil => exact .nil
  | kept tags _ _ within after =>
    obtain ⟨keep, changed⟩ := kept _ _ tags
    exact .kept keep changed within after
  | dropped tags _ after => exact .dropped (dropped _ tags) after
  | text texts _ after => exact .text _ _ after
  | verbatim _ after => exact .verbatim _ _ after

namespace Thinned

theorem refl (same : ∀ tag, change tag tag) :
    ∀ nodes : List Node, Thinned (fun _ => true) change nodes nodes
  | [] => .nil
  | .element tag children :: nodes => .kept rfl (same tag) (refl same children) (refl same nodes)
  | .text content :: nodes => .text content content (refl same nodes)
  | .verbatim kind content :: nodes => .verbatim kind content (refl same nodes)

theorem mono (h : Thinned keeps change nodes nodes') (same : ∀ tag, keeps' tag = keeps tag)
    (weaker : ∀ tag tag', change tag tag' → change' tag tag') :
    Thinned keeps' change' nodes nodes' := by
  induction h with
  | nil => exact .nil
  | kept keep tags _ _ within after =>
    exact .kept ((same _).trans keep) (weaker _ _ tags) within after
  | dropped drop _ after => exact .dropped ((same _).trans drop) after
  | text content content' _ after => exact .text content content' after
  | verbatim kind content _ after => exact .verbatim kind content after

/-- Two thinnings are one by both tests, where the second one is known from the tags that there were
before the first. -/
theorem trans {test : Tag → Bool} (h : Thinned keeps change nodes nodes')
    (h' : Thinned keeps' change' nodes' nodes'')
    (known : ∀ tag tag', change tag tag' → keeps' tag' = test tag) :
    Thinned (fun tag => keeps tag && test tag)
      (fun tag tag'' => ∃ tag', change tag tag' ∧ change' tag' tag'') nodes nodes'' := by
  induction h generalizing nodes'' with
  | nil =>
    cases h'
    exact .nil
  | kept keep tags _ _ within after =>
    cases h' with
    | kept keep' tags' within' after' =>
      rw [known _ _ tags] at keep'
      refine .kept ?_ ⟨_, tags, tags'⟩ (within within') (after after')
      simp only [keep, keep', Bool.and_self]
    | dropped drop' after' =>
      rw [known _ _ tags] at drop'
      refine .dropped ?_ (after after')
      simp only [drop', Bool.and_false]
  | dropped drop _ after =>
    refine .dropped ?_ (after h')
    simp only [drop, Bool.false_and]
  | text content content' _ after =>
    cases h' with
    | text _ content'' after' => exact .text _ _ (after after')
  | verbatim kind content _ after =>
    cases h' with
    | verbatim _ _ after' => exact .verbatim _ _ (after after')

/-- If no name changes, the outline is that of the pruned tree. -/
theorem outline_eq (h : Thinned keeps change nodes nodes')
    (names : ∀ tag tag', change tag tag' → tag'.name = tag.name) :
    outline nodes' = outline (prune keeps nodes) := by
  induction h with
  | nil => rfl
  | kept keep tags _ _ within after =>
    simp only [prune, pruneNode, keep, if_true, List.cons_append, List.nil_append, outline,
      outlineNode, within, after, names _ _ tags]
  | dropped drop _ after =>
    simp only [prune, pruneNode, drop, Bool.false_eq_true, if_false, List.nil_append, after]
  | text content content' _ after =>
    simp only [prune, pruneNode, List.cons_append, List.nil_append, outline, outlineNode, after]
  | verbatim kind content _ after =>
    simp only [prune, pruneNode, List.cons_append, List.nil_append, outline, outlineNode, after]

/-- What is left of a thinned tree was there. -/
theorem mem_tags (h : Thinned keeps change nodes nodes') {tag' : Tag} (mem : tag' ∈ tags nodes') :
    ∃ tag ∈ tags nodes, keeps tag = true ∧ change tag tag' := by
  induction h with
  | nil => exact (List.not_mem_nil mem).elim
  | @kept tag _ children _ nodes _ keep change _ _ within after =>
    simp only [tags, tagsNode, List.cons_append, List.mem_cons, List.mem_append] at mem ⊢
    rcases mem with rfl | mem | mem
    · exact ⟨tag, .inl rfl, keep, change⟩
    · obtain ⟨tag, mem, kept⟩ := within mem
      exact ⟨tag, .inr (.inl mem), kept⟩
    · obtain ⟨tag, mem, kept⟩ := after mem
      exact ⟨tag, .inr (.inr mem), kept⟩
  | dropped drop _ after =>
    obtain ⟨tag, mem, kept⟩ := after mem
    exact ⟨tag, List.mem_append_right _ mem, kept⟩
  | text content content' _ after | verbatim kind content _ after =>
    simp only [tags, tagsNode, List.nil_append] at mem ⊢
    exact after mem

/-- A top-level element is left if there was one that passes the test. -/
theorem isSome_root?_iff (h : Thinned keeps change nodes nodes') :
    (root? nodes').isSome = true ↔ ∃ node ∈ nodes, ∃ tag ∈ node.tag?, keeps tag = true := by
  rw [root?, List.find?_isSome]
  induction h with
  | nil => simp
  | kept keep => exact iff_of_true ⟨_, .head _, rfl⟩ ⟨_, .head _, _, rfl, keep⟩
  | dropped drop _ after =>
    simp only [List.mem_cons, exists_eq_or_imp]
    refine after.trans (or_iff_right ?_).symm
    rintro ⟨_, ⟨⟩, keep⟩
    exact Bool.false_ne_true (drop.symm.trans keep)
  | text _ _ _ after | verbatim _ _ _ after =>
    simp only [List.mem_cons, exists_eq_or_imp]
    refine (or_iff_right Bool.false_ne_true).trans (after.trans (or_iff_right ?_).symm)
    rintro ⟨_, ⟨⟩, _⟩

end Thinned

theorem becomes_self : ∀ nodes : List Node, (∀ tag ∈ tags nodes, onTag tag = .ok (some tag)) →
    Becomes onTag .ok nodes nodes
  | [], _ => .nil
  | .element tag children :: nodes, same => by
    simp only [tags, tagsNode, List.cons_append, List.mem_cons, List.mem_append] at same
    exact .kept (same tag (.inl rfl))
      (becomes_self children fun tag mem => same tag (.inr (.inl mem)))
      (becomes_self nodes fun tag mem => same tag (.inr (.inr mem)))
  | .text _ :: nodes, same => .text rfl (becomes_self nodes same)
  | .verbatim _ _ :: nodes, same => .verbatim (becomes_self nodes same)

/-- A transformation that keeps every tag as it is keeps the tree. -/
theorem transformAll_eq_self (same : ∀ tag ∈ tags nodes, onTag tag = .ok (some tag)) :
    transformAll onTag .ok nodes = .ok nodes :=
  transformAll_eq_ok_iff.mpr (becomes_self nodes same)

/-! ## Lineages -/

/-- The lineages of an outline are those of the tree, with names only. -/
theorem lineages_outline : ∀ nodes : List Node,
    lineages (outline nodes) = (lineages nodes).map (·.map fun tag => ⟨tag.name, []⟩)
  | [] => rfl
  | .element tag children :: nodes => by
    simp only [outline, outlineNode, List.cons_append, List.nil_append, lineages, lineagesNode,
      lineages_outline children, lineages_outline nodes, List.map_append, List.map_cons,
      List.map_map, List.map_nil]
    rfl
  | .text _ :: nodes | .verbatim _ _ :: nodes => by
    simp only [outline, outlineNode, List.nil_append, lineages, lineagesNode,
      lineages_outline nodes]

/-- An element is left in a pruned tree if its own tag and those around it pass the test. -/
theorem lineages_prune (keeps : Tag → Bool) : ∀ nodes : List Node,
    lineages (prune keeps nodes) = (lineages nodes).filter (·.all keeps)
  | [] => rfl
  | .element tag children :: nodes => by
    have after := lineages_prune keeps nodes
    cases keep : keeps tag with
    | true =>
      simp only [prune, pruneNode, keep, if_true, List.cons_append, List.nil_append, lineages,
        lineagesNode, after, lineages_prune keeps children, List.filter_append, List.filter_cons,
        List.all_cons, List.all_nil, Bool.and_self, List.filter_map, Function.comp_def,
        Bool.true_and]
    | false =>
      simp only [prune, pruneNode, keep, Bool.false_eq_true, if_false, List.nil_append, lineages,
        lineagesNode, after, List.cons_append, List.filter_append, List.filter_cons,
        List.all_cons, List.all_nil, Bool.false_and, List.filter_map, Function.comp_def]
      simp
  | .text _ :: nodes | .verbatim _ _ :: nodes => by
    simp only [prune, pruneNode, List.cons_append, List.nil_append, lineages, lineagesNode,
      lineages_prune keeps nodes]

end PageComponent.Node
