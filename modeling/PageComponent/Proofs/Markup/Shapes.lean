import PageComponent.Proofs.Markup.Events

/-!
# Shapes of trees

The shape of a tree is the tree without attributes. How events nest depends on their names alone,
and the tags of the tree that they make are those of the start tags in their order. So trees with
one tag for another one have events that make such trees again, under any nesting rules.
-/

namespace PageComponent

open Event

theorem Entries.attributesOf_eq_self (rules : NestingRules) {es : Entries String}
    (h : (keys es).Nodup) : TreeBuilder.attributesOf rules es = es := by
  have appended : ∀ (rest front : Entries String), (keys (front ++ rest)).Nodup →
      rest.foldl (fun es e => if contains es e.1 then es else set es e.1 e.2) front =
        front ++ rest := by
    intro rest
    induction rest with
    | nil => exact fun front _ => (List.append_nil front).symm
    | cons e rest ih =>
      intro front distinct
      rw [List.append_cons] at distinct ⊢
      have fresh : e.1 ∉ keys front := by
        rw [keys, List.append_assoc, List.map_append, List.nodup_append] at distinct
        exact fun mem => distinct.2.2 _ mem _ List.mem_cons_self rfl
      have absent : contains front e.1 = false := by
        rw [contains, Bool.eq_false_iff, ne_eq, ← mem_keys]
        exact fresh
      rw [List.foldl_cons, absent, if_neg Bool.false_ne_true, set_of_not_mem fresh]
      exact ih _ distinct
  rw [TreeBuilder.attributesOf]
  split
  next => exact ofPairs_eq_self h
  next => exact appended es [] h

/-! ## Shapes -/

def Tag.bare (tag : Tag) : Tag :=
  ⟨tag.name, []⟩

def Event.bare : Event → Event
  | .startTag tag => .startTag ⟨tag.name, [], tag.selfClosing⟩
  | event => event

namespace Node

mutual

def bareNode : Node → Node
  | .element tag children => .element tag.bare (bare children)
  | .text content => .text content
  | .verbatim kind content => .verbatim kind content

/-- The nodes without attributes. -/
def bare : List Node → List Node
  | [] => []
  | node :: nodes => bareNode node :: bare nodes

end

variable {nodes nodes' : List Node}

theorem bare_eq_map : ∀ nodes : List Node, bare nodes = nodes.map bareNode
  | [] => rfl
  | node :: nodes => congrArg (bareNode node :: ·) (bare_eq_map nodes)

theorem bare_reverse (nodes : List Node) : bare nodes.reverse = (bare nodes).reverse := by
  rw [bare_eq_map, bare_eq_map, List.map_reverse]

theorem tags_append : ∀ front nodes : List Node, tags (front ++ nodes) = tags front ++ tags nodes
  | [], _ => rfl
  | node :: front, nodes => by
    rw [List.cons_append, tags, tags, tags_append front nodes, List.append_assoc]

theorem mem_tags {tag : Tag} {children : List Node} : ∀ {nodes : List Node},
    .element tag children ∈ nodes → tag ∈ tags nodes
  | node :: nodes, mem => by
    rcases List.mem_cons.mp mem with rfl | mem
    · exact List.mem_cons_self
    · exact List.mem_append_right _ (mem_tags mem)

theorem tags_bare : ∀ nodes : List Node, tags (bare nodes) = (tags nodes).map Tag.bare
  | [] => rfl
  | .element tag children :: nodes => by
    rw [bare, bareNode, tags, tagsNode, tags, tagsNode, tags_bare children, tags_bare nodes,
      List.map_append, List.map_cons]
  | .text _ :: nodes | .verbatim _ _ :: nodes => tags_bare nodes

theorem length_tags_of_bare (h : bare nodes = bare nodes') :
    (tags nodes).length = (tags nodes').length := by
  have same := congrArg (List.length ∘ tags) h
  simpa only [Function.comp_apply, tags_bare, List.length_map] using same

theorem events_bare : ∀ nodes : List Node, events (bare nodes) = (events nodes).map Event.bare
  | [] => rfl
  | .element tag children :: nodes => by
    have empty : (bare children).isEmpty = children.isEmpty := by cases children <;> rfl
    have named : tag.bare.name = tag.name := rfl
    rw [bare, bareNode, events, events, eventsNode, eventsNode, events_bare children,
      events_bare nodes, empty, named, List.map_append]
    congr 1
    split
    next => rfl
    next =>
      rw [List.map_cons, List.map_append]
      rfl
  | .text content :: nodes => by
    have same : (texts content.toList).map Event.bare = texts content.toList := by
      rw [texts]
      split <;> rfl
    rw [bare, bareNode, events, events, eventsNode, events_bare nodes, List.map_append, same]
  | .verbatim kind content :: nodes => by
    rw [bare, bareNode, events, events, eventsNode, events_bare nodes, List.map_append]
    rfl

theorem printed_bare (nodes : List Node) :
    printed (bare nodes) = (printed nodes).map Event.bare := by
  have same (event : Event) : event.bare.printed = event.printed.map Event.bare := by
    cases event with
    | startTag | text => rfl
    | verbatim kind content => cases kind <;> rfl
    | endTag name =>
      have bare : (Event.endTag name).bare = .endTag name := rfl
      rw [bare, Event.printed]
      rcases ofEndTag_cases name.toList with none | ⟨_, one⟩ | ⟨_, one⟩
      · rw [none]
        rfl
      · rw [one]
        rfl
      · rw [one]
        rfl
  rw [printed, printed, events_bare, List.flatMap_map, List.map_flatMap]
  exact List.flatMap_congr fun event _ => same event

theorem sealed_of_bare (h : bare nodes' = bare nodes) (old : Sealed nodes) : Sealed nodes' := by
  have unchanged (content : String) (nodes : List Node) :
      Event.verbatim .declaration content ∈ (events nodes).map Event.bare ↔
        .verbatim .declaration content ∈ events nodes := by
    rw [List.mem_map]
    constructor
    · rintro ⟨event, mem, same⟩
      cases event with
      | startTag => cases same
      | endTag | text | verbatim => exact same ▸ mem
    · exact fun mem => ⟨_, mem, rfl⟩
  intro content mem
  rw [← unchanged, ← events_bare, h, events_bare, unchanged] at mem
  exact old content mem

/-- A tree is determined by its shape and its tags. -/
theorem eq_of_bare_tags : ∀ {nodes nodes' : List Node}, bare nodes = bare nodes' →
    tags nodes = tags nodes' → nodes = nodes'
  | [], [], _, _ => rfl
  | [], _ :: _, h, _ | _ :: _, [], h, _ => by simp [bare] at h
  | node :: nodes, node' :: nodes', shape, same => by
    obtain ⟨first, rest⟩ := List.cons.inj shape
    cases node with
    | element tag children =>
      cases node' with
      | element tag' children' =>
        obtain ⟨_, within⟩ := Node.element.inj first
        rw [tags, tags, tagsNode, tagsNode, List.cons_append, List.cons_append] at same
        obtain ⟨rfl, others⟩ := List.cons.inj same
        obtain ⟨inner, outer⟩ := List.append_inj others (length_tags_of_bare within)
        rw [eq_of_bare_tags within inner, eq_of_bare_tags rest outer]
      | text | verbatim => cases first
    | text content =>
      cases node' with
      | text content' =>
        cases first
        rw [eq_of_bare_tags rest same]
      | element | verbatim => cases first
    | verbatim kind content =>
      cases node' with
      | verbatim kind' content' =>
        cases first
        rw [eq_of_bare_tags rest same]
      | element | text => cases first

end Node

/-! ## Nesting -/

def OpenElement.bare (e : OpenElement) : OpenElement :=
  ⟨e.tag.bare, Node.bare e.children⟩

namespace TreeBuilder

/-- The state without attributes. -/
def bare (b : TreeBuilder) : TreeBuilder :=
  { b with stack := b.stack.map OpenElement.bare, nodes := Node.bare b.nodes }

variable (rules : NestingRules) (b : TreeBuilder)

theorem bare_add (node : Node) : (b.add node).bare = b.bare.add node.bareNode := by
  obtain ⟨stack, nodes, pending, awaited⟩ := b
  cases stack <;> rfl

theorem bare_shrink (content : String) : b.bare.shrink content = b.shrink content := by
  rw [shrink, shrink, bare, List.any_map]
  rfl

theorem bare_flush : b.flush.bare = b.bare.flush := by
  cases pending : b.pending with
  | none =>
    have bare_pending : b.bare.pending = none := pending
    rw [flush, flush, pending, bare_pending]
  | some content =>
    have bare_pending : b.bare.pending = some content := pending
    rw [flush, flush, pending, bare_pending]
    dsimp only
    rw [bare_add, bare_shrink]
    rfl

theorem bare_close : b.close.bare = b.bare.close := by
  obtain ⟨stack, nodes, pending, awaited⟩ := b
  cases stack with
  | nil => rfl
  | cons e stack =>
    rw [close]
    dsimp only
    rw [bare_add, Node.bareNode, Node.bare_reverse]
    rfl

theorem bare_closeMany (n : Nat) : (closeMany n b).bare = closeMany n b.bare := by
  induction n generalizing b with
  | zero => rfl
  | succ n ih => rw [closeMany, closeMany, ih, bare_close]

theorem takeWhile_bare (p : String → Bool) (stack : List OpenElement) :
    (stack.map OpenElement.bare).takeWhile (p ·.tag.name) =
      (stack.takeWhile (p ·.tag.name)).map OpenElement.bare :=
  List.takeWhile_map

theorem bare_closeNamed (name : String) :
    (closeNamed rules b name).bare = closeNamed rules b.bare name := by
  have stack : b.bare.stack = b.stack.map OpenElement.bare := rfl
  rw [closeNamed, closeNamed, stack, takeWhile_bare (· ≠ name), List.length_map, List.length_map,
    List.all_map]
  split
  next h => exact (bare_closeMany b _).trans (if_pos h).symm
  next h => exact (if_neg h).symm

theorem bare_endTag (name : String) : (endTag rules b name).bare = endTag rules b.bare name := by
  have awaited : b.bare.awaited = b.awaited := rfl
  rw [endTag, endTag, awaited]
  split
  next => rfl
  next => rw [bare_closeNamed, bare_flush]

theorem attributesOf_nil : attributesOf rules [] = [] := by
  rw [attributesOf]
  split <;> rfl

/-- The state within an element that begins, when those that its start tag ends are ended. -/
def begun (tag : StartTag) : TreeBuilder :=
  (closeMany (b.flush.stack.takeWhile (rules.closes tag.name ·.tag.name)).length b.flush).opened
    ⟨tag.name, attributesOf rules tag.attributes⟩

theorem startTag_eq_begun (tag : StartTag) :
    startTag rules b tag =
      if rules.ignores tag.name then b
      else if tag.selfClosing then endTag rules (begun rules b tag) tag.name
      else if rules.isVoid tag.name then
        (begun rules b tag).close.awaiting
          (if rules.awaitsEnd then (begun rules b tag).awaited ++ [tag.name]
            else (begun rules b tag).awaited)
      else begun rules b tag :=
  rfl

theorem bare_begun (tag : StartTag) :
    (begun rules b tag).bare = begun rules b.bare ⟨tag.name, [], tag.selfClosing⟩ := by
  have stack : b.flush.bare.stack = b.flush.stack.map OpenElement.bare := rfl
  have opened (b : TreeBuilder) (tag : Tag) : (b.opened tag).bare = b.bare.opened tag.bare := rfl
  rw [begun, begun, ← bare_flush, stack, takeWhile_bare (rules.closes tag.name), List.length_map,
    opened, bare_closeMany, attributesOf_nil]
  rfl

theorem bare_startTag (tag : StartTag) :
    (startTag rules b tag).bare = startTag rules b.bare ⟨tag.name, [], tag.selfClosing⟩ := by
  rw [startTag_eq_begun, startTag_eq_begun, ← bare_begun]
  split
  next => rfl
  split
  next => exact bare_endTag rules _ _
  split
  next => exact congrArg (awaiting · _) (bare_close _)
  next => rfl

theorem bare_step (event : Event) : (step rules b event).bare = step rules b.bare event.bare := by
  cases event with
  | startTag tag => exact bare_startTag rules b tag
  | endTag name => exact bare_endTag rules b name
  | text content => rfl
  | verbatim kind content =>
    have same : (Event.verbatim kind content).bare = .verbatim kind content := rfl
    rw [step, same, step, bare_add, ← bare_flush, bare_shrink]
    rfl

theorem bare_finish : Node.bare b.finish = b.bare.finish := by
  have nodes (b : TreeBuilder) : b.bare.nodes = Node.bare b.nodes := rfl
  have stack (b : TreeBuilder) : b.bare.stack.length = b.stack.length := List.length_map _
  rw [finish, finish, Node.bare_reverse, ← bare_flush, stack, ← bare_closeMany, nodes]

end TreeBuilder

namespace Node

/-- How events nest does not depend on attributes. -/
theorem bare_ofEvents (rules : NestingRules) (events : List Event) :
    bare (ofEvents rules events) = ofEvents rules (events.map Event.bare) := by
  have folded (b : TreeBuilder) : (events.foldl (TreeBuilder.step rules) b).bare =
      (events.map Event.bare).foldl (TreeBuilder.step rules) b.bare := by
    induction events generalizing b with
    | nil => rfl
    | cons event events ih =>
      rw [List.map_cons, List.foldl_cons, List.foldl_cons, ih, TreeBuilder.bare_step]
  rw [ofEvents, ofEvents, TreeBuilder.bare_finish, folded]
  rfl

end Node

/-! ## Tags in their order -/

/-- The tag of the element that an event begins. -/
def Event.begins? (rules : NestingRules) : Event → Option Tag
  | .startTag tag =>
    if rules.ignores tag.name then none
    else some ⟨tag.name, TreeBuilder.attributesOf rules tag.attributes⟩
  | _ => none

namespace TreeBuilder

/-- The tags of open elements and what they contain so far. -/
def openTags : List OpenElement → List Tag
  | [] => []
  | e :: stack => openTags stack ++ e.tag :: Node.tags e.children.reverse

/-- The tags so far in document order. -/
def tags (b : TreeBuilder) : List Tag :=
  Node.tags b.nodes.reverse ++ openTags b.stack

variable (rules : NestingRules) (b : TreeBuilder)

theorem tags_add (node : Node) : (b.add node).tags = b.tags ++ Node.tagsNode node := by
  obtain ⟨stack, nodes, pending, awaited⟩ := b
  have one : Node.tags [node] = Node.tagsNode node := List.append_nil _
  cases stack with
  | nil =>
    rw [add, tags, tags]
    dsimp only
    rw [List.reverse_cons, Node.tags_append, one, openTags, List.append_nil, List.append_nil]
  | cons e stack =>
    rw [add, tags, tags]
    dsimp only
    rw [openTags, openTags, List.reverse_cons, Node.tags_append, one]
    simp only [List.append_assoc, List.cons_append]

theorem tags_flush : b.flush.tags = b.tags := by
  rw [flush]
  split
  next => exact (tags_add _ _).trans (List.append_nil _)
  next => rfl

theorem tags_close : b.close.tags = b.tags := by
  obtain ⟨stack, nodes, pending, awaited⟩ := b
  cases stack with
  | nil => rfl
  | cons e stack =>
    rw [close]
    dsimp only
    rw [tags_add, tags, tags]
    dsimp only
    rw [openTags, Node.tagsNode, List.append_assoc]

theorem tags_closeMany (n : Nat) : (closeMany n b).tags = b.tags := by
  induction n generalizing b with
  | zero => rfl
  | succ n ih => rw [closeMany, ih, tags_close]

theorem length_stack_close : b.close.stack.length = b.stack.length - 1 := by
  obtain ⟨stack, nodes, pending, awaited⟩ := b
  rcases stack with _ | ⟨_, _ | _⟩ <;> rfl

theorem length_stack_closeMany (n : Nat) :
    (closeMany n b).stack.length = b.stack.length - n := by
  induction n generalizing b with
  | zero => rfl
  | succ n ih =>
    rw [closeMany, ih, length_stack_close, Nat.sub_sub, Nat.add_comm]

/-- What is open at the end is ended there. -/
theorem tags_finish : Node.tags b.finish = b.tags := by
  have ended : (closeMany b.flush.stack.length b.flush).stack = [] := by
    apply List.length_eq_zero_iff.mp
    rw [length_stack_closeMany, Nat.sub_self]
  rw [finish, ← tags_flush b, ← tags_closeMany b.flush b.flush.stack.length, tags, ended, openTags,
    List.append_nil]

theorem tags_endTag (name : String) : (endTag rules b name).tags = b.tags := by
  rw [endTag]
  split
  next => rfl
  rw [closeNamed]
  split
  next => rw [tags_closeMany, tags_flush]
  next => exact tags_flush b

theorem tags_begun (tag : StartTag) : (begun rules b tag).tags =
    b.tags ++ [⟨tag.name, attributesOf rules tag.attributes⟩] := by
  have opened (b : TreeBuilder) (tag : Tag) : (b.opened tag).tags = b.tags ++ [tag] := by
    rw [tags, tags, TreeBuilder.opened, openTags, List.append_assoc]
    rfl
  rw [begun, opened, tags_closeMany, tags_flush]

theorem tags_step (event : Event) :
    (step rules b event).tags = b.tags ++ (event.begins? rules).toList := by
  cases event with
  | startTag tag =>
    rw [step, startTag_eq_begun, begins?]
    split
    next => exact (List.append_nil _).symm
    rw [Option.toList_some, ← tags_begun]
    split
    next => exact tags_endTag rules _ _
    split
    next => exact tags_close (begun rules b tag)
    next => rfl
  | endTag name => exact (tags_endTag rules b name).trans (List.append_nil _).symm
  | text content => exact (List.append_nil _).symm
  | verbatim kind content =>
    rw [step, tags_add, tags_flush]
    rfl

end TreeBuilder

namespace Node

theorem tags_ofEvents (rules : NestingRules) (events : List Event) :
    tags (ofEvents rules events) = events.filterMap (Event.begins? rules) := by
  have folded (b : TreeBuilder) : (events.foldl (TreeBuilder.step rules) b).tags =
      b.tags ++ events.filterMap (Event.begins? rules) := by
    induction events generalizing b with
    | nil => exact (List.append_nil _).symm
    | cons event events ih =>
      rw [List.foldl_cons, ih, TreeBuilder.tags_step, List.append_assoc, List.filterMap_cons]
      cases event.begins? rules <;> rfl
  rw [ofEvents, TreeBuilder.tags_finish, folded]
  rfl

end Node

end PageComponent
