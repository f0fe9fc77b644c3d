import PageComponent.Proofs.Markup.Outline

/-!
# Scans

A scan lists the elements whose tags pass a test, in document order, and visits them one after the
other in the tree as the earlier visits have left it. An element that has gone with one around it
is passed over. This is the same as a transformation, which never looks at what it drops: the
visits to different elements of the list do not meet.
-/

namespace PageComponent

/-- Nodes whose elements are told apart by labels. -/
inductive Labelled where
  | element (label : Nat) (tag : Tag) (children : List Labelled)
  | text (content : String)
  | verbatim (kind : Verbatim) (content : String)

namespace Labelled

variable {ε : Type} {test : Tag → Bool} {onTag : Tag → Except ε (Option Tag)} {label : Nat}
  {nodes nodes' : List Labelled}

/-! ## Elements by their labels -/

mutual

def plainNode : Labelled → Node
  | .element _ tag children => .element tag (plain children)
  | .text content => .text content
  | .verbatim kind content => .verbatim kind content

/-- The nodes without their labels. -/
def plain : List Labelled → List Node
  | [] => []
  | node :: nodes => plainNode node :: plain nodes

end

mutual

def labelsNode : Labelled → List Nat
  | .element label _ children => label :: labels children
  | .text _ => []
  | .verbatim _ _ => []

/-- The labels, in document order. -/
def labels : List Labelled → List Nat
  | [] => []
  | node :: nodes => labelsNode node ++ labels nodes

end

mutual

def foundNode (test : Tag → Bool) : Labelled → List Nat
  | .element label tag children =>
    if test tag then label :: found test children else found test children
  | .text _ => []
  | .verbatim _ _ => []

/-- The labels of the elements whose tags pass the test, in document order. -/
def found (test : Tag → Bool) : List Labelled → List Nat
  | [] => []
  | node :: nodes => foundNode test node ++ found test nodes

end

mutual

def tagNode? (label : Nat) : Labelled → Option Tag
  | .element other tag children => if other = label then some tag else tag? label children
  | .text _ => none
  | .verbatim _ _ => none

/-- The tag of the element with the label, unless it is gone. -/
def tag? (label : Nat) : List Labelled → Option Tag
  | [] => none
  | node :: nodes => (tagNode? label node).or (tag? label nodes)

end

mutual

def putNode (label : Nat) (tag'? : Option Tag) : Labelled → List Labelled
  | .element other tag children =>
    if other = label then (tag'?.map (.element other · children)).toList
    else [.element other tag (put label tag'? children)]
  | .text content => [.text content]
  | .verbatim kind content => [.verbatim kind content]

/-- The nodes with another tag for the element with the label, or without this element and all that
it contains. -/
def put (label : Nat) (tag'? : Option Tag) : List Labelled → List Labelled
  | [] => []
  | node :: nodes => putNode label tag'? node ++ put label tag'? nodes

end

/-- Acts on the element with the label; if it is gone, nothing happens. -/
def visit (onTag : Tag → Except ε (Option Tag)) (nodes : List Labelled) (label : Nat) :
    Except ε (List Labelled) :=
  match tag? label nodes with
  | none => .ok nodes
  | some tag => do return put label (← onTag tag) nodes

def visitAll (onTag : Tag → Except ε (Option Tag)) (nodes : List Labelled) (visited : List Nat) :
    Except ε (List Labelled) :=
  visited.foldlM (visit onTag) nodes

/-- Lists the elements once and visits each of them. -/
def scan (test : Tag → Bool) (onTag : Tag → Except ε (Option Tag)) (nodes : List Labelled) :
    Except ε (List Labelled) :=
  visitAll onTag nodes (found test nodes)

/-- Acts on the tags that pass the test and leaves the others as they are. -/
def onFound (test : Tag → Bool) (onTag : Tag → Except ε (Option Tag)) (tag : Tag) :
    Except ε (Option Tag) :=
  if test tag then onTag tag else .ok (some tag)

/-! ## Lists of nodes -/

@[simp] theorem labels_append (front rest : List Labelled) :
    labels (front ++ rest) = labels front ++ labels rest := by
  induction front with
  | nil => rfl
  | cons node front ih => simp [labels, ih]

@[simp] theorem found_append (front rest : List Labelled) :
    found test (front ++ rest) = found test front ++ found test rest := by
  induction front with
  | nil => rfl
  | cons node front ih => simp [found, ih]

theorem tag?_append (front rest : List Labelled) :
    tag? label (front ++ rest) = (tag? label front).or (tag? label rest) := by
  induction front with
  | nil => rfl
  | cons node front ih => simp [tag?, ih, Option.or_assoc]

theorem put_append (tag'? : Option Tag) (front rest : List Labelled) :
    put label tag'? (front ++ rest) = put label tag'? front ++ put label tag'? rest := by
  induction front with
  | nil => rfl
  | cons node front ih => simp [put, ih]

theorem found_element (own : Nat) (tag : Tag) (children : List Labelled) :
    found test [element own tag children] =
      if test tag then own :: found test children else found test children := by
  simp [found, foundNode]

/-- Induction on a list of nodes, within each element and behind it. -/
@[elab_as_elim]
theorem listInduction {motive : List Labelled → Prop} (nil : motive [])
    (element : ∀ own tag children nodes, motive children → motive nodes →
      motive (.element own tag children :: nodes))
    (text : ∀ content nodes, motive nodes → motive (.text content :: nodes))
    (verbatim : ∀ kind content nodes, motive nodes → motive (.verbatim kind content :: nodes)) :
    ∀ nodes, motive nodes
  | [] => nil
  | .element own tag children :: nodes =>
    element own tag children nodes (listInduction nil element text verbatim children)
      (listInduction nil element text verbatim nodes)
  | .text content :: nodes => text content nodes (listInduction nil element text verbatim nodes)
  | .verbatim kind content :: nodes =>
    verbatim kind content nodes (listInduction nil element text verbatim nodes)

/-! ## Labels that are there and labels that are not -/

theorem append_subset_append {front front' rest rest' : List Nat} (h : front ⊆ front')
    (h' : rest ⊆ rest') : front ++ rest ⊆ front' ++ rest' := by
  apply List.append_subset.mpr
  exact ⟨List.subset_append_of_subset_left rest' h, List.subset_append_of_subset_right front' h'⟩

theorem found_subset (nodes : List Labelled) : found test nodes ⊆ labels nodes := by
  induction nodes using listInduction with
  | nil => exact List.Subset.refl []
  | element own tag children nodes within after =>
    have here : foundNode test (.element own tag children) ⊆ own :: labels children := by
      rw [foundNode]
      split
      · exact List.cons_subset_cons own within
      · exact List.subset_cons_of_subset own within
    exact append_subset_append here after
  | text content nodes after => exact after
  | verbatim kind content nodes after => exact after

theorem not_mem_labels_element {own : Nat} {tag : Tag} {children : List Labelled} :
    label ∉ labels (.element own tag children :: nodes) ↔
      own ≠ label ∧ label ∉ labels children ∧ label ∉ labels nodes := by
  simp [labels, labelsNode, eq_comm]

theorem tag?_of_not_mem (absent : label ∉ labels nodes) : tag? label nodes = none := by
  induction nodes using listInduction with
  | nil => rfl
  | element own tag children nodes within after =>
    obtain ⟨other, absentWithin, absentAfter⟩ := not_mem_labels_element.mp absent
    simp [tag?, tagNode?, other, within absentWithin, after absentAfter]
  | text content nodes after => exact after absent
  | verbatim kind content nodes after => exact after absent

theorem put_of_not_mem (tag'? : Option Tag) (absent : label ∉ labels nodes) :
    put label tag'? nodes = nodes := by
  induction nodes using listInduction with
  | nil => rfl
  | element own tag children nodes within after =>
    obtain ⟨other, absentWithin, absentAfter⟩ := not_mem_labels_element.mp absent
    simp [put, putNode, other, within absentWithin, after absentAfter]
  | text content nodes after => exact congrArg (.text content :: ·) (after absent)
  | verbatim kind content nodes after => exact congrArg (.verbatim kind content :: ·) (after absent)

theorem labels_put_subset (tag'? : Option Tag) (nodes : List Labelled) :
    labels (put label tag'? nodes) ⊆ labels nodes := by
  induction nodes using listInduction with
  | nil => exact List.Subset.refl []
  | element own tag children nodes within after =>
    have here : labels (putNode label tag'? (.element own tag children)) ⊆
        own :: labels children := by
      rw [putNode]
      split
      · cases tag'? with
        | none => exact List.nil_subset _
        | some tag' => simp [labels, labelsNode]
      · simpa [labels, labelsNode] using List.subset_cons_of_subset own within
    rw [put, labels_append]
    exact append_subset_append here after
  | text content nodes after => exact after
  | verbatim kind content nodes after => exact after

/-! ## Visits -/

/-- A visit to an element that is gone changes nothing. -/
theorem visit_of_not_mem (absent : label ∉ labels nodes) : visit onTag nodes label = .ok nodes := by
  rw [visit, tag?_of_not_mem absent]

theorem visit_append_right {front : List Labelled} (absent : label ∉ labels front)
    (rest : List Labelled) :
    visit onTag (front ++ rest) label = (front ++ ·) <$> visit onTag rest label := by
  rw [visit, visit, tag?_append, tag?_of_not_mem absent, Option.none_or]
  cases tag? label rest with
  | none => rfl
  | some tag =>
    simp only [put_append, put_of_not_mem _ absent]
    cases onTag tag <;> rfl

theorem visit_append_left {rest : List Labelled} (absent : label ∉ labels rest)
    (front : List Labelled) :
    visit onTag (front ++ rest) label = (· ++ rest) <$> visit onTag front label := by
  rw [visit, visit, tag?_append, tag?_of_not_mem absent, Option.or_none]
  cases tag? label front with
  | none => rfl
  | some tag =>
    simp only [put_append, put_of_not_mem _ absent]
    cases onTag tag <;> rfl

theorem visit_within {own : Nat} (other : own ≠ label) (tag : Tag) (children : List Labelled) :
    visit onTag [.element own tag children] label =
      (fun children' => [.element own tag children']) <$> visit onTag children label := by
  have here : tag? label [.element own tag children] = tag? label children := by
    simp [tag?, tagNode?, other]
  rw [visit, visit, here]
  cases tag? label children with
  | none => rfl
  | some found =>
    simp only [put, putNode, if_neg other, List.append_nil]
    cases onTag found <;> rfl

theorem visit_own (own : Nat) (tag : Tag) (children : List Labelled) :
    visit onTag [.element own tag children] own =
      (fun tag'? => (tag'?.map (.element own · children)).toList) <$> onTag tag := by
  have here : tag? own [.element own tag children] = some tag := by simp [tag?, tagNode?]
  simp only [visit, here, put, putNode, if_true, List.append_nil]
  cases onTag tag <;> rfl

theorem labels_visit_subset (h : visit onTag nodes label = .ok nodes') :
    labels nodes' ⊆ labels nodes := by
  rw [visit] at h
  split at h
  next =>
    cases h
    exact List.Subset.refl _
  next =>
    obtain ⟨tag'?, _, h⟩ := bind_eq_ok.mp h
    cases h
    exact labels_put_subset tag'? nodes

/-! ## Lists of visits -/

theorem visitAll_cons (nodes : List Labelled) (label : Nat) (visited : List Nat) :
    visitAll onTag nodes (label :: visited) = (do
      let nodes ← visit onTag nodes label
      visitAll onTag nodes visited) := by
  rw [visitAll, List.foldlM_cons]
  rfl

theorem visitAll_append (nodes : List Labelled) (first second : List Nat) :
    visitAll onTag nodes (first ++ second) = (do
      let nodes ← visitAll onTag nodes first
      visitAll onTag nodes second) := by
  rw [visitAll, List.foldlM_append]
  rfl

theorem visitAll_of_absent {visited : List Nat} (absent : ∀ label ∈ visited, label ∉ labels nodes) :
    visitAll onTag nodes visited = .ok nodes := by
  induction visited with
  | nil => rfl
  | cons label visited ih =>
    obtain ⟨here, behind⟩ := List.forall_mem_cons.mp absent
    rw [visitAll_cons, visit_of_not_mem here]
    exact ih behind

/-- Visits that each act inside a place act there one after the other. -/
theorem visitAll_map {place : List Labelled → List Labelled} {visited : List Nat}
    (inside : ∀ label ∈ visited, ∀ nodes,
      visit onTag (place nodes) label = place <$> visit onTag nodes label)
    (nodes : List Labelled) :
    visitAll onTag (place nodes) visited = place <$> visitAll onTag nodes visited := by
  induction visited generalizing nodes with
  | nil => rfl
  | cons label visited ih =>
    obtain ⟨here, behind⟩ := List.forall_mem_cons.mp inside
    rw [visitAll_cons, visitAll_cons, here]
    cases visit onTag nodes label with
    | error e => rfl
    | ok nodes' => exact ih behind nodes'

theorem labels_visitAll_subset {visited : List Nat} (h : visitAll onTag nodes visited = .ok nodes') :
    labels nodes' ⊆ labels nodes := by
  induction visited generalizing nodes with
  | nil =>
    cases h
    exact List.Subset.refl _
  | cons label visited ih =>
    rw [visitAll_cons] at h
    obtain ⟨middle, first, h⟩ := bind_eq_ok.mp h
    exact List.Subset.trans (ih h) (labels_visit_subset first)

/-! ## Scans -/

/-- The scan of nodes is that of the first ones and that of the others. -/
theorem scan_append {front rest : List Labelled} (distinct : (labels (front ++ rest)).Nodup) :
    scan test onTag (front ++ rest) = (do
      let front' ← scan test onTag front
      let rest' ← scan test onTag rest
      return front' ++ rest') := by
  rw [labels_append] at distinct
  obtain ⟨_, _, apart⟩ := List.nodup_append.mp distinct
  have first : visitAll onTag (front ++ rest) (found test front) =
      (· ++ rest) <$> scan test onTag front := by
    refine @visitAll_map ε onTag (· ++ rest) _ ?_ front
    intro label mem nodes
    exact visit_append_left (fun mem' => apart _ (found_subset front mem) _ mem' rfl) nodes
  rw [scan, found_append, visitAll_append, first]
  cases scanned : scan test onTag front with
  | error e => rfl
  | ok front' =>
    have second : visitAll onTag (front' ++ rest) (found test rest) =
        (front' ++ ·) <$> scan test onTag rest := by
      refine @visitAll_map ε onTag (front' ++ ·) _ ?_ rest
      intro label mem nodes
      apply visit_append_right
      intro mem'
      exact apart _ (labels_visitAll_subset scanned mem') _ (found_subset rest mem) rfl
    refine Eq.trans second ?_
    cases scan test onTag rest <;> rfl

theorem scan_cons {node : Labelled} (distinct : (labels (node :: nodes)).Nodup) :
    scan test onTag (node :: nodes) = (do
      let front' ← scan test onTag [node]
      let rest' ← scan test onTag nodes
      return front' ++ rest') := by
  apply @scan_append ε test onTag [node] nodes
  exact distinct

/-- Within an element that is not visited any more, the scan of what it contains goes on. -/
theorem visitAll_within {own : Nat} {children : List Labelled} (absent : own ∉ labels children)
    (tag : Tag) :
    visitAll onTag [.element own tag children] (found test children) =
      (fun children' => [.element own tag children']) <$> scan test onTag children := by
  refine @visitAll_map ε onTag (fun children' => [.element own tag children']) _ ?_ children
  intro label mem nodes
  apply visit_within
  rintro rfl
  exact absent (found_subset children mem)

/-- The scan of an element looks within it if the element is kept. -/
theorem scan_element {own : Nat} {tag : Tag} {children : List Labelled}
    (absent : own ∉ labels children) :
    scan test onTag [.element own tag children] = (do
      match ← onFound test onTag tag with
      | some tag' =>
        let children' ← scan test onTag children
        return [.element own tag' children']
      | none => return []) := by
  have listed : found test [element own tag children] = _ := found_element own tag children
  cases tested : test tag with
  | false =>
    rw [tested] at listed
    rw [scan, listed, onFound, tested]
    exact visitAll_within absent tag
  | true =>
    rw [tested] at listed
    rw [scan, listed, onFound, tested]
    simp only [if_true, visitAll_cons, visit_own]
    cases onTag tag with
    | error e => rfl
    | ok tag'? =>
      cases tag'? with
      | some tag' => exact visitAll_within absent tag'
      | none =>
        -- what was found within the element is gone with it
        apply visitAll_of_absent
        intro label _
        exact List.not_mem_nil

/-- A scan is the transformation that acts on the tags that pass the test. -/
theorem scan_eq_transformAll (nodes : List Labelled) (distinct : (labels nodes).Nodup) :
    plain <$> scan test onTag nodes =
      Node.transformAll (onFound test onTag) .ok (plain nodes) := by
  induction nodes using listInduction with
  | nil => rfl
  | element own tag children nodes within after =>
    obtain ⟨distinctHere, distinctAfter, _⟩ := List.nodup_append.mp distinct
    obtain ⟨absent, distinctWithin⟩ := List.nodup_cons.mp distinctHere
    rw [scan_cons distinct, scan_element absent, plain, plainNode]
    cases acted : onFound test onTag tag with
    | error e =>
      rw [Node.transformAll_tag_error acted]
      rfl
    | ok tag'? =>
      cases tag'? with
      | none =>
        rw [Node.transformAll_dropped acted, ← after distinctAfter]
        cases scan test onTag nodes <;> rfl
      | some tag' =>
        rw [Node.transformAll_kept acted, ← within distinctWithin, ← after distinctAfter]
        cases scan test onTag children with
        | error e => rfl
        | ok children' => cases scan test onTag nodes <;> rfl
  | text content nodes after =>
    rw [scan_cons distinct, plain, plainNode, Node.transformAll_text rfl, ← after distinct]
    cases scan test onTag nodes <;> rfl
  | verbatim kind content nodes after =>
    rw [scan_cons distinct, plain, plainNode, Node.transformAll_verbatim, ← after distinct]
    cases scan test onTag nodes <;> rfl

/-! ## Numbers in document order -/

mutual

def numberNode (next : Nat) : Node → Labelled
  | .element tag children => .element next tag (number (next + 1) children)
  | .text content => .text content
  | .verbatim kind content => .verbatim kind content

/-- The nodes with their elements numbered in document order, beginning with `next`. -/
def number (next : Nat) : List Node → List Labelled
  | [] => []
  | node :: nodes => numberNode next node :: number (next + (Node.tagsNode node).length) nodes

end

theorem plain_number : ∀ (next : Nat) (nodes : List Node), plain (number next nodes) = nodes
  | _, [] => rfl
  | next, .element tag children :: nodes => by
    have within := plain_number (next + 1) children
    simp [number, numberNode, plain, plainNode, within, plain_number _ nodes]
  | next, .text content :: nodes => by
    simp [number, numberNode, plain, plainNode, plain_number _ nodes]
  | next, .verbatim kind content :: nodes => by
    simp [number, numberNode, plain, plainNode, plain_number _ nodes]

theorem labels_number : ∀ (next : Nat) (nodes : List Node),
    labels (number next nodes) = List.range' next (Node.tags nodes).length
  | _, [] => rfl
  | next, .element tag children :: nodes => by
    have within := labels_number (next + 1) children
    have after := labels_number (next + (Node.tagsNode (.element tag children)).length) nodes
    rw [number, labels, after, numberNode, labelsNode, within, Node.tags, List.length_append,
      ← List.range'_append_1, Node.tagsNode, List.length_cons, List.range'_succ]
  | next, .text content :: nodes => labels_number next nodes
  | next, .verbatim kind content :: nodes => labels_number next nodes

theorem nodup_labels_number (next : Nat) (nodes : List Node) :
    (labels (number next nodes)).Nodup := by
  rw [labels_number]
  exact List.nodup_range'

end Labelled

namespace Node

variable {ε : Type}

/-- Visits the elements whose tags pass the test at the start, each one if it is still there. -/
def scan (test : Tag → Bool) (onTag : Tag → Except ε (Option Tag)) (nodes : List Node) :
    Except ε (List Node) :=
  Labelled.plain <$> Labelled.scan test onTag (Labelled.number 0 nodes)

theorem scan_eq_transformAll (test : Tag → Bool) (onTag : Tag → Except ε (Option Tag))
    (nodes : List Node) :
    scan test onTag nodes = transformAll (Labelled.onFound test onTag) .ok nodes := by
  have distinct := Labelled.nodup_labels_number 0 nodes
  rw [scan, Labelled.scan_eq_transformAll _ distinct, Labelled.plain_number]

end Node

end PageComponent
