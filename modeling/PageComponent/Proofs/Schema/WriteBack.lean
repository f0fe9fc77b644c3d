import PageComponent.Proofs.Schema.Controls
import PageComponent.Proofs.Value.Showing

/-!
# Writing back

What is read of a template after an edit. One control differs at most, and the value that is
written is the new default of its control if the control is an input: selections and field sets
keep no value in their own tags.
-/

namespace PageComponent

open Node

namespace Schema

/-- What there is in the declaration of a template. -/
def elements? (nodes : List Node) : Option (List Node) :=
  (findAmong? Tag.isDeclaration nodes).map children

theorem ofNodes_eq (nodes : List Node) :
    ofNodes nodes = match elements? nodes with
      | some elements => ofControls (elements.filterMap Control.ofNode?)
      | none => empty := by
  rw [ofNodes, elements?]
  cases findAmong? Tag.isDeclaration nodes <;> rfl

end Schema

/-- Whether the start tag of an element has an effect in a declaration. -/
def Tag.isHeeded (tag : Tag) : Bool :=
  !NestingRules.declared.ignores tag.name

/-- Templates that declare the same when they are written out again as they are. No section of them
ends its print too early, and what stands in the first declaration is nested as it was. -/
structure Rewritable (template : String) : Prop where
  sections : Node.Sealed (ofSource template)
  elements : Schema.elements? (ofDeclarations (printAll (ofSource template))) =
    Schema.elements? (ofDeclarations template)

namespace Rewritable

/-- A declaration of a colour and a selection. -/
def sample : List Node :=
  [.element ⟨"mbr-parameters", []⟩
    [.element ⟨"input", [("type", "color"), ("name", "ink"), ("value", "#fff")]⟩ [],
      .element ⟨"select", [("name", "align")]⟩
        [.element ⟨"option", []⟩ [.text "left"], .element ⟨"option", []⟩ [.text "right"]]],
    .element ⟨"p", []⟩ []]

theorem authored_sample : Authored false sample :=
  .element ⟨by decide, by decide, by decide, rfl⟩ (by decide)
    (.element ⟨by decide, by decide, by decide, rfl⟩ (by decide) .nil
      (.element ⟨by decide, by decide, by decide, rfl⟩ (by decide)
        (.element ⟨by decide, by decide, by decide, rfl⟩ (by decide) (.text .nil)
          (.element ⟨by decide, by decide, by decide, rfl⟩ (by decide) (.text .nil) .nil))
        .nil))
    (.element ⟨by decide, by decide, by decide, rfl⟩ (by decide) .nil .nil)

theorem ofSource_sample : ofSource (printAll sample) = sample := by
  rw [ofSource, ofEvents_printAll authored_sample.written authored_sample.sealed]
  rfl

theorem ofDeclarations_sample : ofDeclarations (printAll sample) = sample := by
  rw [ofDeclarations, ofEvents_printAll authored_sample.written authored_sample.sealed]
  rfl

theorem of_sample : Rewritable (printAll sample) where
  sections := by
    rw [ofSource_sample]
    exact authored_sample.sealed
  elements := by rw [ofSource_sample]

end Rewritable

variable {e : Edit} {f : Tag → Tag} {template : String} {tag declaration : Tag}
  {outer inner : List Tag} {nodes' : List Node}

namespace Edit

/-- Declarations are read of the template before and after an edit with one tag changed, or they are
the same since that tag has no effect. -/
theorem Changes.declarations (sections : Node.Sealed (ofSource template))
    (writes : e.write = .ok f)
    (changes : e.Changes f tag declaration outer inner (ofSource template) nodes') :
    (tag.isHeeded = false ∧
        ofDeclarations (printAll nodes') = ofDeclarations (printAll (ofSource template))) ∨
      (tag.isHeeded = true ∧
        Retagged tag (f tag) ((outer ++ declaration :: inner).filter Tag.isHeeded)
          (ofDeclarations (printAll (ofSource template))) (ofDeclarations (printAll nodes'))) := by
  obtain ⟨after, place, _⟩ := changes.retagged.exists_tags
  have written := written_ofSource template
  have old : tag.Written := written_of_mem_tags written tag (by simp [place])
  have new : (f tag).Written := written_of_write writes old
  have named : (f tag).name = tag.name := (agreeOff_write writes tag).name
  have written' := changes.retagged.written named new written
  have sections' := sealed_of_bare (changes.retagged.bare_eq named) sections
  rw [ofDeclarations, ofDeclarations, ofEvents_printAll written sections,
    ofEvents_printAll written' sections']
  by_cases ignored : NestingRules.declared.ignores tag.name = true
  · refine .inl ⟨?_, changes.retagged.ofEvents_eq named written new ignored⟩
    rw [Tag.isHeeded, ignored]
    rfl
  · have notIgnored := Bool.eq_false_iff.mpr ignored
    refine .inr ⟨?_, changes.retagged.ofEvents named written new notIgnored⟩
    rw [Tag.isHeeded, notIgnored]
    rfl

/-- At most one control differs after an edit, and the tag that the edit leads to is in its
element. -/
theorem changed_of_update? (rewritable : Rewritable template) {new : String}
    (h : e.update? template = .ok (some new)) (target : e.target? template = some tag) :
    Schema.Changed tag ((Schema.elements? (ofDeclarations template)).getD [])
      (Schema.ofTemplate template).controls (Schema.ofTemplate new).controls := by
  obtain ⟨f, tag', declaration, outer, inner, nodes', writes, rfl, target', changes⟩ :=
    exists_of_update? h
  obtain rfl : tag' = tag := Option.some.inj (target'.symm.trans target)
  have agree := agreeOff_write writes tag'
  rw [Schema.ofTemplate, Schema.ofTemplate, Schema.ofNodes_eq, Schema.ofNodes_eq,
    ← rewritable.elements]
  rcases changes.declarations rewritable.sections writes with ⟨_, same⟩ | ⟨_, retagged⟩
  · rw [same]
    exact .same _
  · have declares : (f tag').isDeclaration = tag'.isDeclaration := by
      rw [Tag.isDeclaration, Tag.isDeclaration, agree.name]
    rcases retagged.findAmong?_children declares with same | ⟨_, _, _, _, old, new, within⟩
    · rw [Schema.elements?, Schema.elements?, same]
      exact .same _
    · rw [Schema.elements?, Schema.elements?, old, new]
      exact Schema.changed_of_retagged agree within

/-- An edit leaves a template alone exactly if none of its addresses admits a tag of the
declaration. Else at most one control differs, and the tag that the edit leads to is in its
element, be it by the name of the edit or by its type alone. -/
theorem update?_frame (e : Edit) (template : String) :
    (e.update? template = .ok none ↔
      ∀ block, findAmong? Tag.isDeclaration (ofSource template) = some block →
        ∀ address ∈ Address.ofName e.name, ∀ tag ∈ tags block.children,
          address.admits tag = false) ∧
    ∀ new, e.update? template = .ok (some new) →
      ∃ tag, e.target? template = some tag ∧
        (∃ address ∈ Address.ofName e.name, address.admits tag = true) ∧
        (Rewritable template →
          Schema.Changed tag ((Schema.elements? (ofDeclarations template)).getD [])
            (Schema.ofTemplate template).controls (Schema.ofTemplate new).controls) := by
  refine ⟨update?_eq_none_iff, fun new h => ?_⟩
  obtain ⟨_, tag, _, _, _, _, _, _, target, changes⟩ := exists_of_update? h
  obtain ⟨address, mem, admitted, _⟩ := changes.address
  exact ⟨tag, target, ⟨address, mem, admitted⟩, fun rewritable =>
    changed_of_update? rewritable h target⟩

/-- The colour of a background that is not declared goes to another colour. -/
theorem update?_frame_of_colour :
    let template := printAll Rewritable.sample
    let e : Edit := ⟨"bg.color", .text "#000", some "color"⟩
    ∃ new tag, e.update? template = .ok (some new) ∧ e.target? template = some tag ∧
      tag.isNamed "bg" = false ∧ tag.isNamed "bg.color" = false ∧
      Schema.Changed tag ((Schema.elements? (ofDeclarations template)).getD [])
        (Schema.ofTemplate template).controls (Schema.ofTemplate new).controls := by
  intro template e
  have target : e.target? template =
      some ⟨"input", [("type", "color"), ("name", "ink"), ("value", "#fff")]⟩ := by
    rw [target?, Rewritable.ofSource_sample]
    cbv
  have shown : e.value.display = .ok "#000" := rfl
  obtain ⟨f, writes⟩ := exists_write shown
  obtain ⟨_, _, _, nodes', updated, _⟩ := exists_update? target writes
  obtain ⟨tag, target', _, changed⟩ := (update?_frame e template).2 _ updated
  obtain rfl := Option.some.inj (target.symm.trans target')
  exact ⟨_, _, updated, target, by decide, by decide, changed .of_sample⟩

/-! ## Values that are read back -/

/-- What a value that is written to an input gives as a default. -/
def recorded (kind : String) (value : Value) (text : String) : Value :=
  match kind with
  | "checkbox" => .bool value.isFilled
  | "range" => .number (Text.toNumber text.toList)
  | _ => .text text

variable {text : String}

theorem get?_write (writes : e.write = .ok f) (shown : e.value.display = .ok text)
    (unboxed : e.kind ≠ some "checkbox") (tag : Tag) : (f tag).get? "value" = some text := by
  rw [write_of_display (fun h => unboxed h.1) shown] at writes
  obtain rfl := Except.ok.inj writes
  split
  next => rw [Tag.get?_set, if_neg (by decide), Tag.get?_set, if_pos rfl]
  next => rw [Tag.get?_set, if_pos rfl]

theorem flag_check (checked : Bool) (tag : Tag) : (check checked tag).flag "checked" = checked := by
  cases checked with
  | true =>
    have written : (check true tag).get? "checked" = some "checked" := by
      rw [check, if_pos rfl, Tag.get?_set, if_pos rfl]
    rw [Tag.flag, written]
    rfl
  | false =>
    have erased : (check false tag).get? "checked" = none := by
      rw [check, if_neg Bool.false_ne_true, Tag.get?_erase, if_pos rfl]
    rw [Tag.flag, erased]

theorem inputKind_of_write (writes : e.write = .ok f) (tag : Tag) :
    (f tag).inputKind = tag.inputKind := by
  rw [Tag.inputKind, Tag.inputKind, Tag.filled?, Tag.filled?,
    (agreeOff_write writes tag).get? "type" (by decide)]

theorem default?_ofInput (writes : e.write = .ok f) (shown : e.value.display = .ok text)
    (kind : e.kind = some tag.inputKind) (untyped : Address.isType e.name = false)
    (filled : tag.inputKind = "range" → text ≠ "")
    (kinds : tag.inputKind ∈ ["checkbox", "range", "color", "image", "video"]) :
    (Control.ofInput (f tag)).default? = some (recorded tag.inputKind e.value text) := by
  have kind_eq : (Control.ofInput (f tag)).field.kind = tag.inputKind :=
    inputKind_of_write writes tag
  have value_eq (h : tag.inputKind ≠ "checkbox") :
      (Control.ofInput (f tag)).field.value = some text :=
    get?_write writes shown (fun boxed => h (Option.some.inj (kind.symm.trans boxed))) tag
  rw [Control.default?, kind_eq]
  simp only [List.mem_cons, List.not_mem_nil, or_false] at kinds
  rcases kinds with h | h | h | h | h
  · rw [write_of_checkbox ⟨kind.trans (congrArg some h), by rw [untyped]; rfl⟩] at writes
    obtain rfl := Except.ok.inj writes
    rw [h]
    exact congrArg (some ∘ Value.bool) (flag_check e.value.isFilled tag)
  · have long : Option.filter (fun s => decide (s ≠ "")) (some text) = some text := by
      rw [Option.filter, if_pos (decide_eq_true (filled h))]
    rw [h]
    dsimp only [recorded]
    rw [Control.rangeValue, value_eq (by rw [h]; decide), long]
    rfl
  all_goals
    rw [h]
    dsimp only [recorded]
    rw [value_eq (by rw [h]; decide)]
    rfl

/-! ### The control of an edit -/

/-- A name without dots has itself for its only address. -/
theorem ofName_of_not_mem {name : String} (dotless : '.' ∉ name.toList) :
    Address.ofName name = [.named name] ∧ Address.isType name = false := by
  have none : name.toList.dropWhile (· != '.') = [] := by
    rw [List.dropWhile_eq_nil_iff]
    intro c mem
    exact bne_iff_ne.mpr fun dot => dotless (dot ▸ mem)
  rw [Address.ofName, Address.isType, none]
  exact ⟨rfl, rfl⟩

/-- The element that an edit by name leads to has its tag changed in the declaration, if it is
there and the first of the name. -/
theorem Changes.elements (rewritable : Rewritable template) (writes : e.write = .ok f)
    (changes : e.Changes f tag declaration outer inner (ofSource template) nodes')
    (dotless : '.' ∉ e.name.toList) (heeded : tag.isHeeded = true)
    {children front back : List Node}
    (place : Schema.elements? (ofDeclarations template) =
      some (front ++ .element tag children :: back))
    (first : ∀ other ∈ tags front, other.isNamed e.name = false) :
    Schema.elements? (ofDeclarations (printAll nodes')) =
      some (front ++ .element (f tag) children :: back) := by
  obtain ⟨address, mem, admitted, unnamed⟩ := changes.address
  rw [(ofName_of_not_mem dotless).1, List.mem_singleton] at mem
  have named : tag.isNamed e.name = true := by
    rw [mem] at admitted
    exact admitted
  have declares : declaration.isHeeded = true := by
    rw [Tag.isHeeded, beq_iff_eq.mp changes.declares]
    decide
  rcases changes.declarations rewritable.sections writes with ⟨ignored, _⟩ | ⟨_, retagged⟩
  · rw [heeded] at ignored
    cases ignored
  rw [List.filter_append, List.filter_cons_of_pos declares] at retagged
  have undeclared : ∀ other ∈ outer.filter Tag.isHeeded, other.isDeclaration = false :=
    fun other mem => changes.undeclared other (List.mem_of_mem_filter mem)
  have inner_unnamed : ∀ other ∈ inner.filter Tag.isHeeded, other.isNamed e.name = false :=
    fun other mem' => unnamed _ mem other (List.mem_of_mem_filter mem')
  obtain ⟨content, found, within⟩ := retagged.exists_findAmong? changes.declares rfl undeclared
  have elements := rewritable.elements
  rw [place, Schema.elements?, found] at elements
  obtain rfl : content = front ++ .element tag children :: back := Option.some.inj elements
  rcases within with ⟨content', found', retagged⟩ | ⟨more, behind⟩
  · obtain ⟨_, rfl⟩ := retagged.of_first named named rfl inner_unnamed first
    rw [Schema.elements?, found']
    rfl
  · have mem' : tag ∈ inner.filter Tag.isHeeded := by
      rw [behind, tags_append, tags, tagsNode]
      simp
    rw [inner_unnamed tag mem'] at named
    cases named

/-- The kinds of controls that give a default whatever choices they offer. -/
def valued : List String :=
  ["checkbox", "range", "color", "image", "video", "select"]

theorem isSome_default? {c : Control} (kinds : c.field.kind ∈ valued) :
    c.default?.isSome = true := by
  rw [Control.default?]
  simp only [valued, List.mem_cons, List.not_mem_nil, or_false] at kinds
  rcases kinds with h | h | h | h | h | h <;> rw [h] <;> rfl

theorem isHeeded_of_ofNode? {children : List Node} {c : Control}
    (declares : Control.ofNode? (.element tag children) = some c) : tag.isHeeded = true := by
  obtain ⟨_, _, ⟨⟩, kind⟩ := Control.declares_of_ofNode? declares
  rw [Tag.isHeeded]
  cases kind with
  | header name | input name | select name | fieldset name =>
    rw [name]
    decide

/-- The default of a control after its element is written to. -/
theorem default?_of_write (writes : e.write = .ok f) (shown : e.value.display = .ok text)
    (untyped : Address.isType e.name = false) {children : List Node} {c c' : Control}
    (declares : Control.ofNode? (.element tag children) = some c)
    (declares' : Control.ofNode? (.element (f tag) children) = some c')
    (kind : e.kind = some c.field.kind) (kinds : c.field.kind ∈ valued)
    (number : c.field.kind = "range" → e.value.isNumber = true) :
    c'.default? =
      if tag.name = "input" ∧ c.field.kind ≠ "select" then
        some (recorded c.field.kind e.value text)
      else c.default? := by
  have agree := agreeOff_write writes tag
  by_cases input : tag.name = "input"
  · have input' : (f tag).name = "input" := agree.name.trans input
    obtain rfl : Control.ofInput tag = c := by
      rw [Control.ofNode?, input] at declares
      exact Option.some.inj declares
    obtain rfl : Control.ofInput (f tag) = c' := by
      rw [Control.ofNode?, input'] at declares'
      exact Option.some.inj declares'
    by_cases select : (Control.ofInput tag).field.kind = "select"
    · have select' : (Control.ofInput (f tag)).field.kind = "select" :=
        (inputKind_of_write writes tag).trans select
      rw [if_neg fun both => both.2 select, Control.default?, Control.default?, select', select]
      rfl
    · have filled : tag.inputKind = "range" → text ≠ "" := by
        intro range
        have isNumber := number range
        cases value : e.value with
        | number n =>
          rw [value] at shown
          exact Number.toText_ne_empty shown
        | _ =>
          rw [value] at isNumber
          cases isNumber
      rw [if_pos ⟨input, select⟩]
      apply default?_ofInput writes shown kind untyped filled
      have mem : tag.inputKind ∈ ["checkbox", "range", "color", "image", "video"] ++ ["select"] :=
        kinds
      exact (List.mem_append.mp mem).resolve_right fun last => select (List.mem_singleton.mp last)
  · rw [if_neg fun both => input both.1, Option.some.inj (declares.symm.trans
      ((Control.ofNode?_of_agreeOff agree input children).symm.trans declares'))]

/-- What is written to the first element of a name, which has a control of it, is the new default of
that name if the element is an input. Selections and field sets give the default they gave before.
No other default changes. -/
theorem defaults_update? (rewritable : Rewritable template) (dotless : '.' ∉ e.name.toList)
    (target : e.target? template = some tag) {children front back : List Node}
    (place : Schema.elements? (ofDeclarations template) =
      some (front ++ .element tag children :: back))
    (first : ∀ other ∈ tags front, other.isNamed e.name = false) {c : Control}
    (declares : Control.ofNode? (.element tag children) = some c)
    (named : c.name? = some e.name) (kind : e.kind = some c.field.kind)
    (kinds : c.field.kind ∈ valued) (shown : e.value.display = .ok text)
    (number : c.field.kind = "range" → e.value.isNumber = true) :
    ∃ new, e.update? template = .ok (some new) ∧
      let old := (Schema.ofTemplate template).defaults
      let defaults := (Schema.ofTemplate new).defaults
      Entries.keys defaults = Entries.keys old ∧
      (∀ other ≠ e.name, Entries.get? defaults other = Entries.get? old other) ∧
      Entries.get? defaults e.name =
        if tag.name = "input" ∧ c.field.kind ≠ "select" then
          some (recorded c.field.kind e.value text)
        else Entries.get? old e.name := by
  obtain ⟨f, writes⟩ := exists_write shown
  obtain ⟨declaration, outer, inner, nodes', updated, changes⟩ := exists_update? target writes
  have place' := changes.elements rewritable writes dotless (isHeeded_of_ofNode? declares) place
    first
  have names := Control.name?_ofNode? (agreeOff_write writes tag) (.here children [])
  rw [declares] at names
  obtain ⟨c', declares', named'⟩ := Option.map_eq_some_iff.mp names
  have given' := default?_of_write writes shown (ofName_of_not_mem dotless).2 declares declares'
    kind kinds number
  have others : ∀ d ∈ front.filterMap Control.ofNode?, d.name? ≠ some e.name := by
    intro d mem same
    obtain ⟨node, mem, gives⟩ := List.mem_filterMap.mp mem
    obtain ⟨other, content, rfl, isNamed⟩ := Control.isNamed_of_ofNode? gives same
    have within : other ∈ tags front := mem_tags mem
    rw [first other within] at isNamed
    cases isNamed
  obtain ⟨value, given⟩ := Option.isSome_iff_exists.mp (isSome_default? kinds)
  have old : Schema.ofTemplate template = Schema.ofControls (front.filterMap Control.ofNode? ++
      c :: back.filterMap Control.ofNode?) := by
    rw [Schema.ofTemplate, Schema.ofNodes_eq, place]
    dsimp only
    rw [List.filterMap_append, List.filterMap_cons, declares]
  have new : Schema.ofTemplate (printAll nodes') = Schema.ofControls
      (front.filterMap Control.ofNode? ++ c' :: back.filterMap Control.ofNode?) := by
    rw [Schema.ofTemplate, Schema.ofNodes_eq, place']
    dsimp only
    rw [List.filterMap_append, List.filterMap_cons, declares']
  obtain ⟨value', same⟩ : ∃ value', c'.default? = some value' := by
    rw [given']
    split
    next => exact ⟨_, rfl⟩
    next => exact ⟨_, given⟩
  obtain ⟨keys, elsewhere, oldHere, newHere⟩ :=
    Schema.defaults_place (back.filterMap Control.ofNode?) others named given (named'.trans named)
      same
  refine ⟨_, updated, ?_⟩
  rw [old, new]
  refine ⟨keys, elsewhere, ?_⟩
  rw [newHere, oldHere, ← same, ← given]
  exact given'

/-- A colour keeps the value that is written to it, and a selection its first option. -/
theorem defaults_update?_of_choices :
    let template := printAll Rewritable.sample
    let paint : Edit := ⟨"ink", .text "#000", some "color"⟩
    let align : Edit := ⟨"align", .text "right", some "select"⟩
    (∃ new, paint.update? template = .ok (some new) ∧
      Entries.get? (Schema.ofTemplate new).defaults "ink" = some (.text "#000") ∧
      Entries.get? (Schema.ofTemplate new).defaults "align" = some (.text "left")) ∧
    ∃ new, align.update? template = .ok (some new) ∧
      Entries.get? (Schema.ofTemplate new).defaults "align" = some (.text "left") := by
  intro template paint align
  let ink : Tag := ⟨"input", [("type", "color"), ("name", "ink"), ("value", "#fff")]⟩
  let select : Tag := ⟨"select", [("name", "align")]⟩
  let choices : List Node :=
    [.element ⟨"option", []⟩ [.text "left"], .element ⟨"option", []⟩ [.text "right"]]
  have place : Schema.elements? (ofDeclarations template) =
      some [.element ink [], .element select choices] := by
    rw [Schema.elements?, Rewritable.ofDeclarations_sample]
    rfl
  have painted : paint.target? template = some ink := by
    rw [target?, Rewritable.ofSource_sample]
    cbv
  have aligned : align.target? template = some select := by
    rw [target?, Rewritable.ofSource_sample]
    cbv
  have old : Entries.get? (Schema.ofTemplate template).defaults "align" = some (.text "left") := by
    rw [Schema.ofTemplate, Rewritable.ofDeclarations_sample]
    cbv
  have kind : (Control.ofInput ink).field.kind = "color" := by cbv
  have inkName : (Control.ofInput ink).name? = some "ink" := by cbv
  have alignName : (Control.ofSelect select choices).name? = some "align" := by cbv
  have unnamed : ∀ other ∈ tags [.element ink []], other.isNamed "align" = false := by decide
  obtain ⟨new, updated, _, elsewhere, here⟩ := @defaults_update? paint template ink "#000"
    .of_sample (by decide) painted [] [] _ place (List.forall_mem_nil _) (Control.ofInput ink)
    rfl inkName (congrArg some kind.symm) (by rw [kind]; decide) rfl (by rw [kind]; decide)
  obtain ⟨new', updated', _, _, here'⟩ := @defaults_update? align template select "right"
    .of_sample (by decide) aligned choices [.element ink []] [] place unnamed
    (Control.ofSelect select choices) rfl alignName rfl (by decide) rfl (by decide)
  rw [kind] at here
  exact ⟨⟨new, updated, here.trans (if_pos ⟨rfl, by decide⟩), (elsewhere _ (by decide)).trans old⟩,
    new', updated', here'.trans ((if_neg (by decide)).trans old)⟩

end Edit

end PageComponent
