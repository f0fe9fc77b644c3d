import PageComponent.Proofs.Directive.Attributes
import PageComponent.Proofs.Markup.Searching
import PageComponent.Schema.Edit

/-!
# Targets of edits

An edit changes one tag, which lies in the first declaration, and leaves the name of the tag and
most attributes alone. It leads nowhere exactly if nothing in the declaration has an address of it.
-/

namespace PageComponent

open Node

/-! ## Changes of a tag -/

namespace Edit

variable {e : Edit} {f : Tag → Tag}

/-- The attributes that edits write. -/
def written : List String :=
  ["value", "checked", "color"]

/-- Checks a box or not. -/
def check (checked : Bool) (tag : Tag) : Tag :=
  if checked then tag.set "checked" "checked" else tag.erase "checked"

theorem write_of_checkbox (checkbox : e.kind = some "checkbox" ∧ !Address.isType e.name) :
    e.write = .ok (check e.value.isFilled) := by
  rw [write, if_pos checkbox]
  cases e.value.isFilled <;> rfl

theorem write_of_display (unboxed : ¬(e.kind = some "checkbox" ∧ !Address.isType e.name))
    {text : String} (shown : e.value.display = .ok text) :
    e.write = .ok (if e.kind = some "color" ∧ !Address.isType e.name then
      fun tag => (tag.set "value" text).set "color" text else fun tag => tag.set "value" text) := by
  rw [write, if_neg unboxed, shown]
  exact (apply_ite Except.ok ..).symm

theorem exists_write {text : String} (shown : e.value.display = .ok text) :
    ∃ f, e.write = .ok f := by
  by_cases checkbox : e.kind = some "checkbox" ∧ !Address.isType e.name
  · exact ⟨_, write_of_checkbox checkbox⟩
  · exact ⟨_, write_of_display checkbox shown⟩

/-- An edit checks a box or not, or it writes the text of its value once or twice. -/
theorem write_cases (h : e.write = .ok f) :
    f = check e.value.isFilled ∨ ∃ text, e.value.display = .ok text ∧
      (f = (fun tag => tag.set "value" text) ∨
        f = fun tag => (tag.set "value" text).set "color" text) := by
  by_cases checkbox : e.kind = some "checkbox" ∧ !Address.isType e.name
  · rw [write_of_checkbox checkbox] at h
    exact .inl (Except.ok.inj h).symm
  · right
    cases shown : e.value.display with
    | error =>
      rw [write, if_neg checkbox, shown] at h
      cases h
    | ok text =>
      rw [write_of_display checkbox shown] at h
      refine ⟨text, rfl, ?_⟩
      rw [← Except.ok.inj h]
      split
      next => exact .inr rfl
      next => exact .inl rfl

theorem agreeOff_check (checked : Bool) (tag : Tag) :
    Tag.AgreeOff written tag (check checked tag) := by
  rw [check]
  split
  next => exact Tag.agreeOff_set tag _ (by decide)
  next => exact Tag.agreeOff_erase tag (by decide)

theorem agreeOff_write (h : e.write = .ok f) (tag : Tag) : Tag.AgreeOff written tag (f tag) := by
  rcases write_cases h with rfl | ⟨text, _, rfl | rfl⟩
  · exact agreeOff_check _ tag
  · exact Tag.agreeOff_set tag _ (by decide)
  · exact (Tag.agreeOff_set tag _ (by decide)).trans (Tag.agreeOff_set _ _ (by decide))

theorem written_of_write (h : e.write = .ok f) {tag : Tag} (old : tag.Written) :
    (f tag).Written := by
  rcases write_cases h with rfl | ⟨text, _, rfl | rfl⟩
  · rw [check]
    split
    next => exact old.set (.of_isName (by decide))
    next => exact old.erase
  · exact old.set (.of_isName (by decide))
  · exact (old.set (.of_isName (by decide))).set (.of_isName (by decide))

end Edit

/-! ## Addresses -/

namespace Address

/-- Whether an address can lead to a tag. -/
def admits : Address → Tag → Bool
  | named name => Tag.isNamed name
  | inputOf _ type | input type => Tag.isInputOfType type

/-- The tag that an address leads to in a declaration. -/
def target? (block : Node) : Address → Option Tag
  | named name => (block.findWithin? (Tag.isNamed name)).bind Node.tag?
  | inputOf owner type => do
    let element ← block.findWithin? (Tag.isNamed owner)
    let input ← element.findWithin? (Tag.isInputOfType type)
    input.tag?
  | input type => (block.findWithin? (Tag.isInputOfType type)).bind Node.tag?

variable {f : Tag → Tag} {test : Tag → Bool} {tag declaration : Tag} {children : List Node}

theorem exists_modifyWithin? (f : Tag → Tag) (declaration : Tag)
    (found : (findAmong? test children).bind Node.tag? = some tag) :
    ∃ before children',
      modifyWithin? test (mapTag f) (.element declaration children) =
        some (.element declaration children') ∧
      Retagged tag (f tag) before children children' ∧ test tag = true ∧
      ∀ other ∈ before, test other = false := by
  obtain ⟨node, first, tagged⟩ := Option.bind_eq_some_iff.mp found
  obtain ⟨tag', content, rfl, passed, _⟩ := exists_of_findAmong? children first
  obtain rfl : tag' = tag := Option.some.inj tagged
  obtain ⟨before, children', changed, replaced, failed⟩ := exists_replaced (mapTag f) children first
  refine ⟨before, children', ?_, ?_, passed, failed⟩
  · rw [modifyWithin?, changed]
    rfl
  · have whole := replaced.retagged (.here content [])
    rwa [List.append_nil] at whole

theorem modifyWithin?_eq_none (f : Node → Node) (declaration : Tag)
    (absent : (findAmong? test children).bind Node.tag? = none) :
    modifyWithin? test f (.element declaration children) = none := by
  have none : findAmong? test children = none := by
    cases found : findAmong? test children with
    | none => rfl
    | some node =>
      obtain ⟨tag, content, rfl, _, _⟩ := exists_of_findAmong? children found
      rw [found] at absent
      cases absent
  rw [modifyWithin?, modifyAmong?_eq_none f children none]
  rfl

/-- Where an address leads, there the declaration is changed. -/
theorem exists_modify? (f : Tag → Tag) (declaration : Tag) {address : Address}
    (found : target? (.element declaration children) address = some tag) :
    ∃ before children',
      modify? f (.element declaration children) address =
        some (.element declaration children') ∧
      Retagged tag (f tag) before children children' ∧ address.admits tag = true ∧
      ∀ name, address = named name → ∀ other ∈ before, other.isNamed name = false := by
  cases address with
  | named name =>
    obtain ⟨before, children', changed, retagged, passed, failed⟩ :=
      exists_modifyWithin? f declaration found
    refine ⟨before, children', changed, retagged, passed, ?_⟩
    rintro _ ⟨⟩
    exact failed
  | input type =>
    obtain ⟨before, children', changed, retagged, passed, _⟩ :=
      exists_modifyWithin? f declaration found
    exact ⟨before, children', changed, retagged, passed, nofun⟩
  | inputOf owner type =>
    obtain ⟨element, owned, inner⟩ := Option.bind_eq_some_iff.mp found
    obtain ⟨owner', content, rfl, _, _⟩ := exists_of_findAmong? children owned
    obtain ⟨within, content', changed, retagged, passed, _⟩ :
        ∃ within content',
          modifyWithin? (Tag.isInputOfType type) (mapTag f) (.element owner' content) =
            some (.element owner' content') ∧
          Retagged tag (f tag) within content content' ∧ Tag.isInputOfType type tag = true ∧
          ∀ other ∈ within, Tag.isInputOfType type other = false :=
      exists_modifyWithin? f owner' inner
    obtain ⟨before, children', changed', replaced, _⟩ :=
      exists_replaced (fun _ => .element owner' content') children owned
    refine ⟨before ++ owner' :: within, children', ?_,
      replaced.retagged (.within owner' [] retagged), passed, nofun⟩
    have owned' : findWithin? (.element declaration children) (Tag.isNamed owner) =
      some (.element owner' content) := owned
    rw [modify?, owned']
    dsimp only [Option.bind_eq_bind, Option.bind_some]
    rw [changed]
    dsimp only [Option.bind_some]
    rw [modifyWithin?, changed']
    rfl

theorem modify?_eq_none (f : Tag → Tag) (declaration : Tag) {address : Address}
    (absent : target? (.element declaration children) address = none) :
    modify? f (.element declaration children) address = none := by
  cases address with
  | named name => exact modifyWithin?_eq_none _ declaration absent
  | input type => exact modifyWithin?_eq_none _ declaration absent
  | inputOf owner type =>
    rw [modify?]
    rw [target?] at absent
    cases owned : findWithin? (.element declaration children) (Tag.isNamed owner) with
    | none => rfl
    | some element =>
      obtain ⟨owner', content, rfl, _, _⟩ := exists_of_findAmong? children owned
      rw [owned] at absent
      have unchanged :
          modifyWithin? (Tag.isInputOfType type) (mapTag f) (.element owner' content) = none :=
        modifyWithin?_eq_none _ owner' absent
      dsimp only [Option.bind_eq_bind, Option.bind_some]
      rw [unchanged]
      rfl

theorem findSome?_modify?_eq_none (f : Tag → Tag) (declaration : Tag) {addresses : List Address}
    (absent : addresses.findSome? (target? (.element declaration children)) = none) :
    addresses.findSome? (modify? f (.element declaration children)) = none := by
  rw [List.findSome?_eq_none_iff] at absent ⊢
  exact fun address mem => modify?_eq_none f declaration (absent address mem)

/-- The declaration is changed where the first address that leads somewhere leads. -/
theorem exists_findSome?_modify? (f : Tag → Tag) (declaration : Tag) {addresses : List Address}
    (found : addresses.findSome? (target? (.element declaration children)) = some tag) :
    ∃ before children', addresses.findSome? (modify? f (.element declaration children)) =
        some (.element declaration children') ∧
      Retagged tag (f tag) before children children' ∧
      ∃ address ∈ addresses, address.admits tag = true ∧
        ∀ name, address = named name → ∀ other ∈ before, other.isNamed name = false := by
  obtain ⟨front, address, back, rfl, leads, passed⟩ := List.findSome?_eq_some_iff.mp found
  obtain ⟨before, children', changed, retagged, admitted, unnamed⟩ :=
    exists_modify? f declaration leads
  refine ⟨before, children', List.findSome?_eq_some_iff.mpr ⟨front, address, back, rfl, changed,
    ?_⟩, retagged, address, List.mem_append_right _ List.mem_cons_self, admitted, unnamed⟩
  exact fun other mem => modify?_eq_none f declaration (passed other mem)

theorem input_mem_ofName {name owner type : String} (mem : inputOf owner type ∈ ofName name) :
    input type ∈ ofName name := by
  unfold ofName at mem ⊢
  dsimp only at mem ⊢
  split at mem
  next => simp at mem
  split at mem
  next => simp at mem
  next notType notEmpty =>
    rw [if_neg notType, if_neg notEmpty]
    simp only [List.mem_cons, reduceCtorEq, inputOf.injEq, List.not_mem_nil, or_false,
      false_or] at mem
    rw [mem.2]
    simp

/-- The addresses of a name lead nowhere exactly if none of them admits a tag of the declaration. -/
theorem findSome?_target?_eq_none_iff {name : String} {children : List Node} :
    (ofName name).findSome? (target? (.element declaration children)) = none ↔
      ∀ address ∈ ofName name, ∀ tag ∈ tags children, address.admits tag = false := by
  have bind_none (test : Tag → Bool) : (findAmong? test children).bind Node.tag? = none ↔
      ∀ tag ∈ tags children, test tag = false := by
    rw [← findAmong?_eq_none_iff]
    cases found : findAmong? test children with
    | none => exact iff_of_true rfl rfl
    | some node =>
      obtain ⟨tag, content, rfl, _, _⟩ := exists_of_findAmong? children found
      exact iff_of_false nofun nofun
  rw [List.findSome?_eq_none_iff]
  constructor
  · intro nowhere address mem
    cases address with
    | named name => exact (bind_none _).mp (nowhere _ mem)
    | input type => exact (bind_none _).mp (nowhere _ mem)
    | inputOf owner type => exact (bind_none _).mp (nowhere _ (input_mem_ofName mem))
  · intro unadmitted address mem
    cases address with
    | named name => exact (bind_none _).mpr (unadmitted _ mem)
    | input type => exact (bind_none _).mpr (unadmitted _ mem)
    | inputOf owner type =>
      rw [target?]
      cases owned : findWithin? (.element declaration children) (Tag.isNamed owner) with
      | none => rfl
      | some element =>
        obtain ⟨owner', content, rfl, _, sub⟩ := exists_of_findAmong? children owned
        have absent : findAmong? (Tag.isInputOfType type) content = none :=
          findAmong?_eq_none_iff.mpr fun tag mem' =>
            unadmitted _ mem tag (sub (List.mem_cons_of_mem _ mem'))
        have nowhere : findWithin? (.element owner' content) (Tag.isInputOfType type) = none :=
          absent
        dsimp only [Option.bind_eq_bind, Option.bind_some]
        rw [nowhere]
        rfl

end Address

/-! ## Templates -/

namespace Edit

variable {e : Edit} {f : Tag → Tag} {template : String} {tag : Tag}

/-- The tag of a template that an edit leads to. -/
def target? (e : Edit) (template : String) : Option Tag :=
  (findAmong? Tag.isDeclaration (ofSource template)).bind fun block =>
    (Address.ofName e.name).findSome? (Address.target? block)

/-- One tag is changed behind the first declaration and the tags `inner`, where none stands that an
address by name leads to. -/
structure Changes (e : Edit) (f : Tag → Tag) (tag declaration : Tag) (outer inner : List Tag)
    (nodes nodes' : List Node) : Prop where
  undeclared : ∀ other ∈ outer, other.isDeclaration = false
  declares : declaration.isDeclaration = true
  retagged : Retagged tag (f tag) (outer ++ declaration :: inner) nodes nodes'
  address : ∃ address ∈ Address.ofName e.name, address.admits tag = true ∧
    ∀ name, address = .named name → ∀ other ∈ inner, other.isNamed name = false

theorem update?_of_target?_none (h : e.target? template = none) :
    e.update? template = .ok none := by
  rw [target?] at h
  rw [update?]
  cases found : findAmong? Tag.isDeclaration (ofSource template) with
  | none => rfl
  | some block =>
    obtain ⟨declaration, children, rfl, _, _⟩ := exists_of_findAmong? _ found
    rw [found] at h
    dsimp only [Option.bind_some] at h ⊢
    rw [Address.findSome?_modify?_eq_none id declaration h]
    rfl

theorem exists_update? (target : e.target? template = some tag) (writes : e.write = .ok f) :
    ∃ declaration outer inner nodes', e.update? template = .ok (some (printAll nodes')) ∧
      e.Changes f tag declaration outer inner (ofSource template) nodes' := by
  obtain ⟨block, found, leads⟩ := Option.bind_eq_some_iff.mp target
  obtain ⟨declaration, children, rfl, declares, _⟩ := exists_of_findAmong? _ found
  obtain ⟨inner, children', changed, retagged, address⟩ :=
    Address.exists_findSome?_modify? f declaration leads
  obtain ⟨_, unchanged, leads', _⟩ := Address.exists_findSome?_modify? id declaration leads
  obtain ⟨outer, nodes', changed', replaced, undeclared⟩ :=
    exists_replaced (fun _ => .element declaration children') _ found
  refine ⟨declaration, outer, inner, nodes', ?_, undeclared, declares,
    replaced.retagged (.within declaration [] retagged), address⟩
  rw [update?, found]
  dsimp only
  rw [leads', writes]
  dsimp only [Option.isNone_some]
  rw [if_neg Bool.false_ne_true]
  refine congrArg Except.ok ?_
  dsimp only [Option.bind_eq_bind]
  rw [changed, Option.bind_some, changed']
  rfl

theorem update?_of_error (target : e.target? template = some tag) {error : TooLarge}
    (fails : e.write = .error error) : e.update? template = .error error := by
  obtain ⟨block, found, leads⟩ := Option.bind_eq_some_iff.mp target
  obtain ⟨declaration, children, rfl, declares, _⟩ := exists_of_findAmong? _ found
  obtain ⟨_, unchanged, leads', _⟩ := Address.exists_findSome?_modify? id declaration leads
  rw [update?, found]
  dsimp only
  rw [leads', fails]
  rfl

/-- An edit leads nowhere exactly if none of its addresses admits a tag of the declaration. -/
theorem update?_eq_none_iff : e.update? template = .ok none ↔
    ∀ block, findAmong? Tag.isDeclaration (ofSource template) = some block →
      ∀ address ∈ Address.ofName e.name, ∀ tag ∈ tags block.children,
        address.admits tag = false := by
  have nowhere : e.update? template = .ok none ↔ e.target? template = none := by
    refine ⟨fun unchanged => ?_, update?_of_target?_none⟩
    cases target : e.target? template with
    | none => rfl
    | some tag =>
      cases writes : e.write with
      | error => simp [update?_of_error target writes] at unchanged
      | ok f =>
        obtain ⟨_, _, _, _, changed, _⟩ := exists_update? target writes
        simp [changed] at unchanged
  rw [nowhere, target?]
  cases found : findAmong? Tag.isDeclaration (ofSource template) with
  | none => exact iff_of_true rfl nofun
  | some block =>
    obtain ⟨declaration, children, rfl, _, _⟩ := exists_of_findAmong? _ found
    rw [Option.bind_some, Address.findSome?_target?_eq_none_iff]
    constructor
    · rintro unadmitted _ ⟨⟩
      exact unadmitted
    · exact fun unadmitted => unadmitted _ rfl

theorem exists_of_update? {new : String} (h : e.update? template = .ok (some new)) :
    ∃ f tag declaration outer inner nodes', e.write = .ok f ∧ new = printAll nodes' ∧
      e.target? template = some tag ∧
      e.Changes f tag declaration outer inner (ofSource template) nodes' := by
  cases target : e.target? template with
  | none => simp [update?_of_target?_none target] at h
  | some tag =>
    cases writes : e.write with
    | error => simp [update?_of_error target writes] at h
    | ok f =>
      obtain ⟨declaration, outer, inner, nodes', changed, changes⟩ := exists_update? target writes
      rw [changed] at h
      exact ⟨f, tag, declaration, outer, inner, nodes', rfl,
        (Option.some.inj (Except.ok.inj h)).symm, rfl, changes⟩

end Edit

end PageComponent
