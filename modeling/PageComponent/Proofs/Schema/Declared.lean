import PageComponent.Proofs.Schema.Controls

/-!
# Declared controls

The schema of a declaration has the controls of its elements but those with the name of an earlier
one. So a name belongs to the first control that has it, and the default of the name, if there is
one, is the one which that control gives.
-/

namespace PageComponent

namespace Control

/-- The elements that declare controls. -/
def declaring : List String :=
  ["header", "input", "select", "fieldset"]

/-- The kinds of controls that have values. -/
def valuedKinds : List String :=
  ["checkbox", "range", "color", "image", "video", "background", "select"]

/-- Whether the control has a value: its kind has one, and a background offers something. -/
def isValued (c : Control) : Bool :=
  valuedKinds.contains c.field.kind && !(c.field.kind == "background" && c.choices.isEmpty)

/-- Whether the control has the name of an earlier one. -/
def isRepeated (earlier : List Control) (c : Control) : Bool :=
  c.name?.any fun name => earlier.any fun d => d.name? == some name

/-! ## Controls of elements -/

theorem isSome_ofNode?_iff {node : Node} :
    (ofNode? node).isSome ↔
      ∃ tag children, node = .element tag children ∧ tag.name ∈ declaring := by
  constructor
  · intro some
    obtain ⟨c, declares⟩ := Option.isSome_iff_exists.mp some
    obtain ⟨tag, children, rfl, kind⟩ := declares_of_ofNode? declares
    refine ⟨tag, children, rfl, ?_⟩
    cases kind with
    | header name | input name | select name | fieldset name =>
      rw [name]
      decide
  · rintro ⟨tag, children, rfl, mem⟩
    simp only [declaring, List.mem_cons, List.not_mem_nil, or_false] at mem
    rw [ofNode?]
    rcases mem with name | name | name | name <;> rw [name] <;> rfl

/-- A background offers inputs only. -/
theorem exists_input {node : Node} {c : Control} (declares : ofNode? node = some c)
    (background : c.field.kind = "background") {choice : Choice} (mem : choice ∈ c.choices) :
    ∃ field, choice = .input field := by
  obtain ⟨tag, children, rfl, kind⟩ := declares_of_ofNode? declares
  cases kind with
  | header | input => exact (List.not_mem_nil mem).elim
  | select =>
    have other : "select" ≠ "background" := by decide
    exact absurd background other
  | fieldset =>
    obtain ⟨child, _, gives⟩ := List.mem_filterMap.mp mem
    cases child with
    | text | verbatim => cases gives
    | element tag children =>
      rw [inputOf?] at gives
      split at gives
      next => exact ⟨_, (Option.some.inj gives).symm⟩
      next => cases gives

theorem chosen?_eq_none_iff {c : Control} : c.chosen? = none ↔ c.choices = [] := by
  rw [chosen?, Option.or_eq_none_iff, List.head?_eq_none_iff]
  constructor
  · exact And.right
  · intro empty
    rw [empty]
    exact ⟨rfl, rfl⟩

theorem mem_choices_of_chosen? {c : Control} {choice : Choice} (chosen : c.chosen? = some choice) :
    choice ∈ c.choices := by
  rw [chosen?, Option.or_eq_some_iff] at chosen
  rcases chosen with found | ⟨_, first⟩
  · exact List.mem_of_find?_eq_some found
  · exact List.mem_of_mem_head? first

/-- The control of an element gives a default exactly if it has a value. -/
theorem isSome_default? {node : Node} {c : Control} (declares : ofNode? node = some c) :
    c.default?.isSome = c.isValued := by
  by_cases background : c.field.kind = "background"
  · have gives : c.default? = c.background? := by
      rw [default?, background]
      rfl
    have valued : c.isValued = !c.choices.isEmpty := by
      rw [isValued, background]
      rfl
    rw [gives, valued, background?]
    cases chosen : c.chosen? with
    | none =>
      rw [chosen?_eq_none_iff.mp chosen]
      rfl
    | some choice =>
      have mem := mem_choices_of_chosen? chosen
      obtain ⟨field, rfl⟩ := exists_input declares background mem
      rw [List.isEmpty_eq_false_iff.mpr (List.ne_nil_of_mem mem)]
      rfl
  · have valued : c.isValued = valuedKinds.contains c.field.kind := by
      rw [isValued, beq_false_of_ne background]
      exact Bool.and_true _
    rw [valued, default?]
    split
    case h_6 kind => exact absurd kind background
    case h_8 checkbox range color image video background select =>
      symm
      rw [valuedKinds, Option.isSome_none, List.contains_eq_mem, decide_eq_false_iff_not]
      simp only [List.mem_cons, List.not_mem_nil, or_false, not_or]
      exact ⟨checkbox, range, color, image, video, background, select⟩
    all_goals
      next kind =>
        rw [kind]
        rfl

end Control

namespace Schema

/-! ## Controls that are kept -/

/-- Of the controls behind `front`, those that do not have the name of one before them. -/
def firsts (front cs : List Control) : List Control :=
  (cs.zipIdx.filter fun (c, i) => !c.isRepeated (front ++ cs.take i)).map Prod.fst

variable {seen : List String} {front cs : List Control} {c : Control} {name : String}

theorem firsts_cons (front : List Control) (c : Control) (cs : List Control) :
    firsts front (c :: cs) =
      if c.isRepeated front then firsts (front ++ [c]) cs else c :: firsts (front ++ [c]) cs := by
  have behind : (fun p : Control × Nat => !p.1.isRepeated (front ++ (c :: cs).take p.2)) ∘
      Prod.map id (· + 1) = fun p => !p.1.isRepeated (front ++ [c] ++ cs.take p.2) := by
    funext p
    simp
  rw [firsts, List.zipIdx_cons', List.filter_cons, List.filter_map, behind]
  simp only [List.take_zero, List.append_nil]
  cases c.isRepeated front with
  | true => exact List.map_map
  | false => exact congrArg (c :: ·) List.map_map

theorem isRepeated_of_none (unnamed : c.name? = none) (front : List Control) :
    c.isRepeated front = false := by
  rw [Control.isRepeated, unnamed]
  rfl

theorem isRepeated_of_some (named : c.name? = some name) (front : List Control) :
    c.isRepeated front = true ↔ some name ∈ front.map Control.name? := by
  rw [Control.isRepeated, named, Option.any_some, List.any_eq_true, List.mem_map]
  simp only [beq_iff_eq]

theorem some_mem_names_append {c : Control} :
    some name ∈ (front ++ [c]).map Control.name? ↔
      some name ∈ front.map Control.name? ∨ c.name? = some name := by
  rw [List.map_append, List.mem_append, List.map_singleton, List.mem_singleton,
    eq_comm (a := some name)]

/-- The names that are taken are those of the controls in front. -/
theorem keep_eq_firsts (taken : ∀ name, name ∈ seen ↔ some name ∈ front.map Control.name?) :
    (ofControls.keep seen cs).1 = firsts front cs := by
  induction cs generalizing seen front with
  | nil => rfl
  | cons c cs ih =>
    rw [keep_cons, firsts_cons]
    cases named : c.name? with
    | none =>
      rw [isRepeated_of_none named, @ih _ (front ++ [c])]
      · rfl
      · intro other
        rw [taken, some_mem_names_append, named]
        exact (or_iff_left nofun).symm
    | some name =>
      have repeated : seen.contains name = c.isRepeated front := by
        rw [Bool.eq_iff_iff, isRepeated_of_some named, List.contains_iff_mem, taken]
      dsimp only
      rw [repeated]
      split
      next again =>
        refine ih fun other => ?_
        rw [taken, some_mem_names_append, named]
        refine (or_iff_left_of_imp ?_).symm
        rintro ⟨⟩
        exact (isRepeated_of_some named front).mp again
      next =>
        refine congrArg (c :: ·) (ih fun other => ?_)
        rw [List.mem_cons, taken, some_mem_names_append, named, Option.some.injEq, or_comm,
          eq_comm]

theorem controls_ofControls (cs : List Control) : (ofControls cs).controls = firsts [] cs :=
  keep_eq_firsts fun _ => iff_of_false nofun nofun

/-- Of the controls that are kept, the one with a name is the first that has it, unless the name is
taken before. -/
theorem find?_firsts (name : String) :
    (firsts front cs).find? (fun c => c.name? == some name) =
      if some name ∈ front.map Control.name? then none
      else cs.find? fun c => c.name? == some name := by
  induction cs generalizing front with
  | nil => exact (ite_self none).symm
  | cons c cs ih =>
    rw [firsts_cons]
    by_cases own : c.name? = some name
    · have repeated := isRepeated_of_some own front
      have here (rest : List Control) :
          (c :: rest).find? (fun d => d.name? == some name) = some c :=
        List.find?_cons_of_pos (beq_iff_eq.mpr own)
      split
      next again =>
        have taken : some name ∈ (front ++ [c]).map Control.name? :=
          some_mem_names_append.mpr (.inr own)
        rw [ih, if_pos taken, if_pos (repeated.mp again)]
      next first => rw [if_neg (mt repeated.mpr first), here, here]
    · have elsewhere (rest : List Control) :
          (c :: rest).find? (fun d => d.name? == some name) =
            rest.find? fun d => d.name? == some name :=
        List.find?_cons_of_neg (mt beq_iff_eq.mp own)
      have taken : some name ∈ (front ++ [c]).map Control.name? ↔
          some name ∈ front.map Control.name? := some_mem_names_append.trans (or_iff_left own)
      rw [elsewhere]
      split
      next => simp only [ih, taken]
      next => simp only [elsewhere, ih, taken]

theorem not_mem_of_mem_firsts (mem : c ∈ firsts front cs) (named : c.name? = some name) :
    some name ∉ front.map Control.name? := by
  intro taken
  have none := @find?_firsts front cs name
  rw [if_pos taken, List.find?_eq_none] at none
  exact none c mem (beq_iff_eq.mpr named)

theorem nodup_names_firsts : ((firsts front cs).filterMap Control.name?).Nodup := by
  induction cs generalizing front with
  | nil => exact List.nodup_nil
  | cons c cs ih =>
    rw [firsts_cons]
    split
    next => exact ih
    next =>
      rw [List.filterMap_cons]
      cases named : c.name? with
      | none => exact ih
      | some name =>
        refine List.nodup_cons.mpr ⟨fun again => ?_, ih⟩
        obtain ⟨d, mem, same⟩ := List.mem_filterMap.mp again
        exact not_mem_of_mem_firsts mem same (some_mem_names_append.mpr (.inr named))

theorem mem_of_mem_firsts (mem : c ∈ firsts front cs) : c ∈ cs := by
  rw [firsts, List.mem_map] at mem
  obtain ⟨⟨d, i⟩, inside, rfl⟩ := mem
  exact List.fst_mem_of_mem_zipIdx (List.mem_of_mem_filter inside)

/-! ## Defaults -/

/-- Every named control with a value gives an entry. -/
theorem keys_given {controls : List Control}
    (valued : ∀ c ∈ controls, c.default?.isSome = c.isValued) :
    Entries.keys (controls.filterMap given?) =
      (controls.filter Control.isValued).filterMap Control.name? := by
  have key (c : Control) (mem : c ∈ controls) :
      (given? c).map Prod.fst = if c.isValued then c.name? else none := by
    rw [given?, ← valued c mem]
    cases c.name? <;> cases c.default? <;> rfl
  rw [Entries.keys, List.map_filterMap, List.filterMap_congr key, List.filterMap_filter]

theorem find?_eq_none_of_unnamed {controls : List Control}
    (unnamed : name ∉ controls.filterMap Control.name?) :
    (controls.find? fun c => c.name? == some name) = none := by
  rw [List.find?_eq_none]
  intro c mem named
  exact unnamed (List.mem_filterMap.mpr ⟨c, mem, beq_iff_eq.mp named⟩)

/-- The default of a name is the one that its control gives. -/
theorem get?_given {controls : List Control} (distinct : (controls.filterMap Control.name?).Nodup)
    (name : String) :
    Entries.get? (controls.filterMap given?) name =
      (controls.find? fun c => c.name? == some name).bind Control.default? := by
  induction controls with
  | nil => rfl
  | cons c controls ih =>
    rw [List.filterMap_cons] at distinct ⊢
    cases named : c.name? with
    | none =>
      rw [named] at distinct
      have unnamed : ¬(c.name? == some name) = true := by
        rw [named]
        exact nofun
      have gives : given? c = none := by
        rw [given?, named]
        rfl
      rw [gives, List.find?_cons_of_neg (p := fun d : Control => d.name? == some name) unnamed]
      exact ih distinct
    | some own =>
      rw [named] at distinct
      obtain ⟨fresh, distinct⟩ := List.nodup_cons.mp distinct
      have gives : given? c = c.default?.map (own, ·) := by
        rw [given?, named]
        rfl
      rw [gives]
      by_cases same : own = name
      · subst same
        have found : (c.name? == some own) = true := beq_iff_eq.mpr named
        rw [List.find?_cons_of_pos (p := fun d : Control => d.name? == some own) found,
          Option.bind_some]
        cases c.default? with
        | none =>
          refine (ih distinct).trans ?_
          rw [find?_eq_none_of_unnamed fresh]
          rfl
        | some value => exact if_pos rfl
      · have other : ¬(c.name? == some name) = true := by
          rw [named]
          exact fun eq => same (Option.some.inj (beq_iff_eq.mp eq))
        rw [List.find?_cons_of_neg (p := fun d : Control => d.name? == some name) other,
          ← ih distinct]
        cases c.default? with
        | none => rfl
        | some value => exact if_neg same

/-! ## Schemas of declarations -/

/-- What a schema is to the elements of the declaration that it is read from. -/
structure Declares (elements : List Node) (s : Schema) : Prop where
  found : s.found = true
  declaring : ∀ node ∈ elements, (Control.ofNode? node).isSome ↔
    ∃ tag children, node = .element tag children ∧ tag.name ∈ Control.declaring
  /-- Of the controls that the elements declare, those with the name of an earlier one are missing,
  and no others. -/
  controls : s.controls = firsts [] (elements.filterMap Control.ofNode?)
  names : s.names.Nodup
  get? : ∀ name, s.get? name =
    (elements.filterMap Control.ofNode?).find? fun c => c.name? == some name
  /-- There is one default for each control that has a name and a value, in the same order. -/
  defaults : Entries.keys s.defaults = (s.controls.filter Control.isValued).filterMap Control.name?
  distinct : (Entries.keys s.defaults).Nodup
  default? : ∀ name, Entries.get? s.defaults name =
    ((elements.filterMap Control.ofNode?).find? fun c => c.name? == some name).bind Control.default?

theorem declares_ofControls (elements : List Node) :
    Declares elements (ofControls (elements.filterMap Control.ofNode?)) := by
  have controls := controls_ofControls (elements.filterMap Control.ofNode?)
  have names : (ofControls (elements.filterMap Control.ofNode?)).names.Nodup := by
    rw [Schema.names, controls]
    exact nodup_names_firsts
  have first (name : String) : (ofControls (elements.filterMap Control.ofNode?)).get? name =
      (elements.filterMap Control.ofNode?).find? fun c => c.name? == some name := by
    rw [Schema.get?, controls, find?_firsts]
    exact if_neg nofun
  have keys : Entries.keys (ofControls (elements.filterMap Control.ofNode?)).defaults =
      ((ofControls (elements.filterMap Control.ofNode?)).controls.filter Control.isValued).filterMap
        Control.name? := by
    refine keys_given fun c mem => ?_
    rw [controls] at mem
    obtain ⟨node, _, declares⟩ := List.mem_filterMap.mp (mem_of_mem_firsts mem)
    exact Control.isSome_default? declares
  exact {
    found := rfl
    declaring := fun _ _ => Control.isSome_ofNode?_iff
    controls
    names
    get? := first
    defaults := keys
    distinct := by
      rw [keys]
      exact names.sublist (List.filter_sublist.filterMap _)
    default? := fun name => by
      rw [← first]
      exact get?_given names name }

/-- The schema of nodes, such as those of a template, is that of their first declaration. -/
theorem declares_ofNodes {nodes : List Node} {block : Node}
    (found : Node.findAmong? Tag.isDeclaration nodes = some block) :
    Declares block.children (ofNodes nodes) := by
  rw [ofNodes, found]
  exact declares_ofControls block.children

/-- A background that offers nothing and a text keep their names from later controls, and have no
defaults. -/
theorem declares_ofNodes_of_repeated :
    let elements : List Node :=
      [.element ⟨"fieldset", [("type", "background"), ("name", "bg")]⟩ [],
        .element ⟨"input", [("type", "color"), ("name", "bg"), ("value", "#fff")]⟩ [],
        .element ⟨"header", []⟩ [.text "Size"],
        .element ⟨"input", [("name", "title")]⟩ [],
        .element ⟨"p", [("name", "full")]⟩ [],
        .element ⟨"input", [("type", "range"), ("name", "title"), ("value", "4")]⟩ [],
        .element ⟨"input", [("type", "checkbox"), ("name", "full"), ("checked", "")]⟩ []]
    let block : Node := .element ⟨"mbr-parameters", []⟩ elements
    let schema := ofNodes [.text " ", block]
    Node.findAmong? Tag.isDeclaration [.text " ", block] = some block ∧ Declares elements schema ∧
      schema.names = ["bg", "title", "full"] ∧ Entries.keys schema.defaults = ["full"] := by
  intro elements block schema
  have found : Node.findAmong? Tag.isDeclaration [.text " ", block] = some block := rfl
  exact ⟨found, declares_ofNodes found, by cbv, by cbv⟩

end Schema

end PageComponent
