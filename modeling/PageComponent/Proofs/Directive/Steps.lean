import PageComponent.Directive.Pass
import PageComponent.Proofs.Directive.Attributes
import PageComponent.Proofs.Markup.Scans

/-!
# Steps of passes

For every pass, which elements it finds and keeps and what becomes of their tags. A pass over the
tree is a scan of the elements that it finds. A pass with a directive takes it away and writes few
other attributes; only substitution may change all of them. No pass changes a name.
-/

namespace PageComponent

open Node Tag

namespace Pass

variable {ctx : RenderContext} {params : Params} {pass : Pass} {tag tag' : Tag}
  {nodes nodes' : List Node}

/-- What a pass makes of a tag, besides the scope, which is only for the root. -/
def actOnTag (ctx : RenderContext) : Pass → Tag → Except TooLarge (Option Tag)
  | dropDeclarations, tag => .ok (dropDeclaration tag)
  | assetPaths, tag => .ok (resolvePaths ctx.options.projectPath tag)
  | tokens, tag => some <$> substituteTag ctx.params tag
  | conditions, tag => applyCondition ctx.params tag
  | classes, tag => some <$> applyClasses ctx.params tag
  | styles, tag => some <$> applyStyles ctx.params tag
  | themeStyles, tag => .ok (applyThemeStyle tag)
  | scope, tag => .ok tag
  | overlays, tag => .ok (some (if ctx.options.overlayPatch then applyOverlay tag else tag))

/-- What a pass makes of a text. -/
def actOnText (ctx : RenderContext) : Pass → String → Except TooLarge String
  | tokens, content => substitute ctx.params content
  | _, content => .ok content

theorem run_eq_transformAll (ctx : RenderContext) (notScope : pass ≠ scope) (nodes : List Node) :
    pass.run ctx nodes = transformAll (pass.actOnTag ctx) (pass.actOnText ctx) nodes := by
  cases pass with
  | scope => exact absurd rfl notScope
  | overlays =>
    rw [run]
    split
    next patch =>
      have act : overlays.actOnTag ctx = fun tag => .ok (applyOverlay tag) := by
        funext tag
        rw [actOnTag, if_pos patch]
      rw [act]
      rfl
    next patch =>
      have act : overlays.actOnTag ctx = fun tag => .ok tag := by
        funext tag
        rw [actOnTag, if_neg patch]
      rw [act]
      exact (transformAll_eq_self fun _ _ => rfl).symm
  | _ => rfl

/-- The elements that a pass looks for: declarations, those with its directive, or all. -/
def finds : Pass → Tag → Bool
  | dropDeclarations, tag => tag.isDeclaration
  | conditions, tag => tag.has "mbr-if"
  | classes, tag => tag.has "mbr-class"
  | styles, tag => tag.has "mbr-style"
  | themeStyles, tag => tag.has "mbr-theme-style"
  | _, _ => true

theorem actOnTag_of_not_found (unfound : pass.finds tag = false) :
    pass.actOnTag ctx tag = .ok (some tag) := by
  have absent {key : String} (unfound : tag.has key = false) : tag.get? key = none :=
    Option.not_isSome_iff_eq_none.mp (Bool.eq_false_iff.mp unfound)
  cases pass with
  | dropDeclarations =>
    have other : tag.isDeclaration = false := unfound
    rw [actOnTag, dropDeclaration, other]
    rfl
  | conditions =>
    rw [actOnTag, applyCondition, absent unfound]
    rfl
  | classes =>
    rw [actOnTag, applyClasses, absent unfound]
    rfl
  | styles =>
    rw [actOnTag, applyStyles, absent unfound]
    rfl
  | themeStyles =>
    rw [actOnTag, applyThemeStyle, absent unfound]
  | assetPaths | tokens | scope | overlays => cases unfound

theorem scan_eq_of_finds (ctx : RenderContext) (pass : Pass) (nodes : List Node) :
    Node.scan pass.finds (pass.actOnTag ctx) nodes =
      transformAll (pass.actOnTag ctx) .ok nodes := by
  have onFound : Labelled.onFound pass.finds (pass.actOnTag ctx) = pass.actOnTag ctx := by
    funext tag
    rw [Labelled.onFound]
    split
    next => rfl
    next unfound => exact (actOnTag_of_not_found (Bool.eq_false_iff.mpr unfound)).symm
  rw [scan_eq_transformAll, onFound]

/-- A pass that reads no texts visits the elements that it finds at first, in document order; those
that are gone with a dropped one around them are passed over. -/
theorem run_eq_scan (ctx : RenderContext) (notTokens : pass ≠ tokens) (notScope : pass ≠ scope)
    (nodes : List Node) : pass.run ctx nodes = Node.scan pass.finds (pass.actOnTag ctx) nodes := by
  have onText : pass.actOnText ctx = .ok := by
    funext content
    cases pass with
    | tokens => exact absurd rfl notTokens
    | _ => rfl
  rw [run_eq_transformAll ctx notScope, scan_eq_of_finds, onText]

instance : Subsingleton TooLarge :=
  ⟨fun .tooLarge .tooLarge => rfl⟩

/-- Tokens are replaced in the attributes of all elements first and then in all texts. -/
theorem run_tokens_eq_scan (ctx : RenderContext) (nodes : List Node) :
    tokens.run ctx nodes = (do
      let tagged ← Node.scan tokens.finds (tokens.actOnTag ctx) nodes
      transformAll (fun tag => .ok (some tag)) (tokens.actOnText ctx) tagged) := by
  have kept (tag : Tag) : tokens.actOnTag ctx tag ≠ .ok none := by
    rw [actOnTag]
    cases substituteTag ctx.params tag <;> exact nofun
  rw [scan_eq_of_finds]
  exact transformAll_eq_bind kept nodes

/-! ## What is kept -/

/-- Whether the condition that the tag has, if any, holds. -/
def conditionHolds (params : Params) (tag : Tag) : Bool :=
  match tag.get? "mbr-if" with
  | none => true
  | some condition =>
    match Expr.holds params condition with
    | .ok holds => holds
    | .error _ => false

theorem conditionHolds_of_none (h : tag.get? "mbr-if" = none) :
    conditionHolds params tag = true := by
  rw [conditionHolds, h]

theorem conditionHolds_of_some {condition : String} {holds : Bool}
    (h : tag.get? "mbr-if" = some condition) (value : Expr.holds params condition = .ok holds) :
    conditionHolds params tag = holds := by
  simp only [conditionHolds, h, value]

/-- Whether a pass keeps the element with the tag. -/
def keeps (params : Params) : Pass → Tag → Bool
  | dropDeclarations, tag => !tag.isDeclaration
  | conditions, tag => conditionHolds params tag
  | _, _ => true

/-! ## What changes -/

/-- The attribute by which a template asks for the pass. -/
def directive? : Pass → Option String
  | conditions => some "mbr-if"
  | classes => some "mbr-class"
  | styles => some "mbr-style"
  | themeStyles => some "mbr-theme-style"
  | _ => none

/-- The attributes that a pass may change, besides substitution. -/
def writes : Pass → List String
  | dropDeclarations | tokens => []
  | assetPaths => pathAttributes
  | conditions => ["mbr-if"]
  | classes => ["class", "mbr-class"]
  | styles => ["style", "mbr-style"]
  | themeStyles => ["class", "mbr-theme-style"]
  | scope => ["class", "id"]
  | overlays => ["style", "opacity", "bg-color"]

/-- Little of the tag changes, and its directive is gone. -/
structure Worked (pass : Pass) (tag tag' : Tag) : Prop where
  agree : AgreeOff pass.writes tag tag'
  done : ∀ key ∈ pass.directive?, tag'.get? key = none

/-- Every attribute has its value with the tokens replaced. -/
structure Substituted (params : Params) (tag tag' : Tag) : Prop where
  name : tag'.name = tag.name
  get? : ∀ key, (tag.get? key).mapM (substitute params) = .ok (tag'.get? key)

def Step (params : Params) : Pass → Tag → Tag → Prop
  | tokens => Substituted params
  | pass => Worked pass

theorem Step.name (h : pass.Step params tag tag') : tag'.name = tag.name := by
  cases pass with
  | tokens => exact Substituted.name h
  | _ => exact (Worked.agree h).name

theorem Worked.of_erase {key : String} (directive : pass.directive? = some key)
    (writes : key ∈ pass.writes) (agree : AgreeOff pass.writes tag tag') :
    Worked pass tag (tag'.erase key) where
  agree := agree.trans (agreeOff_erase tag' writes)
  done other mem := by
    obtain rfl := Option.some.inj (directive.symm.trans mem)
    rw [get?_erase, if_pos rfl]

theorem Worked.of_absent {key : String} (directive : pass.directive? = some key)
    (absent : tag.get? key = none) : Worked pass tag tag where
  agree := .refl _ tag
  done other mem := by
    obtain rfl := Option.some.inj (directive.symm.trans mem)
    exact absent

/-! ### Paths and tokens -/

theorem get?_map_of_same {attributes : Entries String} {f : String × String → String} {key : String}
    (same : ∀ value, f (key, value) = value) :
    Entries.get? (attributes.map fun entry => (entry.1, f entry)) key =
      Entries.get? attributes key := by
  induction attributes with
  | nil => rfl
  | cons entry rest ih =>
    obtain ⟨k, value⟩ := entry
    rw [List.map_cons, Entries.get?, Entries.get?]
    split
    next here =>
      obtain rfl : k = key := here
      rw [same]
    next => exact ih

theorem agreeOff_resolvePaths (path : String) (tag : Tag) :
    AgreeOff pathAttributes tag (resolvePaths path tag) where
  name := rfl
  get? key notMem := by
    refine get?_map_of_same fun value => if_neg ?_
    rwa [List.contains_iff_mem]

theorem get?_substituted : ∀ {attributes attributes' : Entries String},
    (attributes.mapM fun (key, value) => return (key, ← substitute params value)) =
      .ok attributes' →
    ∀ key, (Entries.get? attributes key).mapM (substitute params) =
      .ok (Entries.get? attributes' key)
  | [], _, h, _ => by
    cases h
    rfl
  | (k, value) :: rest, _, h, key => by
    rw [List.mapM_cons] at h
    obtain ⟨entry, first, h⟩ := bind_eq_ok.mp h
    obtain ⟨entries, others, h⟩ := bind_eq_ok.mp h
    cases h
    obtain ⟨value', value'_eq, first⟩ := bind_eq_ok.mp first
    cases first
    rw [Entries.get?, Entries.get?]
    split
    next =>
      rw [Option.mapM_some, value'_eq]
      rfl
    next => exact get?_substituted others key

theorem substituted_of_ok (h : substituteTag params tag = .ok tag') :
    Substituted params tag tag' := by
  obtain ⟨attributes, all, h⟩ := bind_eq_ok.mp h
  cases h
  exact ⟨rfl, get?_substituted all⟩

/-! ### Directives -/

theorem worked_of_applyCondition (h : applyCondition params tag = .ok (some tag')) :
    conditionHolds params tag = true ∧ Worked conditions tag tag' := by
  rw [applyCondition] at h
  cases condition : tag.get? "mbr-if" with
  | none =>
    rw [condition] at h
    cases h
    exact ⟨conditionHolds_of_none condition, .of_absent rfl condition⟩
  | some source =>
    rw [condition] at h
    obtain ⟨holds, value, h⟩ := bind_eq_ok.mp h
    cases holds with
    | false => cases h
    | true =>
      cases h
      exact ⟨conditionHolds_of_some condition value,
        .of_erase rfl List.mem_cons_self (.refl _ tag)⟩

theorem conditionHolds_of_dropped (h : applyCondition params tag = .ok none) :
    conditionHolds params tag = false := by
  rw [applyCondition] at h
  cases condition : tag.get? "mbr-if" with
  | none =>
    rw [condition] at h
    cases h
  | some source =>
    rw [condition] at h
    obtain ⟨holds, value, h⟩ := bind_eq_ok.mp h
    cases holds with
    | true => cases h
    | false => exact conditionHolds_of_some condition value

theorem agreeOff_applyPair {pair : ClassPair} (h : applyPair params tag pair = .ok tag') :
    AgreeOff ["class"] tag tag' := by
  obtain ⟨holds, _, h⟩ := bind_eq_ok.mp h
  cases holds <;> cases h
  · exact agreeOff_removeClasses tag pair.names
  · exact agreeOff_addClasses tag pair.names

theorem agreeOff_applyPairs : ∀ {pairs : List ClassPair} {tag : Tag},
    pairs.foldlM (applyPair params) tag = .ok tag' → AgreeOff ["class"] tag tag'
  | [], _, h => by
    cases h
    exact .refl _ _
  | pair :: pairs, tag, h => by
    rw [List.foldlM_cons] at h
    obtain ⟨_, first, others⟩ := bind_eq_ok.mp h
    exact (agreeOff_applyPair first).trans (agreeOff_applyPairs others)

theorem worked_of_applyClasses (h : applyClasses params tag = .ok tag') :
    Worked classes tag tag' := by
  rw [applyClasses] at h
  cases body : tag.get? "mbr-class" with
  | none =>
    rw [body] at h
    cases h
    exact .of_absent rfl body
  | some pairs =>
    rw [body] at h
    obtain ⟨classed, all, h⟩ := bind_eq_ok.mp h
    cases h
    exact .of_erase rfl (by decide) ((agreeOff_applyPairs all).mono (by decide))

theorem worked_of_applyStyles (h : applyStyles params tag = .ok tag') : Worked styles tag tag' := by
  rw [applyStyles] at h
  cases body : tag.get? "mbr-style" with
  | none =>
    rw [body] at h
    cases h
    exact .of_absent rfl body
  | some properties =>
    rw [body] at h
    obtain ⟨declarations, _, h⟩ := bind_eq_ok.mp h
    cases h
    refine .of_erase rfl (by decide) ?_
    split
    next => exact .refl _ tag
    next => exact (agreeOff_appendStyle tag _ false).mono (by decide)

theorem worked_applyThemeStyle (tag : Tag) : Worked themeStyles tag (applyThemeStyle tag) := by
  rw [applyThemeStyle]
  cases written : tag.get? "mbr-theme-style" with
  | none => exact .of_absent rfl written
  | some names =>
    refine .of_erase rfl (by decide) ?_
    split
    next => exact .refl _ tag
    next => exact (agreeOff_addClasses tag names).mono (by decide)

/-! ### Scope and overlays -/

theorem agreeOff_applyScope (options : RenderOptions) (tag : Tag) :
    AgreeOff scope.writes tag (applyScope options tag) := by
  have classed := (agreeOff_addClasses tag ("cid-" ++ options.cid.getD "")).mono
    (by decide : ["class"] ⊆ scope.writes)
  rw [applyScope]
  split
  next =>
    split
    next anchor _ =>
      split
      next => exact classed
      next => exact classed.trans (agreeOff_set _ anchor (by decide))
    next => exact classed
  next => exact .refl _ tag

theorem agreeOff_applyOverlay (tag : Tag) : AgreeOff overlays.writes tag (applyOverlay tag) := by
  unfold applyOverlay
  extract_lets opacity colour declarations
  split
  next =>
    have styled := (agreeOff_appendStyle tag declarations true).mono
      (by decide : ["style"] ⊆ overlays.writes)
    exact (styled.trans (agreeOff_erase _ (by decide))).trans (agreeOff_erase _ (by decide))
  next => exact .refl _ tag

/-! ## Passes over trees -/

theorem step_of_kept (h : pass.actOnTag ctx tag = .ok (some tag')) :
    pass.keeps ctx.params tag = true ∧ pass.Step ctx.params tag tag' := by
  have mapped {x : Except TooLarge Tag} (h : some <$> x = .ok (some tag')) : x = .ok tag' := by
    cases x <;> cases h
    rfl
  cases pass with
  | dropDeclarations =>
    have h := Except.ok.inj h
    rw [dropDeclaration] at h
    split at h
    next => cases h
    next other =>
      cases h
      refine ⟨?_, .refl _ tag, nofun⟩
      rw [keeps, Bool.eq_false_iff.mpr other]
      rfl
  | assetPaths =>
    cases h
    exact ⟨rfl, agreeOff_resolvePaths _ tag, nofun⟩
  | tokens => exact ⟨rfl, substituted_of_ok (mapped h)⟩
  | conditions => exact worked_of_applyCondition h
  | classes => exact ⟨rfl, worked_of_applyClasses (mapped h)⟩
  | styles => exact ⟨rfl, worked_of_applyStyles (mapped h)⟩
  | themeStyles =>
    cases h
    exact ⟨rfl, worked_applyThemeStyle tag⟩
  | scope =>
    cases h
    exact ⟨rfl, .refl _ tag, nofun⟩
  | overlays =>
    cases h
    refine ⟨rfl, ?_, nofun⟩
    split
    next => exact agreeOff_applyOverlay tag
    next => exact .refl _ tag

theorem keeps_of_dropped (h : pass.actOnTag ctx tag = .ok none) :
    pass.keeps ctx.params tag = false := by
  have unmapped {x : Except TooLarge Tag} : some <$> x ≠ .ok none := by
    cases x <;> exact nofun
  cases pass with
  | dropDeclarations =>
    have h := Except.ok.inj h
    rw [dropDeclaration] at h
    split at h
    next declaration =>
      rw [keeps, declaration]
      rfl
    next => cases h
  | conditions => exact conditionHolds_of_dropped h
  | tokens | classes | styles => exact absurd h unmapped
  | assetPaths | themeStyles | scope | overlays => cases h

theorem onRoot_thinned {change : Tag → Tag → Prop} {f : Tag → Tag}
    (changed : ∀ tag, change tag (f tag)) (same : ∀ tag, change tag tag) : ∀ nodes : List Node,
      Thinned (fun _ => true) change nodes (onRoot f nodes)
  | [] => .nil
  | .element tag _ :: _ => .kept rfl (changed tag) (.refl same _) (.refl same _)
  | .text content :: nodes => .text content content (onRoot_thinned changed same nodes)
  | .verbatim kind content :: nodes => .verbatim kind content (onRoot_thinned changed same nodes)

/-- A pass thins the tree by what it keeps, and steps on the tags. -/
theorem run_thinned (h : pass.run ctx nodes = .ok nodes') :
    Thinned (pass.keeps ctx.params) (pass.Step ctx.params) nodes nodes' := by
  by_cases isScope : pass = scope
  · subst isScope
    have same (tag : Tag) : scope.Step ctx.params tag tag := ⟨.refl _ tag, nofun⟩
    have h := Except.ok.inj h
    split at h
    next => exact h ▸ .refl same nodes
    next => exact h ▸ onRoot_thinned (fun tag => ⟨agreeOff_applyScope _ tag, nofun⟩) same nodes
  · rw [run_eq_transformAll ctx isScope] at h
    exact (transformAll_eq_ok_iff.mp h).thinned (fun _ _ => step_of_kept) fun _ => keeps_of_dropped

theorem runAll_cons_eq_ok {passes : List Pass} :
    runAll (pass :: passes) ctx nodes = .ok nodes' ↔
      ∃ middle, pass.run ctx nodes = .ok middle ∧ runAll passes ctx middle = .ok nodes' := by
  rw [runAll, List.foldlM_cons]
  exact bind_eq_ok

/-- Passes that keep every element thin nothing and rename nothing. -/
theorem runAll_thinned {passes : List Pass}
    (keeping : ∀ pass ∈ passes, ∀ tag, pass.keeps ctx.params tag = true)
    (h : runAll passes ctx nodes = .ok nodes') :
    Thinned (fun _ => true) (fun tag tag' => tag'.name = tag.name) nodes nodes' := by
  induction passes generalizing nodes with
  | nil =>
    cases h
    refine .refl ?_ _
    exact fun _ => rfl
  | cons pass passes ih =>
    obtain ⟨middle, first, others⟩ := runAll_cons_eq_ok.mp h
    obtain ⟨keep, keeping⟩ := List.forall_mem_cons.mp keeping
    refine ((run_thinned first).trans (ih keeping others) fun _ _ _ => rfl).mono ?_ ?_
    · intro tag
      rw [keep tag, Bool.and_self]
    · rintro tag tag'' ⟨tag', step, renamed⟩
      exact renamed.trans step.name

end Pass

end PageComponent
