import Mathlib
import PageComponent.Proofs.Directive.Steps

/-!
# Settled trees

After all passes no declaration and no directive is left, and the passes that obey directives, the
scope and the overlays find nothing more to do.
-/

namespace PageComponent

open Node Tag

namespace Pass

variable {ctx : RenderContext} {options : RenderOptions} {params : Params} {pass : Pass}
  {tag tag' : Tag} {keys : List String} {nodes nodes' : List Node}

/-! ## Directives -/

/-- No element is a declaration, and none has one of the attributes. -/
def Clear (keys : List String) (nodes : List Node) : Prop :=
  ∀ tag ∈ tags nodes, tag.isDeclaration = false ∧ ∀ key ∈ keys, tag.get? key = none

/-- A pass brings no attribute back that it does not write. -/
theorem Step.absent {key : String} (h : pass.Step params tag tag') (unwritten : key ∉ pass.writes)
    (absent : tag.get? key = none) : tag'.get? key = none := by
  cases pass with
  | tokens =>
    have substituted := Substituted.get? h key
    rw [absent] at substituted
    exact (Except.ok.inj substituted).symm
  | _ => exact ((Worked.agree h).get? key unwritten).trans absent

theorem Step.done (h : pass.Step params tag tag') :
    ∀ key ∈ pass.directive?, tag'.get? key = none := by
  cases pass with
  | tokens => exact nofun
  | _ => exact Worked.done h

theorem Step.isDeclaration (h : pass.Step params tag tag') :
    tag'.isDeclaration = tag.isDeclaration := by
  rw [Tag.isDeclaration, Tag.isDeclaration, h.name]

theorem clear_of_dropDeclarations (h : dropDeclarations.run ctx nodes = .ok nodes') :
    Clear [] nodes' := by
  intro tag' mem
  obtain ⟨tag, _, kept, step⟩ := (run_thinned h).mem_tags mem
  rw [keeps, Bool.not_eq_true'] at kept
  exact ⟨step.isDeclaration.trans kept, fun _ mem => (List.not_mem_nil mem).elim⟩

theorem Clear.run (clear : Clear keys nodes) (h : pass.run ctx nodes = .ok nodes')
    (unwritten : ∀ key ∈ keys, key ∉ pass.writes) :
    Clear (pass.directive?.toList ++ keys) nodes' := by
  intro tag' mem
  obtain ⟨tag, mem, _, step⟩ := (run_thinned h).mem_tags mem
  obtain ⟨undeclared, absent⟩ := clear tag mem
  refine ⟨step.isDeclaration.trans undeclared, ?_⟩
  intro key mem
  rcases List.mem_append.mp mem with directive | mem
  · exact step.done key (Option.mem_toList.mp directive)
  · exact step.absent (unwritten key mem) (absent key mem)

theorem clear_of_runAll (h : runAll all ctx nodes = .ok nodes') :
    Clear ["mbr-theme-style", "mbr-style", "mbr-class", "mbr-if"] nodes' := by
  obtain ⟨undeclared, declarations, h⟩ := runAll_cons_eq_ok.mp h
  obtain ⟨resolved, paths, h⟩ := runAll_cons_eq_ok.mp h
  obtain ⟨substituted, tokens, h⟩ := runAll_cons_eq_ok.mp h
  obtain ⟨conditioned, conditions, h⟩ := runAll_cons_eq_ok.mp h
  obtain ⟨classed, classes, h⟩ := runAll_cons_eq_ok.mp h
  obtain ⟨styled, styles, h⟩ := runAll_cons_eq_ok.mp h
  obtain ⟨themed, themes, h⟩ := runAll_cons_eq_ok.mp h
  obtain ⟨rooted, scope, h⟩ := runAll_cons_eq_ok.mp h
  obtain ⟨overlaid, overlays, h⟩ := runAll_cons_eq_ok.mp h
  cases h
  have prepared : Clear [] substituted :=
    ((clear_of_dropDeclarations declarations).run paths nofun).run tokens nofun
  have obeyed : Clear ["mbr-theme-style", "mbr-style", "mbr-class", "mbr-if"] themed :=
    (((prepared.run conditions nofun).run classes (by decide)).run styles (by decide)).run themes
      (by decide)
  exact (obeyed.run scope (by decide)).run overlays (by decide)

theorem actOnTag_of_absent {key : String} (directive : pass.directive? = some key)
    (absent : tag.get? key = none) : pass.actOnTag ctx tag = .ok (some tag) := by
  cases pass with
  | conditions =>
    cases directive
    rw [actOnTag, applyCondition, absent]
    rfl
  | classes =>
    cases directive
    rw [actOnTag, applyClasses, absent]
    rfl
  | styles =>
    cases directive
    rw [actOnTag, applyStyles, absent]
    rfl
  | themeStyles =>
    cases directive
    rw [actOnTag, applyThemeStyle, absent]
  | _ => cases directive

/-- A pass whose directive nothing has does nothing. -/
theorem Clear.run_eq {key : String} (clear : Clear keys nodes)
    (directive : pass.directive? = some key) (mem : key ∈ keys) :
    pass.run ctx nodes = .ok nodes := by
  have notScope : pass ≠ scope := by
    rintro rfl
    cases directive
  have texts : pass.actOnText ctx = .ok := by
    cases pass with
    | tokens => cases directive
    | _ => rfl
  rw [run_eq_transformAll ctx notScope, texts]
  exact transformAll_eq_self fun tag inside =>
    actOnTag_of_absent directive ((clear tag inside).2 key mem)

/-! ## Overlays -/

theorem applyOverlay_of_absent (opacity : tag.get? "opacity" = none)
    (colour : tag.get? "bg-color" = none) : applyOverlay tag = tag := by
  simp only [applyOverlay, filled?, opacity, colour, Option.filter_none, Option.map_none,
    Option.toList_none, List.append_nil, ne_eq, not_true_eq_false, and_false, if_false]

/-- An overlay that is changed has both attributes no more. -/
theorem applyOverlay_eq_or (tag : Tag) :
    applyOverlay tag = tag ∨
      (applyOverlay tag).get? "opacity" = none ∧ (applyOverlay tag).get? "bg-color" = none := by
  unfold applyOverlay
  extract_lets opacity colour declarations
  split
  next =>
    right
    constructor
    · rw [get?_erase, if_neg (by decide), get?_erase, if_pos rfl]
    · rw [get?_erase, if_pos rfl]
  next => exact .inl rfl

theorem applyOverlay_applyOverlay (tag : Tag) :
    applyOverlay (applyOverlay tag) = applyOverlay tag := by
  rcases applyOverlay_eq_or tag with same | ⟨opacity, colour⟩
  · rw [same, same]
  · exact applyOverlay_of_absent opacity colour

theorem run_overlays_run_overlays (h : overlays.run ctx nodes = .ok nodes') :
    overlays.run ctx nodes' = .ok nodes' := by
  rw [run] at h ⊢
  split at h
  next patch =>
    rw [if_pos patch]
    have overlaid :
        Thinned (fun _ => true) (fun tag tag' => tag' = applyOverlay tag) nodes nodes' :=
      (transformAll_eq_ok_iff.mp h).thinned
        (fun _ _ kept => ⟨rfl, (Option.some.inj (Except.ok.inj kept)).symm⟩)
        (fun _ dropped => absurd (Except.ok.inj dropped) (Option.some_ne_none _))
    refine transformAll_eq_self fun tag' mem => ?_
    obtain ⟨tag, _, _, rfl⟩ := overlaid.mem_tags mem
    rw [applyOverlay_applyOverlay]
  next patch => rw [if_neg patch]

/-! ## Scope -/

/-- A section that has its scope and its anchor. -/
structure Scoped (options : RenderOptions) (tag : Tag) : Prop where
  classes : tag.addClasses ("cid-" ++ options.cid.getD "") = tag
  anchor : ∀ anchor ∈ options.anchor, anchor ≠ "" → tag.get? "id" = some anchor

theorem Scoped.applyScope_eq_self (h : tag.name = "section" → Scoped options tag) :
    applyScope options tag = tag := by
  rw [applyScope]
  split
  next isSection =>
    obtain ⟨classes, anchor⟩ := h isSection
    rw [classes]
    split
    next id written =>
      split
      next => rfl
      next filled => exact set_of_get? (anchor id written filled)
    next => rfl
  next => rfl

theorem Scoped.congr (h : Scoped options tag) (class_eq : tag'.get? "class" = tag.get? "class")
    (id_eq : tag'.get? "id" = tag.get? "id") : Scoped options tag' where
  classes := addClasses_eq_self_congr class_eq h.classes
  anchor anchor written filled := id_eq.trans (h.anchor anchor written filled)

theorem scoped_applyScope (isSection : tag.name = "section") :
    Scoped options (applyScope options tag) := by
  have classed := addClasses_addClasses tag ("cid-" ++ options.cid.getD "")
  rw [applyScope, if_pos isSection]
  cases written : options.anchor with
  | none => exact ⟨classed, by simp [written]⟩
  | some anchor =>
    dsimp only
    split
    next blank => exact ⟨classed, by simp [written, blank]⟩
    next filled =>
      constructor
      · refine addClasses_eq_self_congr ?_ classed
        rw [get?_set, if_neg (by decide)]
      · intro other mem _
        obtain rfl := Option.some.inj (written.symm.trans mem)
        rw [get?_set, if_pos rfl]

/-- The tag of the first top-level element. -/
def rootTag? (nodes : List Node) : Option Tag :=
  nodes.findSome? Node.tag?

theorem rootTag?_onRoot (f : Tag → Tag) : ∀ nodes : List Node,
    rootTag? (onRoot f nodes) = (rootTag? nodes).map f
  | [] => rfl
  | .element _ _ :: _ => rfl
  | .text _ :: nodes | .verbatim _ _ :: nodes => rootTag?_onRoot f nodes

theorem onRoot_eq_self {f : Tag → Tag} : ∀ {nodes : List Node},
    (∀ tag ∈ rootTag? nodes, f tag = tag) → onRoot f nodes = nodes
  | [], _ => rfl
  | .element tag _ :: _, same => by rw [onRoot, same tag rfl]
  | .text content :: nodes, same =>
    congrArg (List.cons (Node.text content)) (@onRoot_eq_self f nodes same)
  | .verbatim kind content :: nodes, same =>
    congrArg (List.cons (Node.verbatim kind content)) (@onRoot_eq_self f nodes same)

/-- Where no element is dropped, the root becomes the root. -/
theorem rootTag?_thinned {change : Tag → Tag → Prop}
    (h : Thinned (fun _ => true) change nodes nodes') :
    ∀ tag' ∈ rootTag? nodes', ∃ tag ∈ rootTag? nodes, change tag tag' := by
  induction h with
  | nil => exact nofun
  | kept _ tags _ _ _ _ =>
    rintro tag' rootEq
    obtain rfl := Option.some.inj rootEq
    exact ⟨_, rfl, tags⟩
  | dropped drop _ _ => cases drop
  | text _ _ _ after | verbatim _ _ _ after => exact after

theorem run_scope_run_overlays {middle : List Node} (rooted : scope.run ctx nodes = .ok middle)
    (overlaid : overlays.run ctx middle = .ok nodes') : scope.run ctx nodes' = .ok nodes' := by
  rw [run] at rooted ⊢
  split
  next => rfl
  next cid =>
    rw [if_neg cid] at rooted
    obtain rfl := Except.ok.inj rooted
    refine congrArg _ (onRoot_eq_self fun tag' root => ?_)
    refine Scoped.applyScope_eq_self fun isSection => ?_
    obtain ⟨tag, root, step⟩ := rootTag?_thinned (run_thinned overlaid) tag' root
    rw [rootTag?_onRoot] at root
    obtain ⟨original, _, rfl⟩ := Option.map_eq_some_iff.mp root
    have agree := Worked.agree step
    have named := (agreeOff_applyScope ctx.options original).name
    exact (scoped_applyScope (named.symm.trans (agree.name.symm.trans isSection))).congr
      (agree.get? "class" (by decide)) (agree.get? "id" (by decide))

/-! ## All passes -/

theorem runAll_eq_self {passes : List Pass}
    (same : ∀ pass ∈ passes, pass.run ctx nodes = .ok nodes) :
    runAll passes ctx nodes = .ok nodes := by
  induction passes with
  | nil => rfl
  | cons pass passes ih =>
    obtain ⟨first, others⟩ := List.forall_mem_cons.mp same
    exact runAll_cons_eq_ok.mpr ⟨nodes, first, ih others⟩

/-- All passes leave no declaration and no directive, and the passes from the conditions on change
nothing when they are run once more. -/
theorem settled_of_runAll (h : runAll all ctx nodes = .ok nodes') :
    (∀ tag ∈ tags nodes', tag.isDeclaration = false ∧
      ∀ key ∈ ["mbr-if", "mbr-class", "mbr-style", "mbr-theme-style"], tag.has key = false) ∧
    runAll [conditions, classes, styles, themeStyles, scope, overlays] ctx nodes' = .ok nodes' := by
  have clear := clear_of_runAll h
  have directives : ["mbr-if", "mbr-class", "mbr-style", "mbr-theme-style"] ⊆
    ["mbr-theme-style", "mbr-style", "mbr-class", "mbr-if"] := by decide
  have split : all =
    [dropDeclarations, assetPaths, tokens, conditions, classes, styles, themeStyles] ++
      [scope, overlays] := rfl
  rw [runAll, split, List.foldlM_append] at h
  obtain ⟨obeyed, _, h⟩ := bind_eq_ok.mp h
  obtain ⟨rooted, scoping, h⟩ := runAll_cons_eq_ok.mp h
  obtain ⟨overlaid, overlaying, h⟩ := runAll_cons_eq_ok.mp h
  cases h
  constructor
  · intro tag mem
    obtain ⟨undeclared, absent⟩ := clear tag mem
    refine ⟨undeclared, fun key directive => ?_⟩
    rw [has, Entries.contains, ← Tag.get?, absent key (directives directive)]
    rfl
  · refine runAll_eq_self ?_
    simp only [List.forall_mem_cons]
    exact ⟨clear.run_eq rfl (by decide), clear.run_eq rfl (by decide), clear.run_eq rfl (by decide),
      clear.run_eq rfl (by decide), run_scope_run_overlays scoping overlaying,
      run_overlays_run_overlays overlaying, fun _ mem => (List.not_mem_nil mem).elim⟩

/-- Directives with a body, without one, and on the root. -/
theorem settled_of_section :
    let nodes : List Node :=
      [.element ⟨"mbr-parameters", []⟩ [],
        .element ⟨"section", [("mbr-theme-style", "wide"), ("mbr-if", "a")]⟩
          [.element ⟨"div", [("class", "old"), ("mbr-class", "'new': a, 'old': b"),
            ("mbr-style", "")]⟩ [.text "shown"]]]
    let nodes' : List Node :=
      [.element ⟨"section", [("class", "wide cid-x"), ("id", "top")]⟩
        [.element ⟨"div", [("class", "new")]⟩ [.text "shown"]]]
    let ctx : RenderContext := ⟨[("a", .bool true)], { cid := some "x", anchor := some "top" }⟩
    runAll all ctx nodes = .ok nodes' ∧
      (∀ tag ∈ tags nodes', tag.isDeclaration = false ∧
        ∀ key ∈ ["mbr-if", "mbr-class", "mbr-style", "mbr-theme-style"], tag.has key = false) ∧
      runAll [conditions, classes, styles, themeStyles, scope, overlays] ctx nodes' =
        .ok nodes' := by
  intro nodes nodes' ctx
  have ran : runAll all ctx nodes = .ok nodes' := by cbv
  exact ⟨ran, settled_of_runAll ran⟩

end Pass

end PageComponent
