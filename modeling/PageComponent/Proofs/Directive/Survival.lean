import Mathlib
import PageComponent.Proofs.Directive.Steps

/-!
# Survival

Which elements of a tree are left by all passes. It is told from the tree before the first of them:
an element is left unless it, or one around it, is a declaration or has a condition that does not
hold once its tokens are replaced.
-/

namespace PageComponent

open Node Tag

namespace Pass

variable {ctx : RenderContext} {params : Params} {tag tag' : Tag} {nodes nodes' : List Node}

/-- Whether the condition of the tag, if it has one, holds with its tokens replaced. -/
def conditionWillHold (params : Params) (tag : Tag) : Bool :=
  match tag.get? "mbr-if" with
  | none => true
  | some body =>
    match substitute params body >>= Expr.holds params with
    | .ok holds => holds
    | .error _ => false

theorem conditionWillHold_of_agree (h : AgreeOff pathAttributes tag tag') :
    conditionWillHold params tag' = conditionWillHold params tag := by
  rw [conditionWillHold, conditionWillHold, h.get? "mbr-if" (by decide)]

/-- Whether the tag does not make its element drop. -/
def survives (params : Params) (tag : Tag) : Bool :=
  !tag.isDeclaration && conditionWillHold params tag

/-- What becomes of a tag before conditions are tested. -/
def Prepared (params : Params) (tag tag' : Tag) : Prop :=
  ∃ resolved, AgreeOff pathAttributes tag resolved ∧ Substituted params resolved tag'

theorem Prepared.name (h : Prepared params tag tag') : tag'.name = tag.name := by
  obtain ⟨resolved, paths, tokens⟩ := h
  exact tokens.name.trans paths.name

theorem Prepared.conditionHolds_eq (h : Prepared params tag tag') :
    conditionHolds params tag' = conditionWillHold params tag := by
  obtain ⟨resolved, paths, tokens⟩ := h
  have substituted := tokens.get? "mbr-if"
  rw [paths.get? "mbr-if" (by decide)] at substituted
  rw [conditionHolds, conditionWillHold]
  cases written : tag.get? "mbr-if" with
  | none =>
    rw [written] at substituted
    rw [← Except.ok.inj substituted]
  | some body =>
    rw [written, Option.mapM_some] at substituted
    obtain ⟨condition, value, substituted⟩ := bind_eq_ok.mp substituted
    rw [← Except.ok.inj substituted]
    simp only [value]
    rfl

/-- Past the declarations, the tree is thinned by the conditions. -/
theorem conditions_thinned (h : runAll (all.drop 1) ctx nodes = .ok nodes') :
    Thinned (conditionWillHold ctx.params) (fun tag tag' => tag'.name = tag.name) nodes nodes' := by
  obtain ⟨resolved, paths, h⟩ := runAll_cons_eq_ok.mp h
  obtain ⟨substituted, tokens, h⟩ := runAll_cons_eq_ok.mp h
  obtain ⟨conditioned, condition, after⟩ := runAll_cons_eq_ok.mp h
  have prepared : Thinned (fun _ => true) (Prepared ctx.params) nodes substituted := by
    refine ((run_thinned paths).trans (run_thinned tokens) fun _ _ _ => rfl).mono ?_ ?_
    · exact fun _ => rfl
    · exact fun tag tag' ⟨resolved, paths, tokens⟩ => ⟨resolved, paths.agree, tokens⟩
  have tested := prepared.trans (run_thinned condition) fun _ _ => Prepared.conditionHolds_eq
  have keeping := runAll_thinned (by simp [keeps]) after
  refine (tested.trans keeping fun _ _ _ => rfl).mono ?_ ?_
  · intro tag
    rw [Bool.and_true, Bool.true_and]
  · rintro tag tag' ⟨kept, ⟨prepared, preparing, step⟩, renamed⟩
    exact renamed.trans (step.name.trans preparing.name)

/-- All passes thin the tree by what survives. -/
theorem runAll_all_thinned (h : runAll all ctx nodes = .ok nodes') :
    Thinned (survives ctx.params) (fun tag tag' => tag'.name = tag.name) nodes nodes' := by
  obtain ⟨undeclared, declarations, h⟩ := runAll_cons_eq_ok.mp h
  have same (tag tag' : Tag) (step : dropDeclarations.Step ctx.params tag tag') :
      conditionWillHold ctx.params tag' = conditionWillHold ctx.params tag :=
    conditionWillHold_of_agree (step.agree.mono (List.nil_subset _))
  refine ((run_thinned declarations).trans (conditions_thinned h) same).mono ?_ ?_
  · exact fun _ => rfl
  · rintro tag tag' ⟨kept, step, renamed⟩
    exact renamed.trans step.name

/-- What is left by all passes has the outline of the tree without the elements that do not survive:
an element is left if it and all elements around it survive. No pass does more than to drop
elements. -/
theorem outline_runAll (h : runAll all ctx nodes = .ok nodes') :
    outline nodes' = outline (prune (survives ctx.params) nodes) ∧
      (lineages nodes').map (·.map Tag.name) =
        ((lineages nodes).filter (·.all (survives ctx.params))).map (·.map Tag.name) ∧
      ∀ pass ∈ all, ∀ before after, pass.run ctx before = .ok after →
        outline after = outline (prune (pass.keeps ctx.params) before) := by
  have same : outline nodes' = outline (prune (survives ctx.params) nodes) :=
    (runAll_all_thinned h).outline_eq fun _ _ renamed => renamed
  refine ⟨same, ?_, ?_⟩
  · have named (nodes : List Node) : (lineages nodes).map (·.map Tag.name) =
        (lineages (outline nodes)).map (·.map Tag.name) := by
      simp only [lineages_outline, List.map_map, Function.comp_def]
    rw [named, same, ← named, lineages_prune]
  · intro pass _ before after step
    exact (run_thinned step).outline_eq fun _ _ step => step.name

/-- What has a condition that fails goes, and what is declared. -/
theorem outline_of_section :
    let nodes : List Node :=
      [.element ⟨"section", [("mbr-if", "{{a}}")]⟩
        [.element ⟨"div", [("mbr-if", "b")]⟩ [.element ⟨"p", []⟩ [.text "no"]],
          .element ⟨"p", [("mbr-if", "a")]⟩ [.text "yes"],
          .element ⟨"mbr-parameters", []⟩ [.element ⟨"input", []⟩ []]]]
    let nodes' : List Node := [.element ⟨"section", []⟩ [.element ⟨"p", []⟩ [.text "yes"]]]
    let ctx : RenderContext := ⟨[("a", .bool true)], {}⟩
    runAll all ctx nodes = .ok nodes' ∧
      outline nodes' = outline (prune (survives ctx.params) nodes) ∧
      (lineages nodes').map (·.map Tag.name) =
        ((lineages nodes).filter (·.all (survives ctx.params))).map (·.map Tag.name) ∧
      ∀ pass ∈ all, ∀ before after, pass.run ctx before = .ok after →
        outline after = outline (prune (pass.keeps ctx.params) before) := by
  intro nodes nodes' ctx
  have ran : runAll all ctx nodes = .ok nodes' := by cbv
  exact ⟨ran, outline_runAll ran⟩

end Pass

end PageComponent
