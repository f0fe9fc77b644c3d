import PageComponent.Proofs.Directive.Steps
import PageComponent.Proofs.Value.Showing

/-!
# Overflow in passes

Substitution and styles show values, conditions and classes test them. A pass fails exactly if one
of the values that it shows or tests, in the tree as it finds it, is too large for that.
-/

namespace PageComponent

open Node Tag

variable {params : Params}

/-! ## Sources -/

/-- The text has a token whose value cannot be shown. -/
def TokenOverflows (params : Params) (text : String) : Prop :=
  ∃ source, .token source ∈ Piece.ofChars text.toList ∧
    (Expr.valueOf params (.ofList source)).Unshowable

/-- The value of a condition cannot be tested. -/
def ConditionOverflows (params : Params) (source : String) : Prop :=
  (Expr.valueOf params source).Untestable

/-- The value that an entry of a style directive is given. -/
def styleValue (params : Params) : Value → Value
  | .text source => Expr.valueOf params source
  | value => value

theorem Piece.fails_expand (piece : Piece) : Fails (piece.expand params) ↔
    ∃ source, piece = .token source ∧ (Expr.valueOf params (.ofList source)).Unshowable := by
  cases piece with
  | plain c => exact iff_of_false (not_fails_ok _) (by simp)
  | token source =>
    have shown : Fails ((token source).expand params) ↔
        (Expr.valueOf params (.ofList source)).Unshowable :=
      (fails_bind_of_total fun _ => not_fails_ok _).trans (Value.fails_display _)
    rw [shown]
    simp only [token.injEq, exists_eq_left']

theorem fails_substitute (text : String) :
    Fails (substitute params text) ↔ TokenOverflows params text := by
  have pieces : Fails (substitute params text) ↔
      Fails ((Piece.ofChars text.toList).mapM (Piece.expand params)) :=
    fails_bind_of_total fun _ => not_fails_ok _
  rw [pieces, fails_mapM]
  constructor
  · rintro ⟨piece, mem, fails⟩
    obtain ⟨source, rfl, unshowable⟩ := piece.fails_expand.mp fails
    exact ⟨source, mem, unshowable⟩
  · rintro ⟨source, mem, unshowable⟩
    exact ⟨_, mem, (Piece.fails_expand _).mpr ⟨source, rfl, unshowable⟩⟩

theorem fails_holds (source : String) :
    Fails (Expr.holds params source) ↔ ConditionOverflows params source :=
  Value.fails_isTruthy _

namespace Pass

variable {ctx : RenderContext} {pass : Pass} {tag tag' : Tag} {nodes nodes' : List Node}

theorem declaration?_eq (entry : String × Value) : declaration? params entry =
    let value := styleValue params entry.2
    if value.isNullish ∨ value = .text "" then .ok none
    else do return some (entry.1 ++ ": " ++ (← value.display)) := rfl

theorem fails_declaration? (entry : String × Value) :
    Fails (declaration? params entry) ↔ (styleValue params entry.2).Unshowable := by
  rw [declaration?_eq]
  dsimp only
  split
  next empty =>
    refine iff_of_false (not_fails_ok _) fun unshowable => ?_
    rcases empty with nullish | blank
    · rw [unshowable.not_isNullish] at nullish
      cases nullish
    · rw [blank] at unshowable
      cases unshowable
  next => exact (fails_bind_of_total fun _ => not_fails_ok _).trans (Value.fails_display _)

theorem fails_applyPair (tag : Tag) (pair : ClassPair) :
    Fails (applyPair params tag pair) ↔ ConditionOverflows params pair.condition := by
  refine (fails_bind_of_total fun holds => ?_).trans (fails_holds pair.condition)
  cases holds <;> exact not_fails_ok _

/-! ## Tags -/

/-- The pass shows or tests a value at the tag that is too large for it. -/
def OverflowsAt (params : Params) : Pass → Tag → Prop
  | tokens, tag => ∃ entry ∈ tag.attributes, TokenOverflows params entry.2
  | conditions, tag => ∃ condition ∈ tag.get? "mbr-if", ConditionOverflows params condition
  | classes, tag =>
    ∃ body ∈ tag.get? "mbr-class", ∃ pair ∈ ClassPair.ofBody body,
      ConditionOverflows params pair.condition
  | styles, tag =>
    ∃ body ∈ tag.get? "mbr-style", ∃ entry ∈ StyleMap.ofBody body,
      (styleValue params entry.2).Unshowable
  | _, _ => False

theorem fails_substituteTag (tag : Tag) :
    Fails (substituteTag params tag) ↔ ∃ entry ∈ tag.attributes, TokenOverflows params entry.2 := by
  refine (fails_bind_of_total fun _ => not_fails_ok _).trans ((fails_mapM _).trans ?_)
  have value (entry : String × String) :
      Fails (do return (entry.1, ← substitute params entry.2)) ↔ TokenOverflows params entry.2 :=
    (fails_bind_of_total fun _ => not_fails_ok _).trans (fails_substitute entry.2)
  exact exists_congr fun entry => and_congr_right fun _ => value entry

theorem fails_actOnTag (tag : Tag) :
    Fails (pass.actOnTag ctx tag) ↔ pass.OverflowsAt ctx.params tag := by
  cases pass with
  | tokens => exact (fails_map some).trans (fails_substituteTag tag)
  | conditions =>
    rw [actOnTag, applyCondition, OverflowsAt]
    cases tag.get? "mbr-if" with
    | none => exact iff_of_false (not_fails_ok _) (by simp)
    | some condition =>
      simp only [Option.mem_some_iff, exists_eq_left']
      refine (fails_bind_of_total fun holds => ?_).trans (fails_holds condition)
      cases holds <;> exact not_fails_ok _
  | classes =>
    refine (fails_map some).trans ?_
    rw [applyClasses, OverflowsAt]
    cases tag.get? "mbr-class" with
    | none => exact iff_of_false (not_fails_ok _) (by simp)
    | some body =>
      simp only [Option.mem_some_iff, exists_eq_left']
      exact (fails_bind_of_total fun _ => not_fails_ok _).trans (fails_foldlM fails_applyPair _ tag)
  | styles =>
    refine (fails_map some).trans ?_
    rw [applyStyles, OverflowsAt]
    cases tag.get? "mbr-style" with
    | none => exact iff_of_false (not_fails_ok _) (by simp)
    | some body =>
      simp only [Option.mem_some_iff, exists_eq_left', ← fails_declaration?]
      exact (fails_bind_of_total fun _ => not_fails_ok _).trans (fails_mapM _)
  | dropDeclarations | assetPaths | themeStyles | scope | overlays =>
    exact iff_of_false (not_fails_ok _) id

/-! ## Trees -/

/-- The pass shows or tests a value in the tree that is too large for it. -/
def Overflows (params : Params) (pass : Pass) (nodes : List Node) : Prop :=
  (∃ tag ∈ seenTags (pass.keeps params) nodes, pass.OverflowsAt params tag) ∨
    pass = tokens ∧ ∃ content ∈ seenTexts (pass.keeps params) nodes, TokenOverflows params content

theorem fails_actOnText (content : String) :
    Fails (pass.actOnText ctx content) ↔ pass = tokens ∧ TokenOverflows ctx.params content := by
  cases pass with
  | tokens => exact (fails_substitute content).trans ⟨fun h => ⟨rfl, h⟩, And.right⟩
  | _ => exact iff_of_false (not_fails_ok _) nofun

theorem fails_run (nodes : List Node) :
    Fails (pass.run ctx nodes) ↔ pass.Overflows ctx.params nodes := by
  by_cases isScope : pass = scope
  · subst isScope
    refine iff_of_false (not_fails_ok _) ?_
    rintro (⟨_, _, overflows⟩ | ⟨other, _⟩)
    · exact overflows
    · cases other
  · rw [run_eq_transformAll ctx isScope,
      fails_transformAll (fun _ _ kept => (step_of_kept kept).1) fun _ => keeps_of_dropped]
    simp only [fails_actOnTag, fails_actOnText, Overflows, and_left_comm, exists_and_left]

/-- Passes fail at the first one that overflows in the tree that the ones before it have made. -/
theorem fails_runAll : ∀ (passes : List Pass) (nodes : List Node),
    Fails (runAll passes ctx nodes) ↔ ∃ before pass after, passes = before ++ pass :: after ∧
      ∃ middle, runAll before ctx nodes = .ok middle ∧ pass.Overflows ctx.params middle
  | [], nodes => iff_of_false (not_fails_ok nodes) (by simp)
  | pass :: passes, nodes => by
    rw [runAll, List.foldlM_cons, fails_bind, fails_run]
    constructor
    · rintro (here | ⟨middle, first, later⟩)
      · exact ⟨[], pass, passes, rfl, nodes, rfl, here⟩
      · obtain ⟨before, other, after, rfl, reached, ran, overflows⟩ :=
          (fails_runAll passes middle).mp later
        exact ⟨pass :: before, other, after, rfl, reached,
          runAll_cons_eq_ok.mpr ⟨middle, first, ran⟩, overflows⟩
    · rintro ⟨before, other, after, split, reached, ran, overflows⟩
      cases before with
      | nil =>
        cases split
        cases ran
        exact .inl overflows
      | cons first before =>
        cases split
        obtain ⟨middle, run, ran⟩ := runAll_cons_eq_ok.mp ran
        exact .inr ⟨middle, run,
          (fails_runAll _ middle).mpr ⟨before, other, after, rfl, reached, ran, overflows⟩⟩

end Pass

end PageComponent
