import Mathlib
import PageComponent.Proofs.Directive.Overflow
import PageComponent.Proofs.Style.Overflow
import PageComponent.Render.Component

/-!
# Outcomes of rendering

Rendering ends in one of three ways. A template without a root is refused; a number too large to be
shown or tested stops the rendering of any other; all else gives an output. In particular an
expression that fails and styles that cannot be compiled stop nothing.
-/

namespace PageComponent

open Node

variable {template : String} {params : Params} {options : RenderOptions} {colours : List String}

/-! ## Failing sources -/

/-- The source is no expression, or its expression has no value. -/
def Expr.SourceFails (params : Params) (source : String) : Prop :=
  Fails (Expr.parse (trimmed source)) ∨
    ∃ e, Expr.parse (trimmed source) = .ok e ∧ Fails (e.evaluate params)

theorem Expr.valueOf_of_sourceFails {source : String} (h : SourceFails params source) :
    valueOf params source = .undefined := by
  rw [valueOf]
  rcases h with ⟨error, unparsed⟩ | ⟨e, parsed, error, unvalued⟩
  · rw [unparsed]
  · simp only [parsed, unvalued]

/-- A source that fails shows nothing, holds for no condition and makes no declaration. -/
theorem Expr.effects_of_sourceFails {source : String} (h : SourceFails params source) :
    (Piece.token source.toList).expand params = .ok [] ∧ holds params source = .ok false ∧
      ∀ property, Pass.declaration? params (property, .text source) = .ok none := by
  have value := valueOf_of_sourceFails h
  refine ⟨?_, ?_, fun property => ?_⟩
  · rw [Piece.expand, String.ofList_toList, value]
    rfl
  · rw [holds, value]
    rfl
  · rw [Pass.declaration?_eq, styleValue, value]
    rfl

/-! ## Outcomes -/

/-- The template has a top-level element that is no declaration. -/
def HasRoot (template : String) : Prop :=
  ∃ node ∈ Node.ofSource template, ∃ tag ∈ node.tag?, tag.isDeclaration = false

/-- A pass or the style sheet shows or tests a value that is too large for it. -/
def RenderOverflows (template : String) (params : Params) (options : RenderOptions) : Prop :=
  (∃ before pass after, Pass.all = before ++ pass :: after ∧
    ∃ nodes, Pass.runAll before ⟨params, options⟩ (Node.ofSource template) = .ok nodes ∧
      pass.Overflows params nodes) ∨
  Style.isNeeded options.styles options.cid = true ∧
    ∃ tree ∈ options.styles, Style.Overflows tree params

theorem exists_undeclared (ctx : RenderContext) (template : String) :
    ∃ nodes, Pass.dropDeclarations.run ctx (Node.ofSource template) = .ok nodes ∧
      ((root? nodes).isSome = true ↔ HasRoot template) := by
  have total : ¬Fails (Pass.dropDeclarations.run ctx (Node.ofSource template)) := by
    rw [Pass.fails_run]
    rintro (⟨_, _, overflows⟩ | ⟨other, _⟩)
    · exact overflows
    · cases other
  obtain ⟨nodes, dropped⟩ := not_fails_iff.mp total
  refine ⟨nodes, dropped, (Pass.run_thinned dropped).isSome_root?_iff.trans ?_⟩
  simp only [Pass.keeps, Bool.not_eq_true', HasRoot]

/-- With a root, rendering runs all passes and compiles the styles. -/
theorem render_eq (root : HasRoot template) :
    render template params options colours = (do
      let nodes ← Pass.runAll Pass.all ⟨params, options⟩ (Node.ofSource template)
      let (css, notices) ← Style.compile options.styles params options.cid colours
      return (⟨printRoot nodes, css⟩, notices)) := by
  obtain ⟨undeclared, dropped, rooted⟩ := exists_undeclared ⟨params, options⟩ template
  have present : ¬(root? undeclared).isNone = true := by
    rw [Option.isNone_iff_eq_none, ← Option.not_isSome_iff_eq_none, not_not]
    exact rooted.mpr root
  have runs : Pass.runAll Pass.all ⟨params, options⟩ (Node.ofSource template) =
      Pass.runAll (Pass.all.drop 1) ⟨params, options⟩ undeclared := by
    rw [Pass.runAll, Pass.all, List.foldlM_cons, dropped]
    rfl
  rw [render, dropped, runs]
  exact if_neg present

theorem render_of_not_hasRoot (rootless : ¬HasRoot template) :
    render template params options colours = .error .noRoot := by
  obtain ⟨undeclared, dropped, rooted⟩ := exists_undeclared ⟨params, options⟩ template
  have absent : (root? undeclared).isNone = true := by
    rw [Option.isNone_iff_eq_none, ← Option.not_isSome_iff_eq_none, rooted]
    exact rootless
  rw [render, dropped]
  exact if_pos absent

/-- With a root, the passes and the styles alone decide. -/
theorem render_cases (params : Params) (options : RenderOptions) (colours : List String)
    (root : HasRoot template) :
    (RenderOverflows template params options ∧
      render template params options colours = .error .tooLarge) ∨
    ¬RenderOverflows template params options ∧
      ∃ nodes css notices, Style.compile options.styles params options.cid colours =
          .ok (css, notices) ∧
        render template params options colours = .ok (⟨printRoot nodes, css⟩, notices) := by
  have overflows : RenderOverflows template params options ↔
      Fails (Pass.runAll Pass.all ⟨params, options⟩ (Node.ofSource template)) ∨
        Fails (Style.compile options.styles params options.cid colours) := by
    rw [Pass.fails_runAll, Style.fails_compile, RenderOverflows]
  rw [render_eq root, overflows]
  cases ran : Pass.runAll Pass.all ⟨params, options⟩ (Node.ofSource template) with
  | error e => exact .inl ⟨.inl ⟨e, rfl⟩, rfl⟩
  | ok nodes =>
    cases compiled : Style.compile options.styles params options.cid colours with
    | error e => exact .inl ⟨.inr ⟨e, rfl⟩, rfl⟩
    | ok sheet =>
      refine .inr ⟨?_, nodes, sheet.1, sheet.2, rfl, rfl⟩
      rintro (fails | fails) <;> exact not_fails_ok _ fails

theorem render_trichotomy (template : String) (params : Params) (options : RenderOptions)
    (colours : List String) :
    (render template params options colours = .error .noRoot ↔ ¬HasRoot template) ∧
    (render template params options colours = .error .tooLarge ↔
      HasRoot template ∧ RenderOverflows template params options) ∧
    ((∃ result, render template params options colours = .ok result) ↔
      HasRoot template ∧ ¬RenderOverflows template params options) := by
  by_cases root : HasRoot template
  · rcases render_cases params options colours root with
      ⟨overflows, stopped⟩ | ⟨calm, _, _, _, _, done⟩
    · simp [stopped, root, overflows]
    · simp [done, root, calm]
  · simp [render_of_not_hasRoot root, root]

/-- Styles that cannot be compiled leave no style sheet. -/
theorem css_of_uncompiled {out : RenderedOutput} {notices : List Notice} {styles : StyleTree}
    {cid less : String} (done : render template params options colours = .ok (out, notices))
    (hasStyles : options.styles = some styles) (hasCid : options.cid = some cid)
    (written : Style.source styles params cid colours = .ok less)
    (uncompiled : Less.compile? less = none) : out.css = "" := by
  have root := ((render_trichotomy template params options colours).2.2.mp ⟨_, done⟩).1
  rcases render_cases params options colours root with
    ⟨_, stopped⟩ | ⟨_, nodes, css, _, compiled, again⟩
  · cases stopped.symm.trans done
  · obtain ⟨rfl, rfl⟩ := Prod.mk.inj (Except.ok.inj (again.symm.trans done))
    rw [hasStyles, hasCid, Style.compile] at compiled
    split at compiled
    next =>
      cases compiled
      rfl
    next =>
      obtain ⟨_, again, compiled⟩ := bind_eq_ok.mp compiled
      cases written.symm.trans again
      rw [uncompiled] at compiled
      cases compiled
      rfl

/-- Rendering is refused exactly without a root, is stopped exactly by a number that is too large,
and gives an output in all other cases. A source that fails shows nothing, holds for no condition
and makes no declaration, and styles that cannot be compiled leave no style sheet. -/
theorem render_outcome (template : String) (params : Params) (options : RenderOptions)
    (colours : List String) :
    (render template params options colours = .error .noRoot ↔ ¬HasRoot template) ∧
    (render template params options colours = .error .tooLarge ↔
      HasRoot template ∧ RenderOverflows template params options) ∧
    ((∃ result, render template params options colours = .ok result) ↔
      HasRoot template ∧ ¬RenderOverflows template params options) ∧
    (∀ source, Expr.SourceFails params source →
      (Piece.token source.toList).expand params = .ok [] ∧ Expr.holds params source = .ok false ∧
        ∀ property, Pass.declaration? params (property, .text source) = .ok none) ∧
    ∀ out notices styles cid less, render template params options colours = .ok (out, notices) →
      options.styles = some styles → options.cid = some cid →
      Style.source styles params cid colours = .ok less → Less.compile? less = none →
      out.css = "" := by
  obtain ⟨refused, stopped, done⟩ := render_trichotomy template params options colours
  exact ⟨refused, stopped, done, fun source => Expr.effects_of_sourceFails,
    fun out notices styles cid less => css_of_uncompiled⟩

theorem valueOf_single (v : Value) : Expr.valueOf [("n", v)] (.ofList ['n']) = v := by
  cbv

/-- A page that shows an integer too large for the binary format is not rendered. -/
theorem render_of_huge_number :
    let params : Params := [("n", Value.int (Nat.pow 10 309))]
    HasRoot "<p>{{n}}</p>" ∧ RenderOverflows "<p>{{n}}</p>" params {} ∧
      render "<p>{{n}}</p>" params {} defaultColours = .error .tooLarge := by
  intro params
  have read : ofSource "<p>{{n}}</p>" = [.element ⟨"p", []⟩ [.text "{{n}}"]] := by cbv
  have root : HasRoot "<p>{{n}}</p>" := by
    rw [HasRoot, read]
    exact ⟨_, .head _, ⟨"p", []⟩, rfl, rfl⟩
  have token : Piece.ofChars "{{n}}".toList = [.token ['n']] := by cbv
  have huge : (Value.int (Nat.pow 10 309)).Unshowable := .number (by decide +kernel)
  have overflows : RenderOverflows "<p>{{n}}</p>" params {} := by
    refine .inl ⟨[.dropDeclarations, .assetPaths], .tokens, _, rfl,
      [.element ⟨"p", []⟩ [.text "{{n}}"]], ?_, .inr ⟨rfl, "{{n}}", .head _, ['n'], ?_, ?_⟩⟩
    · rw [read]
      rfl
    · rw [token]
      exact .head _
    · rw [valueOf_single]
      exact huge
  exact ⟨root, overflows, (render_outcome _ params {} _).2.1.mpr ⟨root, overflows⟩⟩

end PageComponent
