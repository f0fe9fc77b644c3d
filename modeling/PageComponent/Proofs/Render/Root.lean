import PageComponent.Proofs.Directive.Survival
import PageComponent.Proofs.Render.Outcome

/-!
# The root that is rendered

What is rendered is one top-level element: the first whose own condition holds. It is the root, the
first top-level element, unless the condition of the root fails; then a later element, if there is
one whose condition holds, is rendered in place of the root. Nothing else of the template reaches
the markup.
-/

namespace PageComponent

namespace Node

variable {ε : Type} {onTag : Tag → Except ε (Option Tag)} {onText : String → Except ε String}
  {test test' keeps : Tag → Bool} {change : Tag → Tag → Prop} {tag : Tag}
  {node : Node} {children nodes nodes' : List Node}

/-- The first top-level element whose tag passes the test. -/
def first? (test : Tag → Bool) (nodes : List Node) : Option Node :=
  nodes.find? (·.tag?.any test)

theorem root?_eq_first? (nodes : List Node) : root? nodes = first? (fun _ => true) nodes :=
  rfl

theorem first?_element_of_pos (pass : test tag = true) (children nodes : List Node) :
    first? test (.element tag children :: nodes) = some (.element tag children) :=
  List.find?_cons_of_pos pass

theorem first?_element_of_neg (fail : test tag = false) (children nodes : List Node) :
    first? test (.element tag children :: nodes) = first? test nodes := by
  apply List.find?_cons_of_neg
  rw [tag?, Option.any_some, fail]
  exact Bool.false_ne_true

theorem exists_tag_of_first? (h : first? test nodes = some node) :
    ∃ tag children, node = .element tag children ∧ test tag = true := by
  have passes := List.find?_some h
  cases node with
  | element tag children => exact ⟨tag, children, rfl, passes⟩
  | text | verbatim => cases passes

theorem first?_eq_some_of_root? (root : root? nodes = some (.element tag children))
    (pass : test tag = true) : first? test nodes = some (.element tag children) := by
  induction nodes with
  | nil => cases root
  | cons node nodes ih =>
    cases node with
    | element =>
      cases root
      exact first?_element_of_pos pass _ _
    | text | verbatim => exact ih root

theorem root?_toList_root? (nodes : List Node) : root? (root? nodes).toList = root? nodes := by
  cases found : root? nodes with
  | none => rfl
  | some root =>
    obtain ⟨tag, children, rfl, _⟩ := exists_tag_of_first? found
    rfl

/-- A test that is known before a transformation finds the same element before and after it, and
what becomes of that element does not depend on the others. -/
theorem Becomes.first? (h : Becomes onTag onText nodes nodes')
    (kept : ∀ tag tag', onTag tag = .ok (some tag') → test' tag' = test tag)
    (dropped : ∀ tag, onTag tag = .ok none → test tag = false) :
    Becomes onTag onText (first? test nodes).toList (Node.first? test' nodes').toList := by
  induction h with
  | nil => exact .nil
  | @kept tag tag' _ _ _ _ tags within _ _ after =>
    cases pass : test tag with
    | true =>
      rw [first?_element_of_pos pass, first?_element_of_pos ((kept tag tag' tags).trans pass)]
      exact .kept tags within .nil
    | false =>
      rw [first?_element_of_neg pass, first?_element_of_neg ((kept tag tag' tags).trans pass)]
      exact after
  | dropped tags _ after =>
    rw [first?_element_of_neg (dropped _ tags)]
    exact after
  | text _ _ after | verbatim _ after => exact after

/-- A transformation of all nodes is one of the first element. -/
theorem Becomes.of_first (h : Becomes onTag onText nodes nodes') :
    ∃ nodes'', Becomes onTag onText (Node.first? test nodes).toList nodes'' := by
  induction h with
  | nil => exact ⟨[], .nil⟩
  | @kept tag _ _ _ _ _ tags within _ _ after =>
    cases pass : test tag with
    | true =>
      rw [first?_element_of_pos pass]
      exact ⟨_, .kept tags within .nil⟩
    | false =>
      rw [first?_element_of_neg pass]
      exact after
  | @dropped tag _ _ _ tags _ after =>
    cases pass : test tag with
    | true =>
      rw [first?_element_of_pos pass]
      exact ⟨[], .dropped tags .nil⟩
    | false =>
      rw [first?_element_of_neg pass]
      exact after
  | text _ _ after | verbatim _ after => exact after

theorem becomes_prune : ∀ nodes : List Node,
    @Becomes ε (fun tag => .ok (if keeps tag then some tag else none)) .ok nodes
      (prune keeps nodes)
  | [] => .nil
  | .element tag children :: nodes => by
    rw [prune, pruneNode]
    cases keep : keeps tag with
    | true =>
      refine .kept ?_ (becomes_prune children) (becomes_prune nodes)
      rw [keep]
      rfl
    | false =>
      refine .dropped ?_ (becomes_prune nodes)
      rw [keep]
      rfl
  | .text _ :: nodes => .text rfl (becomes_prune nodes)
  | .verbatim _ _ :: nodes => .verbatim (becomes_prune nodes)

theorem Thinned.nil_of_dropped (h : Thinned keeps change [.element tag children] nodes)
    (drop : keeps tag = false) : nodes = [] := by
  cases h with
  | kept keep => exact absurd (drop.symm.trans keep) Bool.false_ne_true
  | dropped _ after =>
    cases after
    rfl

end Node

open Node Tag

namespace Pass

variable {ctx : RenderContext} {params : Params} {pass : Pass} {passes : List Pass}
  {test test' : Tag → Bool} {nodes nodes' : List Node}

/-- A pass acts on the first element that passes a test as it does without the others. The scope is
excepted, which is for the root only. -/
theorem run_first? (notScope : pass ≠ scope)
    (kept : ∀ tag tag', pass.keeps ctx.params tag = true → pass.Step ctx.params tag tag' →
      test' tag' = test tag)
    (dropped : ∀ tag, pass.keeps ctx.params tag = false → test tag = false)
    (h : pass.run ctx nodes = .ok nodes') :
    pass.run ctx (first? test nodes).toList = .ok (first? test' nodes').toList := by
  rw [run_eq_transformAll ctx notScope] at h ⊢
  apply transformAll_of_becomes
  apply (becomes_of_transformAll h).first?
  · intro tag tag' step
    obtain ⟨keep, step⟩ := step_of_kept step
    exact kept tag tag' keep step
  · intro tag drop
    exact dropped tag (keeps_of_dropped drop)

theorem root?_onRoot (f : Tag → Tag) (nodes : List Node) :
    (root? (onRoot f nodes)).toList = onRoot f (root? nodes).toList := by
  induction nodes with
  | nil => rfl
  | cons node nodes ih =>
    cases node with
    | element tag children => rfl
    | text | verbatim => exact ih

/-- A pass that keeps every element acts on the root as it does without the others. -/
theorem run_root? (keeping : ∀ tag, pass.keeps ctx.params tag = true)
    (h : pass.run ctx nodes = .ok nodes') :
    pass.run ctx (root? nodes).toList = .ok (root? nodes').toList := by
  by_cases isScope : pass = scope
  · subst isScope
    have h := Except.ok.inj h
    rw [run]
    split at h
    next noScope => rw [if_pos noScope, h]
    next someScope => rw [if_neg someScope, ← h, root?_onRoot]
  · simp only [root?_eq_first?]
    apply run_first? isScope
    · exact fun _ _ _ _ => rfl
    · exact fun tag drop => (keeping tag).symm.trans drop
    · exact h

theorem runAll_root? (keeping : ∀ pass ∈ passes, ∀ tag, pass.keeps ctx.params tag = true)
    (h : runAll passes ctx nodes = .ok nodes') :
    runAll passes ctx (root? nodes).toList = .ok (root? nodes').toList := by
  induction passes generalizing nodes with
  | nil =>
    cases h
    rfl
  | cons pass passes ih =>
    obtain ⟨keep, keeping⟩ := List.forall_mem_cons.mp keeping
    obtain ⟨middle, first, others⟩ := runAll_cons_eq_ok.mp h
    exact runAll_cons_eq_ok.mpr ⟨_, run_root? keep first, ih keeping others⟩

theorem runAll_nil (passes : List Pass) (ctx : RenderContext) : runAll passes ctx [] = .ok [] := by
  induction passes with
  | nil => rfl
  | cons pass passes ih =>
    refine runAll_cons_eq_ok.mpr ⟨[], ?_, ih⟩
    by_cases isScope : pass = scope
    · subst isScope
      rw [run, onRoot, ite_self]
    · rw [run_eq_transformAll ctx isScope]
      rfl

/-! ## Conditions of top-level elements -/

/-- What is rendered is the first element whose condition holds, and the others do not matter. -/
theorem runAll_first? (h : runAll (all.drop 1) ctx nodes = .ok nodes') :
    runAll (all.drop 1) ctx (first? (conditionWillHold ctx.params) nodes).toList =
      .ok (root? nodes').toList := by
  -- The same element is the first with paths resolved, with tokens replaced and past the test,
  -- where every element that is left passes.
  obtain ⟨resolved, paths, h⟩ := runAll_cons_eq_ok.mp h
  obtain ⟨substituted, tokens, h⟩ := runAll_cons_eq_ok.mp h
  obtain ⟨conditioned, condition, after⟩ := runAll_cons_eq_ok.mp h
  have resolving : assetPaths.run ctx (first? (conditionWillHold ctx.params) nodes).toList =
      .ok (first? (conditionWillHold ctx.params) resolved).toList := by
    refine run_first? nofun ?_ nofun paths
    exact fun tag tag' _ step => conditionWillHold_of_agree (Worked.agree step)
  have substituting : Pass.tokens.run ctx (first? (conditionWillHold ctx.params) resolved).toList =
      .ok (first? (conditionHolds ctx.params) substituted).toList := by
    refine run_first? nofun ?_ nofun tokens
    exact fun tag tag' _ step => Prepared.conditionHolds_eq ⟨tag, .refl _ tag, step⟩
  have testing : conditions.run ctx (first? (conditionHolds ctx.params) substituted).toList =
      .ok (root? conditioned).toList := by
    refine run_first? nofun ?_ (fun _ drop => drop) condition
    exact fun tag tag' keep _ => keep.symm
  have keeping := runAll_root? (by simp [keeps]) after
  exact runAll_cons_eq_ok.mpr ⟨_, resolving, runAll_cons_eq_ok.mpr ⟨_, substituting,
    runAll_cons_eq_ok.mpr ⟨_, testing, keeping⟩⟩⟩

/-- A root whose condition fails leaves nothing when it is alone. -/
theorem runAll_dropped {tag : Tag} {children : List Node}
    (h : runAll (all.drop 1) ctx nodes = .ok nodes')
    (root : root? nodes = some (.element tag children))
    (drop : conditionWillHold ctx.params tag = false) :
    runAll (all.drop 1) ctx [.element tag children] = .ok [] := by
  obtain ⟨resolved, paths, h⟩ := runAll_cons_eq_ok.mp h
  obtain ⟨substituted, tokens, h⟩ := runAll_cons_eq_ok.mp h
  obtain ⟨conditioned, condition, _⟩ := runAll_cons_eq_ok.mp h
  have resolving := run_root? (fun _ => rfl) paths
  have substituting := run_root? (fun _ => rfl) tokens
  obtain ⟨left, testing⟩ : ∃ left, conditions.run ctx (root? substituted).toList = .ok left := by
    obtain ⟨left, becomes⟩ := (becomes_of_transformAll condition).of_first
    exact ⟨left, transformAll_of_becomes becomes⟩
  have prepared := (run_thinned resolving).trans (run_thinned substituting) fun _ _ _ => rfl
  have tested := prepared.trans (run_thinned testing) fun tag tag' ⟨resolved, paths, tokens⟩ =>
    Prepared.conditionHolds_eq ⟨resolved, paths.agree, tokens⟩
  rw [root] at tested resolving
  obtain rfl : left = [] := tested.nil_of_dropped (by simp [drop])
  exact runAll_cons_eq_ok.mpr ⟨_, resolving, runAll_cons_eq_ok.mpr ⟨_, substituting,
    runAll_cons_eq_ok.mpr ⟨_, testing, runAll_nil _ ctx⟩⟩⟩

theorem run_dropDeclarations (ctx : RenderContext) (nodes : List Node) :
    dropDeclarations.run ctx nodes = .ok (prune (fun tag => !tag.isDeclaration) nodes) := by
  have act : (fun tag => .ok (dropDeclaration tag)) =
      fun tag : Tag => (.ok (if !tag.isDeclaration then some tag else none) :
        Except TooLarge (Option Tag)) := by
    funext tag
    rw [dropDeclaration]
    cases tag.isDeclaration <;> rfl
  rw [run, onTags, act]
  exact transformAll_of_becomes (becomes_prune nodes)

end Pass

/-! ## Components -/

variable {template : String} {params : Params} {options : RenderOptions} {colours : List String}
  {out : RenderedOutput} {notices : List Notice} {nodes : List Node}

/-- The top-level nodes of a template without the declarations. -/
def undeclared (template : String) : List Node :=
  prune (fun tag => !tag.isDeclaration) (ofSource template)

/-- The first top-level element, besides declarations, whose condition holds. -/
def standing? (params : Params) (template : String) : Option Node :=
  first? (Pass.conditionWillHold params) (undeclared template)

theorem printRoot_root? (nodes : List Node) : printRoot (root? nodes).toList = printRoot nodes := by
  rw [printRoot, printRoot, root?_toList_root?]

theorem printRoot_ne_empty (h : (root? nodes).isSome = true) : printRoot nodes ≠ "" := by
  obtain ⟨root, found⟩ := Option.isSome_iff_exists.mp h
  obtain ⟨tag, children, rfl, _⟩ := exists_tag_of_first? found
  intro empty
  rw [printRoot, found] at empty
  have begins : ∃ cs, (Node.element tag children).printChars false = '<' :: cs := by
    rw [printChars]
    split <;> exact ⟨_, rfl⟩
  obtain ⟨cs, begins⟩ := begins
  have chars := congrArg String.toList empty
  dsimp only at chars
  rw [Node.print, begins, String.toList_ofList] at chars
  cases chars

theorem ok_of_lift {α : Type} {x : Except TooLarge α} {a : α}
    (h : (liftM x : Except RenderError α) = .ok a) : x = .ok a := by
  cases x with
  | error e => cases h
  | ok b =>
    cases h
    rfl

theorem passes_of_render (h : render template params options colours = .ok (out, notices)) :
    ∃ nodes, Pass.runAll (Pass.all.drop 1) ⟨params, options⟩ (undeclared template) = .ok nodes ∧
      out.html = printRoot nodes := by
  obtain ⟨root, _⟩ := (render_trichotomy template params options colours).2.2.mp ⟨_, h⟩
  rw [render_eq root] at h
  obtain ⟨nodes, ran, h⟩ := bind_eq_ok.mp h
  obtain ⟨⟨css, _⟩, _, h⟩ := bind_eq_ok.mp h
  cases h
  obtain ⟨_, dropped, ran⟩ := Pass.runAll_cons_eq_ok.mp (ok_of_lift ran)
  rw [Pass.run_dropDeclarations] at dropped
  cases dropped
  exact ⟨nodes, ran, rfl⟩

theorem root_of_render (h : render template params options colours = .ok (out, notices)) :
    ∃ tag children, root? (undeclared template) = some (.element tag children) := by
  obtain ⟨root, _⟩ := (render_trichotomy template params options colours).2.2.mp ⟨_, h⟩
  obtain ⟨nodes, dropped, present⟩ := exists_undeclared ⟨params, options⟩ template
  rw [Pass.run_dropDeclarations] at dropped
  cases dropped
  obtain ⟨root, found⟩ := Option.isSome_iff_exists.mp (present.mpr root)
  obtain ⟨tag, children, rfl, _⟩ := exists_tag_of_first? found
  exact ⟨tag, children, found⟩

theorem html_of_standing (h : render template params options colours = .ok (out, notices)) :
    ∃ nodes, Pass.runAll (Pass.all.drop 1) ⟨params, options⟩ (standing? params template).toList =
      .ok nodes ∧ out.html = printRoot nodes := by
  obtain ⟨nodes, ran, html⟩ := passes_of_render h
  exact ⟨_, Pass.runAll_first? ran, html.trans (printRoot_root? nodes).symm⟩

theorem html_ne_empty (h : render template params options colours = .ok (out, notices))
    {node : Node} (standing : standing? params template = some node) : out.html ≠ "" := by
  obtain ⟨nodes, ran, html⟩ := html_of_standing h
  rw [standing] at ran
  obtain ⟨tag, children, rfl, holds⟩ := exists_tag_of_first? standing
  rw [html]
  apply printRoot_ne_empty
  exact (Pass.conditions_thinned ran).isSome_root?_iff.mpr ⟨_, .head _, tag, rfl, holds⟩

/-- Nothing is rendered exactly if no top-level element has a condition that holds. -/
theorem html_eq_empty_iff (h : render template params options colours = .ok (out, notices)) :
    out.html = "" ↔ standing? params template = none := by
  constructor
  · intro empty
    by_contra standing
    obtain ⟨node, standing⟩ := Option.ne_none_iff_exists'.mp standing
    exact html_ne_empty h standing empty
  · intro none
    obtain ⟨nodes, ran, html⟩ := html_of_standing h
    rw [none] at ran
    rw [html, ← Except.ok.inj ((Pass.runAll_nil _ _).symm.trans ran)]
    rfl

theorem standing?_ne_of_neg {tag : Tag} (fails : Pass.conditionWillHold params tag = false)
    (children : List Node) : standing? params template ≠ some (.element tag children) := by
  intro standing
  obtain ⟨_, _, same, holds⟩ := exists_tag_of_first? standing
  cases same
  exact Bool.false_ne_true (fails.symm.trans holds)

/-- The markup is what the passes make of one top-level element, the first whose own condition
holds, and no other part of the template counts. So it is what they make of the root, which is
nothing if its condition fails, exactly if the root is that element or if there is no such element;
else a later element is rendered in place of the root. -/
theorem html_of_render (h : render template params options colours = .ok (out, notices)) :
    (∃ nodes, Pass.runAll (Pass.all.drop 1) ⟨params, options⟩ (standing? params template).toList =
      .ok nodes ∧ out.html = printRoot nodes) ∧
    (∃ root nodes, root? (undeclared template) = some root ∧
      Pass.runAll (Pass.all.drop 1) ⟨params, options⟩ [root] = .ok nodes ∧
      (standing? params template ≠ some root → printRoot nodes = "") ∧
      (out.html = printRoot nodes ↔
        standing? params template = some root ∨ standing? params template = none)) ∧
    ∀ template' out' notices',
      render template' params options colours = .ok (out', notices') →
      standing? params template' = standing? params template → out'.html = out.html := by
  obtain ⟨nodes, ran, html⟩ := html_of_standing h
  refine ⟨⟨nodes, ran, html⟩, ?_, ?_⟩
  · obtain ⟨tag, children, root⟩ := root_of_render h
    cases holds : Pass.conditionWillHold params tag with
    | true =>
      have standing : standing? params template = some (.element tag children) :=
        first?_eq_some_of_root? root holds
      rw [standing] at ran
      exact ⟨_, nodes, root, ran, absurd standing, iff_of_true html (.inl standing)⟩
    | false =>
      obtain ⟨_, all, _⟩ := passes_of_render h
      refine ⟨_, [], root, Pass.runAll_dropped all root holds, fun _ => rfl, ?_⟩
      rw [or_iff_right (standing?_ne_of_neg holds children)]
      exact html_eq_empty_iff h
  · intro template' out' notices' h' same
    obtain ⟨nodes', ran', html'⟩ := html_of_standing h'
    rw [same] at ran'
    rw [html, html', Except.ok.inj (ran'.symm.trans ran)]

/-- The condition of the root fails, and what stands behind the root is rendered. -/
theorem html_of_render_of_fallen_root :
    let template := "<div mbr-if=\"false\">a</div><p>b</p>"
    let ctx : RenderContext := ⟨[], {}⟩
    let out : RenderedOutput := ⟨"<p>b</p>", ""⟩
    render template [] {} defaultColours = .ok (out, []) ∧
    (∃ nodes, Pass.runAll (Pass.all.drop 1) ctx (standing? [] template).toList =
      .ok nodes ∧ out.html = printRoot nodes) ∧
    (∃ root nodes, root? (undeclared template) = some root ∧
      Pass.runAll (Pass.all.drop 1) ctx [root] = .ok nodes ∧
      (standing? [] template ≠ some root → printRoot nodes = "") ∧
      (out.html = printRoot nodes ↔
        standing? [] template = some root ∨ standing? [] template = none)) ∧
    ∀ template' out' notices', render template' [] {} defaultColours = .ok (out', notices') →
      standing? [] template' = standing? [] template → out'.html = out.html := by
  intro template ctx out
  have rendered : render template [] {} defaultColours = .ok (out, []) := by cbv
  exact ⟨rendered, html_of_render rendered⟩

end PageComponent
