import PageComponent.Markup.Node
import PageComponent.Proofs.Outcome

/-!
# Transformations of trees

A transformation that succeeds keeps some elements with new tags, drops the others with all they
contain, and changes texts. It succeeds if it does on every tag and every text that it looks at.
-/

namespace PageComponent.Node

variable {ε : Type} {onTag : Tag → Except ε (Option Tag)} {onText : String → Except ε String}
  {nodes nodes' : List Node}

/-- What a transformation makes of nodes. -/
inductive Becomes (onTag : Tag → Except ε (Option Tag)) (onText : String → Except ε String) :
    List Node → List Node → Prop where
  | nil : Becomes onTag onText [] []
  | kept {tag tag' : Tag} {children children' nodes nodes' : List Node}
      (tags : onTag tag = .ok (some tag')) (within : Becomes onTag onText children children')
      (after : Becomes onTag onText nodes nodes') :
      Becomes onTag onText (.element tag children :: nodes) (.element tag' children' :: nodes')
  | dropped {tag : Tag} {children nodes nodes' : List Node} (tags : onTag tag = .ok none)
      (after : Becomes onTag onText nodes nodes') :
      Becomes onTag onText (.element tag children :: nodes) nodes'
  | text {content content' : String} {nodes nodes' : List Node}
      (texts : onText content = .ok content') (after : Becomes onTag onText nodes nodes') :
      Becomes onTag onText (.text content :: nodes) (.text content' :: nodes')
  | verbatim {kind : Verbatim} {content : String} {nodes nodes' : List Node}
      (after : Becomes onTag onText nodes nodes') :
      Becomes onTag onText (.verbatim kind content :: nodes) (.verbatim kind content :: nodes')

/-! ## Equations -/

theorem transformAll_kept {tag tag' : Tag} (h : onTag tag = .ok (some tag'))
    (children nodes : List Node) :
    transformAll onTag onText (.element tag children :: nodes) = (do
      let children' ← transformAll onTag onText children
      let nodes' ← transformAll onTag onText nodes
      return .element tag' children' :: nodes') := by
  rw [transformAll, transform, h]
  cases transformAll onTag onText children <;> rfl

theorem transformAll_dropped {tag : Tag} (h : onTag tag = .ok none) (children nodes : List Node) :
    transformAll onTag onText (.element tag children :: nodes) =
      transformAll onTag onText nodes := by
  rw [transformAll, transform, h]
  rfl

theorem transformAll_text {content content' : String} (h : onText content = .ok content')
    (nodes : List Node) :
    transformAll onTag onText (.text content :: nodes) = (do
      let nodes' ← transformAll onTag onText nodes
      return .text content' :: nodes') := by
  rw [transformAll, transform, h]
  rfl

theorem transformAll_verbatim (kind : Verbatim) (content : String) (nodes : List Node) :
    transformAll onTag onText (.verbatim kind content :: nodes) = (do
      let nodes' ← transformAll onTag onText nodes
      return .verbatim kind content :: nodes') := by
  rw [transformAll, transform]
  rfl

theorem transformAll_tag_error {tag : Tag} {e : ε} (h : onTag tag = .error e)
    (children nodes : List Node) :
    transformAll onTag onText (.element tag children :: nodes) = .error e := by
  rw [transformAll, transform, h]
  rfl

theorem transformAll_text_error {content : String} {e : ε} (h : onText content = .error e)
    (nodes : List Node) : transformAll onTag onText (.text content :: nodes) = .error e := by
  rw [transformAll, transform, h]
  rfl

theorem becomes_of_transformAll :
    ∀ {nodes nodes' : List Node}, transformAll onTag onText nodes = .ok nodes' →
      Becomes onTag onText nodes nodes'
  | [], _, h => by
    cases h
    exact .nil
  | .element tag children :: nodes, _, h => by
    cases tags : onTag tag with
    | error e =>
      rw [transformAll_tag_error tags] at h
      cases h
    | ok kept =>
      cases kept with
      | none =>
        rw [transformAll_dropped tags] at h
        exact .dropped tags (becomes_of_transformAll h)
      | some tag' =>
        rw [transformAll_kept tags] at h
        obtain ⟨children', within, h⟩ := bind_eq_ok.mp h
        obtain ⟨nodes', after, h⟩ := bind_eq_ok.mp h
        cases h
        exact .kept tags (becomes_of_transformAll within) (becomes_of_transformAll after)
  | .text content :: nodes, _, h => by
    cases texts : onText content with
    | error e =>
      rw [transformAll_text_error texts] at h
      cases h
    | ok content' =>
      rw [transformAll_text texts] at h
      obtain ⟨nodes', after, h⟩ := bind_eq_ok.mp h
      cases h
      exact .text texts (becomes_of_transformAll after)
  | .verbatim kind content :: nodes, _, h => by
    rw [transformAll_verbatim] at h
    obtain ⟨nodes', after, h⟩ := bind_eq_ok.mp h
    cases h
    exact .verbatim (becomes_of_transformAll after)

theorem transformAll_of_becomes (h : Becomes onTag onText nodes nodes') :
    transformAll onTag onText nodes = .ok nodes' := by
  induction h with
  | nil => rfl
  | kept tags _ _ within after =>
    rw [transformAll_kept tags, within, after]
    rfl
  | dropped tags _ after => rw [transformAll_dropped tags, after]
  | text texts _ after =>
    rw [transformAll_text texts, after]
    rfl
  | verbatim _ after =>
    rw [transformAll_verbatim, after]
    rfl

theorem transformAll_eq_ok_iff :
    transformAll onTag onText nodes = .ok nodes' ↔ Becomes onTag onText nodes nodes' :=
  ⟨becomes_of_transformAll, transformAll_of_becomes⟩

/-! ## Tags and texts -/

theorem error_eq {α : Type} [Subsingleton ε] (e e' : ε) : (.error e : Except ε α) = .error e' :=
  congrArg Except.error (Subsingleton.elim e e')

/-- Where tags are only changed and one failure is like another, it is the same to change all tags
first and then all texts. -/
theorem transformAll_eq_bind [Subsingleton ε] (kept : ∀ tag, onTag tag ≠ .ok none) :
    ∀ nodes : List Node, transformAll onTag onText nodes = (do
      let tagged ← transformAll onTag .ok nodes
      transformAll (fun tag => .ok (some tag)) onText tagged)
  | [] => rfl
  | .element tag children :: nodes => by
    have within := transformAll_eq_bind kept children
    have after := transformAll_eq_bind kept nodes
    cases tags : onTag tag with
    | error e =>
      rw [transformAll_tag_error tags, transformAll_tag_error tags]
      rfl
    | ok tag'? =>
      cases tag'? with
      | none => exact absurd tags (kept tag)
      | some tag' =>
        rw [transformAll_kept tags, transformAll_kept tags, within, after]
        cases transformAll onTag .ok children with
        | error e => rfl
        | ok children' =>
          cases transformAll onTag .ok nodes with
          | error e =>
            -- the texts of the children may fail before the tags behind them do
            cases texts : transformAll (fun tag => .ok (some tag)) onText children' with
            | error e' => exact (congrArg (· >>= _) texts).trans (error_eq e' e)
            | ok children'' => exact congrArg (· >>= _) texts
          | ok nodes' => exact (transformAll_kept rfl children' nodes').symm
  | .text content :: nodes => by
    have after := transformAll_eq_bind kept nodes
    rw [transformAll_text rfl]
    cases texts : onText content with
    | error e =>
      rw [transformAll_text_error texts]
      cases transformAll onTag .ok nodes with
      | error e' => exact error_eq e e'
      | ok nodes' => exact (transformAll_text_error texts nodes').symm
    | ok content' =>
      rw [transformAll_text texts, after]
      cases transformAll onTag .ok nodes with
      | error e => rfl
      | ok nodes' => exact (transformAll_text texts nodes').symm
  | .verbatim kind content :: nodes => by
    have after := transformAll_eq_bind kept nodes
    rw [transformAll_verbatim, transformAll_verbatim, after]
    cases transformAll onTag .ok nodes with
    | error e => rfl
    | ok nodes' => exact (transformAll_verbatim kind content nodes').symm

/-! ## Failure -/

mutual

def seenTagsNode (keeps : Tag → Bool) : Node → List Tag
  | .element tag children => tag :: if keeps tag then seenTags keeps children else []
  | .text _ => []
  | .verbatim _ _ => []

/-- The tags that are looked at: all but those within elements that are dropped. -/
def seenTags (keeps : Tag → Bool) : List Node → List Tag
  | [] => []
  | node :: nodes => seenTagsNode keeps node ++ seenTags keeps nodes

end

mutual

def seenTextsNode (keeps : Tag → Bool) : Node → List String
  | .element tag children => if keeps tag then seenTexts keeps children else []
  | .text content => [content]
  | .verbatim _ _ => []

/-- The texts that are looked at: all but those within elements that are dropped. -/
def seenTexts (keeps : Tag → Bool) : List Node → List String
  | [] => []
  | node :: nodes => seenTextsNode keeps node ++ seenTexts keeps nodes

end

/-- A transformation fails if it does so on a tag or on a text that it looks at. -/
theorem fails_transformAll {keeps : Tag → Bool}
    (kept : ∀ tag tag', onTag tag = .ok (some tag') → keeps tag = true)
    (dropped : ∀ tag, onTag tag = .ok none → keeps tag = false) :
    ∀ nodes : List Node, Fails (transformAll onTag onText nodes) ↔
      (∃ tag ∈ seenTags keeps nodes, Fails (onTag tag)) ∨
        ∃ content ∈ seenTexts keeps nodes, Fails (onText content)
  | [] => iff_of_false (not_fails_ok []) (by simp [seenTags, seenTexts])
  | .element tag children :: nodes => by
    have within := fails_transformAll kept dropped children
    have after := fails_transformAll kept dropped nodes
    simp only [seenTags, seenTagsNode, seenTexts, seenTextsNode, List.cons_append, List.mem_cons,
      List.mem_append, or_and_right, exists_or, exists_eq_left]
    cases tags : onTag tag with
    | error e =>
      rw [transformAll_tag_error tags]
      exact iff_of_true ⟨e, rfl⟩ (.inl (.inl ⟨e, rfl⟩))
    | ok kept? =>
      cases kept? with
      | none =>
        rw [transformAll_dropped tags, after]
        simp [dropped tag tags, not_fails_ok]
      | some tag' =>
        have rest (children' : List Node) : Fails (do
            let nodes' ← transformAll onTag onText nodes
            return .element tag' children' :: nodes') ↔ Fails (transformAll onTag onText nodes) :=
          fails_bind_of_total fun _ => not_fails_ok _
        rw [transformAll_kept tags, fails_bind_of_iff rest, within, after]
        simp only [kept tag tag' tags, if_true, not_fails_ok, false_or]
        exact or_or_or_comm
  | .text content :: nodes => by
    have after := fails_transformAll kept dropped nodes
    simp only [seenTags, seenTagsNode, seenTexts, seenTextsNode, List.nil_append, List.cons_append,
      List.mem_cons, exists_eq_or_imp]
    cases texts : onText content with
    | error e =>
      rw [transformAll_text_error texts]
      exact iff_of_true ⟨e, rfl⟩ (.inr (.inl ⟨e, rfl⟩))
    | ok content' =>
      have rest : Fails (transformAll onTag onText (.text content :: nodes)) ↔
          Fails (transformAll onTag onText nodes) := by
        rw [transformAll_text texts]
        exact fails_bind_of_total fun _ => not_fails_ok _
      rw [rest, after]
      simp only [not_fails_ok, false_or]
  | .verbatim kind content :: nodes => by
    rw [transformAll_verbatim]
    exact (fails_bind_of_total fun _ => not_fails_ok _).trans
      (fails_transformAll kept dropped nodes)

end PageComponent.Node
