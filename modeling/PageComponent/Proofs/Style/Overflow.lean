import PageComponent.Proofs.Value.Showing
import PageComponent.Style.Compile

/-!
# Overflow in styles

A style sheet shows the background, the variables and the leaves of the style tree. Its compilation
fails exactly if it is needed and one of these is too large to be shown; styles that cannot be
compiled do not make it fail.
-/

namespace PageComponent.Style

variable {params : Params} {vars : Entries String}

/-! ## Variables -/

/-- The value of the background, which is shown unless it is a colour. -/
def BackgroundOverflows (params : Params) : Prop :=
  ∃ bg, Entries.get? params "bg" = some (.mapping bg) ∧
    Entries.get? bg "type" ≠ some (.text "color") ∧
    ∃ value, Entries.get? bg "value" = some value ∧ value.Unshowable

theorem type_eq_colour_iff {bg : Params} :
    ((Entries.get? bg "type").filter Value.isFilled).getD (.text "") = .text "color" ↔
      Entries.get? bg "type" = some (.text "color") := by
  cases Entries.get? bg "type" with
  | none => simp
  | some type =>
    rw [Option.some_inj]
    cases filled : type.isFilled with
    | true => rw [Option.filter_some, if_pos filled, Option.getD_some]
    | false =>
      rw [Option.filter_some, if_neg (by simp [filled]), Option.getD_none]
      refine iff_of_false (by simp) ?_
      rintro rfl
      cases filled

theorem fails_withBackground : Fails (withBackground params) ↔ BackgroundOverflows params := by
  rw [withBackground, BackgroundOverflows]
  split
  next bg found =>
    simp only [found, Option.some_inj, Value.mapping.injEq, exists_eq_left', type_eq_colour_iff,
      ne_eq]
    split
    next absent => exact iff_of_false (not_fails_ok _) (by simp [absent])
    next null =>
      refine iff_of_false (not_fails_ok _) ?_
      rintro ⟨_, value, given, unshowable⟩
      cases null.symm.trans given
      cases unshowable
    next value _ given =>
      simp only [given, Option.some_inj, exists_eq_left']
      split
      next colour => exact iff_of_false (not_fails_ok _) fun h => h.1 colour
      next other =>
        refine (fails_bind_of_total fun _ => not_fails_ok _).trans ((fails_map _).trans ?_)
        rw [Value.fails_toText, and_iff_right other]
  next other =>
    refine iff_of_false (not_fails_ok _) ?_
    rintro ⟨bg, found, _⟩
    exact other bg found

theorem fails_literal (colours : List String) (name : String) (value : Value) :
    Fails (literal colours name value) ↔ value.Unshowable := by
  cases value with
  | text s =>
    refine iff_of_false (not_fails_ok _) ?_
    rintro ⟨⟩
  | _ => exact Value.fails_toText _

/-- A variable whose value cannot be shown; a parameter of the same name goes before a leaf. -/
def VariableOverflows (params : Params) : Prop :=
  ∃ source, withBackground params = .ok source ∧
    ∃ leaf ∈ leaves "" source, ((Entries.get? source leaf.1).getD leaf.2).Unshowable

theorem fails_variablesOf (colours : List String) :
    Fails (variablesOf params colours) ↔ BackgroundOverflows params ∨ VariableOverflows params := by
  rw [variablesOf, fails_bind, fails_withBackground]
  refine or_congr_right (exists_congr fun source => and_congr_right fun _ => ?_)
  refine fails_foldlM (fun vars leaf => ?_) (leaves "" source) []
  exact (fails_bind_of_total fun _ => not_fails_ok _).trans (fails_literal colours leaf.1 _)

/-! ## Trees -/

/-- A leaf of the tree cannot be shown. -/
def LeafOverflows (outer : String) (fields : List (String × Value)) : Prop :=
  ∃ leaf ∈ leaves outer fields, leaf.2.Unshowable

theorem leafOverflows_cons {outer key : String} {value : Value} {rest : List (String × Value)} :
    LeafOverflows outer ((key, value) :: rest) ↔
      (∃ leaf ∈ leavesOf (joinName outer key) value, leaf.2.Unshowable) ∨
        LeafOverflows outer rest := by
  simp only [LeafOverflows, leaves, List.mem_append, or_and_right, exists_or]

theorem fails_writeLeaf (depth : Nat) (key : String) (w : Writer) (value : Value) :
    Fails (writeLeaf depth key w value) ↔ value.Unshowable :=
  (fails_bind_of_total fun _ => not_fails_ok _).trans (Value.fails_toText value)

mutual

theorem fails_writeEntry (depth : Nat) (key name : String) (w : Writer) : ∀ value : Value,
    Fails (writeEntry depth key w value) ↔ ∃ leaf ∈ leavesOf name value, leaf.2.Unshowable
  | .mapping fields =>
    (fails_bind_of_total fun _ => not_fails_ok _).trans
      (fails_writeEntries (depth + 1) name (openBlock w depth key) fields)
  | .null | .undefined | .bool _ | .number _ | .text _ | .list _ =>
    (fails_writeLeaf depth key w _).trans (by simp [leavesOf])

theorem fails_writeEntries (depth : Nat) (outer : String) (w : Writer) :
    ∀ fields : List (String × Value),
      Fails (writeEntries depth w fields) ↔ LeafOverflows outer fields
  | [] => iff_of_false (not_fails_ok w) (by simp [LeafOverflows, leaves])
  | (key, value) :: rest => by
    rw [writeEntries, fails_bind_of_iff fun w => fails_writeEntries depth outer w rest,
      fails_writeEntry depth key (joinName outer key) w value, leafOverflows_cons]

end

mutual

theorem leavesOf_foldValue (name : String) : ∀ value : Value,
    leavesOf name (foldValue vars value) =
      (leavesOf name value).map fun leaf => (leaf.1, foldLeaf vars leaf.2)
  | .mapping fields => leaves_foldFields name fields
  | .null | .undefined | .bool _ | .number _ | .text _ | .list _ => rfl

/-- Folding changes the leaves only. -/
theorem leaves_foldFields (outer : String) : ∀ fields : List (String × Value),
    leaves outer (foldFields vars fields) =
      (leaves outer fields).map fun leaf => (leaf.1, foldLeaf vars leaf.2)
  | [] => rfl
  | (key, value) :: rest => by
    rw [foldFields, leaves, leaves, List.map_append, leavesOf_foldValue _ value,
      leaves_foldFields outer rest]

end

theorem unshowable_foldLeaf (value : Value) :
    (foldLeaf vars value).Unshowable ↔ value.Unshowable := by
  cases value with
  | text s =>
    constructor
    · rintro ⟨⟩
    · rintro ⟨⟩
  | _ => exact .rfl

theorem fails_print (tree : StyleTree) :
    Fails (print (foldFields vars tree)) ↔ LeafOverflows "" tree := by
  have written := fails_writeEntries 0 "" ⟨"", 0⟩ (foldFields vars tree)
  refine (fails_bind_of_total fun _ => not_fails_ok _).trans (written.trans ?_)
  rw [LeafOverflows, leaves_foldFields, LeafOverflows]
  simp only [List.mem_map, exists_exists_and_eq_and, unshowable_foldLeaf]

/-! ## Style sheets -/

/-- The style sheet shows a value that is too large for it. -/
def Overflows (styles : StyleTree) (params : Params) : Prop :=
  BackgroundOverflows params ∨ VariableOverflows params ∨ LeafOverflows "" styles

theorem fails_source (styles : StyleTree) (cid : String) (colours : List String) :
    Fails (source styles params cid colours) ↔ Overflows styles params := by
  have body (vars : Entries String) : Fails (do
      let body ← print (foldFields (vars.filter fun entry => isVariableName entry.1) styles)
      return String.join ((vars.filter fun entry => isVariableName entry.1).map variableLine) ++
        ".cid-" ++ cid ++ " \x7b " ++ body ++ " \x7d") ↔ LeafOverflows "" styles :=
    (fails_bind_of_total fun _ => not_fails_ok _).trans (fails_print styles)
  refine (fails_bind_of_iff body).trans ?_
  rw [fails_variablesOf, or_assoc, Overflows]

theorem isNeeded_iff {tree : StyleTree} {cid : String} :
    isNeeded (some tree) (some cid) = true ↔ ¬(tree.isEmpty = true ∨ cid = "") := by
  simp [isNeeded]

theorem fails_compile (styles : Option StyleTree) (cid : Option String) (colours : List String) :
    Fails (compile styles params cid colours) ↔
      isNeeded styles cid = true ∧ ∃ tree ∈ styles, Overflows tree params := by
  cases styles with
  | none => exact iff_of_false (not_fails_ok _) (by simp)
  | some tree =>
    cases cid with
    | none => exact iff_of_false (not_fails_ok _) (by simp [isNeeded])
    | some cid =>
      simp only [compile, isNeeded_iff, Option.mem_some_iff, exists_eq_left']
      split
      next idle => exact iff_of_false (not_fails_ok _) fun h => h.1 idle
      next needed =>
        rw [and_iff_right needed, ← fails_source tree cid colours]
        refine fails_bind_of_total fun less => ?_
        cases Less.compile? less <;> exact not_fails_ok _

end PageComponent.Style
