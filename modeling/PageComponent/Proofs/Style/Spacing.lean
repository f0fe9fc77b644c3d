import PageComponent.Proofs.Style.Groups

/-!
# Spacing of groups

The blanks beside the operators of a group do not matter, except that a minus sign needs one
before a numeral without a sign: `(5-3)` is not folded, while `(5- 3)` and `(5+3)` are.
-/

namespace PageComponent.Style

variable {vars : Entries String}

/-- A quotient by zero, which stops the folding. -/
def Link.dividesByZero (link : Link vars) : Bool :=
  link.operator = .dividedBy && link.operand.quantity.value.isZero

theorem isSome_products (x : Binary) (links : List (Link vars)) :
    (products x (links.map Link.pair)).isSome = links.all fun link => !link.dividesByZero := by
  induction links generalizing x with
  | nil => rfl
  | cons link links ih =>
    obtain ⟨before, op, after, operand⟩ := link
    rw [List.map_cons, List.all_cons, Link.pair, Link.dividesByZero]
    cases op with
    | times => exact ih _
    | plus =>
      rw [products, ← ih operand.quantity.value]
      cases products operand.quantity.value (links.map Link.pair) <;> rfl
    | minus =>
      rw [products, ← ih operand.quantity.value]
      cases products operand.quantity.value (links.map Link.pair) <;> rfl
    | dividedBy =>
      rw [products]
      cases zero : operand.quantity.value.isZero with
      | true => rfl
      | false => exact ih _

namespace Link

/-- The link with one blank on both sides of its operator. -/
def evenly (link : Link vars) : Link vars :=
  { link with before := Gap.blank, after := Gap.blank }

theorem isPlain_evenly (link : Link vars) : link.evenly.isPlain = !link.operand.isDashed := by
  simp [isPlain, isTight, evenly, Gap.blank]

end Link

theorem apart_evenly (operand : Operand vars) (links : List (Link vars)) :
    Apart operand (links.map Link.evenly) :=
  apart_of_spaced (List.forall_mem_map.mpr fun _ _ => List.cons_ne_nil _ _)

namespace Group

/-- The group with one blank on both sides of every operator, and no other blanks. -/
def evenly (g : Group vars) : Group vars :=
  ⟨Gap.empty, g.first, g.links.map Link.evenly, Gap.empty⟩

theorem isSome_result? (g : Group vars) :
    g.result?.isSome = g.links.all fun link => !link.dividesByZero := by
  rw [← isSome_products g.first.quantity.value, result?]
  cases products g.first.quantity.value (g.links.map Link.pair) <;> rfl

theorem result?_evenly (g : Group vars) : g.evenly.result? = g.result? := by
  simp only [result?, evenly, List.map_map]
  rfl

theorem isPlain_evenly (g : Group vars) (loose : ∀ link ∈ g.links, link.isTight = false) :
    g.evenly.isPlain = g.isPlain := by
  have same : g.links.all (fun link => !link.operand.isDashed) = g.links.all Link.isPlain := by
    rw [Bool.eq_iff_iff, List.all_eq_true, List.all_eq_true]
    refine forall₂_congr fun link mem => ?_
    rw [Link.isPlain, loose link mem, Bool.not_false, Bool.true_and]
  rw [isPlain, isPlain, ← same, evenly, List.all_map]
  simp [Function.comp_def, Link.isPlain_evenly]

/-- A group of numerals and declared variables is folded exactly if it has no division by zero, no
name with a dash before it, and no minus sign right before an unsigned numeral. Other choices of
blanks do not matter. -/
theorem folds_iff (g : Group vars) (long : g.links ≠ []) (apart : Apart g.first g.links) :
    ((foldGroup? vars g.text).isSome = true ↔ g.first.isDashed = false ∧ ∀ link ∈ g.links,
      link.operand.isDashed = false ∧ link.isTight = false ∧ link.dividesByZero = false) ∧
    ((∀ link ∈ g.links, link.isTight = false) →
      foldGroup? vars g.text = foldGroup? vars g.evenly.text) := by
  have folded := g.foldGroup?_text long apart
  constructor
  · rw [folded]
    have whole : (if g.isPlain = true then g.result? else none).isSome =
        (g.isPlain && g.result?.isSome) := by
      cases g.isPlain <;> rfl
    rw [whole, isSome_result?, isPlain]
    simp only [Bool.and_eq_true, Bool.not_eq_true', List.all_eq_true, Link.isPlain]
    constructor
    · rintro ⟨⟨first, plain⟩, divides⟩
      exact ⟨first, fun link mem => ⟨(plain link mem).2, (plain link mem).1, divides link mem⟩⟩
    · rintro ⟨first, all⟩
      refine ⟨⟨first, fun link mem => ?_⟩, fun link mem => (all link mem).2.2⟩
      exact ⟨(all link mem).2.1, (all link mem).1⟩
  · intro loose
    have long' : g.evenly.links ≠ [] := by simpa [evenly] using long
    rw [folded, g.evenly.foldGroup?_text long' (apart_evenly g.first g.links), result?_evenly,
      isPlain_evenly g loose]

/-- The minus sign of `5-3` is lost, that of `@a *3- 1` is not. -/
theorem folds_of_minus :
    foldGroup? [] "5-3".toList = none ∧
      (foldGroup? [("a", "2rem")] "@a *3- 1".toList).isSome = true ∧
      foldGroup? [("a", "2rem")] "@a *3- 1".toList =
        foldGroup? [("a", "2rem")] "@a * 3 - 1".toList := by
  let one := Numeral.ofDigits false ['1'] [] (by decide) rfl rfl
  let three := Numeral.ofDigits false ['3'] [] (by decide) rfl rfl
  let five := Numeral.ofDigits false ['5'] [] (by decide) rfl rfl
  let twoRem := Numeral.ofDigits false ['2'] ['r', 'e', 'm'] (by decide) rfl rfl
  let a : Operand [("a", "2rem")] :=
    .named ⟨false, 'a', [], by decide, List.forall_mem_nil _⟩ twoRem false (by decide)
  let tight : Group [] :=
    ⟨Gap.empty, .numeral five, [⟨Gap.empty, .minus, Gap.empty, .numeral three⟩], Gap.empty⟩
  let loose : Group [("a", "2rem")] := ⟨Gap.empty, a,
    [⟨Gap.blank, .times, Gap.empty, .numeral three⟩,
      ⟨Gap.empty, .minus, Gap.blank, .numeral one⟩], Gap.empty⟩
  obtain ⟨folds, -⟩ := tight.folds_iff (List.cons_ne_nil _ _) ⟨nofun, trivial⟩
  obtain ⟨folds', same⟩ := loose.folds_iff (List.cons_ne_nil _ _)
    ⟨fun _ => .inl (List.cons_ne_nil _ _), nofun, trivial⟩
  refine ⟨?_, ?_, same (by decide)⟩
  · exact Option.not_isSome_iff_eq_none.mp (mt folds.mp (by decide))
  · exact folds'.mpr (by decide +kernel)

end Group

end PageComponent.Style
