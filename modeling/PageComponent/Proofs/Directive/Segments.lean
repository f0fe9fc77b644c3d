import PageComponent.Proofs.Directive.TopLevel

/-!
# Searching and splitting

A text is split by searching: its parts are what stands before the first top-level separator and the
parts of what stands behind it. So no part has a top-level separator, and the parts are the whole
text but for a blank end.
-/

namespace PageComponent

namespace Nesting

variable {sep c : Char} {n n' : Nesting} {cs front back : List Char}

/-- The nesting behind a text that begins at the top level. -/
def behind (cs : List Char) : Nesting :=
  cs.foldl after top

theorem Crosses.separates_eq_false (h : Crosses sep n (front ++ c :: back) n') :
    (front.foldl after n).separates sep c = false := by
  induction front generalizing n with
  | nil =>
    cases h with
    | cons joined rest => exact joined
  | cons d front ih =>
    cases h with
    | cons joined rest => exact ih rest

/-- Behind a separator the text is at the top level again. -/
theorem of_separates (h : n.separates sep c = true) : c = sep ∧ n.after c = top := by
  simp only [separates, Bool.and_eq_true, beq_iff_eq, Bool.not_eq_true'] at h
  obtain ⟨⟨⟨⟨rfl, same⟩, quote⟩, opening⟩, closing⟩ := h
  exact ⟨same, by simp [after, top, quote, opening, closing]⟩

end Nesting

namespace Text

open Nesting

variable {sep : Char} {n : Nesting} {cs : List Char} {i : Nat}

/-! ## Searching -/

theorem findFrom?_eq_none_iff : findFrom? sep n cs = none ↔ ∃ n', Crosses sep n cs n' := by
  constructor
  · intro h
    induction cs generalizing n with
    | nil => exact ⟨n, .nil⟩
    | cons c cs ih =>
      rw [findFrom?] at h
      split at h
      next => cases h
      next joined =>
        obtain ⟨n', rest⟩ := ih (Option.map_eq_none_iff.mp h)
        exact ⟨n', .cons (Bool.eq_false_iff.mpr joined) rest⟩
  · intro h
    obtain ⟨n', crosses⟩ := h
    have found := findFrom?_append crosses []
    simpa [findFrom?] using found

/-- What is found is a separator, and nothing before it is one. -/
theorem findFrom?_eq_some (h : findFrom? sep n cs = some i) :
    cs = cs.take i ++ sep :: cs.drop (i + 1) ∧
      ∃ n', Crosses sep n (cs.take i) n' ∧ n'.separates sep sep = true := by
  induction cs generalizing n i with
  | nil => cases h
  | cons c cs ih =>
    rw [findFrom?] at h
    split at h
    next separates =>
      cases h
      obtain ⟨same, _⟩ := of_separates separates
      subst same
      exact ⟨rfl, n, .nil, separates⟩
    next joined =>
      obtain ⟨j, found, eq⟩ := Option.map_eq_some_iff.mp h
      subst eq
      obtain ⟨whole, n', crosses, separates⟩ := ih found
      refine ⟨?_, n', .cons (Bool.eq_false_iff.mpr joined) crosses, separates⟩
      rw [List.take_succ_cons, List.drop_succ_cons, List.cons_append, ← whole]

/-! ## Splitting -/

theorem dropBlankEnd_cons (part : List Char) {parts : List (List Char)} (ne : parts ≠ []) :
    dropBlankEnd (part :: parts) = part :: dropBlankEnd parts := by
  have last : (part :: parts).getLast? = parts.getLast? := by
    rw [List.getLast?_cons, List.getLast?_eq_getLast_of_ne_nil ne]
    rfl
  unfold dropBlankEnd
  rw [last, List.getLast?_eq_getLast_of_ne_nil ne]
  dsimp only
  split
  next => exact List.dropLast_cons_of_ne_nil ne
  next => rfl

theorem partsFrom_of_separates {c : Char} (h : n.separates sep c = true) (cs : List Char) :
    partsFrom sep n (c :: cs) = ([], (partsFrom sep top cs).1 :: (partsFrom sep top cs).2) := by
  rw [partsFrom, (of_separates h).2]
  exact if_pos h

theorem splitTopLevel_of_none (h : findTopLevel? sep cs = none) :
    splitTopLevel sep cs = if cs.all isBlank then [] else [cs] := by
  obtain ⟨n', crosses⟩ := findFrom?_eq_none_iff.mp h
  have parts := partsFrom_append crosses []
  simp only [List.append_nil, partsFrom] at parts
  rw [splitTopLevel, parts]
  rfl

theorem splitTopLevel_of_some (h : findTopLevel? sep cs = some i) :
    splitTopLevel sep cs = cs.take i :: splitTopLevel sep (cs.drop (i + 1)) := by
  obtain ⟨whole, n', crosses, separates⟩ := findFrom?_eq_some h
  have parts := partsFrom_append crosses (sep :: cs.drop (i + 1))
  rw [← whole, partsFrom_of_separates separates, List.append_nil] at parts
  rw [splitTopLevel, parts]
  exact dropBlankEnd_cons _ (List.cons_ne_nil _ _)

theorem splitTopLevel_eq_nil_iff :
    splitTopLevel sep cs = [] ↔ findTopLevel? sep cs = none ∧ cs.all isBlank = true := by
  cases found : findTopLevel? sep cs with
  | none =>
    rw [splitTopLevel_of_none found]
    by_cases blank : cs.all isBlank = true <;> simp [blank]
  | some i =>
    rw [splitTopLevel_of_some found]
    simp

/-! ## Segments -/

theorem length_drop_lt_of_findTopLevel? (h : findTopLevel? sep cs = some i) :
    (cs.drop (i + 1)).length < cs.length := by
  obtain ⟨whole, _⟩ := findFrom?_eq_some h
  have lengths := congrArg List.length whole
  rw [List.length_append, List.length_cons] at lengths
  omega

/-- What stands behind the last top-level separator. -/
def lastSegment (sep : Char) (cs : List Char) : List Char :=
  match found : findTopLevel? sep cs with
  | none => cs
  | some i => lastSegment sep (cs.drop (i + 1))
termination_by cs.length
decreasing_by exact length_drop_lt_of_findTopLevel? found

theorem lastSegment_of_none (h : findTopLevel? sep cs = none) : lastSegment sep cs = cs := by
  rw [lastSegment]
  split
  next => rfl
  next found => cases h.symm.trans found

theorem lastSegment_of_some (h : findTopLevel? sep cs = some i) :
    lastSegment sep cs = lastSegment sep (cs.drop (i + 1)) := by
  rw [lastSegment]
  split
  next found => cases h.symm.trans found
  next found =>
    cases h.symm.trans found
    rfl

/-- What is left of a text besides its parts: a blank last segment and the separator before it. -/
def blankEnd (sep : Char) (cs : List Char) : List Char :=
  if (lastSegment sep cs).all isBlank then
    if splitTopLevel sep cs = [] then lastSegment sep cs else sep :: lastSegment sep cs
  else []

theorem findTopLevel?_eq_none_of_mem (sep : Char) (cs : List Char) :
    ∀ part ∈ splitTopLevel sep cs, findTopLevel? sep part = none := by
  fun_induction lastSegment sep cs with
  | case1 cs found =>
    intro part mem
    rw [splitTopLevel_of_none found] at mem
    split at mem
    next => cases mem
    next =>
      cases List.mem_singleton.mp mem
      exact found
  | case2 cs i found ih =>
    intro part mem
    rw [splitTopLevel_of_some found] at mem
    cases List.mem_cons.mp mem with
    | inl first =>
      obtain ⟨_, n', crosses, _⟩ := findFrom?_eq_some found
      rw [first]
      exact findFrom?_eq_none_iff.mpr ⟨n', crosses⟩
    | inr others => exact ih part others

theorem eq_intercalate_append_blankEnd (sep : Char) (cs : List Char) :
    cs = [sep].intercalate (splitTopLevel sep cs) ++ blankEnd sep cs := by
  fun_induction lastSegment sep cs with
  | case1 cs found =>
    rw [blankEnd, lastSegment_of_none found, splitTopLevel_of_none found]
    by_cases blank : cs.all isBlank = true
    · simp [blank]
    · simp [blank]
  | case2 cs i found ih =>
    obtain ⟨whole, _⟩ := findFrom?_eq_some found
    have filled : splitTopLevel sep cs ≠ [] := by
      rw [splitTopLevel_of_some found]
      exact List.cons_ne_nil _ _
    rw [blankEnd, if_neg filled, lastSegment_of_some found, splitTopLevel_of_some found]
    by_cases ended : splitTopLevel sep (cs.drop (i + 1)) = []
    · obtain ⟨none, blank⟩ := splitTopLevel_eq_nil_iff.mp ended
      rw [ended, lastSegment_of_none none, if_pos blank, List.intercalate_singleton]
      exact whole
    · rw [blankEnd, if_neg ended] at ih
      rw [List.intercalate_cons_of_ne_nil ended, List.append_assoc, List.append_assoc, ← ih]
      exact whole

/-- Splitting goes on behind the separator that searching finds. No part has a top-level separator,
and the parts with separators between them are the text up to its blank end. -/
theorem splitTopLevel_eq (sep : Char) (cs : List Char) :
    (splitTopLevel sep cs = match findTopLevel? sep cs with
      | none => if cs.all isBlank then [] else [cs]
      | some i => cs.take i :: splitTopLevel sep (cs.drop (i + 1))) ∧
    (∀ part ∈ splitTopLevel sep cs, findTopLevel? sep part = none ∧
      ∀ front c back, part = front ++ c :: back → (behind front).separates sep c = false) ∧
    cs = [sep].intercalate (splitTopLevel sep cs) ++ blankEnd sep cs := by
  refine ⟨?_, fun part mem => ?_, eq_intercalate_append_blankEnd sep cs⟩
  · split
    next found => exact splitTopLevel_of_none found
    next i found => exact splitTopLevel_of_some found
  · have none := findTopLevel?_eq_none_of_mem sep cs part mem
    obtain ⟨n', crosses⟩ := findFrom?_eq_none_iff.mp none
    refine ⟨none, fun front c back eq => ?_⟩
    rw [eq] at crosses
    exact crosses.separates_eq_false

/-- A blank segment behind the last separator is no part; brackets and quotes hide separators. -/
example : splitTopLevel ',' "a, (b, c),',' , ".toList =
    ["a".toList, " (b, c)".toList, "',' ".toList] := by decide

end Text

end PageComponent
