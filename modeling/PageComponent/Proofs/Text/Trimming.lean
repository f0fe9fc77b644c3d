import PageComponent.Proofs.Text.Characters
import PageComponent.Proofs.Text.Spans

/-!
# Trimming

What trimming leaves is told by the code points of the blanks: only these stand around it, and it
neither begins nor ends with one.
-/

namespace PageComponent

namespace Text

variable {cs out : List Char}

def BlankCode (c : Char) : Prop :=
  c.toNat ∈ blankCodes

/-- A text and what is left of it without the blanks around it. -/
structure Strips (cs out : List Char) : Prop where
  parts : ∃ front back, cs = front ++ out ++ back ∧
    (∀ c ∈ front, BlankCode c) ∧ ∀ c ∈ back, BlankCode c
  head : ∀ c ∈ out.head?, ¬BlankCode c
  last : ∀ c ∈ out.getLast?, ¬BlankCode c

theorem isBlank_eq_false_iff {c : Char} : isBlank c = false ↔ ¬BlankCode c := by
  rw [← Bool.not_eq_true, isBlank_iff, BlankCode]

theorem trimStart_append (cs : List Char) :
    ∃ front, cs = front ++ trimStart cs ∧ ∀ c ∈ front, BlankCode c := by
  refine ⟨cs.takeWhile isBlank, List.takeWhile_append_dropWhile.symm, ?_⟩
  intro c mem
  exact isBlank_iff.mp (List.mem_takeWhile_imp mem)

theorem trimEnd_append (cs : List Char) :
    ∃ back, cs = trimEnd cs ++ back ∧ ∀ c ∈ back, BlankCode c := by
  obtain ⟨front, eq, blank⟩ := trimStart_append cs.reverse
  refine ⟨front.reverse, ?_, fun c mem => blank c (List.mem_reverse.mp mem)⟩
  rw [trimEnd, ← List.reverse_append]
  exact List.reverse_eq_iff.mp eq

theorem head?_trimStart : ∀ c ∈ (trimStart cs).head?, ¬BlankCode c := by
  intro c head
  exact isBlank_eq_false_iff.mp (head?_dropWhile c head)

theorem getLast?_trimEnd : ∀ c ∈ (trimEnd cs).getLast?, ¬BlankCode c := by
  intro c last
  rw [trimEnd, List.getLast?_reverse] at last
  exact head?_trimStart c last

theorem trimStart_of {front : List Char} (blank : ∀ c ∈ front, BlankCode c)
    (head : ∀ c ∈ out.head?, ¬BlankCode c) : trimStart (front ++ out) = out := by
  apply dropWhile_append_of_head
  · intro c mem
    exact isBlank_iff.mpr (blank c mem)
  · intro c mem
    exact isBlank_eq_false_iff.mpr (head c mem)

theorem trimEnd_of {back : List Char} (blank : ∀ c ∈ back, BlankCode c)
    (last : ∀ c ∈ out.getLast?, ¬BlankCode c) : trimEnd (out ++ back) = out := by
  have kept : trimStart (back.reverse ++ out.reverse) = out.reverse := by
    apply trimStart_of
    · intro c mem
      exact blank c (List.mem_reverse.mp mem)
    · intro c head
      rw [List.head?_reverse] at head
      exact last c head
  rw [trimEnd, List.reverse_append]
  exact List.reverse_eq_iff.mpr kept

theorem strips_trim (cs : List Char) : Strips cs (trim cs) := by
  obtain ⟨front, behind, blankFront⟩ := trimStart_append cs
  obtain ⟨back, before, blankBack⟩ := trimEnd_append (trimStart cs)
  refine ⟨⟨front, back, ?_, blankFront, blankBack⟩, ?_, getLast?_trimEnd⟩
  · rw [trim, List.append_assoc, ← before]
    exact behind
  · intro c head
    have first : (trimEnd (trimStart cs)).head? = some c := head
    have begins : c ∈ (trimStart cs).head? := by
      rw [before, List.head?_append, first]
      rfl
    exact head?_trimStart c begins

/-- Trimming leaves what no blank is around. -/
theorem trim_eq_iff : trim cs = out ↔ Strips cs out := by
  constructor
  · rintro rfl
    exact strips_trim cs
  · rintro ⟨⟨front, back, rfl, blankFront, blankBack⟩, head, last⟩
    cases out with
    | nil =>
      -- Nothing ends the blanks in front, so those behind are taken with them.
      have blank : ∀ c ∈ front ++ back, BlankCode c := by
        intro c mem
        exact (List.mem_append.mp mem).elim (blankFront c) (blankBack c)
      have none : trimStart (front ++ back ++ []) = [] := trimStart_of blank nofun
      rw [List.append_nil] at none ⊢
      rw [trim, none]
      rfl
    | cons d ds =>
      have begun : trimStart (front ++ (d :: ds ++ back)) = d :: ds ++ back :=
        trimStart_of blankFront head
      rw [trim, List.append_assoc, begun]
      exact trimEnd_of blankBack last

end Text

theorem trimmed_eq_iff {s out : String} : trimmed s = out ↔ Text.Strips s.toList out.toList := by
  rw [trimmed, ← Text.trim_eq_iff, ← String.toList_inj, String.toList_ofList]

end PageComponent
