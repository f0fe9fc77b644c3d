import PageComponent.Text.Blank

/-!
# Words

The words of a text are not empty and hold no blanks, and words with single blanks between them are
the words of the text that they make.
-/

namespace PageComponent

namespace Text

structure IsWord (cs : List Char) : Prop where
  nonempty : cs ≠ []
  solid : ∀ c ∈ cs, isBlank c = false

/-- A word ends where the text does or where a blank follows. -/
def EndsWord (rest : List Char) : Prop :=
  ∀ c ∈ rest.head?, isBlank c = true

theorem words_blank {c : Char} (h : isBlank c = true) (cs : List Char) :
    words (c :: cs) = words cs := by
  rw [words, if_pos h]

theorem words_append {w rest : List Char} (word : IsWord w) (ends : EndsWord rest) :
    words (w ++ rest) = w :: words rest := by
  obtain ⟨nonempty, solid⟩ := word
  induction w with
  | nil => exact absurd rfl nonempty
  | cons c w ih =>
    obtain ⟨solidHead, solidTail⟩ := List.forall_mem_cons.mp solid
    rw [List.cons_append, words, if_neg (by simp [solidHead])]
    cases w with
    | nil =>
      cases rest with
      | nil => rfl
      | cons d rest =>
        have blank : isBlank d = true := ends d rfl
        simp only [List.nil_append, List.head?_cons, Option.map_some, blank]
    | cons d w =>
      have solidNext : isBlank d = false := solidTail d List.mem_cons_self
      rw [ih (List.cons_ne_nil d w) solidTail]
      simp only [List.cons_append, List.head?_cons, Option.map_some, solidNext]

theorem isWord_of_mem_words {w : List Char} : ∀ {cs : List Char}, w ∈ words cs → IsWord w
  | [], mem => (List.not_mem_nil mem).elim
  | c :: cs, mem => by
    rw [words] at mem
    split at mem
    next => exact isWord_of_mem_words mem
    next solid =>
      have solid : isBlank c = false := Bool.eq_false_iff.mpr solid
      split at mem
      next v vs _ eq =>
        have inside {u : List Char} (mem : u ∈ v :: vs) : IsWord u :=
          isWord_of_mem_words (eq ▸ mem)
        rcases List.mem_cons.mp mem with rfl | mem
        · exact ⟨List.cons_ne_nil c v,
            List.forall_mem_cons.mpr ⟨solid, (inside List.mem_cons_self).solid⟩⟩
        · exact inside (List.mem_cons_of_mem v mem)
      next =>
        rcases List.mem_cons.mp mem with rfl | mem
        · exact ⟨List.cons_ne_nil c [], List.forall_mem_cons.mpr ⟨solid, nofun⟩⟩
        · exact isWord_of_mem_words mem

end Text

theorem isWord_of_mem_blankWords {s name : String} (mem : name ∈ blankWords s) :
    Text.IsWord name.toList := by
  obtain ⟨w, inside, rfl⟩ := List.mem_map.mp mem
  rw [String.toList_ofList]
  exact Text.isWord_of_mem_words inside

/-- Words that are put together with single blanks are found again. -/
theorem blankWords_intercalate {names : List String}
    (words : ∀ name ∈ names, Text.IsWord name.toList) :
    blankWords (" ".intercalate names) = names := by
  induction names with
  | nil => rfl
  | cons name names ih =>
    obtain ⟨word, rest⟩ := List.forall_mem_cons.mp words
    cases names with
    | nil =>
      have alone : Text.words (name.toList ++ []) = [name.toList] := Text.words_append word nofun
      rw [List.append_nil] at alone
      rw [String.intercalate_singleton, blankWords, alone, List.map_cons, String.ofList_toList]
      rfl
    | cons next names =>
      have behind : Text.EndsWord (' ' :: (" ".intercalate (next :: names)).toList) := by
        intro c mem
        cases mem
        rfl
      have read : (" ".intercalate (name :: next :: names)).toList =
          name.toList ++ ' ' :: (" ".intercalate (next :: names)).toList := by
        rw [String.intercalate_cons_cons, String.toList_append, String.toList_append,
          List.append_assoc]
        rfl
      rw [blankWords, read, Text.words_append word behind, Text.words_blank rfl, List.map_cons,
        String.ofList_toList, ← blankWords, ih rest]

end PageComponent
