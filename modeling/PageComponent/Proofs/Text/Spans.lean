import Mathlib.Data.List.TakeWhile
import PageComponent.Text.Blank

/-!
# Spans

The longest front of a text whose characters are all of one kind, and what follows it.
-/

namespace PageComponent.Text

variable {p : Char → Bool} {cs rest : List Char}

theorem takeWhile_append_of_head (all : ∀ c ∈ cs, p c = true)
    (stop : ∀ c ∈ rest.head?, p c = false) : (cs ++ rest).takeWhile p = cs := by
  rw [List.takeWhile_append_of_pos all]
  cases rest with
  | nil => exact List.append_nil cs
  | cons d rest => rw [List.takeWhile_cons, stop d rfl, if_neg Bool.false_ne_true, List.append_nil]

theorem dropWhile_append_of_head (all : ∀ c ∈ cs, p c = true)
    (stop : ∀ c ∈ rest.head?, p c = false) : (cs ++ rest).dropWhile p = rest := by
  rw [List.dropWhile_append_of_pos all]
  cases rest with
  | nil => rfl
  | cons d rest => rw [List.dropWhile_cons, stop d rfl, if_neg Bool.false_ne_true]

theorem takeWhile_append_stop {d : Char} (all : ∀ c ∈ cs, p c = true) (stop : p d = false)
    (rest : List Char) : (cs ++ d :: rest).takeWhile p = cs := by
  refine takeWhile_append_of_head all ?_
  rintro _ ⟨⟩
  exact stop

theorem head?_dropWhile : ∀ c ∈ (cs.dropWhile p).head?, p c = false := by
  intro c head
  have stop := List.head?_dropWhile_not p cs
  rw [Option.mem_def.mp head] at stop
  exact stop

theorem dropWhile_append_eq (p : Char → Bool) (cs ds : List Char) :
    (cs ++ ds).dropWhile p = cs.dropWhile p ++ ds ∧ cs.dropWhile p ≠ [] ∨
      (cs ++ ds).dropWhile p = ds.dropWhile p ∧ cs.dropWhile p = [] := by
  rw [List.dropWhile_append]
  cases cs.dropWhile p with
  | nil => exact .inr ⟨rfl, rfl⟩
  | cons c cs => exact .inl ⟨rfl, List.cons_ne_nil c cs⟩

theorem dropWhile_append_stop {d : Char} (stop : p d = false) (cs rest : List Char) :
    (cs ++ d :: rest).dropWhile p = cs.dropWhile p ++ d :: rest := by
  obtain ⟨eq, _⟩ | ⟨eq, none⟩ := dropWhile_append_eq p cs (d :: rest)
  · exact eq
  · rw [eq, none, List.dropWhile_cons_of_neg (Bool.eq_false_iff.mp stop), List.nil_append]

/-- A text without blanks is trimmed. -/
theorem trim_eq_self (h : ∀ c ∈ cs, isBlank c = false) : trim cs = cs := by
  have kept {cs : List Char} (h : ∀ c ∈ cs, isBlank c = false) : cs.dropWhile isBlank = cs := by
    cases cs with
    | nil => rfl
    | cons c cs => rw [List.dropWhile_cons, h c List.mem_cons_self, if_neg Bool.false_ne_true]
  rw [trim, trimStart, kept h, trimEnd, kept, List.reverse_reverse]
  exact fun c mem => h c (List.mem_reverse.mp mem)

end PageComponent.Text
