/-!
# What is left of a list

A reader takes something off the front of a list. The type of what it leaves says that this is
shorter, or no longer, so that readers end however they call each other.
-/

namespace PageComponent

variable {α : Type}

/-- What may be left of `xs` after at least one item. -/
abbrev Shorter (xs : List α) := { rest : List α // rest.length < xs.length }

/-- What may be left of `xs` after any number of items. -/
abbrev NotLonger (xs : List α) := { rest : List α // rest.length ≤ xs.length }

theorem length_lt_cons (x : α) (xs : List α) : xs.length < (x :: xs).length :=
  Nat.lt_succ_self xs.length

theorem length_lt_cons_of_le (x : α) {xs rest : List α} (h : rest.length ≤ xs.length) :
    rest.length < (x :: xs).length :=
  Nat.lt_succ_of_le h

theorem length_lt_cons_of_lt (x : α) {xs rest : List α} (h : rest.length < xs.length) :
    rest.length < (x :: xs).length :=
  Nat.lt_succ_of_lt h

theorem length_le_cons_of_le (x : α) {xs rest : List α} (h : rest.length ≤ xs.length) :
    rest.length ≤ (x :: xs).length :=
  Nat.le_succ_of_le h

theorem length_lt_cons_of_lt_of_lt (x : α) {xs ys rest : List α} (h : ys.length < xs.length)
    (h' : rest.length < ys.length) : rest.length < (x :: xs).length :=
  length_lt_cons_of_lt x (Nat.lt_trans h' h)

theorem length_lt_cons_of_le_of_lt (x : α) {xs ys rest : List α} (h : ys.length ≤ xs.length)
    (h' : rest.length < ys.length) : rest.length < (x :: xs).length :=
  length_lt_cons_of_lt x (Nat.lt_of_lt_of_le h' h)

theorem length_le_cons_of_le_of_le (x : α) {xs ys rest : List α} (h : ys.length ≤ xs.length)
    (h' : rest.length ≤ ys.length) : rest.length ≤ (x :: xs).length :=
  length_le_cons_of_le x (Nat.le_trans h' h)

theorem length_le_of_lt_of_le {xs ys rest : List α} (h : ys.length < xs.length)
    (h' : rest.length ≤ ys.length) : rest.length ≤ xs.length :=
  Nat.le_trans h' (Nat.le_of_lt h)

namespace NotLonger

def self (xs : List α) : NotLonger xs :=
  ⟨xs, Nat.le_refl xs.length⟩

def nil (xs : List α) : NotLonger xs :=
  ⟨[], Nat.zero_le xs.length⟩

def dropWhile (p : α → Bool) (xs : List α) : NotLonger xs :=
  ⟨xs.dropWhile p, (List.dropWhile_sublist p).length_le⟩

end NotLonger

namespace Shorter

def tail (x : α) (xs : List α) : Shorter (x :: xs) :=
  ⟨xs, length_lt_cons x xs⟩

/-- What is left behind the first items, at least one of them. -/
def drop (count : Nat) (x : α) (xs : List α) : Shorter (x :: xs) :=
  ⟨xs.drop (count - 1), Nat.lt_succ_of_le (by simp only [List.length_drop]; omega)⟩

/-- What is left behind `x`, if the list begins with it. -/
def after? [DecidableEq α] (x : α) : (xs : List α) → Option (Shorter xs)
  | [] => none
  | y :: xs => if y = x then some (tail y xs) else none

end Shorter

end PageComponent
