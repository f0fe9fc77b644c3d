import Mathlib
import PageComponent.Directive.Body
import PageComponent.Proofs.Directive.TopLevel

/-!
# Written class pairs

A body that is written from class pairs is read as these pairs. Names may be any text without a
single quote, and conditions any expression without a backslash.
-/

namespace PageComponent

namespace Text

variable {cs lead rest : List Char}

theorem trim_append_of_blank (blank : ∀ c ∈ lead, isBlank c = true) (cs : List Char) :
    trim (lead ++ cs) = trim cs := by
  rw [trim, trim, trimStart, List.dropWhile_append_of_pos blank]
  rfl

/-- Nothing is trimmed off a text between two characters that are no blanks. -/
theorem trim_between {c d : Char} (first : isBlank c = false) (last : isBlank d = false)
    (cs : List Char) : trim (c :: (cs ++ [d])) = c :: (cs ++ [d]) := by
  have start : trimStart (c :: (cs ++ [d])) = c :: (cs ++ [d]) := by simp [trimStart, first]
  rw [trim, start, trimEnd, ← List.cons_append, List.reverse_append]
  simp [last]

theorem unquote_quoted (cs : List Char) : unquote ('\'' :: (cs ++ ['\''])) = cs := by
  simp [unquote, Nesting.isQuote]

theorem unbrace_braced (cs : List Char) : unbrace ('\x7b' :: (cs ++ ['\x7d'])) = cs := by
  simp [unbrace]

theorem dropBlankEnd_eq_self {parts : List (List Char)}
    (filled : ∀ part ∈ parts, part.all isBlank = false) : dropBlankEnd parts = parts := by
  rw [dropBlankEnd]
  split
  next part last =>
    rw [if_neg]
    rw [filled part (List.mem_of_getLast? last)]
    exact Bool.false_ne_true
  next none => exact (List.getLast?_eq_none_iff.mp none).symm

end Text

namespace ClassPair

open Nesting Text

/-- What may be written as an entry of a body. -/
structure Writable (pair : ClassPair) : Prop where
  names : '\'' ∉ pair.names.toList
  trimmed : trimmed pair.condition = pair.condition
  plain : '\\' ∉ pair.condition.toList
  parsed : ∃ e, Expr.parse pair.condition = .ok e

def print (pair : ClassPair) : String :=
  "'" ++ pair.names ++ "': " ++ pair.condition

/-- The body with the pairs as its entries. -/
def printAll (pairs : List ClassPair) : String :=
  "\x7b" ++ ", ".intercalate (pairs.map print) ++ "\x7d"

variable {pair : ClassPair} {pairs : List ClassPair} {lead : List Char}

theorem toList_print (pair : ClassPair) :
    pair.print.toList =
      '\'' :: (pair.names.toList ++ ['\'']) ++ ':' :: ' ' :: pair.condition.toList := by
  simp [print, String.toList_append]

theorem toList_printAll (pairs : List ClassPair) :
    (printAll pairs).toList =
      '\x7b' :: ([',', ' '].intercalate (pairs.map fun pair => pair.print.toList) ++ ['\x7d']) := by
  simp only [printAll, String.toList_append, String.toList_intercalate, List.map_map]
  rfl

/-! ## Entries -/

theorem Writable.crosses (h : pair.Writable) : Crosses ',' top pair.print.toList top := by
  obtain ⟨e, parsed⟩ := h.parsed
  have between : Crosses ',' top [':', ' '] top :=
    @Crosses.of_not_mem_marks ',' [':', ' '] 0 (by simp [marks])
  rw [toList_print]
  exact (Crosses.quoted rfl h.names).append
    (between.append (Expr.crosses_of_parse parsed h.plain 0))

/-- An entry is read as its pair, with or without blanks before it. -/
theorem Writable.ofEntry?_print (h : pair.Writable) (blank : ∀ c ∈ lead, isBlank c = true) :
    ofEntry? (lead ++ pair.print.toList) = some pair := by
  have before : Crosses ':' top (lead ++ '\'' :: (pair.names.toList ++ ['\''])) top := by
    refine (@Crosses.of_not_mem_marks ':' lead 0 ?_).append (.quoted rfl h.names)
    exact fun c mem => not_mem_marks (by decide) (blank c mem)
  have found : findTopLevel? ':' (lead ++ pair.print.toList) =
      some (lead ++ '\'' :: (pair.names.toList ++ ['\''])).length := by
    rw [toList_print, ← List.append_assoc, findTopLevel?, findFrom?_append before]
    simp [findFrom?, separates, isQuote, isOpening, isClosing]
  have condition : trim pair.condition.toList = pair.condition.toList := by
    have trimmed := congrArg String.toList h.trimmed
    rwa [PageComponent.trimmed, String.toList_ofList] at trimmed
  have spaced : trim (' ' :: pair.condition.toList) = pair.condition.toList := by
    rw [← List.singleton_append, trim_append_of_blank, condition]
    exact List.forall_mem_singleton.mpr rfl
  unfold ofEntry?
  rw [found, Option.map_some, toList_print, ← List.append_assoc, List.take_left,
    List.drop_length_add_append, List.drop_one, List.tail_cons, trim_append_of_blank blank,
    trim_between rfl rfl, unquote_quoted, spaced, String.ofList_toList, String.ofList_toList]

/-! ## Bodies -/

theorem partsFrom_entries (h : pair.Writable) (others : ∀ pair ∈ pairs, pair.Writable) :
    partsFrom ',' top ([',', ' '].intercalate ((pair :: pairs).map fun pair => pair.print.toList)) =
      (pair.print.toList, pairs.map fun pair => ' ' :: pair.print.toList) := by
  induction pairs generalizing pair with
  | nil =>
    have alone := partsFrom_append h.crosses []
    rw [List.append_nil, partsFrom, List.append_nil] at alone
    simpa using alone
  | cons next pairs ih =>
    obtain ⟨first, others⟩ := List.forall_mem_cons.mp others
    have rest := ih first others
    rw [List.map_cons, List.map_cons, List.intercalate_cons_cons, List.append_assoc,
      partsFrom_append h.crosses]
    rw [List.map_cons] at rest
    -- The blank behind a separator stays in front of the next entry.
    have separated : partsFrom ',' top ([',', ' '] ++ [',', ' '].intercalate
        (next.print.toList :: pairs.map fun pair => pair.print.toList)) =
        ([], (' ' :: next.print.toList) :: pairs.map fun pair => ' ' :: pair.print.toList) := by
      have blank : Crosses ',' top [' '] top :=
        @Crosses.of_not_mem_marks ',' [' '] 0 (by simp [marks])
      have same : top.after ',' = top := rfl
      rw [List.cons_append, partsFrom, same, partsFrom_append blank, rest]
      rfl
    rw [separated, List.append_nil]
    rfl

/-- A body written from class pairs is read as these pairs, in their order and with those that
repeat: no name and no condition is split, cut or lost. -/
theorem ofBody_printAll (pairs : List ClassPair) (h : ∀ pair ∈ pairs, pair.Writable) :
    ofBody (printAll pairs) = pairs := by
  rw [ofBody, toList_printAll, trim_between rfl rfl, unbrace_braced]
  cases pairs with
  | nil => rfl
  | cons pair pairs =>
    obtain ⟨first, others⟩ := List.forall_mem_cons.mp h
    have filled (pair : ClassPair) : pair.print.toList.all isBlank = false := by
      rw [toList_print]
      rfl
    have kept : dropBlankEnd (pair.print.toList :: pairs.map fun pair => ' ' :: pair.print.toList) =
        pair.print.toList :: pairs.map fun pair => ' ' :: pair.print.toList := by
      apply dropBlankEnd_eq_self
      simp only [List.forall_mem_cons, List.forall_mem_map]
      refine ⟨filled pair, fun pair _ => ?_⟩
      exact filled pair
    have read : ofEntry? pair.print.toList = some pair :=
      @Writable.ofEntry?_print pair [] first (List.forall_mem_nil _)
    have readAll : pairs.filterMap (fun pair => ofEntry? (' ' :: pair.print.toList)) =
        pairs.filterMap some := by
      apply List.filterMap_congr
      intro pair mem
      have blank : ∀ c ∈ [' '], isBlank c = true := List.forall_mem_singleton.mpr rfl
      exact (others pair mem).ofEntry?_print blank
    rw [splitTopLevel, partsFrom_entries first others]
    dsimp only
    rw [kept, List.filterMap_cons_some read, List.filterMap_map, Function.comp_def, readAll,
      List.filterMap_some]

/-- Commas, colons and brackets of every kind, in calls, keys and texts, and a pair twice. -/
theorem ofBody_printAll_of_calls :
    let inner : ClassPair := ⟨"a, b: \x7b", "min(1, x[\"y,z\"]) ? '\x7d' : \"it's\""⟩
    let plain : ClassPair := ⟨"", "a.b"⟩
    ofBody (printAll [inner, plain, inner]) = [inner, plain, inner] := by
  intro inner plain
  have writable : inner.Writable := ⟨by decide, by decide, by decide, _, by cbv⟩
  have other : plain.Writable := ⟨by decide, by decide, by decide, _, by cbv⟩
  apply ofBody_printAll
  simp [writable, other]

end ClassPair

end PageComponent
