import Mathlib
import PageComponent.Proofs.Directive.Steps

/-!
# Class membership

A class directive goes through its pairs in order. The last pair that names a class decides whether
the element has it afterwards. The classes that no pair takes away stay in front, in their order,
and what pairs add comes behind them, each class once.
-/

namespace PageComponent

open Node Tag

/-! ## Kept and added classes -/

/-- The names are the kept ones and behind them others, each once. -/
def Extends (kept names : List String) : Prop :=
  ∃ added, names = kept ++ added ∧ added.Nodup ∧ kept.Disjoint added

namespace Extends

variable {kept names : List String}

theorem refl (names : List String) : Extends names names :=
  ⟨[], (List.append_nil names).symm, List.nodup_nil, List.disjoint_nil_right names⟩

theorem insertClass (h : Extends kept names) (name : String) :
    Extends kept (insertClass names name) := by
  rw [Tag.insertClass]
  split
  next => exact h
  next absent =>
    obtain ⟨added, rfl, nodup, disjoint⟩ := h
    rw [List.contains_iff_mem, List.mem_append, not_or] at absent
    obtain ⟨notKept, notAdded⟩ := absent
    refine ⟨added ++ [name], List.append_assoc _ _ _, ?_, ?_⟩
    · rw [← List.concat_eq_append]
      exact nodup.concat notAdded
    · rw [List.disjoint_append_right, List.disjoint_singleton]
      exact ⟨disjoint, notKept⟩

theorem foldl_insertClass (h : Extends kept names) (added : List String) :
    Extends kept (added.foldl Tag.insertClass names) := by
  induction added generalizing names with
  | nil => exact h
  | cons name added ih => exact ih (h.insertClass name)

theorem filter (h : Extends kept names) (p : String → Bool) :
    Extends (kept.filter p) (names.filter p) := by
  obtain ⟨added, rfl, nodup, disjoint⟩ := h
  refine ⟨added.filter p, List.filter_append _ _, nodup.filter p, ?_⟩
  intro name inKept inAdded
  exact disjoint (List.mem_of_mem_filter inKept) (List.mem_of_mem_filter inAdded)

/-- No name occurs more often than among the kept ones, or than once. -/
theorem count_le (h : Extends kept names) (name : String) :
    names.count name ≤ max (kept.count name) 1 := by
  obtain ⟨added, rfl, nodup, disjoint⟩ := h
  rw [List.count_append]
  by_cases mem : name ∈ kept
  · rw [List.count_eq_zero_of_not_mem (disjoint mem)]
    exact Nat.le_max_left _ _
  · rw [List.count_eq_zero_of_not_mem mem, Nat.zero_add]
    exact Nat.le_trans (List.nodup_iff_count_le_one.mp nodup name) (Nat.le_max_right _ _)

end Extends

namespace ClassPair

variable {params : Params} {pair : ClassPair} {pairs : List ClassPair} {names : List String}
  {name : String}

/-- Whether the class is among those that the pair names. -/
def mentions (pair : ClassPair) (name : String) : Bool :=
  (blankWords pair.names).contains name

/-- Whether the condition of the pair holds. -/
def isMet (params : Params) (pair : ClassPair) : Bool :=
  match Expr.holds params pair.condition with
  | .ok holds => holds
  | .error _ => false

/-- Whether the pair takes the class away. -/
def removes (params : Params) (pair : ClassPair) (name : String) : Bool :=
  pair.mentions name && !pair.isMet params

/-- The last pair that names the class. -/
def lastFor? (pairs : List ClassPair) (name : String) : Option ClassPair :=
  (pairs.filter (·.mentions name)).getLast?

/-- The classes behind a pair. -/
def sync (params : Params) (names : List String) (pair : ClassPair) : List String :=
  if pair.isMet params then (blankWords pair.names).foldl insertClass names
  else names.filter (!pair.mentions ·)

/-! ## Going through the pairs -/

theorem lastFor?_cons (pair : ClassPair) (pairs : List ClassPair) (name : String) :
    lastFor? (pair :: pairs) name =
      (lastFor? pairs name).or (if pair.mentions name then some pair else none) := by
  rw [lastFor?, List.filter_cons]
  split
  next =>
    rw [List.getLast?_cons, lastFor?]
    cases (pairs.filter (·.mentions name)).getLast? <;> rfl
  next => exact (Option.or_none).symm

theorem mem_sync : name ∈ sync params names pair ↔
    if pair.mentions name then pair.isMet params = true else name ∈ names := by
  have word : pair.mentions name = true ↔ name ∈ blankWords pair.names := List.contains_iff_mem
  rw [sync]
  by_cases met : pair.isMet params = true
  · rw [if_pos met, mem_foldl_insertClass, ← word]
    by_cases mentioned : pair.mentions name = true <;> simp [met, mentioned]
  · rw [if_neg met, List.mem_filter]
    by_cases mentioned : pair.mentions name = true <;> simp [met, mentioned]

/-- The last pair that names a class decides; where none does, the class stays or stays away. -/
theorem mem_foldl_sync : name ∈ pairs.foldl (sync params) names ↔
    match lastFor? pairs name with
    | some pair => pair.isMet params = true
    | none => name ∈ names := by
  induction pairs generalizing names with
  | nil => rfl
  | cons pair pairs ih =>
    rw [List.foldl_cons, ih, lastFor?_cons]
    cases lastFor? pairs name with
    | some last => rfl
    | none =>
      rw [Option.none_or]
      dsimp only
      rw [mem_sync]
      split <;> rfl

theorem extends_foldl_sync {kept : List String} (h : Extends kept names) :
    Extends (kept.filter fun name => !pairs.any (·.removes params name))
      (pairs.foldl (sync params) names) := by
  induction pairs generalizing names kept with
  | nil => simpa using h
  | cons pair pairs ih =>
    have step : Extends (kept.filter (!pair.removes params ·)) (sync params names pair) := by
      rw [sync]
      by_cases met : pair.isMet params = true
      · simpa [removes, met] using h.foldl_insertClass (blankWords pair.names)
      · simpa [removes, met] using h.filter (!pair.mentions ·)
    have both : (kept.filter fun name => !(pair :: pairs).any (·.removes params name)) =
        (kept.filter (!pair.removes params ·)).filter
          fun name => !pairs.any (·.removes params name) := by
      rw [List.filter_filter]
      congr 1
      funext name
      rw [List.any_cons, Bool.not_or, Bool.and_comm]
    rw [both, List.foldl_cons]
    exact ih step

/-- What the pairs make of the classes of an element. -/
structure Decides (params : Params) (pairs : List ClassPair) (before after : List String) :
    Prop where
  /-- A class is there if the condition of the last pair that names it holds, or if it was there
  and no pair names it. -/
  mem : ∀ name, name ∈ after ↔
    match lastFor? pairs name with
    | some pair => Expr.holds params pair.condition = .ok true
    | none => name ∈ before
  /-- The classes that no pair takes away are in front, in their order, and behind them are others,
  each once. -/
  order : Extends (before.filter fun name => !pairs.any (·.removes params name)) after
  /-- No class occurs more often than it did, or than once if it was not there. -/
  count : ∀ name, after.count name ≤ max (before.count name) 1

theorem isMet_iff : pair.isMet params = true ↔ Expr.holds params pair.condition = .ok true := by
  rw [isMet]
  cases Expr.holds params pair.condition with
  | error e => exact ⟨nofun, nofun⟩
  | ok holds => exact ⟨congrArg _, Except.ok.inj⟩

theorem decides_foldl_sync (params : Params) (pairs : List ClassPair) (names : List String) :
    Decides params pairs names (pairs.foldl (sync params) names) := by
  have order := @extends_foldl_sync params pairs names names (.refl names)
  refine ⟨fun name => ?_, order, fun name => ?_⟩
  · rw [mem_foldl_sync]
    cases lastFor? pairs name with
    | none => rfl
    | some pair => exact isMet_iff
  · have fewer := (List.filter_sublist (l := names)
      (p := fun name => !pairs.any (·.removes params name))).count_le name
    exact Nat.le_trans (order.count_le name) (by omega)

end ClassPair

/-! ## Elements -/

namespace Tag

variable {tag : Tag}

theorem isWord_of_mem_classes {name : String} (mem : name ∈ tag.classes) :
    Text.IsWord name.toList :=
  isWord_of_mem_blankWords mem

theorem classes_addClasses (tag : Tag) (names : String) :
    (tag.addClasses names).classes = (blankWords names).foldl insertClass tag.classes :=
  classes_setClasses fun _ => isWord_of_mem_addedClasses

theorem classes_of_not_has (absent : ¬tag.has "class" = true) : tag.classes = [] := by
  have missing : tag.get? "class" = none :=
    Option.not_isSome_iff_eq_none.mp absent
  rw [classes, missing]
  rfl

theorem classes_removeClasses (tag : Tag) (names : String) :
    (tag.removeClasses names).classes =
      tag.classes.filter fun name => !(blankWords names).contains name := by
  rw [removeClasses]
  split
  next => exact classes_setClasses fun _ mem => isWord_of_mem_classes (List.mem_of_mem_filter mem)
  next absent =>
    rw [classes_of_not_has absent]
    rfl

end Tag

namespace Pass

variable {ctx : RenderContext} {params : Params} {tag tag' : Tag} {nodes nodes' : List Node}
  {pairs : List ClassPair}

theorem classes_applyPair {pair : ClassPair} (h : applyPair params tag pair = .ok tag') :
    tag'.classes = ClassPair.sync params tag.classes pair := by
  obtain ⟨holds, value, h⟩ := bind_eq_ok.mp h
  have met : pair.isMet params = holds := by rw [ClassPair.isMet, value]
  rw [ClassPair.sync, met]
  cases holds with
  | true =>
    cases h
    exact classes_addClasses tag pair.names
  | false =>
    cases h
    exact classes_removeClasses tag pair.names

theorem classes_applyPairs (h : pairs.foldlM (applyPair params) tag = .ok tag') :
    tag'.classes = pairs.foldl (ClassPair.sync params) tag.classes := by
  induction pairs generalizing tag with
  | nil =>
    cases h
    rfl
  | cons pair pairs ih =>
    rw [List.foldlM_cons] at h
    obtain ⟨middle, first, others⟩ := bind_eq_ok.mp h
    rw [List.foldl_cons, ← classes_applyPair first]
    exact ih others

/-- What the pass for classes makes of a tag. -/
structure Classed (params : Params) (tag tag' : Tag) : Prop where
  /-- A tag without the directive is left as it is. -/
  untouched : tag.get? "mbr-class" = none → tag' = tag
  decided : ∀ body ∈ tag.get? "mbr-class",
    ClassPair.Decides params (ClassPair.ofBody body) tag.classes tag'.classes

theorem classed_of_applyClasses (h : applyClasses params tag = .ok tag') :
    Classed params tag tag' := by
  rw [applyClasses] at h
  cases directive : tag.get? "mbr-class" with
  | none =>
    rw [directive] at h
    cases h
    exact ⟨fun _ => rfl, by simp [directive]⟩
  | some body =>
    rw [directive] at h
    obtain ⟨synced, all, h⟩ := bind_eq_ok.mp h
    cases h
    have same : (synced.erase "mbr-class").classes = synced.classes := by
      apply classes_congr
      rw [get?_erase, if_neg (by decide)]
    refine ⟨by simp [directive], fun other mem => ?_⟩
    obtain rfl := Option.some.inj (directive.symm.trans mem)
    rw [same, classes_applyPairs all]
    exact ClassPair.decides_foldl_sync params _ tag.classes

/-- The pass for classes keeps every element, and in each one with the directive the last pair that
names a class decides whether the element has it. -/
theorem classed_of_run (h : classes.run ctx nodes = .ok nodes') :
    Thinned (fun _ => true) (Classed ctx.params) nodes nodes' := by
  have notScope : classes ≠ scope := by decide
  rw [run_eq_transformAll ctx notScope] at h
  refine (transformAll_eq_ok_iff.mp h).thinned (fun tag tag' kept => ⟨rfl, ?_⟩) ?_
  · obtain ⟨classed, applied, same⟩ := bind_eq_ok.mp kept
    cases same
    exact classed_of_applyClasses applied
  · intro tag dropped
    obtain ⟨classed, applied, same⟩ := bind_eq_ok.mp dropped
    cases same

/-- A class that is taken away and given back, one that is named twice, and one that occurs twice
and is left alone. -/
theorem classed_of_section :
    let tag : Tag := ⟨"p", [("class", "a x b x"), ("mbr-class", "'a b': false, 'c a': t, 'c': !t")]⟩
    let tag' : Tag := ⟨"p", [("class", "x x a")]⟩
    let ctx : RenderContext := ⟨[("t", .bool true)], {}⟩
    classes.run ctx [.element ⟨"section", []⟩ [.element tag []]] =
      .ok [.element ⟨"section", []⟩ [.element tag' []]] ∧
    Thinned (fun _ => true) (Classed ctx.params) [.element ⟨"section", []⟩ [.element tag []]]
      [.element ⟨"section", []⟩ [.element tag' []]] := by
  intro tag tag' ctx
  have ran : classes.run ctx [.element ⟨"section", []⟩ [.element tag []]] =
      .ok [.element ⟨"section", []⟩ [.element tag' []]] := by cbv
  exact ⟨ran, classed_of_run ran⟩

end Pass

end PageComponent
