import Mathlib.Data.List.Basic
import PageComponent.Proofs.Style.Overflow

/-!
# Which leaf a variable stands for

The variables of the parameters are named by the paths that lead to leaves. A variable stands for
the parameter of its own name or else for the last leaf of that name. Only where the parameter is a
mapping does its literal come from no leaf.
-/

namespace PageComponent.Style

variable {params source : Params} {colours : List String} {vars vars' : Entries String}

/-! ## Leaves and their paths -/

mutual

/-- The leaves of a value in order, each with the keys that lead to it. -/
def leafPathsOf : Value → List (List String × Value)
  | .mapping fields => leafPaths fields
  | value => [([], value)]

def leafPaths : List (String × Value) → List (List String × Value)
  | [] => []
  | (key, value) :: rest =>
    (leafPathsOf value).map (fun leaf => (key :: leaf.1, leaf.2)) ++ leafPaths rest

end

/-- The name of the variable for a path. -/
def dashed (path : List String) : String :=
  "-".intercalate path

mutual

theorem isMapping_of_mem_leafPathsOf : ∀ value : Value, ∀ leaf ∈ leafPathsOf value,
    leaf.2.isMapping = false
  | .mapping fields => isMapping_of_mem_leafPaths fields
  | .null | .undefined | .bool _ | .number _ | .text _ | .list _ => by
    intro leaf mem
    cases List.mem_singleton.mp mem
    rfl

/-- A leaf is no mapping. -/
theorem isMapping_of_mem_leafPaths : ∀ fields : List (String × Value), ∀ leaf ∈ leafPaths fields,
    leaf.2.isMapping = false
  | [] => nofun
  | (key, value) :: rest => by
    intro leaf mem
    rw [leafPaths, List.mem_append, List.mem_map] at mem
    cases mem with
    | inl inner =>
      obtain ⟨leaf, mem, rfl⟩ := inner
      exact isMapping_of_mem_leafPathsOf value leaf mem
    | inr others => exact isMapping_of_mem_leafPaths rest leaf others

end

mutual

theorem leavesOf_eq {name : String} (named : name ≠ "") : ∀ value : Value,
    leavesOf name value =
      (leafPathsOf value).map fun leaf => (dashed (name :: leaf.1), leaf.2)
  | .mapping fields => leaves_within named fields
  | .null | .undefined | .bool _ | .number _ | .text _ | .list _ => by
    simp [leavesOf, leafPathsOf, dashed]

theorem leaves_within {outer : String} (named : outer ≠ "") : ∀ fields : List (String × Value),
    leaves outer fields = (leafPaths fields).map fun leaf => (dashed (outer :: leaf.1), leaf.2)
  | [] => rfl
  | (key, value) :: rest => by
    have joined : joinName outer key = outer ++ ("-" ++ key) := by
      rw [joinName, if_neg named, String.append_assoc]
    have filled : joinName outer key ≠ "" := by simp [joined, named]
    have inner := leavesOf_eq filled value
    rw [leaves, leafPaths, List.map_append, List.map_map, inner, leaves_within named rest]
    simp [joined, dashed, String.append_assoc, Function.comp_def]

end

/-- The names of the leaves are their paths, if no outermost key is empty. -/
theorem leaves_eq {fields : List (String × Value)} (keyed : ∀ key ∈ Entries.keys fields, key ≠ "") :
    leaves "" fields = (leafPaths fields).map fun leaf => (dashed leaf.1, leaf.2) := by
  induction fields with
  | nil => rfl
  | cons entry rest ih =>
    obtain ⟨key, value⟩ := entry
    have named : key ≠ "" := keyed key List.mem_cons_self
    rw [leaves, leafPaths, List.map_append, List.map_map, joinName, if_pos rfl,
      leavesOf_eq named value, ih fun key mem => keyed key (List.mem_cons_of_mem _ mem)]
    rfl

/-- The background adds two parameters or none. -/
theorem withBackground_cases (given : withBackground params = .ok source) : source = params ∨
    ∃ type value,
      source = Entries.set (Entries.set params "bg-type" type) backgroundValue value := by
  rw [withBackground] at given
  split at given
  next bg _ =>
    apply Or.inr
    dsimp only at given
    split at given
    next =>
      cases given
      exact ⟨_, _, rfl⟩
    next =>
      cases given
      exact ⟨_, _, rfl⟩
    next =>
      split at given
      next =>
        cases given
        exact ⟨_, _, rfl⟩
      next =>
        obtain ⟨value, _, given⟩ := bind_eq_ok.mp given
        cases given
        exact ⟨_, _, rfl⟩
  next =>
    cases given
    exact .inl rfl

theorem forall_keys_withBackground (keyed : ∀ key ∈ Entries.keys params, key ≠ "")
    (given : withBackground params = .ok source) : ∀ key ∈ Entries.keys source, key ≠ "" := by
  cases withBackground_cases given with
  | inl same =>
    rw [same]
    exact keyed
  | inr added =>
    obtain ⟨type, value, rfl⟩ := added
    have typed := Entries.forall_keys_set keyed (by decide : "bg-type" ≠ "") type
    exact Entries.forall_keys_set typed (by decide) value

/-! ## The last leaf of a name -/

/-- The leaves by the names of their variables. -/
def namedLeaves (source : Params) : List (String × Value) :=
  (leafPaths source).map fun leaf => (dashed leaf.1, leaf.2)

/-- The last one of the given name. -/
def lastNamed? (ls : List (String × Value)) (name : String) : Option Value :=
  ((ls.filter fun leaf => leaf.1 = name).getLast?).map (·.2)

theorem lastNamed?_cons (leaf : String × Value) (ls : List (String × Value)) (name : String) :
    lastNamed? (leaf :: ls) name =
      (lastNamed? ls name).or (if leaf.1 = name then some leaf.2 else none) := by
  unfold lastNamed?
  by_cases named : leaf.1 = name
  · rw [List.filter_cons_of_pos (by simp [named]), List.getLast?_cons, if_pos named]
    cases (ls.filter fun leaf => leaf.1 = name).getLast? <;> rfl
  · rw [List.filter_cons_of_neg (by simp [named]), if_neg named, Option.or_none]

theorem isSome_lastNamed?_iff (ls : List (String × Value)) (name : String) :
    (lastNamed? ls name).isSome ↔ ∃ leaf ∈ ls, leaf.1 = name := by
  induction ls with
  | nil => simp [lastNamed?]
  | cons leaf ls ih =>
    rw [lastNamed?_cons, Option.isSome_or, Bool.or_eq_true, ih]
    by_cases named : leaf.1 = name <;> simp [named]

theorem mem_of_lastNamed? {ls : List (String × Value)} {name : String} {value : Value}
    (h : lastNamed? ls name = some value) : (name, value) ∈ ls := by
  obtain ⟨leaf, last, rfl⟩ := Option.map_eq_some_iff.mp h
  obtain ⟨mem, named⟩ := List.mem_filter.mp (List.mem_of_getLast? last)
  exact of_decide_eq_true named ▸ mem

/-- Each leaf sets the variable of its name, so the last one of a name stays. -/
theorem get?_of_foldlM {step : Entries String → String × Value → Except TooLarge (Entries String)}
    (value : String × Value → Value)
    (steps : ∀ vars leaf, step vars leaf = (do
      return Entries.set vars leaf.1 (← literal colours leaf.1 (value leaf))))
    (ls : List (String × Value)) (h : ls.foldlM step vars = .ok vars') (name : String) :
    (lastNamed? ls name = none ∧ Entries.get? vars' name = Entries.get? vars name) ∨
      ∃ last text, lastNamed? ls name = some last ∧
        literal colours name (value (name, last)) = .ok text ∧
        Entries.get? vars' name = some text := by
  induction ls generalizing vars with
  | nil =>
    cases h
    exact .inl ⟨rfl, rfl⟩
  | cons leaf ls ih =>
    rw [List.foldlM_cons, steps] at h
    obtain ⟨next, stepped, h⟩ := bind_eq_ok.mp h
    obtain ⟨written, shown, stepped⟩ := bind_eq_ok.mp stepped
    cases stepped
    rw [lastNamed?_cons]
    cases ih h with
    | inr later =>
      obtain ⟨last, text, named, literal, got⟩ := later
      exact .inr ⟨last, text, by rw [named, Option.some_or], literal, got⟩
    | inl others =>
      obtain ⟨absent, got⟩ := others
      rw [Entries.get?_set] at got
      rw [absent, Option.none_or]
      by_cases named : leaf.1 = name
      · rw [if_pos named] at got ⊢
        subst named
        exact .inr ⟨leaf.2, written, rfl, shown, got⟩
      · rw [if_neg named] at got ⊢
        exact .inl ⟨rfl, got⟩

/-! ## Variables -/

/-- What a variable should stand for: the parameter of its name unless that is a mapping, else the
last leaf of its name. -/
def standsFor? (source : Params) (name : String) : Option Value :=
  ((Entries.get? source name).filter (!·.isMapping)).or (lastNamed? (namedLeaves source) name)

theorem isMapping_of_standsFor? {name : String} {value : Value}
    (h : standsFor? source name = some value) : value.isMapping = false := by
  cases Option.or_eq_some_iff.mp h with
  | inl parameter => simpa using (Option.filter_eq_some_iff.mp parameter).2
  | inr last =>
    obtain ⟨leaf, mem, eq⟩ := List.mem_map.mp (mem_of_lastNamed? last.2)
    cases eq
    exact isMapping_of_mem_leafPaths source leaf mem

theorem standsFor?_of_lastNamed? {name : String} {last : Value}
    (named : lastNamed? (namedLeaves source) name = some last)
    (unmapped : (Entries.get? source name).any Value.isMapping = false) :
    standsFor? source name = some ((Entries.get? source name).getD last) := by
  unfold standsFor?
  cases parameter : Entries.get? source name with
  | none => simp [named]
  | some value =>
    have leaf : value.isMapping = false := by simpa [parameter] using unmapped
    simp [leaf]

theorem literal_mapping (name : String) {value : Value} (mapping : value.isMapping = true) :
    literal colours name value = .ok "[object Object]" := by
  cases value with
  | mapping fields => rfl
  | _ => cases mapping

section Variables

variable (keyed : ∀ key ∈ Entries.keys params, key ≠ "") (given : withBackground params = .ok source)
  (h : variablesOf params colours = .ok vars)

include keyed given h

/-- A variable is there for each name of a leaf. It has the literal of the parameter of that name,
or else that of the last such leaf. -/
theorem get?_variablesOf (name : String) :
    (lastNamed? (namedLeaves source) name = none ∧ Entries.get? vars name = none) ∨
      ∃ last text, lastNamed? (namedLeaves source) name = some last ∧
        literal colours name ((Entries.get? source name).getD last) = .ok text ∧
        Entries.get? vars name = some text := by
  obtain ⟨fields, given', folded⟩ := bind_eq_ok.mp h
  cases given.symm.trans given'
  have named : leaves "" source = namedLeaves source :=
    leaves_eq (forall_keys_withBackground keyed given)
  rw [named] at folded
  exact get?_of_foldlM (fun leaf => (Entries.get? source leaf.1).getD leaf.2)
    (fun vars leaf => rfl) _ folded name

theorem mem_keys_variablesOf (name : String) :
    name ∈ Entries.keys vars ↔ ∃ leaf ∈ leafPaths source, dashed leaf.1 = name := by
  have named : (∃ leaf ∈ namedLeaves source, leaf.1 = name) ↔
      ∃ leaf ∈ leafPaths source, dashed leaf.1 = name := by
    simp only [namedLeaves, List.mem_map, exists_exists_and_eq_and]
  rw [Entries.mem_keys, ← named, ← isSome_lastNamed?_iff]
  cases get?_variablesOf keyed given h name with
  | inl absent =>
    obtain ⟨none, got⟩ := absent
    rw [none, got]
    exact Iff.rfl
  | inr written =>
    obtain ⟨last, text, some, _, got⟩ := written
    rw [some, got]
    exact Iff.rfl

/-- A mapping of its name takes the place of the leaf that a variable should stand for. -/
theorem get?_of_mem_keys_variablesOf {name : String} (mem : name ∈ Entries.keys vars) :
    if (Entries.get? source name).any Value.isMapping then
      Entries.get? vars name = some "[object Object]"
    else ∃ value text, standsFor? source name = some value ∧ value.isMapping = false ∧
      literal colours name value = .ok text ∧ Entries.get? vars name = some text := by
  have present := Entries.mem_keys.mp mem
  cases get?_variablesOf keyed given h name with
  | inl absent =>
    rw [absent.2] at present
    cases present
  | inr written =>
    obtain ⟨last, text, named, shown, got⟩ := written
    split
    next mapped =>
      obtain ⟨value, parameter, mapping⟩ := (Option.any_eq_true _ _).mp mapped
      rw [parameter, Option.getD_some, literal_mapping name mapping] at shown
      cases shown
      exact got
    next unmapped =>
      have stands := standsFor?_of_lastNamed? named (Bool.eq_false_iff.mpr unmapped)
      exact ⟨_, text, stands, isMapping_of_standsFor? stands, shown, got⟩

end Variables

/-- The variables are named by the paths of the leaves. Where no mapping has the name, a variable
has the literal of what it should stand for; a mapping of that name takes the place of the leaf. The
variables are there unless one of them, or the background, cannot be shown. -/
theorem variables_of_leaves (keyed : ∀ key ∈ Entries.keys params, key ≠ "") :
    (Fails (variablesOf params colours) ↔
      BackgroundOverflows params ∨ VariableOverflows params) ∧
    ∀ source vars, withBackground params = .ok source → variablesOf params colours = .ok vars →
      (∀ name, name ∈ Entries.keys vars ↔ ∃ leaf ∈ leafPaths source, dashed leaf.1 = name) ∧
      ∀ name ∈ Entries.keys vars,
        if (Entries.get? source name).any Value.isMapping then
          Entries.get? vars name = some "[object Object]"
        else ∃ value text, standsFor? source name = some value ∧ value.isMapping = false ∧
          literal colours name value = .ok text ∧ Entries.get? vars name = some text := by
  constructor
  · exact fails_variablesOf colours
  · intro source vars given h
    constructor
    · exact mem_keys_variablesOf keyed given h
    · intro name mem
      exact get?_of_mem_keys_variablesOf keyed given h mem

/-- The leaf `a.b` has the name of the mapping `a-b`, and its variable does not show it. -/
theorem variables_of_leaves_of_mapping :
    let params : Params :=
      [("a", .mapping [("b", .text "x")]), ("a-b", .mapping [("c", .text "y")])]
    ∃ vars, variablesOf params [] = .ok vars ∧
      Entries.get? vars "a-b" = some "[object Object]" ∧
      standsFor? params "a-b" = some (.text "x") ∧
      ∃ value text, standsFor? params "a-b-c" = some value ∧ value.isMapping = false ∧
        literal [] "a-b-c" value = .ok text ∧ Entries.get? vars "a-b-c" = some text := by
  intro params
  have declared :
      variablesOf params [] = .ok [("a-b", "[object Object]"), ("a-b-c", "\"y\"")] := by cbv
  have given : withBackground params = .ok params := rfl
  have keyed : ∀ key ∈ Entries.keys params, key ≠ "" := by decide
  have written := ((variables_of_leaves keyed).2 params _ given declared).2
  refine ⟨_, declared, ?_, rfl, ?_⟩
  · have mapped := written "a-b" (by decide)
    rwa [if_pos (by decide)] at mapped
  · have leaf := written "a-b-c" (by decide)
    rwa [if_neg (by decide)] at leaf

end PageComponent.Style
