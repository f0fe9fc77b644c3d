import PageComponent.Proofs.Live.Runs
import PageComponent.Value.Merge

/-!
# Paths as overrides

Setting a path does what an override does that has a value at the end of this path and nothing
besides. So parameters changed while they are shown are those that the stored change gives, with
their keys in the same order.
-/

namespace PageComponent

/-! ## Keys of a path -/

theorem Text.between_eq_splitOn (separator : Char) (cs : List Char) :
    between separator cs = cs.splitOn separator := by
  rw [List.splitOn_eq_splitOnP]
  induction cs with
  | nil => rfl
  | cons c cs ih =>
    rw [between, ih, List.splitOnP_cons_eq_if_modifyHead]
    cases parts : cs.splitOnP (· == separator) with
    | nil => exact absurd parts (List.splitOnP_ne_nil _ cs)
    | cons part parts =>
      by_cases h : c = separator
      · simp [h]
      · simp [h]

/-- Keys without dots are found again in the path that they make. -/
theorem pathKeys_intercalate {keys : List String} (nonempty : keys ≠ [])
    (dotless : ∀ key ∈ keys, '.' ∉ key.toList) : pathKeys (".".intercalate keys) = keys := by
  have dotless' : ∀ part ∈ keys.map String.toList, '.' ∉ part := by
    intro part mem
    obtain ⟨key, inside, rfl⟩ := List.mem_map.mp mem
    exact dotless key inside
  have dot : ".".toList = ['.'] := rfl
  rw [pathKeys, Text.between_eq_splitOn, String.toList_intercalate, dot,
    List.splitOn_intercalate '.' dotless' (mt List.map_eq_nil_iff.mp nonempty), List.map_map]
  exact (List.map_congr_left fun key _ => String.ofList_toList).trans (List.map_id keys)

namespace Params

variable {fields : Params} {keys : List String} {value : Value}

/-- The override that has a value at the end of the keys and nothing besides. -/
def overrideAt : List String → Value → Params
  | [], _ => []
  | [key], value => [(key, value)]
  | key :: keys, value => [(key, .mapping (overrideAt keys value))]

theorem merge_leaf (current : Option Value) (leaf : value.isMapping = false) :
    value.merge current = value := by
  cases value with
  | mapping => cases leaf
  | null | undefined | bool | number | text | list => rfl

/-- One override goes to its key, whatever stands there. -/
theorem merge_singleton (fields : Params) (key : String) (value : Value) :
    fields.merge [(key, value)] =
      Entries.set fields key (value.merge (Entries.get? fields key)) := rfl

/-- A mapping of overrides is merged with the fields that it finds, none if there is no mapping. -/
theorem merge_mapping (fields overrides : Params) (key : String)
    (fresh : merge [] overrides = overrides) :
    (Value.mapping overrides).merge (Entries.get? fields key) =
      .mapping ((fields.fieldsAt key).merge overrides) := by
  have replaced : Value.mapping overrides = .mapping (merge [] overrides) := by rw [fresh]
  rw [fieldsAt]
  cases Entries.get? fields key with
  | none => exact replaced
  | some current =>
    cases current with
    | mapping inner => rfl
    | null | undefined | bool | number | text | list => exact replaced

theorem merge_nil_overrideAt (leaf : value.isMapping = false) :
    ∀ keys : List String, merge [] (overrideAt keys value) = overrideAt keys value
  | [] => rfl
  | [key] => by
    rw [overrideAt, merge_singleton, merge_leaf _ leaf]
    rfl
  | _ :: _ :: _ => rfl

theorem setKeys_eq_merge (leaf : value.isMapping = false) :
    ∀ (keys : List String) (fields : Params),
      fields.setKeys keys value = fields.merge (overrideAt keys value)
  | [], _ => rfl
  | [key], fields => by
    rw [setKeys, overrideAt, merge_singleton, merge_leaf _ leaf]
  | key :: next :: keys, fields => by
    have within := setKeys_eq_merge leaf (next :: keys) (fields.fieldsAt key)
    have fresh := merge_nil_overrideAt leaf (next :: keys)
    rw [setKeys, overrideAt, merge_singleton, merge_mapping _ _ _ fresh, within]
    · exact nofun
    · exact nofun

/-- A value that is no mapping is set at a path as an override with this value alone is merged. So a
renderer that is told to patch its parameters has those that the stored override gives. -/
theorem setPath_eq_merge (nonempty : keys ≠ []) (dotless : ∀ key ∈ keys, '.' ∉ key.toList)
    (leaf : value.isMapping = false) :
    (∀ fields : Params,
      fields.setPath (".".intercalate keys) value = fields.merge (overrideAt keys value)) ∧
    ∀ (now : Nat) (r : Live.Renderer),
      (r.patch now (".".intercalate keys) value).data = r.data.merge (overrideAt keys value) := by
  have set (fields : Params) :
      fields.setPath (".".intercalate keys) value = fields.merge (overrideAt keys value) := by
    rw [setPath, pathKeys_intercalate nonempty dotless, setKeys_eq_merge leaf]
  refine ⟨set, fun now r => ?_⟩
  rw [← set, Live.Renderer.patch, Live.Renderer.change_data]

/-- A text on the way is replaced by a mapping, the field in front of it stays where it is, and the
missing mapping goes last. -/
theorem setPath_eq_merge_of_background :
    let fields : Params := [("bg", .text "red"), ("title", .text "Hello")]
    let r : Live.Renderer := .initial fields 100
    ((∀ key ∈ ["bg", "overlay", "opacity"], '.' ∉ key.toList) ∧ (Value.int 1).isMapping = false) ∧
      fields.setPath "bg.overlay.opacity" (.int 1) =
        fields.merge [("bg", .mapping [("overlay", .mapping [("opacity", .int 1)])])] ∧
      (r.patch 0 "bg.overlay.opacity" (.int 1)).data =
        [("bg", .mapping [("overlay", .mapping [("opacity", .int 1)])]),
          ("title", .text "Hello")] := by
  intro fields r
  have dotless : ∀ key ∈ ["bg", "overlay", "opacity"], '.' ∉ key.toList := by decide
  have leaf : (Value.int 1).isMapping = false := rfl
  obtain ⟨set, patch⟩ := setPath_eq_merge (by decide) dotless leaf
  exact ⟨⟨dotless, leaf⟩, set fields, (patch 0 r).trans rfl⟩

end Params

end PageComponent
