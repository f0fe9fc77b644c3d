import Mathlib.Data.List.Induction
import PageComponent.Proofs.Value.Overrides
import PageComponent.Proofs.Value.Paths

/-!
# What overrides leave and what they replace

Merged parameters have the values of the overrides, and those of the defaults where the overrides
say nothing. The keys of the defaults come first. Both follow from what merging does at one key.
-/

namespace PageComponent

/-! ## Distinct keys -/

namespace Entries

variable {α : Type} {es : Entries α} {key : String} {a : α}

theorem get?_of_mem (distinct : (keys es).Nodup) (mem : (key, a) ∈ es) : get? es key = some a := by
  induction es with
  | nil => cases mem
  | cons e es ih =>
    obtain ⟨fresh, distinct⟩ := List.nodup_cons.mp distinct
    rcases List.mem_cons.mp mem with rfl | mem
    · exact if_pos rfl
    · have other : e.1 ≠ key := fun same =>
        fresh (List.mem_map.mpr ⟨_, mem, same.symm⟩)
      rw [get?, if_neg other, ih distinct mem]

theorem mem_of_get? (item : get? es key = some a) : (key, a) ∈ es := by
  induction es with
  | nil => cases item
  | cons e es ih =>
    rw [get?] at item
    split at item
    next same =>
      obtain rfl := Option.some.inj item
      subst same
      exact List.mem_cons_self
    next => exact List.mem_cons_of_mem e (ih item)

theorem get?_eq_none_of_not_mem (h : key ∉ keys es) : get? es key = none := by
  rw [mem_keys, Option.not_isSome_iff_eq_none] at h
  exact h

end Entries

namespace Value

variable {fields : Params} {key : String} {v : Value}

/-- No mapping that keys lead to has a key twice. -/
def Distinct (v : Value) : Prop :=
  ∀ keys inner, v.at? keys = some (.mapping inner) → (Entries.keys inner).Nodup

theorem Distinct.nodup (h : Distinct (.mapping fields)) : (Entries.keys fields).Nodup :=
  h [] fields rfl

theorem Distinct.field (h : Distinct (.mapping fields)) (item : Entries.get? fields key = some v) :
    v.Distinct := by
  intro keys inner reached
  refine h (key :: keys) inner ?_
  change fields.at? (key :: keys) = _
  rw [Params.at?_cons, item]
  exact reached

theorem distinct_of_leaf (plain : v.isMapping = false) : v.Distinct := by
  intro keys inner reached
  cases v with
  | mapping => cases plain
  | null | undefined | bool | number | text | list => cases keys <;> cases reached

theorem distinct_mapping (nodup : (Entries.keys fields).Nodup)
    (within : ∀ e ∈ fields, e.2.Distinct) : Distinct (.mapping fields) := by
  rintro (_ | ⟨key, keys⟩) inner reached
  · cases reached
    exact nodup
  · obtain ⟨v, item, reached⟩ := Option.bind_eq_some_iff.mp reached
    exact within _ (Entries.mem_of_get? item) keys inner reached

end Value

namespace Params

variable {defaults overrides : Params}

/-! ## One key -/

/-- Each override is merged with what stands at its key; the other keys stay. -/
theorem get?_merge (distinct : (Entries.keys overrides).Nodup) (defaults : Params) (key : String) :
    Entries.get? (defaults.merge overrides) key =
      match Entries.get? overrides key with
      | some value => some (value.merge (Entries.get? defaults key))
      | none => Entries.get? defaults key := by
  induction overrides generalizing defaults with
  | nil => rfl
  | cons e overrides ih =>
    obtain ⟨fresh, distinct⟩ := List.nodup_cons.mp distinct
    have rest := ih distinct (Entries.set defaults e.1 (e.2.merge (Entries.get? defaults e.1)))
    rw [Entries.get?_set] at rest
    change Entries.get? (merge _ overrides) key = _
    rw [rest, Entries.get?]
    by_cases same : e.1 = key
    · subst same
      rw [Entries.get?_eq_none_of_not_mem fresh, if_pos rfl, if_pos rfl]
    · rw [if_neg same, if_neg same]

/-- The keys of the defaults stay in their order, and the new ones follow in theirs. -/
theorem keys_merge (distinct : (Entries.keys overrides).Nodup) (defaults : Params) :
    Entries.keys (defaults.merge overrides) =
      Entries.keys defaults ++ (Entries.keys overrides).filter (· ∉ Entries.keys defaults) := by
  induction overrides generalizing defaults with
  | nil => exact (List.append_nil _).symm
  | cons e overrides ih =>
    obtain ⟨fresh, distinct⟩ := List.nodup_cons.mp distinct
    have rest := ih distinct (Entries.set defaults e.1 (e.2.merge (Entries.get? defaults e.1)))
    rw [Entries.keys_set] at rest
    change Entries.keys (merge _ overrides) = _ ++ (e.1 :: Entries.keys overrides).filter _
    rw [rest]
    by_cases known : e.1 ∈ Entries.keys defaults
    · rw [if_pos known, List.filter_cons_of_neg (by simpa using known)]
    · have others : (Entries.keys overrides).filter (· ∉ Entries.keys defaults ++ [e.1]) =
          (Entries.keys overrides).filter (· ∉ Entries.keys defaults) := by
        refine List.filter_congr fun key mem => ?_
        have other : key ≠ e.1 := by
          rintro rfl
          exact fresh mem
        simp [other]
      rw [if_neg known, others, List.filter_cons_of_pos (by simpa using known), List.append_assoc,
        List.singleton_append]

theorem merge_none (value : Value) : value.merge none = value := by
  cases value <;> rfl

theorem merge_snoc (defaults front : Params) (e : String × Value) :
    defaults.merge (front ++ [e]) = Entries.set (defaults.merge front) e.1
      (e.2.merge (Entries.get? (defaults.merge front) e.1)) := by
  induction front generalizing defaults with
  | nil => rfl
  | cons first front ih => exact ih _

/-- Where there are no defaults, the overrides are what there is. -/
theorem merge_nil (distinct : (Entries.keys overrides).Nodup) : merge [] overrides = overrides := by
  induction overrides using List.reverseRecOn with
  | nil => rfl
  | append_singleton front e ih =>
    rw [Entries.keys, List.map_append, List.nodup_append] at distinct
    obtain ⟨distinct, -, apart⟩ := distinct
    have fresh : e.1 ∉ Entries.keys front := fun mem => apart _ mem _ List.mem_cons_self rfl
    rw [merge_snoc, ih distinct, Entries.get?_eq_none_of_not_mem fresh, merge_none,
      Entries.set_of_not_mem fresh]

/-- Overrides that change nothing one by one change nothing together. -/
theorem merge_eq_self (same : ∀ e ∈ overrides, ∃ current,
      Entries.get? defaults e.1 = some current ∧ e.2.merge (some current) = current) :
    defaults.merge overrides = defaults := by
  induction overrides with
  | nil => rfl
  | cons e overrides ih =>
    obtain ⟨⟨current, item, kept⟩, same⟩ := List.forall_mem_cons.mp same
    change merge (Entries.set defaults e.1 (e.2.merge (Entries.get? defaults e.1))) overrides = _
    rw [item, kept, Entries.set_of_get? item, ih same]

end Params

/-! ## Merging twice -/

namespace Value

mutual

/-- What a value made of another one, it makes again. -/
theorem merge_merge (v : Value) (distinct : v.Distinct) (current : Option Value) :
    v.merge (some (v.merge current)) = v.merge current := by
  match v with
  | .mapping fields =>
    have again (base : Params) : (base.merge fields).merge fields = base.merge fields := by
      refine Params.merge_eq_self fun e mem => ⟨e.2.merge (Entries.get? base e.1), ?_, ?_⟩
      · rw [Params.get?_merge distinct.nodup, Entries.get?_of_mem distinct.nodup mem]
      · have item := Entries.get?_of_mem distinct.nodup mem
        exact merge_merge_of_mem fields e mem (distinct.field item) _
    have alone : Params.merge fields fields = fields := by
      have eq := again []
      rwa [Params.merge_nil distinct.nodup] at eq
    cases current with
    | none => exact congrArg mapping alone
    | some current =>
      cases current with
      | mapping base => exact congrArg mapping (again base)
      | null | undefined | bool | number | text | list => exact congrArg mapping alone
  | .null | .undefined | .bool _ | .number _ | .text _ | .list _ => rfl
termination_by structural v

theorem merge_merge_of_mem (fields : List (String × Value)) (e : String × Value) (mem : e ∈ fields)
    (distinct : e.2.Distinct) (current : Option Value) :
    e.2.merge (some (e.2.merge current)) = e.2.merge current := by
  match fields with
  | [] => cases mem
  | (key, v) :: rest =>
    rcases List.mem_cons.mp mem with rfl | mem
    · exact merge_merge v distinct current
    · exact merge_merge_of_mem rest e mem distinct current
termination_by structural fields

end

end Value

namespace Params

variable {defaults overrides inner : Params} {key : String} {keys front : List String}
  {leaf : Value}

theorem merge_merge (distinct : (Value.mapping overrides).Distinct) (defaults : Params) :
    (defaults.merge overrides).merge overrides = defaults.merge overrides :=
  Value.mapping.inj (Value.merge_merge (.mapping overrides) distinct (some (.mapping defaults)))

/-! ## What stands in merged parameters -/

/-- The overrides leave alone what the keys lead to: they have nothing there, and on the way nothing
but mappings. -/
structure Spares (overrides : Params) (keys : List String) : Prop where
  absent : overrides.at? keys = none
  way : ∀ front, front <+: keys → front ≠ keys → ∀ v, overrides.at? front = some v →
    v.isMapping = true

theorem spares_cons : overrides.Spares (key :: keys) ↔ Entries.get? overrides key = none ∨
    ∃ inner, Entries.get? overrides key = some (.mapping inner) ∧ Spares inner keys := by
  constructor
  · rintro ⟨absent, way⟩
    cases item : Entries.get? overrides key with
    | none => exact .inl rfl
    | some value =>
      rw [at?_cons, item] at absent
      have inside : keys ≠ [] := by
        rintro rfl
        cases absent
      have mapping : value.isMapping = true := by
        refine way [key] (List.cons_prefix_cons.mpr ⟨rfl, List.nil_prefix⟩) ?_ value ?_
        · exact fun eq => inside (List.cons_eq_cons.mp eq).2.symm
        · rw [at?_cons, item]
          rfl
      cases value with
      | mapping inner =>
        refine .inr ⟨inner, rfl, absent, fun front begins other v reached => ?_⟩
        refine way (key :: front) (List.cons_prefix_cons.mpr ⟨rfl, begins⟩) ?_ v ?_
        · exact fun eq => other (List.cons_eq_cons.mp eq).2
        · rw [at?_cons_mapping item, reached]
      | null | undefined | bool | number | text | list => cases mapping
  · intro h
    refine ⟨?_, fun front begins other v reached => ?_⟩
    · rcases h with item | ⟨inner, item, spares⟩
      · rw [at?_cons, item]
        rfl
      · rw [at?_cons_mapping item, spares.absent]
    · cases front with
      | nil =>
        obtain rfl := Option.some.inj reached
        rfl
      | cons first front =>
        obtain ⟨rfl, within⟩ := List.cons_prefix_cons.mp begins
        rcases h with item | ⟨inner, item, spares⟩
        · rw [at?_cons, item] at reached
          cases reached
        · rw [at?_cons_mapping item] at reached
          exact spares.way front within (fun eq => other (congrArg _ eq)) v reached

theorem at?_merge_cons (distinct : (Value.mapping overrides).Distinct) (defaults : Params)
    (key : String) (keys : List String) :
    (defaults.merge overrides).at? (key :: keys) =
      match Entries.get? overrides key with
      | none => defaults.at? (key :: keys)
      | some (.mapping inner) => ((defaults.fieldsAt key).merge inner).at? keys
      | some value => value.at? keys := by
  rw [at?_cons, get?_merge distinct.nodup]
  cases item : Entries.get? overrides key with
  | none => rfl
  | some value =>
    cases value with
    | mapping inner =>
      dsimp only
      rw [merge_mapping _ _ _ (merge_nil (distinct.field item).nodup)]
      rfl
    | null | undefined | bool | number | text | list => rfl

theorem at?_merge_eq_some_iff (distinct : (Value.mapping overrides).Distinct)
    (plain : leaf.isMapping = false) :
    (defaults.merge overrides).at? keys = some leaf ↔
      overrides.at? keys = some leaf ∨ defaults.at? keys = some leaf ∧ overrides.Spares keys := by
  have root (fields : Params) : fields.at? [] ≠ some leaf := by
    rintro ⟨⟩
    cases plain
  induction keys generalizing defaults overrides with
  | nil =>
    refine iff_of_false (root _) ?_
    rintro (here | ⟨here, -⟩)
    · exact root _ here
    · exact root _ here
  | cons key keys ih =>
    rw [at?_merge_cons distinct, spares_cons, at?_cons overrides]
    cases item : Entries.get? overrides key with
    | none => simp
    | some value =>
      cases value with
      | mapping inner =>
        have rest := @ih (defaults.fieldsAt key) inner (distinct.field item)
        have same (spares : Spares inner keys) :
            (defaults.fieldsAt key).at? keys = defaults.at? (key :: keys) := by
          refine at?_fieldsAt defaults key ?_
          rintro rfl
          cases spares.absent
        have leads : (∃ inner', some (.mapping inner) = some (Value.mapping inner') ∧
            Spares inner' keys) ↔ Spares inner keys := by
          simp
        dsimp only
        rw [leads, Option.bind_some]
        refine rest.trans (or_congr Iff.rfl ?_)
        constructor
        · rintro ⟨here, spares⟩
          exact ⟨same spares ▸ here, .inr spares⟩
        · rintro ⟨here, none | spares⟩
          · cases none
          · exact ⟨(same spares).trans here, spares⟩
      | null | undefined | bool | number | text | list => simp

/-- Only a mapping leads on to a mapping. -/
theorem exists_mapping_of_at? {v : Value} (reached : v.at? keys = some (.mapping inner)) :
    ∃ fields, v = .mapping fields := by
  cases v with
  | mapping fields => exact ⟨fields, rfl⟩
  | null | undefined | bool | number | text | list => cases keys <;> cases reached

/-- Mappings that stand at the same place are merged with each other. -/
theorem at?_merge_of_mappings (distinct : (Value.mapping overrides).Distinct)
    {base fields : Params} (reached : defaults.at? front = some (.mapping base))
    (reached' : overrides.at? front = some (.mapping fields)) :
    (defaults.merge overrides).at? front = some (.mapping (base.merge fields)) := by
  induction front generalizing defaults overrides with
  | nil =>
    cases reached
    cases reached'
    rfl
  | cons key front ih =>
    obtain ⟨v, item, within⟩ := Option.bind_eq_some_iff.mp reached
    obtain ⟨v', item', within'⟩ := Option.bind_eq_some_iff.mp reached'
    obtain ⟨inner, rfl⟩ := exists_mapping_of_at? within
    obtain ⟨inner', rfl⟩ := exists_mapping_of_at? within'
    have item : Entries.get? defaults key = some (.mapping inner) := item
    have item' : Entries.get? overrides key = some (.mapping inner') := item'
    have here : defaults.fieldsAt key = inner := by rw [fieldsAt, item]
    rw [at?_merge_cons distinct, item']
    dsimp only
    rw [here, ih (distinct.field item') within within']

/-- The laws of merging: empty parameters are neutral, a second merge changes nothing, the keys of
the defaults come first, and what is no mapping comes from the overrides, or else from the defaults
where the overrides leave it alone. -/
theorem merge_laws (distinct : (Value.mapping overrides).Distinct) (defaults : Params) :
    merge [] overrides = overrides ∧ defaults.merge [] = defaults ∧
    (defaults.merge overrides).merge overrides = defaults.merge overrides ∧
    (∀ (front : List String) (base fields : Params),
      defaults.at? front = some (.mapping base) → overrides.at? front = some (.mapping fields) →
        ∃ merged, (defaults.merge overrides).at? front = some (.mapping merged) ∧
          Entries.keys merged =
            Entries.keys base ++ (Entries.keys fields).filter (· ∉ Entries.keys base)) ∧
    ∀ (keys : List String) (leaf : Value), leaf.isMapping = false →
      ((defaults.merge overrides).at? keys = some leaf ↔ overrides.at? keys = some leaf ∨
        defaults.at? keys = some leaf ∧ overrides.Spares keys) := by
  refine ⟨merge_nil distinct.nodup, rfl, merge_merge distinct defaults,
    fun front base fields reached reached' => ?_, fun keys leaf => at?_merge_eq_some_iff distinct⟩
  have within := distinct front fields reached'
  exact ⟨_, at?_merge_of_mappings distinct reached reached', keys_merge within base⟩

/-- A stored value goes into the default background, and a stored text replaces the overlay. -/
theorem merge_laws_of_background :
    let defaults : Params :=
      [("bg", .mapping [("type", .text "color"), ("value", .text "#fff")]),
        ("overlay", .mapping [("opacity", .int 1)])]
    let overrides : Params :=
      [("title", .text "Hello"), ("bg", .mapping [("value", .text "#000")]),
        ("overlay", .text "none")]
    let merged := defaults.merge overrides
    (Value.mapping overrides).Distinct ∧ merged.merge overrides = merged ∧
      (∃ bg, merged.at? ["bg"] = some (.mapping bg) ∧ Entries.keys bg = ["type", "value"]) ∧
      merged.at? ["bg", "value"] = some (.text "#000") ∧
      merged.at? ["bg", "type"] = some (.text "color") ∧
      merged.at? ["overlay", "opacity"] ≠ some (.int 1) := by
  intro defaults overrides merged
  have distinct : (Value.mapping overrides).Distinct := by
    have text (s : String) : (Value.text s).Distinct := Value.distinct_of_leaf rfl
    have background : (Value.mapping [("value", .text "#000")]).Distinct :=
      Value.distinct_mapping (by decide) (List.forall_mem_singleton.mpr (text _))
    refine Value.distinct_mapping (by decide) ?_
    simp [overrides, background, text]
  obtain ⟨-, -, again, order, leaves⟩ := merge_laws distinct defaults
  refine ⟨distinct, again, order ["bg"] _ _ rfl rfl, ?_, ?_, fun kept => ?_⟩
  · exact (leaves ["bg", "value"] (.text "#000") rfl).mpr (.inl rfl)
  · refine (leaves ["bg", "type"] (.text "color") rfl).mpr (.inr ⟨rfl, ?_⟩)
    exact spares_cons.mpr (.inr ⟨_, rfl, spares_cons.mpr (.inl rfl)⟩)
  · rcases (leaves ["overlay", "opacity"] (.int 1) rfl).mp kept with own | ⟨-, spares⟩
    · cases own
    · rcases spares_cons.mp spares with item | ⟨_, item, -⟩
      · cases item
      · cases item

end Params

end PageComponent
