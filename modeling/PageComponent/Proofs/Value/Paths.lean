import PageComponent.Proofs.Live.Runs

/-!
# What stands at a path

A path leads through mappings. Setting it changes what stands on the way to its end and behind it
and nothing else; erasing it takes one key away, and fails exactly if the path leads to none.
-/

namespace PageComponent

theorem pathKeys_ne_nil (path : String) : pathKeys path ≠ [] := by
  have between (cs : List Char) : Text.between '.' cs ≠ [] := by
    fun_cases Text.between '.' cs <;> simp_all
  exact mt List.map_eq_nil_iff.mp (between path.toList)

namespace Entries

variable {α : Type}

theorem set_set (es : Entries α) (key : String) (a b : α) :
    set (set es key a) key b = set es key b := by
  induction es with
  | nil => simp [set]
  | cons e es ih =>
    by_cases same : e.1 = key
    · simp [set, same]
    · simp [set, same, ih]

theorem keys_set_of_get? {es : Entries α} {key : String} {a : α} (item : get? es key = some a)
    (b : α) : keys (set es key b) = keys es := by
  rw [keys_set, if_pos]
  rw [mem_keys, item]
  rfl

end Entries

/-- The value that keys lead to through mappings, one after another. -/
def Value.at? (v : Value) : List String → Option Value
  | [] => some v
  | key :: keys => (v.field? key).bind fun next => next.at? keys

namespace Params

variable {fields inner after : Params} {key : String} {keys other : List String} {value : Value}

/-- What keys lead to from parameters on. -/
def at? (fields : Params) (keys : List String) : Option Value :=
  (Value.mapping fields).at? keys

theorem at?_cons (fields : Params) (key : String) (keys : List String) :
    fields.at? (key :: keys) = (Entries.get? fields key).bind (·.at? keys) := rfl

theorem at?_cons_mapping (item : Entries.get? fields key = some (.mapping inner))
    (keys : List String) : fields.at? (key :: keys) = inner.at? keys := by
  rw [at?_cons, item]
  rfl

/-- Nothing but a mapping has fields. -/
theorem at?_fieldsAt (fields : Params) (key : String) (nonempty : keys ≠ []) :
    (fields.fieldsAt key).at? keys = fields.at? (key :: keys) := by
  obtain ⟨next, keys, rfl⟩ := List.exists_cons_of_ne_nil nonempty
  rw [at?_cons fields, fieldsAt]
  cases Entries.get? fields key with
  | none => rfl
  | some v => cases v <;> rfl

theorem at?_append (front keys : List String) (v : Value) :
    v.at? (front ++ keys) = (v.at? front).bind (·.at? keys) := by
  induction front generalizing v with
  | nil => rfl
  | cons key front ih =>
    rw [List.cons_append, Value.at?, Value.at?, Option.bind_assoc]
    exact Option.bind_congr fun next _ => ih next

/-- Keys that do not lead towards others are not empty. -/
theorem exists_cons_of_not_prefix (long : ¬other <+: keys) :
    ∃ first rest, other = first :: rest :=
  List.exists_cons_of_ne_nil fun none => long (none ▸ List.nil_prefix)

/-! ## Setting -/

theorem setKeys_cons (fields : Params) (key : String) (nonempty : keys ≠ []) (value : Value) :
    fields.setKeys (key :: keys) value =
      Entries.set fields key (.mapping ((fields.fieldsAt key).setKeys keys value)) := by
  obtain ⟨next, keys, rfl⟩ := List.exists_cons_of_ne_nil nonempty
  rfl

theorem fieldsAt_set (fields inner : Params) (key : String) :
    fieldsAt (Entries.set fields key (.mapping inner)) key = inner := by
  rw [fieldsAt, Entries.get?_set, if_pos rfl]

theorem at?_setKeys (nonempty : keys ≠ []) (fields : Params) (value : Value) :
    (fields.setKeys keys value).at? keys = some value := by
  induction keys generalizing fields with
  | nil => exact absurd rfl nonempty
  | cons key keys ih =>
    by_cases last : keys = []
    · subst last
      rw [setKeys, at?_cons, Entries.get?_set, if_pos rfl]
      rfl
    · rw [setKeys_cons _ _ last, ← at?_fieldsAt _ _ last, fieldsAt_set, ih last]

theorem exists_setKeys (fields : Params) (key : String) (keys : List String) (value : Value) :
    ∃ new, fields.setKeys (key :: keys) value = Entries.set fields key new := by
  cases keys with
  | nil => exact ⟨value, rfl⟩
  | cons next keys => exact ⟨_, rfl⟩

theorem at?_setKeys_of_apart (fields : Params) (value : Value) (short : ¬keys <+: other)
    (long : ¬other <+: keys) : (fields.setKeys keys value).at? other = fields.at? other := by
  induction keys generalizing fields other with
  | nil => exact absurd List.nil_prefix short
  | cons key keys ih =>
    obtain ⟨first, others, rfl⟩ := exists_cons_of_not_prefix long
    by_cases same : key = first
    · subst same
      rw [List.cons_prefix_cons] at short long
      have short : ¬keys <+: others := fun h => short ⟨rfl, h⟩
      have long : ¬others <+: keys := fun h => long ⟨rfl, h⟩
      have within : keys ≠ [] := fun none => short (none ▸ List.nil_prefix)
      have within' : others ≠ [] := fun none => long (none ▸ List.nil_prefix)
      rw [setKeys_cons _ _ within, ← at?_fieldsAt _ _ within', fieldsAt_set, ih _ short long,
        at?_fieldsAt _ _ within']
    · obtain ⟨new, eq⟩ := fields.exists_setKeys key keys value
      rw [eq, at?_cons, at?_cons, Entries.get?_set, if_neg same]

/-- What was set first is gone, and the keys stand where they stood. -/
theorem setKeys_setKeys (nonempty : keys ≠ []) (fields : Params) (first value : Value) :
    (fields.setKeys keys first).setKeys keys value = fields.setKeys keys value := by
  induction keys generalizing fields with
  | nil => exact absurd rfl nonempty
  | cons key keys ih =>
    by_cases last : keys = []
    · subst last
      exact Entries.set_set fields key first value
    · rw [setKeys_cons _ _ last, setKeys_cons _ _ last, setKeys_cons _ _ last, fieldsAt_set,
        Entries.set_set, ih last]

/-! ## Erasing -/

/-- The keys lead through mappings to one that has the last of them. -/
def Leads (fields : Params) (keys : List String) : Prop :=
  ∃ front key inner, keys = front ++ [key] ∧ fields.at? front = some (.mapping inner) ∧
    key ∈ Entries.keys inner

/-- The parameters `after` are those `before` without the last of the keys. -/
structure Erased (before : Params) (keys : List String) (after : Params) : Prop where
  absent : after.at? keys = none
  /-- What stands neither on the way to the last key nor behind it stays. -/
  frame : ∀ other, ¬keys <+: other → ¬other <+: keys → after.at? other = before.at? other
  /-- On the way stand mappings with the same keys in the same order, but for the last key. -/
  order : ∀ front key behind, keys = front ++ key :: behind → ∃ fields fields',
    before.at? front = some (.mapping fields) ∧ after.at? front = some (.mapping fields') ∧
    Entries.keys fields' =
      if behind = [] then (Entries.keys fields).filter (· ≠ key) else Entries.keys fields

theorem eraseKeys?_cons (fields : Params) (key : String) (nonempty : keys ≠ []) :
    fields.eraseKeys? (key :: keys) =
      match Entries.get? fields key with
      | some (.mapping inner) =>
        (eraseKeys? inner keys).map fun inner => Entries.set fields key (.mapping inner)
      | _ => none := by
  obtain ⟨next, keys, rfl⟩ := List.exists_cons_of_ne_nil nonempty
  rfl

/-- The last key is erased in its mapping, any other one leads on to a mapping. -/
theorem eraseKeys?_cases (h : fields.eraseKeys? keys = some after) :
    (∃ key, keys = [key] ∧ after = Entries.erase fields key) ∨
      ∃ key others inner new, keys = key :: others ∧ others ≠ [] ∧
        Entries.get? fields key = some (.mapping inner) ∧
        eraseKeys? inner others = some new ∧ after = Entries.set fields key (.mapping new) := by
  cases keys with
  | nil => cases h
  | cons key others =>
    by_cases last : others = []
    · subst last
      rw [eraseKeys?] at h
      split at h
      next => exact .inl ⟨key, rfl, (Option.some.inj h).symm⟩
      next => cases h
    · rw [eraseKeys?_cons _ _ last] at h
      split at h
      next inner item =>
        obtain ⟨new, erased, rfl⟩ := Option.map_eq_some_iff.mp h
        exact .inr ⟨key, others, inner, new, rfl, last, item, erased, rfl⟩
      next => cases h

theorem erased_erase (fields : Params) (key : String) :
    Erased fields [key] (Entries.erase fields key) where
  absent := by
    rw [at?_cons, Entries.get?_erase, if_pos rfl]
    rfl
  frame other short long := by
    obtain ⟨first, rest, rfl⟩ := exists_cons_of_not_prefix long
    have apart : key ≠ first := fun same =>
      short (List.cons_prefix_cons.mpr ⟨same, List.nil_prefix⟩)
    rw [at?_cons, at?_cons, Entries.get?_erase, if_neg apart]
  order front last behind eq := by
    obtain ⟨rfl, rest⟩ | ⟨_, rfl, rest⟩ := List.cons_eq_append_iff.mp eq
    · obtain ⟨rfl, rfl⟩ := List.cons_eq_cons.mp rest
      exact ⟨fields, _, rfl, rfl, by rw [if_pos rfl, Entries.keys_erase]⟩
    · simp at rest

/-- What is erased in a mapping is erased in what holds the mapping. -/
theorem Erased.set {new : Params} (h : Erased inner keys new) (nonempty : keys ≠ [])
    (item : Entries.get? fields key = some (.mapping inner)) :
    Erased fields (key :: keys) (Entries.set fields key (.mapping new)) := by
  have item' : Entries.get? (Entries.set fields key (.mapping new)) key =
      some (.mapping new) := by
    rw [Entries.get?_set, if_pos rfl]
  refine ⟨?_, fun other short long => ?_, fun front last behind eq => ?_⟩
  · rw [at?_cons_mapping item', h.absent]
  · obtain ⟨first, rest, rfl⟩ := exists_cons_of_not_prefix long
    by_cases same : key = first
    · subst same
      rw [List.cons_prefix_cons] at short long
      rw [at?_cons_mapping item', at?_cons_mapping item,
        h.frame rest (fun h => short ⟨rfl, h⟩) fun h => long ⟨rfl, h⟩]
    · rw [at?_cons, at?_cons, Entries.get?_set, if_neg same]
  · obtain ⟨rfl, rest⟩ | ⟨front, rfl, rest⟩ := List.cons_eq_append_iff.mp eq
    · obtain ⟨rfl, rfl⟩ := List.cons_eq_cons.mp rest
      exact ⟨fields, _, rfl, rfl, by rw [if_neg nonempty, Entries.keys_set_of_get? item]⟩
    · obtain ⟨here, here', found, found', keys⟩ := h.order front last behind rest
      exact ⟨here, here', by rw [at?_cons_mapping item, found],
        by rw [at?_cons_mapping item', found'], keys⟩

theorem erased_of_eraseKeys? (h : fields.eraseKeys? keys = some after) :
    Erased fields keys after := by
  induction keys generalizing fields after with
  | nil => cases h
  | cons key others ih =>
    rcases eraseKeys?_cases h with ⟨_, eq, rfl⟩ | ⟨_, _, inner, new, eq, within, item, erased, rfl⟩
    · obtain ⟨rfl, rfl⟩ := List.cons_eq_cons.mp eq
      exact erased_erase fields key
    · obtain ⟨rfl, rfl⟩ := List.cons_eq_cons.mp eq
      exact (ih erased).set within item

theorem isSome_eraseKeys? (nonempty : keys ≠ []) (fields : Params) :
    (fields.eraseKeys? keys).isSome = (fields.at? keys).isSome := by
  induction keys generalizing fields with
  | nil => exact absurd rfl nonempty
  | cons key keys ih =>
    by_cases last : keys = []
    · subst last
      rw [eraseKeys?, at?_cons, Entries.contains]
      cases Entries.get? fields key <;> rfl
    · rw [eraseKeys?_cons _ _ last]
      split
      next inner item => rw [Option.isSome_map, at?_cons_mapping item, ih last]
      next other =>
        obtain ⟨next, keys, rfl⟩ := List.exists_cons_of_ne_nil last
        rw [at?_cons]
        cases item : Entries.get? fields key with
        | none => rfl
        | some v =>
          cases v with
          | mapping inner => exact absurd item (other inner)
          | null | undefined | bool | number | text | list => rfl

theorem isSome_eraseKeys?_iff (nonempty : keys ≠ []) :
    (fields.eraseKeys? keys).isSome = true ↔ fields.Leads keys := by
  rw [isSome_eraseKeys? nonempty]
  constructor
  · intro found
    obtain ⟨front, key, rfl⟩ : ∃ front key, keys = front ++ [key] :=
      ⟨_, _, (List.dropLast_concat_getLast nonempty).symm⟩
    obtain ⟨value, found⟩ := Option.isSome_iff_exists.mp found
    rw [at?, at?_append] at found
    obtain ⟨v, reached, found⟩ := Option.bind_eq_some_iff.mp found
    obtain ⟨w, field, -⟩ := Option.bind_eq_some_iff.mp found
    cases v with
    | mapping inner =>
      refine ⟨front, key, inner, rfl, reached, Entries.mem_keys.mpr ?_⟩
      exact Option.isSome_iff_exists.mpr ⟨w, field⟩
    | null | undefined | bool | number | text | list => cases field
  · rintro ⟨front, key, inner, rfl, reached, mem⟩
    obtain ⟨v, item⟩ := Option.isSome_iff_exists.mp (Entries.mem_keys.mp mem)
    rw [at?] at reached
    rw [at?, at?_append, reached, Option.bind_some]
    change ((Entries.get? inner key).bind (·.at? [])).isSome = true
    rw [item]
    rfl

/-! ## Paths -/

/-- The parameters `after` are those `before` with `value` at the end of the keys. -/
structure SetAt (before : Params) (keys : List String) (value : Value) (after : Params) :
    Prop where
  found : after.at? keys = some value
  /-- What stands neither on the way to the value nor behind it stays. -/
  frame : ∀ other, ¬keys <+: other → ¬other <+: keys → after.at? other = before.at? other

/-- The laws of parameters at a path. A renderer that is told to patch or to remove works on its own
parameters so. -/
theorem path_laws (fields : Params) (path : String) (value : Value) :
    SetAt fields (pathKeys path) value (fields.setPath path value) ∧
    (∀ first : Value, (fields.setPath path first).setPath path value =
      fields.setPath path value) ∧
    ((fields.erasePath? path).isSome = true ↔ fields.Leads (pathKeys path)) ∧
    (∀ after, fields.erasePath? path = some after → Erased fields (pathKeys path) after) ∧
    (∃ after, (fields.setPath path value).erasePath? path = some after ∧
      after.at? (pathKeys path) = none) ∧
    ∀ (now : Nat) (r : Live.Renderer), r.data = fields →
      (r.patch now path value).data = fields.setPath path value ∧
      match fields.erasePath? path with
      | some after => (r.remove now path).1 = true ∧ (r.remove now path).2.data = after
      | none => r.remove now path = (false, r) := by
  have nonempty := pathKeys_ne_nil path
  have found : (fields.setPath path value).at? (pathKeys path) = some value :=
    at?_setKeys nonempty fields value
  refine ⟨⟨found, fun other short long => ?_⟩, fun first => ?_, isSome_eraseKeys?_iff nonempty,
    fun after h => erased_of_eraseKeys? h, ?_, fun now r given => ?_⟩
  · exact at?_setKeys_of_apart fields value short long
  · exact setKeys_setKeys nonempty fields first value
  · have present := isSome_eraseKeys? nonempty (fields.setPath path value)
    rw [found] at present
    obtain ⟨after, erased⟩ := Option.isSome_iff_exists.mp present
    exact ⟨after, erased, (erased_of_eraseKeys? erased).absent⟩
  · subst given
    refine ⟨Live.Renderer.change_data .., ?_⟩
    rw [Live.Renderer.remove]
    cases r.data.erasePath? path with
    | some after => exact ⟨rfl, Live.Renderer.change_data ..⟩
    | none => rfl

/-- A null is there to be erased, and a text has no fields. -/
theorem path_laws_of_null :
    let fields : Params :=
      [("bg", .mapping [("type", .null), ("value", .text "red")]), ("title", .text "Hello")]
    let after : Params := [("bg", .mapping [("value", .text "red")]), ("title", .text "Hello")]
    (fields.Leads ["bg", "type"] ∧ ¬fields.Leads ["title", "size"]) ∧
      (fields.erasePath? "bg.type" = some after ∧ Erased fields ["bg", "type"] after) ∧
      ((fields.setPath "title.size" (.int 2)).at? ["title", "size"] = some (.int 2) ∧
        (fields.setPath "title.size" (.int 2)).at? ["bg", "type"] = some .null) := by
  intro fields after
  obtain ⟨-, -, leads, erased, -⟩ := path_laws fields "bg.type" .null
  obtain ⟨set, -, leads', -⟩ := path_laws fields "title.size" (.int 2)
  have given : fields.erasePath? "bg.type" = some after := by decide +kernel
  have apart : ¬["title", "size"] <+: ["bg", "type"] := by decide
  have apart' : ¬["bg", "type"] <+: ["title", "size"] := by decide
  refine ⟨⟨leads.mp (by rw [given]; rfl), mt leads'.mpr (by decide +kernel)⟩,
    ⟨given, erased after given⟩, set.found, ?_⟩
  rw [set.frame _ apart apart']
  rfl

end Params

end PageComponent
