import PageComponent.Proofs.Live.Views

/-!
# Views and plain mappings

Reading, setting and erasing an item through a view does to the parameters what the same access
does to a plain mapping within mappings, and each access that succeeds in setting or erasing is one
change.
-/

namespace PageComponent.Live

/-- What is done at a key of a mapping. -/
inductive Access where
  | get (key : String)
  | set (key : String) (value : Value)
  | erase (key : String)

namespace Access

def operation : Access → Operation
  | get key => .get key
  | set key value => .set key value
  | erase key => .erase key

/-! ## Plain mappings -/

/-- A value that is read, if any, and the mapping afterwards. -/
abbrev Result := Except AccessError (Option Value × Params)

/-- An access to a mapping itself. -/
def apply (fields : Params) : Access → Result
  | get key =>
    match Entries.get? fields key with
    | some v => .ok (some v, fields)
    | none => .error .missingKey
  | set key value => .ok (none, Entries.set fields key value)
  | erase key =>
    if Entries.contains fields key then .ok (none, Entries.erase fields key)
    else .error .missingKey

/-- An access to the mapping that the keys lead to within another one. -/
def applyAt (access : Access) : List String → Params → Result
  | [], fields => access.apply fields
  | key :: keys, fields =>
    match Entries.get? fields key with
    | some (.mapping inner) =>
      (access.applyAt keys inner).map fun (v, inner) =>
        (v, Entries.set fields key (.mapping inner))
    | some _ => .error .wrongType
    | none => .error .missingKey

end Access

/-- An access through the view that the keys `path` lead to. -/
structure Visit where
  path : List String
  access : Access

/-- What is seen of a visit: what it gives, the number of changes that it reports, and the data
afterwards. -/
structure Seen where
  reply : Except AccessError Reply
  changes : Nat
  data : Params

namespace Visit

/-- A visit by way of views. -/
def seen (data : Params) (visit : Visit) : Seen :=
  match operate data visit.path visit.access.operation with
  | .ok effect => ⟨.ok effect.reply, effect.changes, effect.after⟩
  | .error error => ⟨.error error, 0, data⟩

/-- What is seen when the access is to a plain mapping within `data`. -/
def expected (data : Params) (visit : Visit) : Seen :=
  match visit.access.applyAt visit.path data with
  | .ok (some v, _) => ⟨.ok (.target (.ofValue v)), 0, data⟩
  | .ok (none, data) => ⟨.ok .nothing, 1, data⟩
  | .error error => ⟨.error error, 0, data⟩

/-- What is seen of visits one after another. -/
def run (see : Params → Visit → Seen) (data : Params) : List Visit → List Seen
  | [] => []
  | visit :: visits => see data visit :: run see (see data visit).data visits

end Visit

/-! ## Mappings within mappings -/

/-- The keys lead from one mapping to another one. -/
inductive Reaches : Params → List String → Params → Prop where
  | here (fields : Params) : Reaches fields [] fields
  | within {fields next inner : Params} {key : String} {keys : List String}
      (item : Entries.get? fields key = some (.mapping next)) (h : Reaches next keys inner) :
      Reaches fields (key :: keys) inner

/-- The mapping with the one that the keys lead to replaced. -/
def replaceAt (new : Params) : List String → Params → Params
  | [], _ => new
  | key :: keys, fields =>
    match Entries.get? fields key with
    | some (.mapping next) => Entries.set fields key (.mapping (replaceAt new keys next))
    | _ => fields

theorem replaceAt_cons {fields next : Params} {key : String}
    (item : Entries.get? fields key = some (.mapping next)) (new : Params) (keys : List String) :
    replaceAt new (key :: keys) fields =
      Entries.set fields key (.mapping (replaceAt new keys next)) := by
  rw [replaceAt, item]

/-- Only a mapping has items. -/
theorem reach_cons (key : String) (keys : List String) (fields : Params) :
    reach fields (key :: keys) =
      match Entries.get? fields key with
      | some (.mapping next) => reach next keys
      | some v => if keys = [] then .ok (.plain v) else .error .wrongType
      | none => .error .missingKey := by
  rw [reach, List.foldlM_cons, Target.get]
  cases Entries.get? fields key with
  | none => rfl
  | some v => cases v <;> cases keys <;> rfl

namespace Reaches

variable {fields inner : Params} {keys : List String}

theorem reach_eq (h : Reaches fields keys inner) : reach fields keys = .ok (.view inner) := by
  induction h with
  | here => rfl
  | within item _ ih =>
    rw [reach_cons, item]
    exact ih

theorem updateAt_eq (h : Reaches fields keys inner) (new : Params) :
    updateAt (fun _ => .mapping new) keys (.mapping fields) =
      .mapping (replaceAt new keys fields) := by
  induction h with
  | here => rfl
  | within item _ ih => rw [updateAt, item, replaceAt_cons item, ← ih]

theorem applyAt_eq (h : Reaches fields keys inner) (access : Access) :
    access.applyAt keys fields =
      (access.apply inner).map fun result => (result.1, replaceAt result.2 keys fields) := by
  induction h with
  | here fields =>
    rw [Access.applyAt]
    cases access.apply fields <;> rfl
  | @within fields next inner key keys item _ ih =>
    rw [Access.applyAt, item]
    dsimp only
    rw [ih]
    cases access.apply inner with
    | error => rfl
    | ok result =>
      exact congrArg (fun new => Except.ok (result.1, new))
        (replaceAt_cons item result.2 keys).symm

/-- Putting back what is there changes nothing. -/
theorem replaceAt_self (h : Reaches fields keys inner) : replaceAt inner keys fields = fields := by
  induction h with
  | here => rfl
  | within item _ ih => rw [replaceAt_cons item, ih, Entries.set_of_get? item]

end Reaches

/-- If the keys lead to no mapping, views and plain mappings fail alike. -/
theorem reaches_or_fails : ∀ (keys : List String) (fields : Params),
    (∃ inner, Reaches fields keys inner) ∨
      ∃ error, (∀ access : Access, access.applyAt keys fields = .error error) ∧
        (reach fields keys = .error error ∨
          error = .wrongType ∧ ∃ v, reach fields keys = .ok (.plain v))
  | [], fields => .inl ⟨fields, .here fields⟩
  | key :: keys, fields => by
    have reached := reach_cons key keys fields
    cases item : Entries.get? fields key with
    | none =>
      rw [item] at reached
      refine .inr ⟨.missingKey, fun access => ?_, .inl reached⟩
      rw [Access.applyAt, item]
    | some v =>
      rw [item] at reached
      cases v with
      | mapping next =>
        rcases reaches_or_fails keys next with ⟨inner, within⟩ | ⟨error, fails, seen⟩
        · exact .inl ⟨inner, .within item within⟩
        · refine .inr ⟨error, fun access => ?_, reached ▸ seen⟩
          rw [Access.applyAt, item]
          dsimp only
          rw [fails access]
          rfl
      | _ =>
        refine .inr ⟨.wrongType, fun access => ?_, ?_⟩
        · rw [Access.applyAt, item]
        · dsimp only at reached
          split at reached
          next => exact .inr ⟨rfl, _, reached⟩
          next => exact .inl reached

/-! ## Agreement -/

/-- An access by way of a view of a mapping. -/
theorem run_operation (data fields : Params) (access : Access) :
    View.run data fields access.operation =
      (access.apply fields).map fun result =>
        match result.1 with
        | some v => { reply := .target (.ofValue v), after := result.2, changes := 0 }
        | none => { reply := .nothing, after := result.2, changes := 1 } := by
  cases access with
  | get key =>
    rw [Access.operation, View.run, Target.get, Access.apply]
    cases Entries.get? fields key <;> rfl
  | set key value => rfl
  | erase key =>
    rw [Access.operation, View.run, Access.apply]
    split <;> rfl

theorem Access.fields_of_read {access : Access} {fields new : Params} {v : Value}
    (reads : access.apply fields = .ok (some v, new)) : new = fields := by
  cases access with
  | get key =>
    rw [apply] at reads
    split at reads <;> cases reads
    rfl
  | set => cases reads
  | erase key =>
    rw [apply] at reads
    split at reads <;> cases reads

theorem operate_of_plain {data : Params} {keys : List String} {v : Value} (access : Access)
    (h : reach data keys = .ok (.plain v)) :
    operate data keys access.operation = .error .wrongType := by
  rw [operate, h]
  cases access <;> rfl

theorem operate_of_error {data : Params} {keys : List String} {error : AccessError}
    (op : Operation) (h : reach data keys = .error error) :
    operate data keys op = .error error := by
  rw [operate, h]
  rfl

theorem Reaches.operate_eq {data inner : Params} {keys : List String}
    (h : Reaches data keys inner) (access : Access) :
    operate data keys access.operation =
      (access.apply inner).map fun result =>
        match result.1 with
        | some v =>
          { reply := .target (.ofValue v), after := replaceAt result.2 keys data, changes := 0 }
        | none => { reply := .nothing, after := replaceAt result.2 keys data, changes := 1 } := by
  rw [operate, h.reach_eq]
  dsimp only [bind, Except.bind]
  rw [run_operation]
  cases access.apply inner with
  | error => rfl
  | ok result =>
    obtain ⟨v, new⟩ := result
    have put := h.updateAt_eq new
    cases v <;> (dsimp only [Except.map]; rw [put]; rfl)

namespace Visit

theorem seen_eq_expected (data : Params) (visit : Visit) :
    visit.seen data = visit.expected data := by
  obtain ⟨keys, access⟩ := visit
  rw [seen, expected]
  dsimp only
  rcases reaches_or_fails keys data with ⟨inner, reaches⟩ | ⟨error, fails, unreached | plain⟩
  · rw [reaches.operate_eq, reaches.applyAt_eq]
    cases done : access.apply inner with
    | error => rfl
    | ok result =>
      obtain ⟨v, new⟩ := result
      cases v with
      | none => rfl
      | some v =>
        obtain rfl := Access.fields_of_read done
        dsimp only [Except.map]
        rw [reaches.replaceAt_self]
  · rw [fails access, operate_of_error _ unreached]
  · obtain ⟨rfl, v, reached⟩ := plain
    rw [fails access, operate_of_plain access reached]

end Visit

end PageComponent.Live
