import PageComponent.Live.View
import PageComponent.Proofs.Outcome

/-!
# Operations without changes

An operation through a view that reports no change leaves the parameters as they were. Of the values
that are no mappings, only a list can be changed without a report, by clearing it.
-/

namespace PageComponent

namespace Live

theorem Target.toValue_ofValue (v : Value) : (Target.ofValue v).toValue = v := by
  cases v <;> rfl

/-- Putting back what the keys lead to changes nothing. -/
theorem updateAt_of_reached {keys : List String} {v : Value} {t : Target}
    (h : keys.foldlM Target.get (.ofValue v) = .ok t) :
    updateAt (fun _ => t.toValue) keys v = v := by
  induction keys generalizing v with
  | nil =>
    cases h
    exact Target.toValue_ofValue v
  | cons key keys ih =>
    rw [List.foldlM_cons] at h
    cases v with
    | mapping fields =>
      cases hget : Entries.get? fields key with
      | none =>
        simp only [Target.ofValue, Target.get, hget] at h
        cases h
      | some w =>
        simp only [Target.ofValue, Target.get, hget] at h
        simp only [updateAt, hget]
        rw [ih h, Entries.set_of_get? hget]
    | _ => cases h

namespace View

variable {data fields : Params} {effect : Effect Params}

theorem after_of_read {reply : Reply} (h : read fields reply = .ok effect) :
    effect.after = fields := by
  cases h
  rfl

theorem changes_of_write {key : String} {value : Value} {reply : Reply}
    (h : write fields key value reply = .ok effect) : effect.changes = 1 := by
  cases h
  rfl

theorem after_of_setPairs {items : List Value} (h : setPairs fields items = .ok effect)
    (unchanged : effect.changes = 0) : effect.after = fields := by
  cases items with
  | nil => exact after_of_read h
  | cons item items =>
    rw [setPairs] at h
    split at h
    next => cases h
    next =>
      dsimp only at h
      split at h
      · cases h
        cases unchanged
      · cases h
        cases unchanged

theorem setPairs_of_pairs {items : List Value} {pairs : Params}
    (all : items.mapM pair? = some pairs) (fields : Params) :
    setPairs fields items =
      .ok { reply := .nothing
            after := pairs.foldl (fun fields e => Entries.set fields e.1 e.2) fields
            changes := pairs.length } := by
  induction items generalizing fields pairs with
  | nil =>
    cases all
    rfl
  | cons item items ih =>
    rw [List.mapM_cons] at all
    obtain ⟨⟨key, value⟩, first, all⟩ := Option.bind_eq_some_iff.mp all
    obtain ⟨others, rest, all⟩ := Option.bind_eq_some_iff.mp all
    cases all
    rw [setPairs, first]
    simp only [ih rest, List.foldl_cons, List.length_cons]

/-- An update with a list of pairs does what one with a mapping of these entries does. -/
theorem run_update_pairs (data fields : Params) {items : List Value} {pairs : Params}
    (all : items.mapM pair? = some pairs) :
    run data fields (.update (.list items)) = run data fields (.update (.mapping pairs)) :=
  setPairs_of_pairs all fields

theorem after_of_unchanged {op : Operation} (h : run data fields op = .ok effect)
    (unchanged : effect.changes = 0) : effect.after = fields := by
  have written : effect.changes ≠ 1 := by omega
  cases op with
  | set key value => exact absurd (changes_of_write h) written
  | assign key source =>
    obtain ⟨t, -, h⟩ := bind_eq_ok.mp h
    exact absurd (changes_of_write h) written
  | erase key =>
    simp only [run] at h
    split at h
    · cases h
      cases unchanged
    · cases h
  | get key =>
    obtain ⟨t, -, h⟩ := bind_eq_ok.mp h
    exact after_of_read h
  | getOr key default =>
    simp only [run] at h
    split at h
    · exact after_of_read h
    · exact after_of_read h
  | pop key default =>
    simp only [run] at h
    split at h
    · cases h
      cases unchanged
    · exact after_of_read h
    · cases h
  | popFirst =>
    simp only [run] at h
    split at h
    · cases h
      cases unchanged
    · cases h
  | clear =>
    cases h
    exact (List.length_eq_zero_iff.mp unchanged).symm
  | update values =>
    cases values with
    | mapping values =>
      cases h
      rw [List.length_eq_zero_iff.mp unchanged]
      rfl
    | list | text => exact after_of_setPairs h unchanged
    | null | undefined | bool | number => cases h
  | setDefault key default =>
    simp only [run] at h
    split at h
    · exact after_of_read h
    · exact absurd (changes_of_write h) written
  | contains | keys | length | equals | inspect | detach => exact after_of_read h

end View

/-- A view's operation that reports no change leaves the parameters as they were. -/
theorem operate_of_unchanged {data fields : Params} {keys : List String} {op : Operation}
    {effect : Effect Params} (view : reach data keys = .ok (.view fields))
    (h : operate data keys op = .ok effect) (unchanged : effect.changes = 0) :
    effect.after = data := by
  obtain ⟨target, reached, h⟩ := bind_eq_ok.mp h
  rw [view] at reached
  cases reached
  obtain ⟨inner, hrun, h⟩ := bind_eq_ok.mp h
  cases h
  have after := View.after_of_unchanged hrun unchanged
  have put := @updateAt_of_reached keys (.mapping data) _ view
  rw [Target.toValue] at put
  simp only [after, put]

/-- The operation clears a list, which is not reported. -/
def ClearsList (data : Params) (keys : List String) (op : Operation) : Prop :=
  op = .clear ∧ ∃ items, reach data keys = .ok (.plain (.list items))

namespace Plain

variable {data : Params} {v : Value} {effect : Effect Value}

theorem after_of_read {reply : Option Value} (h : read v reply = .ok effect) :
    effect.after = v := by
  cases reply with
  | none => cases h
  | some reply =>
    cases h
    rfl

theorem after_of_run {op : Operation} (h : run data v op = .ok effect)
    (kept : op = .clear → isList v = false) : effect.after = v := by
  cases op with
  | clear =>
    rw [run, kept rfl] at h
    cases h
  | assign key source =>
    obtain ⟨_, _, h⟩ := bind_eq_ok.mp h
    cases h
  | contains | keys | length => exact after_of_read h
  | equals | inspect =>
    cases h
    rfl
  | set | erase | get | getOr | pop | popFirst | update | setDefault | detach => cases h

end Plain

/-- An operation that reports no change leaves the parameters as they were unless it clears a
list. -/
theorem operate_of_unreported {data : Params} {keys : List String} {op : Operation}
    {effect : Effect Params} (h : operate data keys op = .ok effect)
    (unchanged : effect.changes = 0) (kept : ¬ClearsList data keys op) : effect.after = data := by
  obtain ⟨target, reached, done⟩ := bind_eq_ok.mp h
  cases target with
  | view fields => exact operate_of_unchanged reached h unchanged
  | plain v =>
    obtain ⟨inner, hrun, done⟩ := bind_eq_ok.mp done
    cases done
    have noList : op = .clear → Plain.isList v = false := by
      intro clears
      cases v with
      | list items => exact absurd ⟨clears, items, reached⟩ kept
      | _ => rfl
    have after := Plain.after_of_run hrun noList
    have put := @updateAt_of_reached keys (.mapping data) _ reached
    rw [Target.toValue] at put
    simp only [after, put]

end Live

end PageComponent
