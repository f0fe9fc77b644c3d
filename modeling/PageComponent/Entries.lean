/-!
# Ordered entries

A mapping from texts that remembers the order of its keys. A key that is set again keeps its
place, a new one goes last. The laws say what `get?` and `keys` see of `set` and `erase`.
-/

namespace PageComponent

abbrev Entries (α : Type) := List (String × α)

namespace Entries

variable {α β : Type}

def get? : Entries α → String → Option α
  | [], _ => none
  | (k, v) :: rest, key => if k = key then some v else get? rest key

def contains (es : Entries α) (key : String) : Bool :=
  (get? es key).isSome

def set : Entries α → String → α → Entries α
  | [], key, value => [(key, value)]
  | (k, v) :: rest, key, value =>
    if k = key then (k, value) :: rest else (k, v) :: set rest key value

def erase (es : Entries α) (key : String) : Entries α :=
  es.filter (fun e => e.1 ≠ key)

def keys (es : Entries α) : List String :=
  es.map (·.1)

/-- Sets the pairs one after another. -/
def ofPairs (pairs : List (String × α)) : Entries α :=
  pairs.foldl (fun es e => set es e.1 e.2) []

@[simp] theorem get?_nil (key : String) : get? ([] : Entries α) key = none := rfl

@[simp] theorem get?_set (es : Entries α) (key : String) (value : α) (other : String) :
    get? (set es key value) other = if key = other then some value else get? es other := by
  induction es with
  | nil => simp [set, get?]
  | cons e rest ih =>
    obtain ⟨k, v⟩ := e
    by_cases hk : k = key
    · subst hk
      by_cases ho : k = other <;> simp [set, get?, ho]
    · by_cases ho : k = other
      · subst ho
        simp [set, get?, hk, Ne.symm hk]
      · simp [set, get?, hk, ho, ih]

theorem set_of_get? {es : Entries α} {key : String} {value : α} (h : get? es key = some value) :
    set es key value = es := by
  induction es with
  | nil => cases h
  | cons e rest ih =>
    obtain ⟨k, v⟩ := e
    by_cases hk : k = key
    · simp only [get?, hk, if_true, Option.some.injEq] at h
      simp only [set, hk, h, if_true]
    · simp only [get?, hk, if_false] at h
      simp only [set, hk, if_false, ih h]

theorem mem_keys {es : Entries α} {key : String} : key ∈ keys es ↔ (get? es key).isSome := by
  induction es with
  | nil => simp [keys]
  | cons e rest ih =>
    obtain ⟨k, v⟩ := e
    by_cases hk : k = key
    · simp [keys, get?, hk]
    · have : ¬key = k := fun h => hk h.symm
      simpa [keys, get?, hk, this] using ih

theorem keys_set (es : Entries α) (key : String) (value : α) :
    keys (set es key value) = if key ∈ keys es then keys es else keys es ++ [key] := by
  induction es with
  | nil => simp [set, keys]
  | cons e rest ih =>
    obtain ⟨k, v⟩ := e
    by_cases hk : k = key
    · simp [set, keys, hk]
    · have hk' : ¬key = k := fun h => hk h.symm
      simp only [keys] at ih
      by_cases hm : key ∈ rest.map (·.1)
      · simp [set, keys, hk, hk', hm, ih]
      · simp [set, keys, hk, hk', hm, ih]

theorem forall_keys_set {es : Entries α} {key : String} {p : String → Prop}
    (h : ∀ other ∈ keys es, p other) (new : p key) (value : α) :
    ∀ other ∈ keys (set es key value), p other := by
  rw [keys_set]
  split
  next => exact h
  next => exact List.forall_mem_append.mpr ⟨h, List.forall_mem_singleton.mpr new⟩

theorem get?_erase (es : Entries α) (key other : String) :
    get? (erase es key) other = if key = other then none else get? es other := by
  induction es with
  | nil => simp [erase]
  | cons e rest ih =>
    obtain ⟨k, v⟩ := e
    simp only [erase] at ih
    by_cases hk : k = key
    · subst hk
      by_cases ho : k = other
      · simpa [erase, ho] using ih
      · simpa [erase, get?, ho] using ih
    · by_cases ho : k = other
      · subst ho
        simp [erase, get?, hk, Ne.symm hk]
      · simpa [erase, get?, hk, ho] using ih

theorem keys_erase (es : Entries α) (key : String) :
    keys (erase es key) = (keys es).filter (· ≠ key) := by
  simp [keys, erase, List.filter_map, Function.comp_def]

theorem set_of_not_mem {es : Entries α} {key : String} {value : α}
    (h : key ∉ keys es) : set es key value = es ++ [(key, value)] := by
  induction es with
  | nil => rfl
  | cons e rest ih =>
    have first : e.1 ≠ key := (List.ne_of_not_mem_cons h).symm
    rw [set, if_neg first, ih (List.not_mem_of_not_mem_cons h)]
    rfl

/-- Pairs with different keys are entries as they are. -/
theorem ofPairs_eq_self {es : Entries α} (h : (keys es).Nodup) :
    ofPairs es = es := by
  have appended : ∀ (rest front : Entries α), (keys (front ++ rest)).Nodup →
      rest.foldl (fun es e => set es e.1 e.2) front = front ++ rest := by
    intro rest
    induction rest with
    | nil => exact fun front _ => (List.append_nil front).symm
    | cons e rest ih =>
      intro front distinct
      rw [List.append_cons] at distinct ⊢
      have fresh : e.1 ∉ keys front := by
        rw [keys, List.append_assoc, List.map_append, List.nodup_append] at distinct
        exact fun mem => distinct.2.2 _ mem _ (List.mem_cons_self) rfl
      rw [List.foldl_cons, set_of_not_mem fresh]
      exact ih _ distinct
  exact appended es [] h

end Entries

end PageComponent
