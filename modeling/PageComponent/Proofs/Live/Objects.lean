import Mathlib.Data.List.Forall2
import PageComponent.Proofs.Live.Nested

/-!
# Views by reference

A view refers to a mapping in a store, and what is written through it is seen wherever else the
mapping is referred to. The mappings of the parameters are each referred to once, and a value that
is assigned is stored in new ones. So views by reference do what views of values do: no write is
lost and none goes to a mapping that has left the parameters.
-/

namespace PageComponent.Live

/-- What stands at a key of a stored mapping: another stored mapping, or a value of another kind. -/
inductive Slot where
  | object (id : Nat)
  | leaf (v : Value)

/-- Mappings by their numbers. -/
abbrev Store := List (Entries Slot)

namespace Store

mutual

/-- Stores the mappings of a value as new ones. -/
def alloc (store : Store) : Value → Slot × Store
  | .mapping fields =>
    let (slots, store) := allocAll store fields
    (.object store.length, store ++ [slots])
  | v => (.leaf v, store)

def allocAll (store : Store) : Params → Entries Slot × Store
  | [] => ([], store)
  | (key, v) :: fields =>
    let (slot, store) := alloc store v
    let (slots, store) := allocAll store fields
    ((key, slot) :: slots, store)

end

/-- The items of a stored mapping. -/
def items (store : Store) (id : Nat) : Entries Slot :=
  store[id]?.getD []

/-- Reading gives a view of a mapping, or another value. -/
def get (store : Store) (slot : Slot) (key : String) : Except AccessError Slot :=
  match slot with
  | .object id =>
    match Entries.get? (store.items id) key with
    | some slot => .ok slot
    | none => .error .missingKey
  | .leaf _ => .error .wrongType

/-- What keys lead to, one after another. -/
def reach (store : Store) (root : Nat) (keys : List String) : Except AccessError Slot :=
  keys.foldlM store.get (.object root)

/-- An access through a view: what is read, if anything, and the store afterwards. -/
def apply (store : Store) (slot : Slot) : Access → Except AccessError (Option Slot × Store)
  | .get key => do return (some (← store.get slot key), store)
  | .set key value =>
    match slot with
    | .object id =>
      let (new, store) := store.alloc value
      .ok (none, store.modify id (Entries.set · key new))
    | .leaf _ => .error .wrongType
  | .erase key =>
    match slot with
    | .object id =>
      if Entries.contains (store.items id) key then
        .ok (none, store.modify id (Entries.erase · key))
      else .error .missingKey
    | .leaf _ => .error .wrongType

/-- What is seen of a visit by reference. -/
structure Seen where
  reply : Except AccessError (Option Slot)
  changes : Nat
  store : Store

/-- A visit whose view is got from the root mapping; each write reports a change. -/
def visit (root : Nat) (store : Store) (v : Visit) : Seen :=
  match store.reach root v.path >>= (store.apply · v.access) with
  | .ok (reply, store) => ⟨.ok reply, if reply.isSome then 0 else 1, store⟩
  | .error error => ⟨.error error, 0, store⟩

def run (root : Nat) (store : Store) : List Visit → List Seen
  | [] => []
  | v :: visits => visit root store v :: run root (visit root store v).store visits

/-! ## What a store holds -/

/-- The slots hold the fields, by way of stored mappings with different numbers. -/
inductive Holds (store : Store) : Entries Slot → Params → List Nat → Prop where
  | nil : Holds store [] [] []
  | leaf {v : Value} {slots : Entries Slot} {fields : Params} {ids : List Nat} (key : String)
      (plain : v.isMapping = false) (rest : Holds store slots fields ids) :
      Holds store ((key, .leaf v) :: slots) ((key, v) :: fields) ids
  | object {id : Nat} {slots : Entries Slot} {inner fields : Params} {own ids : List Nat}
      (key : String) (stored : id < store.length) (fresh : id ∉ own)
      (within : Holds store (store.items id) inner own) (rest : Holds store slots fields ids)
      (apart : ∀ i ∈ id :: own, i ∉ ids) :
      Holds store ((key, .object id) :: slots) ((key, .mapping inner) :: fields) (id :: own ++ ids)

/-- The mapping of a number holds the fields, by way of the mappings `own`. -/
structure HoldsAt (store : Store) (id : Nat) (fields : Params) (own : List Nat) : Prop where
  stored : id < store.length
  fresh : id ∉ own
  within : Holds store (store.items id) fields own

/-- A slot holds a value. -/
inductive HoldsIn (store : Store) : Slot → Value → List Nat → Prop where
  | leaf {v : Value} (plain : v.isMapping = false) : HoldsIn store (.leaf v) v []
  | object {id : Nat} {inner : Params} {own : List Nat} (h : HoldsAt store id inner own) :
      HoldsIn store (.object id) (.mapping inner) (id :: own)

variable {store store' : Store} {slots : Entries Slot} {slot : Slot} {fields inner : Params}
  {v : Value} {id : Nat} {own ids : List Nat} {key : String}

theorem Holds.lt (h : Holds store slots fields ids) : ∀ i ∈ ids, i < store.length := by
  induction h with
  | nil => exact nofun
  | leaf _ _ _ ih => exact ih
  | object _ stored _ _ _ _ within rest =>
    exact List.forall_mem_append.mpr ⟨List.forall_mem_cons.mpr ⟨stored, within⟩, rest⟩

theorem Holds.frame (h : Holds store slots fields ids) (long : store.length ≤ store'.length)
    (same : ∀ i ∈ ids, store'.items i = store.items i) : Holds store' slots fields ids := by
  induction h with
  | nil => exact .nil
  | leaf key plain _ ih => exact .leaf key plain (ih same)
  | object key stored fresh _ _ apart within rest =>
    obtain ⟨here, behind⟩ := List.forall_mem_append.mp same
    obtain ⟨this, inside⟩ := List.forall_mem_cons.mp here
    refine .object key (Nat.lt_of_lt_of_le stored long) fresh ?_ (rest behind) apart
    rw [this]
    exact within inside

theorem HoldsAt.frame (h : HoldsAt store id fields own) (long : store.length ≤ store'.length)
    (same : ∀ i ∈ id :: own, store'.items i = store.items i) : HoldsAt store' id fields own where
  stored := Nat.lt_of_lt_of_le h.stored long
  fresh := h.fresh
  within := by
    obtain ⟨this, inside⟩ := List.forall_mem_cons.mp same
    rw [this]
    exact h.within.frame long inside

theorem HoldsIn.frame (h : HoldsIn store slot v own) (long : store.length ≤ store'.length)
    (same : ∀ i ∈ own, store'.items i = store.items i) : HoldsIn store' slot v own := by
  cases h with
  | leaf plain => exact .leaf plain
  | object h => exact .object (h.frame long same)

theorem HoldsIn.lt (h : HoldsIn store slot v own) : ∀ i ∈ own, i < store.length := by
  cases h with
  | leaf => exact nofun
  | object h => exact List.forall_mem_cons.mpr ⟨h.stored, h.within.lt⟩

theorem HoldsIn.cons (h : HoldsIn store slot v own) (key : String)
    (rest : Holds store slots fields ids) (apart : ∀ i ∈ own, i ∉ ids) :
    Holds store ((key, slot) :: slots) ((key, v) :: fields) (own ++ ids) := by
  cases h with
  | leaf plain => exact .leaf key plain rest
  | object h => exact .object key h.stored h.fresh h.within rest apart

theorem Holds.get? (h : Holds store slots fields ids) (key : String) :
    (Entries.get? slots key = none ∧ Entries.get? fields key = none) ∨
      ∃ slot v own, Entries.get? slots key = some slot ∧ Entries.get? fields key = some v ∧
        HoldsIn store slot v own ∧ own ⊆ ids := by
  induction h with
  | nil => exact .inl ⟨rfl, rfl⟩
  | @leaf v slots fields ids other plain _ ih =>
    rw [Entries.get?, Entries.get?]
    split
    next => exact .inr ⟨_, _, _, rfl, rfl, .leaf plain, List.nil_subset _⟩
    next => exact ih
  | @object id slots inner fields own ids other stored fresh within _ _ _ ih =>
    rw [Entries.get?, Entries.get?]
    split
    next =>
      exact .inr ⟨_, _, _, rfl, rfl, .object ⟨stored, fresh, within⟩, List.subset_append_left _ _⟩
    next =>
      rcases ih with absent | ⟨slot, v, own', item, item', holds, sub⟩
      · exact .inl absent
      · exact .inr ⟨slot, v, own', item, item', holds, List.subset_append_of_subset_right _ sub⟩

/-! ## Changes of a store -/

/-- A store that has grown, and changed in the mappings of the given numbers only. -/
structure Changed (changed : List Nat) (store store' : Store) : Prop where
  long : store.length ≤ store'.length
  same : ∀ i < store.length, i ∉ changed → store'.items i = store.items i

theorem Changed.mono {changed changed' : List Nat} (h : Changed changed store store')
    (sub : changed ⊆ changed') : Changed changed' store store' :=
  ⟨h.long, fun i stored other => h.same i stored fun mem => other (sub mem)⟩

/-- Where a mapping within others is changed, these hold the fields with that one replaced. -/
theorem Holds.replace (h : Holds store slots fields ids)
    (item : Entries.get? slots key = some (.object id)) :
    ∃ inner own, Entries.get? fields key = some (.mapping inner) ∧ HoldsAt store id inner own ∧
      id :: own ⊆ ids ∧
      ∀ {store' : Store} {new : Params} {own' : List Nat}, Changed (id :: own) store store' →
        HoldsAt store' id new own' → (∀ i ∈ own', i ∈ own ∨ store.length ≤ i) →
        ∃ ids', Holds store' slots (Entries.set fields key (.mapping new)) ids' ∧
          ∀ i ∈ ids', i ∈ ids ∨ store.length ≤ i := by
  induction h with
  | nil => cases item
  | @leaf v slots fields ids other plain _ ih =>
    rw [Entries.get?] at item
    split at item
    next => cases item
    next distinct =>
      obtain ⟨inner, own, item', holds, sub, replace⟩ := ih item
      refine ⟨inner, own, (if_neg distinct).trans item', holds, sub, fun changed new grown => ?_⟩
      obtain ⟨ids', holds', grown'⟩ := replace changed new grown
      rw [Entries.set, if_neg distinct]
      exact ⟨ids', .leaf other plain holds', grown'⟩
  | @object first slots inner fields own ids other stored fresh within rest apart _ ih =>
    have bound : ∀ i ∈ first :: own, i < store.length :=
      List.forall_mem_cons.mpr ⟨stored, within.lt⟩
    rw [Entries.get?] at item
    split at item
    next same =>
      obtain rfl := Slot.object.inj (Option.some.inj item)
      refine ⟨inner, own, if_pos same, ⟨stored, fresh, within⟩, List.subset_append_left _ _,
        @fun store' new own' changed holds grown => ?_⟩
      have behind : Holds store' slots fields ids :=
        rest.frame changed.long fun i mem =>
          changed.same i (rest.lt i mem) fun here => apart i here mem
      have apart' : ∀ i ∈ first :: own', i ∉ ids := by
        rw [List.forall_mem_cons]
        refine ⟨apart first List.mem_cons_self, fun i mem => ?_⟩
        rcases grown i mem with old | new
        · exact apart i (List.mem_cons_of_mem _ old)
        · exact fun mem => Nat.not_le.mpr (rest.lt i mem) new
      rw [Entries.set, if_pos same]
      refine ⟨_, .object other holds.stored holds.fresh holds.within behind apart', fun i mem => ?_⟩
      simp only [List.mem_append, List.mem_cons] at mem ⊢
      rcases mem with (here | mem) | mem
      · exact .inl (.inl (.inl here))
      · exact (grown i mem).imp_left fun old => .inl (.inr old)
      · exact .inl (.inr mem)
    next distinct =>
      obtain ⟨next, own', item', holds, sub, replace⟩ := ih item
      refine ⟨next, own', (if_neg distinct).trans item', holds,
        List.subset_append_of_subset_right _ sub, @fun store' new own₁ changed new' grown => ?_⟩
      obtain ⟨ids', holds', grown'⟩ := replace changed new' grown
      have same : ∀ i ∈ first :: own, store'.items i = store.items i := fun i mem =>
        changed.same i (bound i mem) fun within => apart i mem (sub within)
      have kept : HoldsAt store' first inner own :=
        HoldsAt.frame ⟨stored, fresh, within⟩ changed.long same
      have apart' : ∀ i ∈ first :: own, i ∉ ids' := by
        intro i mem mem'
        rcases grown' i mem' with old | new
        · exact apart i mem old
        · exact Nat.not_le.mpr (bound i mem) new
      rw [Entries.set, if_neg distinct]
      refine ⟨_, .object other kept.stored kept.fresh kept.within holds' apart', fun i mem => ?_⟩
      rcases List.mem_append.mp mem with mem | mem
      · exact .inl (List.mem_append_left _ mem)
      · exact (grown' i mem).imp_left (List.mem_append_right _)

theorem Holds.set (h : Holds store slots fields ids) (new : HoldsIn store slot v own)
    (apart : ∀ i ∈ own, i ∉ ids) (key : String) :
    ∃ ids', Holds store (Entries.set slots key slot) (Entries.set fields key v) ids' ∧
      ∀ i ∈ ids', i ∈ own ∨ i ∈ ids := by
  induction h with
  | nil => exact ⟨_, new.cons key .nil nofun, fun i mem => List.mem_append.mp mem⟩
  | @leaf w slots fields ids other plain rest ih =>
    rw [Entries.set, Entries.set]
    split
    next => exact ⟨_, new.cons other rest apart, fun i mem => List.mem_append.mp mem⟩
    next =>
      obtain ⟨ids', holds, sub⟩ := ih apart
      exact ⟨ids', .leaf other plain holds, sub⟩
  | @object first slots inner fields within ids other stored fresh holds rest apart' _ ih =>
    have behind : ∀ i ∈ own, i ∉ ids := fun i mem old => apart i mem (List.mem_append_right _ old)
    rw [Entries.set, Entries.set]
    split
    next =>
      refine ⟨_, new.cons other rest behind, fun i mem => ?_⟩
      exact (List.mem_append.mp mem).imp_right (List.mem_append_right _)
    next =>
      obtain ⟨ids', holds', sub⟩ := ih behind
      refine ⟨_, .object other stored fresh holds holds' ?_, fun i mem => ?_⟩
      · intro i mem mem'
        rcases sub i mem' with old | old
        · exact apart i old (List.mem_append_left _ mem)
        · exact apart' i mem old
      · rcases List.mem_append.mp mem with mem | mem
        · exact .inr (List.mem_append_left _ mem)
        · exact (sub i mem).imp_right (List.mem_append_right _)

theorem Holds.erase (h : Holds store slots fields ids) (key : String) :
    ∃ ids', Holds store (Entries.erase slots key) (Entries.erase fields key) ids' ∧
      ids' ⊆ ids := by
  have erase_cons {α : Type} (other : String) (a : α) (es : Entries α) :
      Entries.erase ((other, a) :: es) key =
        if other = key then Entries.erase es key else (other, a) :: Entries.erase es key := by
    by_cases same : other = key <;> simp [Entries.erase, same]
  induction h with
  | nil => exact ⟨[], .nil, List.Subset.refl _⟩
  | @leaf v slots fields ids other plain _ ih =>
    obtain ⟨ids', holds, sub⟩ := ih
    rw [erase_cons, erase_cons]
    split
    next => exact ⟨ids', holds, sub⟩
    next => exact ⟨ids', .leaf other plain holds, sub⟩
  | @object first slots inner fields own ids other stored fresh within _ apart _ ih =>
    obtain ⟨ids', holds, sub⟩ := ih
    rw [erase_cons, erase_cons]
    split
    next => exact ⟨ids', holds, List.subset_append_of_subset_right _ sub⟩
    next =>
      refine ⟨_, .object other stored fresh within holds
        fun i mem mem' => apart i mem (sub mem'), ?_⟩
      exact List.append_subset.mpr ⟨List.subset_append_left _ _,
        List.subset_append_of_subset_right _ sub⟩

/-! ## New mappings -/

theorem items_append (store more : Store) {id : Nat} (stored : id < store.length) :
    items (store ++ more) id = store.items id := by
  rw [items, items, List.getElem?_append_left stored]

/-- A new mapping holds the fields that its items hold. -/
theorem Holds.stored (h : Holds store slots fields own) :
    HoldsAt (store ++ [slots]) store.length fields own where
  stored := by simp
  fresh mem := Nat.lt_irrefl _ (h.lt _ mem)
  within := by
    have items : items (store ++ [slots]) store.length = slots := by simp [items]
    rw [items]
    exact h.frame (by simp) fun i mem => items_append store [slots] (h.lt i mem)

theorem alloc_mapping (store : Store) (fields : Params) :
    store.alloc (.mapping fields) = (.object (store.allocAll fields).2.length,
      (store.allocAll fields).2 ++ [(store.allocAll fields).1]) := by
  rw [alloc]

theorem allocAll_cons (store : Store) (key : String) (v : Value) (fields : Params) :
    store.allocAll ((key, v) :: fields) =
      ((key, (store.alloc v).1) :: ((store.alloc v).2.allocAll fields).1,
        ((store.alloc v).2.allocAll fields).2) := by
  rw [allocAll]

mutual

/-- A value is stored in mappings that are all new. -/
theorem exists_alloc : ∀ (store : Store) (v : Value), ∃ more own,
    (store.alloc v).2 = store ++ more ∧ HoldsIn (store.alloc v).2 (store.alloc v).1 v own ∧
      ∀ i ∈ own, store.length ≤ i
  | store, .mapping fields => by
    obtain ⟨more, own, grown, holds, new⟩ := exists_allocAll store fields
    rw [alloc_mapping]
    refine ⟨more ++ [(store.allocAll fields).1], _, ?_, .object holds.stored, ?_⟩
    · dsimp only
      rw [grown, List.append_assoc]
    · refine List.forall_mem_cons.mpr ⟨?_, new⟩
      rw [grown, List.length_append]
      exact Nat.le_add_right ..
  | _, .null | _, .undefined | _, .bool _ | _, .number _ | _, .text _ | _, .list _ =>
    ⟨[], [], (List.append_nil _).symm, .leaf rfl, nofun⟩

theorem exists_allocAll : ∀ (store : Store) (fields : Params), ∃ more own,
    (store.allocAll fields).2 = store ++ more ∧
      Holds (store.allocAll fields).2 (store.allocAll fields).1 fields own ∧
      ∀ i ∈ own, store.length ≤ i
  | store, [] => ⟨[], [], (List.append_nil _).symm, .nil, nofun⟩
  | store, (key, v) :: fields => by
    obtain ⟨more, own, grown, holds, new⟩ := exists_alloc store v
    obtain ⟨more', own', grown', rest, new'⟩ := exists_allocAll (store.alloc v).2 fields
    have kept : HoldsIn ((store.alloc v).2.allocAll fields).2 (store.alloc v).1 v own := by
      rw [grown']
      refine holds.frame ?_ fun i mem => items_append _ _ (holds.lt i mem)
      rw [List.length_append]
      exact Nat.le_add_right ..
    have older : store.length ≤ (store.alloc v).2.length := by
      rw [grown, List.length_append]
      exact Nat.le_add_right ..
    rw [allocAll_cons]
    refine ⟨more ++ more', own ++ own', ?_, kept.cons key rest ?_, ?_⟩
    · dsimp only
      rw [grown', grown, List.append_assoc]
    · exact fun i mem mem' => Nat.not_le.mpr (holds.lt i mem) (new' i mem')
    · exact List.forall_mem_append.mpr
        ⟨new, fun i mem => Nat.le_trans older (new' i mem)⟩

end

/-! ## Visits -/

/-- What a slot shows: a mapping of the store, or a value of another kind. -/
inductive Shows (store : Store) : Slot → Target → Prop where
  | plain (v : Value) : Shows store (.leaf v) (.plain v)
  | view {id : Nat} {fields : Params} {own : List Nat} (h : HoldsAt store id fields own) :
      Shows store (.object id) (.view fields)

theorem HoldsIn.shows (h : HoldsIn store slot v own) : Shows store slot (.ofValue v) := by
  cases h with
  | object h => exact .view h
  | @leaf v plain =>
    cases v with
    | mapping => cases plain
    | _ => exact .plain _

theorem Holds.object_of_mapping (h : Holds store slots fields ids)
    (item : Entries.get? fields key = some (.mapping inner)) :
    ∃ id, Entries.get? slots key = some (.object id) := by
  rcases h.get? key with ⟨_, absent⟩ | ⟨slot, v, own, item', stored, holds, _⟩
  · rw [item] at absent
    cases absent
  · obtain rfl := Option.some.inj (item.symm.trans stored)
    cases holds with
    | leaf plain => cases plain
    | object => exact ⟨_, item'⟩

/-- Where a mapping holds another one at a key, it can be replaced by changing that one. -/
theorem HoldsAt.next (h : HoldsAt store id fields own)
    (item : Entries.get? fields key = some (.mapping inner)) :
    ∃ next within, store.get (.object id) key = .ok (.object next) ∧
      HoldsAt store next inner within ∧ next :: within ⊆ own ∧
      ∀ {store' : Store} {new : Params} {own' : List Nat}, Changed (next :: within) store store' →
        HoldsAt store' next new own' → (∀ i ∈ own', i ∈ within ∨ store.length ≤ i) →
        ∃ own₁, HoldsAt store' id (Entries.set fields key (.mapping new)) own₁ ∧
          ∀ i ∈ own₁, i ∈ own ∨ store.length ≤ i := by
  obtain ⟨next, item'⟩ := h.within.object_of_mapping item
  obtain ⟨inner', within, same, holds, sub, replace⟩ := h.within.replace item'
  obtain rfl : inner = inner' := Value.mapping.inj (Option.some.inj (item.symm.trans same))
  refine ⟨next, within, by rw [get, item'], holds, sub,
    @fun store' new own' changed new' grown => ?_⟩
  obtain ⟨ids', holds', grown'⟩ := replace changed new' grown
  have kept : store'.items id = store.items id :=
    changed.same id h.stored fun mem => h.fresh (sub mem)
  refine ⟨ids', ⟨Nat.lt_of_lt_of_le h.stored changed.long, fun mem => ?_, kept ▸ holds'⟩, grown'⟩
  rcases grown' id mem with old | new
  · exact h.fresh old
  · exact Nat.not_le.mpr h.stored new

/-- Keys lead by reference to what holds the mapping that they lead to, and changing that one
changes what the keys lead to. -/
theorem HoldsAt.reaches {keys : List String} (path : Reaches fields keys inner) :
    ∀ {root : Nat} {own : List Nat}, HoldsAt store root fields own →
    ∃ id within, store.reach root keys = .ok (.object id) ∧ HoldsAt store id inner within ∧
      id :: within ⊆ root :: own ∧
      ∀ {store' : Store} {new : Params} {own' : List Nat}, Changed (id :: within) store store' →
        HoldsAt store' id new own' → (∀ i ∈ own', i ∈ within ∨ store.length ≤ i) →
        ∃ own₁, HoldsAt store' root (replaceAt new keys fields) own₁ ∧
          ∀ i ∈ own₁, i ∈ own ∨ store.length ≤ i := by
  induction path with
  | here fields =>
    intro root own holds
    exact ⟨root, own, rfl, holds, List.Subset.refl _, fun _ new grown => ⟨_, new, grown⟩⟩
  | @within fields next inner key keys item _ ih =>
    intro root own holds
    obtain ⟨id₀, own₀, reads, holds₀, sub₀, replace₀⟩ := holds.next item
    obtain ⟨id, within, reached, holds', sub, replace⟩ := ih holds₀
    have reach_eq : store.reach root (key :: keys) = .ok (.object id) := by
      rw [reach, List.foldlM_cons, reads]
      exact reached
    refine ⟨id, within, reach_eq, holds',
      fun i mem => List.mem_cons_of_mem _ (sub₀ (sub mem)),
      @fun store' new own' changed new' grown => ?_⟩
    obtain ⟨own₁, inner₁, grown₁⟩ := replace changed new' grown
    rw [replaceAt_cons item]
    exact replace₀ (changed.mono sub) inner₁ grown₁

/-- Two computations that fail alike, or succeed with results that are related. -/
def Alike {ε α β : Type} (related : α → β → Prop) : Except ε α → Except ε β → Prop
  | .ok a, .ok b => related a b
  | .error e, .error e' => e = e'
  | _, _ => False

theorem Alike.bind {ε α α' β β' : Type} {related : α → α' → Prop} {related' : β → β' → Prop}
    {x : Except ε α} {y : Except ε α'} {f : α → Except ε β} {g : α' → Except ε β'}
    (h : Alike related x y) (rest : ∀ a b, related a b → Alike related' (f a) (g b)) :
    Alike related' (x >>= f) (y >>= g) := by
  cases x <;> cases y
  · exact h
  · exact h.elim
  · exact h.elim
  · exact rest _ _ h

theorem Alike.eq_error {ε α β : Type} {related : α → β → Prop} {x : Except ε α} {e : ε}
    (h : Alike related x (.error e)) : x = .error e := by
  cases x with
  | error => exact congrArg Except.error h
  | ok => exact h.elim

theorem Alike.exists_ok {ε α β : Type} {related : α → β → Prop} {x : Except ε α} {b : β}
    (h : Alike related x (.ok b)) : ∃ a, x = .ok a ∧ related a b := by
  cases x with
  | error => exact h.elim
  | ok a => exact ⟨a, rfl, h⟩

theorem Shows.get {t : Target} (h : Shows store slot t) (key : String) :
    Alike (Shows store) (store.get slot key) (t.get key) := by
  cases h with
  | plain => exact rfl
  | view h =>
    rw [Store.get, Target.get]
    rcases h.within.get? key with ⟨absent, absent'⟩ | ⟨slot, v, _, item, item', holds, _⟩
    · rw [absent, absent']
      exact rfl
    · rw [item, item']
      exact holds.shows

/-- Keys lead to the same by reference, wherever they lead. -/
theorem HoldsAt.reach (h : HoldsAt store id fields own) (keys : List String) :
    Alike (Shows store) (store.reach id keys) (Live.reach fields keys) := by
  have folded : ∀ {slot : Slot} {t : Target}, Shows store slot t →
      Alike (Shows store) (keys.foldlM store.get slot) (keys.foldlM Target.get t) := by
    induction keys with
    | nil => exact fun shows => shows
    | cons key keys ih =>
      intro slot t shows
      rw [List.foldlM_cons, List.foldlM_cons]
      exact (shows.get key).bind fun _ _ next => ih next
  exact folded (.view h)

/-- What an access does to a mapping by reference and to the fields that it holds. -/
inductive Done (store : Store) (id : Nat) (fields : Params) (own : List Nat) :
    Option Slot × Store → Option Value × Params → Prop where
  | read {slot : Slot} {v : Value} (shows : Shows store slot (.ofValue v)) :
      Done store id fields own (some slot, store) (some v, fields)
  | written {store' : Store} {new : Params} {own' : List Nat}
      (changed : Changed (id :: own) store store') (holds : HoldsAt store' id new own')
      (grown : ∀ i ∈ own', i ∈ own ∨ store.length ≤ i) :
      Done store id fields own (none, store') (none, new)

theorem items_modify {store : Store} {id : Nat} (f : Entries Slot → Entries Slot)
    (stored : id < store.length) :
    items (store.modify id f) id = f (store.items id) ∧
      ∀ i ≠ id, items (store.modify id f) i = store.items i := by
  constructor
  · simp [items, stored]
  · intro i distinct
    simp [items, distinct.symm]

/-- A mapping is written to in a store that has grown. -/
theorem HoldsAt.write (h : HoldsAt store id fields own) (more : Store)
    (f : Entries Slot → Entries Slot) {new : Params} {ids : List Nat}
    (holds : Holds (store ++ more) (f (store.items id)) new ids)
    (grown : ∀ i ∈ ids, i ∈ own ∨ store.length ≤ i) :
    Done store id fields own (none, (store ++ more).modify id f) (none, new) := by
  have stored : id < (store ++ more).length := by
    rw [List.length_append]
    exact Nat.lt_add_right _ h.stored
  obtain ⟨here, elsewhere⟩ := items_modify f stored
  have other : ∀ i ∈ ids, i ≠ id := by
    rintro i mem rfl
    exact (grown i mem).elim h.fresh (Nat.not_le.mpr h.stored)
  refine .written ⟨by simp, fun i old distinct => ?_⟩
    ⟨by simpa using stored, fun mem => other id mem rfl, ?_⟩ grown
  · rw [elsewhere i fun same => distinct (same ▸ List.mem_cons_self), items_append store more old]
  · rw [here, items_append store more h.stored]
    exact holds.frame (by simp) fun i mem => elsewhere i (other i mem)

theorem HoldsAt.apply (h : HoldsAt store id fields own) (access : Access) :
    Alike (Done store id fields own) (store.apply (.object id) access) (access.apply fields) := by
  cases access with
  | get key =>
    rw [Store.apply, Store.get, Access.apply]
    rcases h.within.get? key with ⟨absent, absent'⟩ | ⟨slot, v, _, item, item', holds, _⟩
    · rw [absent, absent']
      exact rfl
    · rw [item, item']
      exact .read holds.shows
  | set key value =>
    obtain ⟨more, new, grown, holds, fresh⟩ := exists_alloc store value
    rw [grown] at holds
    have kept : Holds (store ++ more) (store.items id) fields own :=
      h.within.frame (by simp) fun i mem => items_append store more (h.within.lt i mem)
    have apart : ∀ i ∈ new, i ∉ own := fun i mem old =>
      Nat.not_le.mpr (h.within.lt i old) (fresh i mem)
    obtain ⟨ids, holds', sub⟩ := kept.set holds apart key
    have written := h.write more (Entries.set · key (store.alloc value).1) holds' fun i mem =>
      (sub i mem).symm.imp_right (fresh i)
    rw [← grown] at written
    exact written
  | erase key =>
    rw [Store.apply, Access.apply]
    obtain ⟨ids, holds, sub⟩ := h.within.erase key
    rw [← List.append_nil store] at holds
    have written := h.write [] (Entries.erase · key) (by simpa using holds) fun i mem =>
      .inl (sub mem)
    rw [List.append_nil] at written
    have same : Entries.contains (store.items id) key = Entries.contains fields key := by
      rw [Entries.contains, Entries.contains]
      rcases h.within.get? key with ⟨absent, absent'⟩ | ⟨_, _, _, item, item', _⟩
      · rw [absent, absent']
        rfl
      · rw [item, item']
        rfl
    rw [same]
    split
    next => exact written
    next => exact rfl

/-- A reply shows the same by reference. -/
inductive ShowsReply (store : Store) : Option Slot → Reply → Prop where
  | nothing : ShowsReply store none .nothing
  | target {slot : Slot} {t : Target} (shows : Shows store slot t) :
      ShowsReply store (some slot) (.target t)

/-- What is seen of a visit by reference is what is seen of it otherwise, and the root mapping holds
the data. -/
structure Agrees (root : Nat) (s : Seen) (t : Live.Seen) : Prop where
  reply : Alike (ShowsReply s.store) s.reply t.reply
  changes : s.changes = t.changes
  data : ∃ own, HoldsAt s.store root t.data own

theorem HoldsAt.agrees_of_error {root : Nat} {data : Params} (h : HoldsAt store root data own)
    {v : Visit} {error : AccessError}
    (fails : store.reach root v.path >>= (store.apply · v.access) = .error error)
    (fails' : v.access.applyAt v.path data = .error error) :
    Agrees root (visit root store v) (v.expected data) := by
  rw [visit.eq_def, fails, Visit.expected, fails']
  exact ⟨rfl, rfl, own, h⟩

/-- One visit keeps the root mapping holding the data. -/
theorem HoldsAt.agrees {root : Nat} {data : Params} (h : HoldsAt store root data own) (v : Visit) :
    Agrees root (visit root store v) (v.expected data) := by
  have reached := h.reach v.path
  rcases reaches_or_fails v.path data with
    ⟨inner, reaches⟩ | ⟨error, fails, unreached | ⟨rfl, w, plain⟩⟩
  · obtain ⟨id, within, leads, holds, _, replace⟩ := h.reaches reaches
    have applied := reaches.applyAt_eq v.access
    have byReference : store.reach root v.path >>= (store.apply · v.access) =
        store.apply (.object id) v.access := by
      rw [leads]
      rfl
    have alike := holds.apply v.access
    cases result : v.access.apply inner with
    | error e =>
      rw [result] at alike applied
      exact h.agrees_of_error (byReference.trans alike.eq_error) applied
    | ok result' =>
      rw [result] at alike applied
      obtain ⟨_, done, outcome⟩ := alike.exists_ok
      rw [done] at byReference
      rw [visit.eq_def, byReference, Visit.expected, applied]
      cases outcome with
      | read shows => exact ⟨.target shows, rfl, own, h⟩
      | written changed holds grown =>
        obtain ⟨own', holds', _⟩ := replace changed holds grown
        exact ⟨.nothing, rfl, own', holds'⟩
  · rw [unreached] at reached
    refine h.agrees_of_error ?_ (fails v.access)
    rw [reached.eq_error]
    rfl
  · rw [plain] at reached
    obtain ⟨slot, leads, shows⟩ := reached.exists_ok
    refine h.agrees_of_error ?_ (fails v.access)
    rw [leads]
    cases shows
    cases v.access <;> rfl

/-- All visits one after another keep it so. -/
theorem HoldsAt.agrees_run {root : Nat} : ∀ (visits : List Visit) {store : Store} {data : Params}
    {own : List Nat}, HoldsAt store root data own →
    List.Forall₂ (Agrees root) (run root store visits) (Visit.run Visit.expected data visits)
  | [], _, _, _, _ => .nil
  | v :: visits, _, _, _, h => by
    have first := h.agrees v
    obtain ⟨_, holds⟩ := first.data
    exact .cons first (holds.agrees_run visits)

end Store

/-- Visits through views see what accesses to plain mappings within mappings give: a read gives a
view exactly of a mapping and leaves the data, and each write that succeeds is one change. Views
that refer to mappings of a store, which is stored anew only when a value is assigned, see the
same, and the store holds the same data after each visit. -/
theorem views_refine_mappings (data : Params) (visits : List Visit) :
    Visit.run Visit.seen data visits = Visit.run Visit.expected data visits ∧
    ∃ root, (Store.alloc [] (.mapping data)).1 = .object root ∧
      List.Forall₂ (Store.Agrees root)
        (Store.run root (Store.alloc [] (.mapping data)).2 visits)
        (Visit.run Visit.seen data visits) := by
  have same : Visit.seen = Visit.expected := by
    funext data visit
    exact visit.seen_eq_expected data
  obtain ⟨_, own, _, holds, _⟩ := Store.exists_alloc [] (.mapping data)
  rw [same]
  refine ⟨rfl, ?_⟩
  generalize (Store.alloc [] (.mapping data)).1 = slot at holds
  cases holds with
  | object holds => exact ⟨_, rfl, holds.agrees_run visits⟩
  | leaf plain => cases plain

end PageComponent.Live
