/-!
# Computations that may fail

A computation in steps succeeds exactly when each of its steps does, and fails exactly when a step
that is reached fails.
-/

namespace PageComponent

variable {ε α β : Type}

theorem bind_eq_ok {x : Except ε α} {f : α → Except ε β} {b : β} :
    x >>= f = .ok b ↔ ∃ a, x = .ok a ∧ f a = .ok b := by
  cases x with
  | error e => exact ⟨nofun, nofun⟩
  | ok a =>
    constructor
    · exact fun h => ⟨a, rfl, h⟩
    · rintro ⟨a', h, hf⟩
      cases h
      exact hf

theorem map_eq_ok {f : α → β} {x : Except ε α} {b : β} :
    f <$> x = .ok b ↔ ∃ a, x = .ok a ∧ f a = b := by
  cases x with
  | error e => exact ⟨nofun, nofun⟩
  | ok a =>
    constructor
    · intro h
      exact ⟨a, rfl, Except.ok.inj h⟩
    · rintro ⟨a', h, rfl⟩
      cases h
      rfl

def Fails (x : Except ε α) : Prop :=
  ∃ e, x = .error e

theorem not_fails_ok (a : α) : ¬Fails (.ok a : Except ε α) := by
  rintro ⟨e, h⟩
  cases h

theorem not_fails_iff {x : Except ε α} : ¬Fails x ↔ ∃ a, x = .ok a := by
  cases x with
  | error e => exact ⟨fun h => absurd ⟨e, rfl⟩ h, nofun⟩
  | ok a => exact ⟨fun _ => ⟨a, rfl⟩, fun _ => not_fails_ok a⟩

theorem fails_bind {x : Except ε α} {f : α → Except ε β} :
    Fails (x >>= f) ↔ Fails x ∨ ∃ a, x = .ok a ∧ Fails (f a) := by
  cases x with
  | error e => exact ⟨fun _ => .inl ⟨e, rfl⟩, fun _ => ⟨e, rfl⟩⟩
  | ok a =>
    constructor
    · exact fun h => .inr ⟨a, rfl, h⟩
    · rintro (h | ⟨a', h, fails⟩)
      · exact absurd h (not_fails_ok a)
      · cases h
        exact fails

theorem fails_map {x : Except ε α} (f : α → β) : Fails (f <$> x) ↔ Fails x := by
  cases x with
  | error e => exact ⟨fun _ => ⟨e, rfl⟩, fun _ => ⟨e, rfl⟩⟩
  | ok a => exact iff_of_false (not_fails_ok (f a)) (not_fails_ok a)

/-- The failure of a second step that does not depend on the first. -/
theorem fails_bind_of_iff {x : Except ε α} {f : α → Except ε β} {bad : Prop}
    (second : ∀ a, Fails (f a) ↔ bad) : Fails (x >>= f) ↔ Fails x ∨ bad := by
  rw [fails_bind]
  constructor
  · rintro (first | ⟨a, _, fails⟩)
    · exact .inl first
    · exact .inr ((second a).mp fails)
  · intro h
    by_cases first : Fails x
    · exact .inl first
    · obtain ⟨a, done⟩ := not_fails_iff.mp first
      exact .inr ⟨a, done, (second a).mpr (h.resolve_left first)⟩

/-- A last step that cannot fail does not matter. -/
theorem fails_bind_of_total {x : Except ε α} {f : α → Except ε β} (total : ∀ a, ¬Fails (f a)) :
    Fails (x >>= f) ↔ Fails x := by
  rw [fails_bind_of_iff fun a => iff_false_intro (total a), or_false]

theorem fails_foldlM {f : β → α → Except ε β} {bad : α → Prop}
    (step : ∀ b a, Fails (f b a) ↔ bad a) :
    ∀ (as : List α) (b : β), Fails (as.foldlM f b) ↔ ∃ a ∈ as, bad a
  | [], b => iff_of_false (not_fails_ok b) (by simp)
  | a :: as, b => by
    rw [List.foldlM_cons, fails_bind_of_iff (fails_foldlM step as), step]
    simp only [List.mem_cons, exists_eq_or_imp]

theorem fails_mapM {f : α → Except ε β} :
    ∀ as : List α, Fails (as.mapM f) ↔ ∃ a ∈ as, Fails (f a)
  | [] => iff_of_false (not_fails_ok []) (by simp)
  | a :: as => by
    have others (b : β) : Fails (do return b :: (← as.mapM f)) ↔ ∃ a ∈ as, Fails (f a) :=
      (fails_bind_of_total fun _ => not_fails_ok _).trans (fails_mapM as)
    rw [List.mapM_cons, fails_bind_of_iff others]
    simp only [List.mem_cons, exists_eq_or_imp]

end PageComponent
