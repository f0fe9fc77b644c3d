import PageComponent.Proofs.Live.Runs

/-!
# Debouncing

A change cancels the timer of the change before it, so that no more than one is outstanding and a
burst of changes costs one render. A start is the exception: while a render waits, it fires without
cancelling the timer.
-/

namespace PageComponent.Live

open Renderer

/-! ## One timer -/

/-- No timer is outstanding but the one that the next change cancels. -/
inductive OneTimer (r : Renderer) : Prop where
  | idle (timers : r.timers = []) (current : r.current = none)
  | armed (t : Timer) (timers : r.timers = [t]) (current : r.current = some t.id)

namespace OneTimer

variable {r r' : Renderer}

theorem of_eq (h : OneTimer r) (timers : r'.timers = r.timers) (current : r'.current = r.current) :
    OneTimer r' := by
  cases h with
  | idle ht hc => exact .idle (timers.trans ht) (current.trans hc)
  | armed t ht hc => exact .armed t (timers.trans ht) (current.trans hc)

theorem length_le (h : OneTimer r) : r.timers.length ≤ 1 := by
  cases h with
  | idle timers => simp [timers]
  | armed t timers => simp [timers]

theorem length_eq (h : OneTimer r) (outstanding : r.timers ≠ []) : r.timers.length = 1 :=
  Nat.le_antisymm h.length_le (List.length_pos_iff.mpr outstanding)

theorem pending_iff (h : OneTimer r) : r.pending = true ↔ r.timers ≠ [] := by
  cases h with
  | idle timers current => simp [pending, timers, current]
  | armed t timers current => simp [pending, timers, current]

theorem timers_of_idle (h : OneTimer r) (calm : r.pending = false) : r.timers = [] := by
  cases h with
  | idle timers current => exact timers
  | armed t timers current => simp [pending, current] at calm

theorem cancel_timers (h : OneTimer r) : r.cancel.timers = [] := by
  rw [cancel_eq]
  cases h with
  | idle timers current => simp [timers]
  | armed t timers current => simp [timers, current]

theorem dropTimer_timers (h : OneTimer r) {t : Timer} (mem : t ∈ r.timers) :
    (r.dropTimer t.id).timers = [] := by
  cases h with
  | idle timers =>
    rw [timers] at mem
    exact (List.not_mem_nil mem).elim
  | armed t' timers =>
    rw [timers] at mem
    simp [dropTimer, timers, List.mem_singleton.mp mem]

theorem schedule_timers (h : OneTimer r) (isOpen : r.closed = false) (now : Nat) :
    (r.schedule now).timers = [⟨r.nextTimer, now + r.debounce⟩] := by
  have dropped := h.cancel_timers
  rw [cancel_eq] at dropped
  rw [schedule_of_open now isOpen]
  exact congrArg (· ++ _) dropped

theorem schedule (h : OneTimer r) (now : Nat) : OneTimer (r.schedule now) := by
  cases closed : r.closed with
  | true =>
    rw [schedule_of_closed now closed]
    exact h
  | false =>
    refine .armed _ (h.schedule_timers closed now) ?_
    rw [schedule_of_open now closed]

end OneTimer

variable {renders : Params → Option RenderedOutput → Prop} {now : Nat} {r r' : Renderer}
  {a : Action} {data : Params} {debounce : Nat} {trace : List Moment}

theorem Does.oneTimer (does : Does renders now r a r') (h : OneTimer r)
    (start : a = .start → r.pending = false) : OneTimer r' := by
  cases does with
  | write data writes =>
    refine OneTimer.schedule ?_ now
    exact h.of_eq rfl rfl
  | operate | remove | idle => exact h
  | start =>
    have timers := h.timers_of_idle (start rfl)
    exact .idle ((fire_timers r).trans timers) (fire_current r)
  | flush pending => exact .idle ((fire_timers _).trans h.cancel_timers) (fire_current _)
  | close => exact .idle h.cancel_timers (cancel_current r)
  | timer t mem due =>
    exact .idle ((fire_timers _).trans (h.dropTimer_timers mem)) (fire_current _)
  | finish task mem output result => exact h.of_eq (finish_timers ..) (finish_current ..)

theorem Run.oneTimer (run : Run renders (Renderer.initial data debounce) trace r)
    (start : ∀ m ∈ trace, m.action = .start → m.before.pending = false) : OneTimer r := by
  induction run with
  | nil => exact .idle rfl rfl
  | cons run clock enabled ih =>
    obtain ⟨startNow, startBefore⟩ := List.forall_mem_cons.mp start
    exact (does_apply renders enabled).oneTimer (ih startBefore) startNow

theorem Run.oneTimer_states (run : Run renders (Renderer.initial data debounce) trace r)
    (start : ∀ m ∈ trace, m.action = .start → m.before.pending = false) :
    ∀ s ∈ r :: trace.map Moment.before, OneTimer s := by
  intro s mem
  rcases List.mem_cons.mp mem with rfl | mem
  · exact run.oneTimer start
  · obtain ⟨m, mem', rfl⟩ := List.mem_map.mp mem
    obtain ⟨later, earlier, rfl⟩ := List.append_of_mem mem'
    refine run.earlier.1.oneTimer fun m' mem' => start m' ?_
    exact List.mem_append_right _ (List.mem_cons_of_mem _ mem')

/-! ## What a render is preceded by -/

/-- There has been a change, and no render has been fired since. -/
def Prompted (trace : List Moment) : Prop :=
  ∃ since w before, trace = since ++ w :: before ∧ w.Writes ∧ ∀ m ∈ since, ¬m.Fires

theorem prompted_of_writes {m : Moment} (writes : m.Writes) : Prompted (m :: trace) :=
  ⟨[], m, trace, rfl, writes, fun _ mem => (List.not_mem_nil mem).elim⟩

theorem Prompted.cons (h : Prompted trace) {m : Moment} (calm : ¬m.Fires) :
    Prompted (m :: trace) := by
  obtain ⟨since, w, before, rfl, writes, quiet⟩ := h
  refine ⟨m :: since, w, before, rfl, writes, ?_⟩
  intro m' mem
  rcases List.mem_cons.mp mem with rfl | mem
  · exact calm
  · exact quiet m' mem

/-- Only a change brings a timer, and only with a render does one go off. -/
theorem Does.timers (does : Does renders now r a r') (h : OneTimer r)
    (start : a = .start → r.pending = false) :
    a.Writes r ∨ r'.timers = [] ∨ (r'.timers = r.timers ∧ r'.generation = r.generation) := by
  cases does with
  | write data writes => exact .inl writes
  | operate | remove | idle => exact .inr (.inr ⟨rfl, rfl⟩)
  | start => exact .inr (.inl ((fire_timers r).trans (h.timers_of_idle (start rfl))))
  | flush pending => exact .inr (.inl ((fire_timers _).trans h.cancel_timers))
  | close => exact .inr (.inl h.cancel_timers)
  | timer t mem due => exact .inr (.inl ((fire_timers _).trans (h.dropTimer_timers mem)))
  | finish task mem output result =>
    exact .inr (.inr ⟨finish_timers .., finish_generation ..⟩)

/-- While a timer is outstanding, there has been a change since the last render was fired. -/
theorem Run.prompted (run : Run renders (Renderer.initial data debounce) trace r)
    (start : ∀ m ∈ trace, m.action = .start → m.before.pending = false)
    (outstanding : r.timers ≠ []) : Prompted trace := by
  induction run with
  | nil => exact absurd rfl outstanding
  | cons run clock enabled ih =>
    obtain ⟨startNow, startBefore⟩ := List.forall_mem_cons.mp start
    rcases (does_apply renders enabled).timers (run.oneTimer startBefore) startNow with
      writes | timers | ⟨timers, generation⟩
    · exact prompted_of_writes writes
    · exact absurd timers outstanding
    · rw [timers] at outstanding
      exact (ih startBefore outstanding).cons fun fires => fires generation

/-! ## Bursts -/

/-- A burst: first a change, and then nothing but what happens before the window of some change in
it is over. No render is asked for on the way. -/
inductive Burst (window : Nat) : List Moment → Prop where
  | first (m : Moment) (writes : m.Writes) : Burst window [m]
  | next {trace : List Moment} (burst : Burst window trace) (m w : Moment) (mem : w ∈ trace)
      (writes : w.Writes) (within : m.now < w.now + window)
      (calm : m.action ≠ .start ∧ m.action ≠ .flush ∧ m.action ≠ .close) :
      Burst window (m :: trace)

theorem Does.of_writes (does : Does renders now r a r') (writes : a.Writes r) :
    ∃ data, r' = ({ r with data } : Renderer).schedule now := by
  cases does with
  | write data => exact ⟨data, rfl⟩
  | operate keys op idle => exact absurd writes idle
  | remove path idle => exact absurd writes idle
  | start | flush | idle | close | timer | finish => exact writes.elim

/-- In a burst that began at `s`, one render waits until the last change is a window away. -/
structure Waits (s : Renderer) (trace : List Moment) (t : Timer) (r : Renderer) : Prop where
  timers : r.timers = [t]
  current : r.current = some t.id
  isOpen : r.closed = false
  debounce : r.debounce = s.debounce
  generation : r.generation = s.generation
  deadline : ∀ w ∈ trace, w.Writes → w.now + s.debounce ≤ t.deadline

namespace Waits

variable {s : Renderer} {t : Timer}

theorem schedule (one : OneTimer r) (isOpen : r.closed = false) (debounce : r.debounce = s.debounce)
    (generation : r.generation = s.generation) (past : ∀ m ∈ trace, m.now ≤ now) :
    Waits s trace ⟨r.nextTimer, now + r.debounce⟩ (r.schedule now) where
  timers := one.schedule_timers isOpen now
  current := by rw [schedule_of_open now isOpen]
  isOpen := (schedule_closed now r).trans isOpen
  debounce := (schedule_debounce now r).trans debounce
  generation := (schedule_generation now r).trans generation
  deadline := fun w mem _ => Nat.add_le_add (past w mem) (Nat.le_of_eq debounce.symm)

theorem oneTimer (h : Waits s trace t r) : OneTimer r :=
  .armed t h.timers h.current

/-- Before its time has come, only a change disturbs the timer. -/
theorem next (h : Waits s trace t r) (does : Does renders now r a r') (asks : ¬a.Writes r)
    (calm : a ≠ .start ∧ a ≠ .flush ∧ a ≠ .close) (early : now < t.deadline) :
    Waits s (⟨now, r, a⟩ :: trace) t r' := by
  have deadline : ∀ w ∈ (⟨now, r, a⟩ :: trace : List Moment), w.Writes →
      w.now + s.debounce ≤ t.deadline := by
    intro w mem writes
    rcases List.mem_cons.mp mem with rfl | mem
    · exact absurd writes asks
    · exact h.deadline w mem writes
  obtain ⟨start, flush, close⟩ := calm
  cases does with
  | write data writes => exact absurd writes asks
  | operate | remove => exact { h with deadline }
  | start => exact absurd rfl start
  | flush | idle => exact absurd rfl flush
  | close => exact absurd rfl close
  | timer t' mem due =>
    rw [h.timers, List.mem_singleton] at mem
    rw [mem] at due
    exact absurd early (Nat.not_lt.mpr due)
  | finish task mem output result =>
    exact {
      timers := (finish_timers ..).trans h.timers
      current := (finish_current ..).trans h.current
      isOpen := (finish_closed ..).trans h.isOpen
      debounce := (finish_debounce ..).trans h.debounce
      generation := (finish_generation ..).trans h.generation
      deadline }

end Waits

theorem Burst.waits {s : Renderer} (burst : Burst s.debounce trace) (run : Run renders s trace r)
    (one : OneTimer s) (isOpen : s.closed = false) : ∃ t, Waits s trace t r := by
  induction burst generalizing r with
  | first m writes =>
    cases run with
    | cons run clock enabled =>
      cases run
      -- Whatever waited when the burst began is cancelled here.
      obtain ⟨data, eq⟩ := (does_apply renders enabled).of_writes writes
      rw [eq]
      refine ⟨_, .schedule (one.of_eq rfl rfl) isOpen rfl rfl ?_⟩
      exact fun m mem => Nat.le_of_eq (congrArg Moment.now (List.mem_singleton.mp mem))
  | next burst m w mem writes within calm ih =>
    cases run with
    | @cons _ r run now a clock enabled =>
      obtain ⟨t, waits⟩ := ih run
      by_cases asks : a.Writes r
      · obtain ⟨data, eq⟩ := (does_apply renders enabled).of_writes asks
        rw [eq]
        refine ⟨_, .schedule (waits.oneTimer.of_eq rfl rfl) waits.isOpen waits.debounce
          waits.generation ?_⟩
        intro m' mem'
        rcases List.mem_cons.mp mem' with rfl | mem'
        · exact Nat.le_refl _
        · exact run.now_le clock m' mem'
      · exact ⟨t, waits.next (does_apply renders enabled) asks calm
          (Nat.lt_of_lt_of_le within (waits.deadline w mem writes))⟩

/-- Renders fired and renders waiting: without a change, a start or a close, together they stay as
many as they are. -/
theorem Does.balance (does : Does renders now r a r') (one : OneTimer r)
    (isOpen : r.closed = false) (asks : ¬(⟨now, r, a⟩ : Moment).Requests) (close : a ≠ .close) :
    r'.generation + r'.timers.length = r.generation + r.timers.length := by
  cases does with
  | write data writes => exact absurd (.inl writes) asks
  | operate | remove | idle => rfl
  | start => exact absurd (.inr rfl) asks
  | flush pending =>
    have outstanding := one.length_eq (one.pending_iff.mp pending)
    rw [fire_timers, one.cancel_timers, fire_generation ((cancel_closed r).trans isOpen),
      cancel_generation, outstanding]
    rfl
  | close => exact absurd rfl close
  | timer t mem due =>
    have outstanding := one.length_eq (List.ne_nil_of_mem mem)
    have isOpen' : (r.dropTimer t.id).closed = false := isOpen
    rw [fire_timers, one.dropTimer_timers mem, fire_generation isOpen', outstanding]
    rfl
  | finish task mem output result => rw [finish_generation, finish_timers]

theorem Burst.balance {s : Renderer} {burst rest : List Moment} (h : Burst s.debounce burst)
    (run : Run renders s (rest ++ burst) r) (one : OneTimer s) (isOpen : s.closed = false)
    (calm : ∀ m ∈ rest, ¬m.Requests ∧ m.action ≠ .close) :
    OneTimer r ∧ r.closed = false ∧ r.generation + r.timers.length = s.generation + 1 := by
  induction rest generalizing r with
  | nil =>
    obtain ⟨t, waits⟩ := h.waits run one isOpen
    refine ⟨waits.oneTimer, waits.isOpen, ?_⟩
    rw [waits.generation, waits.timers]
    rfl
  | cons m rest ih =>
    cases run with
    | cons run clock enabled =>
      obtain ⟨⟨asks, close⟩, calmBefore⟩ := List.forall_mem_cons.mp calm
      obtain ⟨one', isOpen', balance⟩ := ih run calmBefore
      have does := does_apply renders enabled
      refine ⟨does.oneTimer one' fun start => absurd (.inr start) asks, ?_, ?_⟩
      · exact (does.closed close).trans isOpen'
      · exact (does.balance one' isOpen' asks close).trans balance

/-! ## Debouncing -/

/-- What debouncing promises of a run and of what may follow on it. -/
structure Debounced (renders : Params → Option RenderedOutput → Prop) (trace : List Moment)
    (r : Renderer) : Prop where
  /-- At most one timer is outstanding, and one is exactly when a render waits. -/
  oneTimer : ∀ s ∈ r :: trace.map Moment.before,
    s.timers.length ≤ 1 ∧ (s.pending = true ↔ s.timers ≠ [])
  /-- A timer fires no render unless there has been a change since the last render was fired. -/
  prompted : ∀ later m earlier id, trace = later ++ m :: earlier → m.action = .timer id →
    m.Fires → Prompted earlier
  /-- A burst costs one render. -/
  coalesced : ∀ s ∈ r :: trace.map Moment.before, s.closed = false →
    ∀ burst rest r', Burst s.debounce burst → Run renders s (rest ++ burst) r' →
      (∀ m ∈ rest, ¬m.Requests ∧ m.action ≠ .close) → r'.timers = [] →
      r'.generation = s.generation + 1

/-- A run is debounced as long as nothing is started while a render waits, and no longer. -/
theorem debounced_iff (run : Run renders (Renderer.initial data debounce) trace r) :
    Debounced renders trace r ↔
      ∀ m ∈ trace, m.action = .start → m.before.pending = false := by
  constructor
  · intro debounced m mem start
    have before := debounced.oneTimer m.before (List.mem_cons_of_mem _ (List.mem_map_of_mem mem))
    have after := debounced.oneTimer m.after (run.after_mem mem)
    rw [Moment.after, start] at after
    have fired := after.2
    simp only [Action.apply, pending, fire_current, Option.isSome_none, fire_timers] at fired
    cases h : m.before.pending with
    | false => rfl
    | true => exact absurd (fired.mpr (before.2.mp h)) Bool.false_ne_true
  · intro start
    have states := run.oneTimer_states start
    refine ⟨fun s mem => ⟨(states s mem).length_le, (states s mem).pending_iff⟩, ?_, ?_⟩
    · rintro later m earlier id rfl timer fires
      obtain ⟨before, enabled⟩ := run.earlier
      rw [timer] at enabled
      obtain ⟨t, mem, -, -⟩ := enabled
      refine before.prompted (fun m' mem' => start m' ?_) (List.ne_nil_of_mem mem)
      exact List.mem_append_right _ (List.mem_cons_of_mem _ mem')
    · intro s mem isOpen burst rest r' h run' calm timers
      obtain ⟨-, -, balance⟩ := h.balance run' (states s mem) isOpen calm
      rw [timers] at balance
      exact balance

theorem not_debounced_of_start :
    let written := (Renderer.initial [] 100).patch 0 "title" (.text "Hello")
    let trace : List Moment :=
      [⟨0, written, .start⟩, ⟨0, .initial [] 100, .patch "title" (.text "Hello")⟩]
    ¬Debounced (fun _ _ => True) trace written.fire := by
  intro written trace debounced
  -- The timer of the patch stays where it is, and no longer counts as pending.
  have patched : Run (fun _ _ => True) (.initial [] 100)
      [⟨0, .initial [] 100, .patch "title" (.text "Hello")⟩] written :=
    .cons .nil (by simp) trivial
  have started : Run (fun _ _ => True) (.initial [] 100) trace written.fire :=
    patched.cons (by simp) trivial
  have pending := (debounced_iff started).mp debounced ⟨0, written, .start⟩ (.head _) rfl
  exact absurd pending Bool.false_ne_true.symm

end PageComponent.Live
