import PageComponent.Proofs.Live.Sessions

/-!
# Closing

A renderer that is closed waits for the renders that are on their way, and once the last of them
has ended, closing is over. Whatever is done to the renderer from then on, and whatever timers are
left, no render is fired, none ends and none waits for its time.
-/

namespace PageComponent.Live

open Renderer

variable {renders : Params → Option RenderedOutput → Prop} {now : Nat} {r r' s : Renderer}
  {a : Action} {data : Params} {debounce : Nat} {trace : List Moment}

/-! ## Renderers -/

theorem Renderer.pending_of_current (current : r.current = none) : r.pending = false := by
  rw [pending, current]
  rfl

/-- No render waits for its time once the renderer is closed. -/
theorem Does.pending_of_closed (does : Does renders now r a r')
    (calm : r.closed = true → r.pending = false) (closed : r'.closed = true) :
    r'.pending = false := by
  cases does with
  | write data writes =>
    rw [schedule_closed] at closed
    rw [schedule_of_closed now closed]
    exact calm closed
  | operate | remove | idle => exact calm closed
  | start => exact pending_of_current (fire_current r)
  | flush pending => exact pending_of_current (fire_current _)
  | close => exact pending_of_current (cancel_current r)
  | timer t mem due => exact pending_of_current (fire_current _)
  | finish task mem output result =>
    rw [finish_closed] at closed
    rw [pending, finish_current]
    exact calm closed

theorem Run.pending_of_closed (run : Run renders (Renderer.initial data debounce) trace r) :
    r.closed = true → r.pending = false := by
  induction run with
  | nil => exact nofun
  | cons run clock enabled ih => exact (does_apply renders enabled).pending_of_closed ih

theorem Does.closed_of_closed (does : Does renders now r a r') (closed : r.closed = true) :
    r'.closed = true := by
  by_cases close : a = .close
  · subst close
    cases does with
    | write data writes => exact writes.elim
    | close => rfl
  · rw [does.closed close, closed]

theorem Run.closed_of_close (run : Run renders (Renderer.initial data debounce) trace r)
    (close : ∃ m ∈ trace, m.action = .close) : r.closed = true := by
  induction run with
  | nil =>
    obtain ⟨m, mem, -⟩ := close
    exact (List.not_mem_nil mem).elim
  | cons run clock enabled ih =>
    obtain ⟨m, mem, close⟩ := close
    rcases List.mem_cons.mp mem with rfl | mem
    · obtain rfl : _ = Action.close := close
      rfl
    · exact (does_apply renders enabled).closed_of_closed (ih ⟨m, mem, close⟩)

/-- Closing is over: nothing waits, and nothing is on its way. -/
structure AtRest (r : Renderer) : Prop where
  closed : r.closed = true
  pending : r.pending = false
  inFlight : r.inFlight = []

/-- Closing is over, and the renders are those that they were. -/
structure Rests (r r' : Renderer) : Prop extends AtRest r' where
  generation : r'.generation = r.generation
  lastOutput : r'.lastOutput = r.lastOutput
  renderCount : r'.renderCount = r.renderCount

namespace AtRest

theorem rests (still : AtRest r) : Rests r r :=
  ⟨still, rfl, rfl, rfl⟩

/-- What else an operation changes, it leaves the renders alone. -/
theorem rests_of_eq (still : AtRest r) (closed : r'.closed = true) (current : r'.current = none)
    (inFlight : r'.inFlight = r.inFlight) (generation : r'.generation = r.generation)
    (lastOutput : r'.lastOutput = r.lastOutput) (renderCount : r'.renderCount = r.renderCount) :
    Rests r r' where
  closed := closed
  pending := pending_of_current current
  inFlight := inFlight.trans still.inFlight
  generation := generation
  lastOutput := lastOutput
  renderCount := renderCount

theorem current (still : AtRest r) : r.current = none :=
  Option.isNone_iff_eq_none.mp (Option.isSome_eq_false_iff.mp still.pending)

theorem rests_change (still : AtRest r) (now : Nat) (data : Params) (changes : Nat) :
    Rests r (r.change now data changes) := by
  have closed : ({ r with data } : Renderer).closed = true := still.closed
  rw [change]
  split
  next => exact still.rests_of_eq closed still.current rfl rfl rfl rfl
  next =>
    rw [schedule_of_closed now closed]
    exact still.rests_of_eq closed still.current rfl rfl rfl rfl

theorem rests_fire (still : AtRest r) : Rests r r.fire := by
  rw [fire_of_closed still.closed]
  exact still.rests_of_eq still.closed rfl rfl rfl rfl rfl

theorem rests_fireTimer (still : AtRest r) (id : Nat) : Rests r (r.fireTimer id) := by
  have closed : (r.dropTimer id).closed = true := still.closed
  rw [fireTimer, fire_of_closed closed]
  exact still.rests_of_eq still.closed rfl rfl rfl rfl rfl

theorem rests_flush (still : AtRest r) : Rests r r.flush := by
  rw [Renderer.flush, still.pending]
  exact still.rests

theorem rests_close (still : AtRest r) : Rests r r.close := by
  rw [close, cancel_eq]
  exact still.rests_of_eq rfl rfl rfl rfl rfl rfl

theorem rests_remove (still : AtRest r) (now : Nat) (path : String) :
    Rests r (r.remove now path).2 := by
  rw [remove]
  split
  next => exact still.rests_change now _ 1
  next => exact still.rests

theorem rests_apply (still : AtRest r) (enabled : a.Enabled renders now r) :
    Rests r (a.apply now r) := by
  cases a with
  | operate keys op =>
    rw [Action.apply]
    split
    next => exact still.rests_change now _ _
    next => exact still.rests
  | held | patch => exact still.rests_change now _ 1
  | remove path => exact still.rests_remove now path
  | start => exact still.rests_fire
  | flush => exact still.rests_flush
  | close => exact still.rests_close
  | timer id => exact still.rests_fireTimer id
  | finish generation output =>
    obtain ⟨task, mem, -⟩ := enabled
    rw [still.inFlight] at mem
    exact (List.not_mem_nil mem).elim

end AtRest

theorem Rests.trans {r'' : Renderer} (h : Rests r r') (h' : Rests r' r'') : Rests r r'' where
  toAtRest := h'.toAtRest
  generation := h'.generation.trans h.generation
  lastOutput := h'.lastOutput.trans h.lastOutput
  renderCount := h'.renderCount.trans h.renderCount

/-- What the rest of a run does to the renders behind `s`: nothing. -/
structure Silent (s : Renderer) (trace : List Moment) (r : Renderer) : Prop where
  rests : ∀ t ∈ r :: trace.map Moment.before, Rests s t
  /-- No render is fired, and no result is accepted. -/
  firings : firings trace = []
  accepted : accepted trace = []
  /-- No render ends, be it with an output or without. -/
  endings : ∀ m ∈ trace, ∀ generation output, m.action ≠ .finish generation output

theorem AtRest.silent (still : AtRest s) (run : Run renders s trace r) : Silent s trace r := by
  induction run with
  | nil =>
    exact ⟨fun t mem => List.mem_singleton.mp mem ▸ still.rests, rfl, rfl, fun _ mem =>
      (List.not_mem_nil mem).elim⟩
  | @cons trace r run now a clock enabled ih =>
    -- Every step starts from a renderer at rest, so none of them finds a render to end.
    have before := ih.rests r List.mem_cons_self
    have step := before.toAtRest.rests_apply enabled
    constructor
    · intro t mem
      rcases List.mem_cons.mp mem with rfl | mem
      · exact before.trans step
      · exact ih.rests t mem
    · rw [firings_cons, ih.firings, fired?_of_eq (m := ⟨now, r, a⟩) step.generation]
      rfl
    · rw [accepted_cons, ih.accepted, accepted?_of_eq (m := ⟨now, r, a⟩) step.renderCount]
      rfl
    · intro m mem generation output ends
      rcases List.mem_cons.mp mem with rfl | mem
      · obtain rfl : a = _ := ends
        obtain ⟨task, mem, -⟩ := enabled
        rw [before.inFlight] at mem
        exact List.not_mem_nil mem
      · exact ih.endings m mem generation output ends

theorem Run.atRest (run : Run renders (Renderer.initial data debounce) trace r)
    (close : ∃ m ∈ trace, m.action = .close) (inFlight : r.inFlight = []) : AtRest r :=
  have closed := run.closed_of_close close
  ⟨closed, run.pending_of_closed closed, inFlight⟩

/-! ## Renders that a session waits for -/

/-- No render is fired, nothing is closed, and no render comes to wait after closing. -/
structure Calm (r r' : Renderer) : Prop where
  inFlight : r'.inFlight ⊆ r.inFlight
  generation : r'.generation = r.generation
  closed : r'.closed = r.closed
  pending : r.closed = true → r.pending = false → r'.pending = false

theorem Calm.refl (r : Renderer) : Calm r r :=
  ⟨List.Subset.refl _, rfl, rfl, fun _ => id⟩

theorem Calm.trans {r'' : Renderer} (h : Calm r r') (h' : Calm r' r'') : Calm r r'' where
  inFlight _ mem := h.inFlight (h'.inFlight mem)
  generation := h'.generation.trans h.generation
  closed := h'.closed.trans h.closed
  pending closed calm := h'.pending (h.closed.trans closed) (h.pending closed calm)

theorem calm_change (now : Nat) (data : Params) (changes : Nat) (r : Renderer) :
    Calm r (r.change now data changes) := by
  rw [change]
  split
  next => exact ⟨List.Subset.refl _, rfl, rfl, fun _ => id⟩
  next =>
    refine ⟨?_, schedule_generation .., schedule_closed .., fun closed calm => ?_⟩
    · rw [schedule_inFlight]
      exact List.Subset.refl _
    · have closed : ({ r with data } : Renderer).closed = true := closed
      rw [schedule_of_closed now closed]
      exact calm

theorem calm_remove (now : Nat) (path : String) (r : Renderer) :
    Calm r (r.remove now path).2 := by
  rw [remove]
  split
  next => exact calm_change now _ 1 r
  next => exact .refl r

theorem calm_finish (generation : Nat) (output : Option RenderedOutput) (r : Renderer) :
    Calm r (r.finish generation output) where
  inFlight := by
    rw [finish_inFlight]
    exact List.filter_sublist.subset
  generation := finish_generation ..
  closed := finish_closed ..
  pending _ calm := by
    rw [pending, finish_current]
    exact calm

namespace Session

variable {s s' s'' : Session} {job : Job} {jobs : List Job} {closing : Prop}

/-- The session waits for the same renders as before. -/
structure Keeps (s s' : Session) : Prop where
  renderer : Calm s.renderer s'.renderer
  unsettled : s'.unsettled = s.unsettled
  returned : s'.returned = s.returned
  queue : ∀ generation, .settle generation ∈ s'.queue → .settle generation ∈ s.queue

theorem Keeps.trans (h : Keeps s s') (h' : Keeps s' s'') : Keeps s s'' where
  renderer := h.renderer.trans h'.renderer
  unsettled := h'.unsettled.trans h.unsettled
  returned := h'.returned.trans h.returned
  queue generation mem := h.queue generation (h'.queue generation mem)

theorem keeps_of_calm {renderer : Renderer} (calm : Calm s.renderer renderer) :
    Keeps s { s with renderer } :=
  ⟨calm, rfl, rfl, fun _ => id⟩

theorem keeps_enqueue (s : Session) (other : ∀ generation, job ≠ .settle generation) :
    Keeps s (s.enqueue job) := by
  refine ⟨.refl _, rfl, rfl, fun generation mem => ?_⟩
  rcases List.mem_append.mp mem with mem | mem
  · exact mem
  · exact absurd (List.mem_singleton.mp mem).symm (other generation)

theorem keeps_accept (s : Session) (out : RenderedOutput) : Keeps s (s.accept out) := by
  rw [accept]
  split
  next => exact ⟨.refl _, rfl, rfl, fun _ => id⟩
  next =>
    dsimp only
    split
    next => exact ⟨calm_change s.now _ 1 s.renderer, rfl, rfl, fun _ => id⟩
    next => exact ⟨.refl _, rfl, rfl, fun _ => id⟩

/-- A session with `jobs` still to do in a round waits for every render that is on its way: the end
of such a render has not been noticed, and nothing to do says that it has ended. If the session is
`closing`, it is closed. -/
structure Tracked (closing : Prop) (jobs : List Job) (s : Session) : Prop where
  unsettled : ∀ task ∈ s.renderer.inFlight,
    task.generation ≤ s.renderer.generation ∧ task.generation ∈ s.unsettled
  settled : ∀ generation, .settle generation ∈ s.queue ++ jobs →
    generation ≤ s.renderer.generation ∧
      ∀ task ∈ s.renderer.inFlight, task.generation ≠ generation
  pending : s.renderer.closed = true → s.renderer.pending = false
  returned : s.renderer.closed = true → s.returned = true → s.unsettled = []
  closed : closing → s.renderer.closed = true

namespace Tracked

theorem keeps (tracked : Tracked closing jobs s) (keeps : Keeps s s') :
    Tracked closing jobs s' where
  unsettled task mem := by
    rw [keeps.renderer.generation, keeps.unsettled]
    exact tracked.unsettled task (keeps.renderer.inFlight mem)
  settled generation mem := by
    rw [keeps.renderer.generation]
    have mem : .settle generation ∈ s.queue ++ jobs := by
      rcases List.mem_append.mp mem with mem | mem
      · exact List.mem_append_left _ (keeps.queue generation mem)
      · exact List.mem_append_right _ mem
    obtain ⟨le, ended⟩ := tracked.settled generation mem
    exact ⟨le, fun task mem => ended task (keeps.renderer.inFlight mem)⟩
  pending closed := by
    rw [keeps.renderer.closed] at closed
    exact keeps.renderer.pending closed (tracked.pending closed)
  returned closed := by
    rw [keeps.renderer.closed] at closed
    rw [keeps.returned, keeps.unsettled]
    exact tracked.returned closed
  closed h := keeps.renderer.closed.trans (tracked.closed h)

/-- The end of a render joins the queue, to be noticed. -/
theorem enqueue_settle (tracked : Tracked closing jobs s) {generation : Nat}
    (le : generation ≤ s.renderer.generation)
    (ended : ∀ task ∈ s.renderer.inFlight, task.generation ≠ generation) :
    Tracked closing jobs (s.enqueue (.settle generation)) where
  unsettled := tracked.unsettled
  settled other mem := by
    rcases List.mem_append.mp mem with mem | mem
    · rcases List.mem_append.mp mem with mem | mem
      · exact tracked.settled other (List.mem_append_left _ mem)
      · obtain rfl := Job.settle.inj (List.mem_singleton.mp mem)
        exact ⟨le, ended⟩
    · exact tracked.settled other (List.mem_append_right _ mem)
  pending := tracked.pending
  returned := tracked.returned
  closed := tracked.closed

/-- A render ends. -/
theorem finish (tracked : Tracked closing jobs s) {task : RenderTask}
    (mem : task ∈ s.renderer.inFlight) {output : Option RenderedOutput}
    (keeps : Keeps { s with renderer := s.renderer.finish task.generation output } s') :
    Tracked closing jobs (s'.enqueue (.settle task.generation)) := by
  have ends : Keeps s { s with renderer := s.renderer.finish task.generation output } :=
    keeps_of_calm (calm_finish ..)
  refine (tracked.keeps (ends.trans keeps)).enqueue_settle ?_ fun other mem => ?_
  · rw [keeps.renderer.generation, finish_generation]
    exact (tracked.unsettled task mem).1
  · have mem := keeps.renderer.inFlight mem
    rw [finish_inFlight] at mem
    exact of_decide_eq_true (List.mem_filter.mp mem).2

/-- A renderer is told to fire. -/
theorem fired (tracked : Tracked closing jobs s) {r : Renderer}
    (inFlight : r.inFlight = s.renderer.inFlight)
    (generation : r.generation = s.renderer.generation)
    (closed : r.closed = s.renderer.closed) : Tracked closing jobs (s.fired r.fire) := by
  rw [Session.fired]
  cases isOpen : r.closed with
  | true =>
    rw [fire_of_closed isOpen, if_neg (Nat.not_lt.mpr (Nat.le_of_eq generation))]
    have calm : Calm s.renderer { r with current := none } :=
      ⟨fun _ mem => inFlight ▸ mem, generation, closed, fun _ _ => rfl⟩
    exact tracked.keeps (keeps_of_calm calm)
  | false =>
    have later : s.renderer.generation < r.fire.generation := by
      rw [fire_generation isOpen, generation]
      exact Nat.lt_succ_self _
    rw [if_pos later]
    refine keeps ?_ (keeps_enqueue _ (by simp))
    rw [fire_of_open isOpen, inFlight, generation]
    have open' {p : Prop} (h : r.closed = true) : p := by
      rw [isOpen] at h
      cases h
    refine ⟨fun task mem => ?_, fun other mem => ?_, fun h => open' h, fun h => open' h,
      fun h => ?_⟩
    · rcases List.mem_append.mp mem with mem | mem
      · obtain ⟨le, waits⟩ := tracked.unsettled task mem
        exact ⟨Nat.le_succ_of_le le, List.mem_append_left _ waits⟩
      · rw [List.mem_singleton.mp mem]
        exact ⟨Nat.le_refl _, List.mem_append_right _ (List.mem_singleton.mpr rfl)⟩
    · obtain ⟨le, ended⟩ := tracked.settled other mem
      refine ⟨Nat.le_succ_of_le le, fun task mem => ?_⟩
      rcases List.mem_append.mp mem with mem | mem
      · exact ended task mem
      · rw [List.mem_singleton.mp mem]
        exact Nat.ne_of_gt (Nat.lt_succ_of_le le)
    · exact open' (closed.trans (tracked.closed h))

/-! ### Jobs -/

theorem fail (tracked : Tracked closing jobs s) {task : RenderTask}
    (mem : task ∈ s.renderer.inFlight) : Tracked closing jobs (s.fail task.generation) :=
  tracked.finish mem ⟨.refl _, rfl, rfl, fun _ => id⟩

theorem complete (tracked : Tracked closing jobs s) {task : RenderTask}
    (mem : task ∈ s.renderer.inFlight) : Tracked closing jobs (s.complete task) := by
  rw [Session.complete]
  split
  next => exact tracked.fail mem
  next out notices shown =>
    dsimp only
    have noted : Keeps { s with renderer := s.renderer.finish task.generation (some out) }
        { s with
          renderer := s.renderer.finish task.generation (some out)
          notices := s.notices ++ notices } := ⟨.refl _, rfl, rfl, fun _ => id⟩
    split
    next => exact tracked.finish mem (noted.trans (keeps_accept _ out))
    next => exact tracked.finish mem noted

theorem beginTask (tracked : Tracked closing jobs s) {task : RenderTask}
    (mem : task ∈ s.renderer.inFlight) : Tracked closing jobs (s.beginTask task) := by
  have called : Tracked closing jobs { s with calls := s.calls ++ [task.snapshot] } :=
    tracked.keeps ⟨.refl _, rfl, rfl, fun _ => id⟩
  rw [Session.beginTask]
  split
  next => exact tracked.complete mem
  next =>
    dsimp only
    split
    next => exact called.fail mem
    next =>
      split
      next => exact called.keeps ⟨.refl _, rfl, rfl, fun _ => id⟩
      next => exact called.complete mem

theorem call (tracked : Tracked closing jobs s) :
    Tracked closing jobs { s with returned := s.unsettled.isEmpty } where
  unsettled := tracked.unsettled
  settled := tracked.settled
  pending := tracked.pending
  returned _ := List.isEmpty_iff.mp
  closed := tracked.closed

theorem close (tracked : Tracked closing jobs s) :
    Tracked True jobs { s with
      renderer := s.renderer.close
      returned := s.unsettled.isEmpty } where
  unsettled := by
    rw [Renderer.close, cancel_eq]
    exact tracked.unsettled
  settled := by
    rw [Renderer.close, cancel_eq]
    exact tracked.settled
  pending _ := pending_of_current (cancel_current _)
  returned _ := List.isEmpty_iff.mp
  closed _ := rfl

theorem imp (tracked : Tracked closing jobs s) {closing' : Prop} (h : closing' → closing) :
    Tracked closing' jobs s :=
  { tracked with closed := fun h' => tracked.closed (h h') }

/-- What does not close the session leaves it as it is. -/
theorem or_of_not (tracked : Tracked closing jobs s) {p : Prop} (h : ¬p) :
    Tracked (closing ∨ p) jobs s :=
  tracked.imp (Or.resolve_right · h)

theorem begin (tracked : Tracked closing jobs s) (c : Call) :
    Tracked (closing ∨ c = .close) jobs (s.begin c) := by
  cases c with
  | start => exact (tracked.fired rfl rfl rfl).call.or_of_not (by simp)
  | drain => exact tracked.call.or_of_not (by simp)
  | close => exact tracked.close.imp fun _ => trivial

/-- The end of a render is noticed. -/
theorem settle {generation : Nat} (tracked : Tracked closing (.settle generation :: jobs) s) :
    Tracked closing jobs { s with unsettled := s.unsettled.erase generation } where
  unsettled task mem := by
    obtain ⟨le, waits⟩ := tracked.unsettled task mem
    -- The render that has ended is none of those on their way.
    have ended := (tracked.settled generation (by simp)).2
    exact ⟨le, (List.mem_erase_of_ne (ended task mem)).mpr waits⟩
  settled other mem := tracked.settled other (by grind)
  pending := tracked.pending
  returned closed returned := by
    rw [tracked.returned closed returned]
    rfl
  closed := tracked.closed

theorem tail (tracked : Tracked closing (job :: jobs) s) : Tracked closing jobs s :=
  { tracked with settled := fun other mem => tracked.settled other (by grind) }

theorem run (tracked : Tracked closing (job :: jobs) s) :
    Tracked (closing ∨ job = .call .close) jobs (s.run job) := by
  cases job with
  | timer id =>
    refine or_of_not ?_ (by simp)
    rw [Session.run]
    split
    next => exact tracked.tail.fired rfl rfl rfl
    next => exact tracked.tail
  | begin generation =>
    refine or_of_not ?_ (by simp)
    rw [Session.run]
    split
    next task found => exact tracked.tail.beginTask (List.mem_of_find?_eq_some found)
    next => exact tracked.tail
  | resume generation =>
    refine or_of_not ?_ (by simp)
    rw [Session.run]
    split
    next task found => exact tracked.tail.complete (List.mem_of_find?_eq_some found)
    next => exact tracked.tail
  | settle generation => exact tracked.settle.or_of_not (by simp)
  | call c => exact (tracked.tail.begin c).imp (Or.imp_right Job.call.inj)

/-! ### Steps -/

theorem foldl : ∀ (jobs : List Job) {closing : Prop} {s : Session}, Tracked closing jobs s →
    Tracked (closing ∨ .call .close ∈ jobs) [] (jobs.foldl Session.run s)
  | [], _, _, tracked => tracked.or_of_not List.not_mem_nil
  | job :: jobs, _, _, tracked => by
    refine (foldl jobs tracked.run).imp ?_
    rintro (h | mem)
    · exact .inl (.inl h)
    · rcases List.mem_cons.mp mem with eq | mem
      · exact .inl (.inr eq.symm)
      · exact .inr mem

theorem round (tracked : Tracked closing [] s) :
    Tracked (closing ∨ .call .close ∈ s.queue) [] s.round := by
  have emptied : Tracked closing (s.queue ++ s.dueTimers) { s with queue := [] } := by
    refine { tracked with settled := fun other mem => ?_ }
    have mem : .settle other ∈ s.queue ++ s.dueTimers := mem
    rcases List.mem_append.mp mem with mem | mem
    · exact tracked.settled other (List.mem_append_left _ mem)
    · obtain ⟨_, _, timer⟩ := List.mem_map.mp mem
      cases timer
  exact (foldl _ emptied).imp (Or.imp_right (List.mem_append_left _))

theorem tick (tracked : Tracked closing [] s) :
    Tracked (closing ∨ .call .close ∈ s.queue) [] s.tick := by
  have rounds : ∀ (n : Nat) {closing : Prop} (s : Session), Tracked closing [] s →
      Tracked closing [] (tick.go n s) := by
    intro n
    induction n with
    | zero => exact fun s tracked => tracked
    | succ n ih =>
      intro closing s tracked
      rw [tick.go]
      split
      next => exact tracked
      next => exact ih _ (tracked.round.imp .inl)
  -- What is in the queue is done in the first round.
  rw [Session.tick, tick.go]
  split
  next idle =>
    rw [idle.1]
    exact tracked.or_of_not List.not_mem_nil
  next => exact rounds 11 _ tracked.round

theorem step (tracked : Tracked closing [] s) (st : Step) :
    Tracked (closing ∨ st = .call .close) [] (s.step st).2 := by
  cases st with
  | operate keys op =>
    refine or_of_not ?_ (by simp)
    rw [Session.step]
    split
    next => exact tracked.keeps (keeps_of_calm (calm_change ..))
    next => exact tracked
  | patch path value =>
    exact (tracked.keeps (keeps_of_calm (calm_change ..))).or_of_not (by simp)
  | patchFrom path source =>
    refine or_of_not ?_ (by simp)
    rw [Session.step]
    split
    next => exact tracked.keeps (keeps_of_calm (calm_change ..))
    next => exact tracked
  | remove path =>
    exact (tracked.keeps (keeps_of_calm (calm_remove ..))).or_of_not (by simp)
  | flush =>
    refine or_of_not ?_ (by simp)
    rw [Session.step, Renderer.flush]
    split
    next => exact tracked.fired (cancel_inFlight _) (cancel_generation _) (cancel_closed _)
    next =>
      rw [Session.fired, if_neg (Nat.lt_irrefl _)]
      exact tracked
  | tick => exact tracked.tick.imp (Or.imp_right (by simp))
  | advance ms =>
    have later : Tracked closing [] { s with now := s.now + ms } :=
      tracked.keeps ⟨.refl _, rfl, rfl, fun _ => id⟩
    exact later.tick.imp (Or.imp_right (by simp))
  | release gate =>
    have released : Keeps s (s.releaseGate gate) := by
      refine ⟨.refl _, rfl, rfl, fun generation mem => ?_⟩
      rcases List.mem_append.mp mem with mem | mem
      · exact mem
      · obtain ⟨_, _, other⟩ := List.mem_map.mp mem
        cases other
    exact (tracked.keeps released).or_of_not (by simp)
  | call c =>
    have called : Keeps s (s.enqueue (.call c)) := keeps_enqueue s (by simp)
    refine (tracked.keeps called).tick.imp (Or.imp_right fun same => ?_)
    obtain rfl := Step.call.inj same
    exact List.mem_append_right _ (List.mem_singleton.mpr rfl)

end Tracked

/-- The session after some more steps. -/
def after (s : Session) (steps : List Step) : Session :=
  steps.foldl (fun s st => (s.step st).2) s

theorem Tracked.after : ∀ (steps : List Step) {closing : Prop} {s : Session},
    Tracked closing [] s → Tracked (closing ∨ .call .close ∈ steps) [] (s.after steps)
  | [], _, _, tracked => tracked.or_of_not List.not_mem_nil
  | st :: steps, _, _, tracked => by
    refine (Tracked.after steps (tracked.step st)).imp ?_
    rintro (h | mem)
    · exact .inl (.inl h)
    · rcases List.mem_cons.mp mem with eq | mem
      · exact .inl (.inr eq.symm)
      · exact .inr mem

theorem Fresh.tracked (fresh : Fresh data debounce s) : Tracked False [] s := by
  have isOpen {p : Prop} (closed : s.renderer.closed = true) : p := by
    rw [fresh.renderer] at closed
    cases closed
  refine ⟨fun task mem => ?_, fun generation mem => ?_, fun h => isOpen h, fun h => isOpen h,
    False.elim⟩
  · rw [fresh.renderer] at mem
    exact (List.not_mem_nil mem).elim
  · rw [fresh.queue] at mem
    exact (List.not_mem_nil mem).elim

/-- A call to close has returned when the session says so. -/
theorem Tracked.atRest (tracked : Tracked True [] s) (done : s.isDone = true) :
    AtRest s.renderer ∧ s.unsettled = [] := by
  have closed := tracked.closed trivial
  have unsettled : s.unsettled = [] := by
    rcases Bool.or_eq_true_iff.mp done with returned | empty
    · exact tracked.returned closed returned
    · exact List.isEmpty_iff.mp empty
  refine ⟨⟨closed, tracked.pending closed, ?_⟩, unsettled⟩
  refine List.eq_nil_iff_forall_not_mem.mpr fun task mem => ?_
  have waits := (tracked.unsettled task mem).2
  rw [unsettled] at waits
  exact List.not_mem_nil waits

/-! ## Sessions that are closed -/

/-- What a session has noted of its renders. -/
def record (s : Session) : List Nat × List Params × List String × List Notice :=
  (s.unsettled, s.calls, s.outputs, s.notices)

/-- The session waits for nothing, and all that it has noted of its renders is what it had. -/
structure Idles (s s' : Session) : Prop where
  renderer : Rests s.renderer s'.renderer
  unsettled : s'.unsettled = []
  record : s'.record = s.record

namespace Idles

variable {s₀ : Session}

theorem of_rests (idles : Idles s₀ s) (rests : Rests s.renderer s'.renderer)
    (same : s'.record = s.record) : Idles s₀ s' where
  renderer := idles.renderer.trans rests
  unsettled := (congrArg Prod.fst same).trans idles.unsettled
  record := same.trans idles.record

theorem atRest (idles : Idles s₀ s) : AtRest s.renderer :=
  idles.renderer.toAtRest

/-- What else becomes of the session, its renderer is left alone. -/
theorem of_eq (idles : Idles s₀ s) (renderer : s'.renderer = s.renderer)
    (same : s'.record = s.record) : Idles s₀ s' := by
  refine idles.of_rests ?_ same
  rw [renderer]
  exact idles.atRest.rests

theorem fired (idles : Idles s₀ s) {r : Renderer} (rests : Rests s.renderer r) :
    Idles s₀ (s.fired r) := by
  rw [Session.fired, if_neg (Nat.not_lt.mpr (Nat.le_of_eq rests.generation))]
  exact idles.of_rests rests rfl

theorem begin (idles : Idles s₀ s) (c : Call) : Idles s₀ (s.begin c) := by
  cases c with
  | start => exact (idles.fired idles.atRest.rests_fire).of_eq rfl rfl
  | drain => exact idles.of_eq rfl rfl
  | close => exact idles.of_rests idles.atRest.rests_close rfl

theorem task?_eq_none (idles : Idles s₀ s) (generation : Nat) :
    s.renderer.task? generation = none := by
  rw [task?, idles.atRest.inFlight]
  rfl

theorem run (idles : Idles s₀ s) (job : Job) : Idles s₀ (s.run job) := by
  cases job with
  | timer id =>
    rw [Session.run]
    split
    next => exact idles.fired (idles.atRest.rests_fireTimer id)
    next => exact idles
  | begin generation | resume generation =>
    rw [Session.run, idles.task?_eq_none]
    exact idles
  | settle generation =>
    refine idles.of_eq rfl ?_
    rw [Session.run, Session.record, idles.unsettled, Session.record, idles.unsettled]
    rfl
  | call c => exact idles.begin c

theorem foldl : ∀ (jobs : List Job) {s : Session}, Idles s₀ s →
    Idles s₀ (jobs.foldl Session.run s)
  | [], _, idles => idles
  | job :: jobs, _, idles => foldl jobs (idles.run job)

theorem tick (idles : Idles s₀ s) : Idles s₀ s.tick := by
  have rounds : ∀ (n : Nat) (s : Session), Idles s₀ s → Idles s₀ (tick.go n s) := by
    intro n
    induction n with
    | zero => exact fun s idles => idles
    | succ n ih =>
      intro s idles
      rw [tick.go]
      split
      next => exact idles
      next => exact ih _ (foldl _ (idles.of_eq rfl rfl))
  exact rounds 12 s idles

theorem step (idles : Idles s₀ s) (st : Step) : Idles s₀ (s.step st).2 := by
  have still := idles.atRest
  cases st with
  | operate keys op =>
    rw [Session.step]
    split
    next => exact idles.of_rests (still.rests_change ..) rfl
    next => exact idles
  | patch path value => exact idles.of_rests (still.rests_change s.now _ 1) rfl
  | patchFrom path source =>
    rw [Session.step]
    split
    next => exact idles.of_rests (still.rests_change s.now _ 1) rfl
    next => exact idles
  | remove path => exact idles.of_rests (still.rests_remove ..) rfl
  | flush => exact idles.fired still.rests_flush
  | tick => exact idles.tick
  | advance ms => exact tick (idles.of_eq rfl rfl)
  | release gate => exact idles.of_eq rfl rfl
  | call c => exact tick (idles.of_eq rfl rfl)

theorem after : ∀ (steps : List Step) {s : Session}, Idles s₀ s → Idles s₀ (s.after steps)
  | [], _, idles => idles
  | st :: steps, _, idles => after steps (idles.step st)

end Idles

/-- A session in which closing has returned. -/
theorem Fresh.idles {s₀ : Session} (fresh : Fresh data debounce s₀) {steps : List Step}
    (close : .call .close ∈ steps) (done : (s₀.after steps).isDone = true) :
    Idles (s₀.after steps) (s₀.after steps) := by
  have tracked := (fresh.tracked.after steps).imp fun _ : True => Or.inr close
  obtain ⟨still, unsettled⟩ := tracked.atRest done
  exact ⟨still.rests, unsettled, rfl⟩

end Session

/-- Once a renderer has been closed and the renders on their way have ended, nothing that is done to
it leads to a render, in whatever order: changes, commands, and the timers that are left. In a
session this is so from the moment at which the call to close has returned. -/
theorem silent_after_close :
    (∀ {renders : Params → Option RenderedOutput → Prop} {data : Params} {debounce : Nat}
      {closing later : List Moment} {s r : Renderer},
      Run renders (.initial data debounce) closing s → (∃ m ∈ closing, m.action = .close) →
      s.inFlight = [] → Run renders s later r → Silent s later r) ∧
    ∀ {data : Params} {debounce : Nat} {s₀ : Session} {steps : List Session.Step},
      s₀.Fresh data debounce → .call .close ∈ steps → (s₀.after steps).isDone = true →
      ∀ later, (s₀.after steps).Idles ((s₀.after steps).after later) :=
  ⟨fun closing close inFlight later => (closing.atRest close inFlight).silent later,
    fun fresh close done later => (fresh.idles close done).after later⟩

/-- A timer that a start has forgotten is left behind, by a renderer and in a session. -/
theorem silent_after_close_of_forgotten :
    let first : Renderer := .initial [("fail", .bool true)] 100
    let changed := first.patch 0 "n" (.text "1")
    let started := changed.fire
    let closed := started.close
    let ended := closed.finish 1 none
    let fired := ended.fireTimer 0
    let later : List Moment := [⟨100, fired, .start⟩, ⟨100, ended, .timer 0⟩]
    let session : Session := {
      template := "<p>{{n}}</p>", options := {}, mode := .recorded, sink := .feedback
      renderer := first }
    let shut := session.after [.patch "n" (.text "1"), .call .start, .call .close]
    Silent ended later fired.fire ∧
      shut.Idles (shut.after [.advance 100, .patch "n" (.text "2"), .call .start]) := by
  intro first changed started closed ended fired later session shut
  have patched : Run Unconstrained first [⟨0, first, .patch "n" (.text "1")⟩] changed :=
    .cons .nil (by simp) trivial
  have forgot : Run Unconstrained first (⟨0, changed, .start⟩ :: _) started :=
    patched.cons (by simp) trivial
  have closing : Run Unconstrained first (⟨0, started, .close⟩ :: _) closed :=
    forgot.cons (by simp) trivial
  have run : Run Unconstrained first (⟨0, closed, .finish 1 none⟩ :: _) ended :=
    closing.cons (by simp) ⟨⟨1, _⟩, .head _, rfl, trivial⟩
  have left : Run Unconstrained ended [⟨100, ended, .timer 0⟩] fired :=
    .cons .nil (by simp) ⟨⟨0, 100⟩, .head _, rfl, Nat.le_refl _⟩
  have rest : Run Unconstrained ended later fired.fire := left.cons (by simp) trivial
  have fresh : session.Fresh [("fail", .bool true)] 100 := ⟨rfl, rfl, rfl⟩
  have done : shut.isDone = true := by decide +kernel
  exact ⟨silent_after_close.1 run ⟨_, .tail _ (.head _), rfl⟩ rfl rest,
    silent_after_close.2 fresh (by simp) done _⟩

end PageComponent.Live
