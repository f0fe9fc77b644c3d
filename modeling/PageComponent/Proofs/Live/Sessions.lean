import PageComponent.Live.Session
import PageComponent.Proofs.Live.Acceptance

/-!
# Sessions as runs

A session works through its jobs in rounds. All that it does to its renderer is a run of the
renderer, and what it hands on is what this run accepts.
-/

namespace PageComponent.Live

open Renderer

variable {renders : Params → Option RenderedOutput → Prop} {now : Nat} {r r' : Renderer}
  {a : Action} {data : Params} {debounce : Nat} {trace : List Moment}

/-! ## The numbers of timers -/

@[simp] theorem Renderer.fire_nextTimer (r : Renderer) : r.fire.nextTimer = r.nextTimer := by
  cases h : r.closed <;> simp [fire, h]

@[simp] theorem Renderer.finish_nextTimer (generation : Nat) (output : Option RenderedOutput)
    (r : Renderer) : (r.finish generation output).nextTimer = r.nextTimer := by
  rw [finish_eq]

/-- Some timers go, and one may come, with the next number. -/
def Renewed (r r' : Renderer) : Prop :=
  ∃ kept, kept.Sublist r.timers ∧
    (r'.timers = kept ∧ r'.nextTimer = r.nextTimer ∨
      ∃ t : Timer, t.id = r.nextTimer ∧ r'.timers = kept ++ [t] ∧ r'.nextTimer = r.nextTimer + 1)

theorem renewed_of_sublist (timers : r'.timers.Sublist r.timers)
    (next : r'.nextTimer = r.nextTimer) : Renewed r r' :=
  ⟨r'.timers, timers, .inl ⟨rfl, next⟩⟩

theorem renewed_schedule (now : Nat) (r : Renderer) : Renewed r (r.schedule now) := by
  cases closed : r.closed with
  | true =>
    rw [schedule_of_closed now closed]
    exact renewed_of_sublist (.refl _) rfl
  | false =>
    rw [schedule_of_open now closed]
    exact ⟨_, List.filter_sublist, .inr ⟨_, rfl, rfl, rfl⟩⟩

theorem renewed_fire {s : Renderer} (timers : s.timers.Sublist r.timers)
    (next : s.nextTimer = r.nextTimer) : Renewed r s.fire :=
  renewed_of_sublist ((fire_timers s).symm ▸ timers) ((fire_nextTimer s).trans next)

theorem Does.renewed (does : Does renders now r a r') : Renewed r r' := by
  cases does with
  | write data writes => exact renewed_schedule now { r with data }
  | operate | remove | idle => exact renewed_of_sublist (.refl _) rfl
  | start => exact renewed_fire (.refl _) rfl
  | flush pending =>
    rw [cancel_eq]
    exact renewed_fire List.filter_sublist rfl
  | close =>
    rw [cancel_eq]
    exact renewed_of_sublist List.filter_sublist rfl
  | timer t mem due => exact renewed_fire List.filter_sublist rfl
  | finish task mem output result =>
    refine renewed_of_sublist ?_ (finish_nextTimer ..)
    rw [finish_timers]

/-- Outstanding timers have numbers of their own, all below the next. -/
structure Ticketed (r : Renderer) : Prop where
  lt : ∀ t ∈ r.timers, t.id < r.nextTimer
  nodup : (r.timers.map Timer.id).Nodup

theorem Ticketed.renewed (h : Ticketed r) (renewed : Renewed r r') : Ticketed r' := by
  obtain ⟨kept, sub, ⟨timers, next⟩ | ⟨t, id, timers, next⟩⟩ := renewed
  · constructor
    · rw [timers, next]
      exact fun t mem => h.lt t (sub.mem mem)
    · rw [timers]
      exact h.nodup.sublist (sub.map _)
  · constructor
    · rw [timers, next]
      intro t' mem
      rcases List.mem_append.mp mem with mem | mem
      · exact Nat.lt_succ_of_lt (h.lt t' (sub.mem mem))
      · rw [List.mem_singleton.mp mem, id]
        exact Nat.lt_succ_self _
    · rw [timers, List.map_append]
      refine (h.nodup.sublist (sub.map _)).append (List.nodup_singleton _) ?_
      rw [List.map_cons, List.map_nil, List.disjoint_singleton]
      intro mem
      obtain ⟨t', mem, eq⟩ := List.mem_map.mp mem
      have := h.lt t' (sub.mem mem)
      omega

/-! ## What leads from one state of a session to another -/

/-- What rendering may make of parameters: a failure, or the output that it gives. -/
def Shows (template : String) (options : RenderOptions) (snapshot : Params)
    (output : Option RenderedOutput) : Prop :=
  ∀ out ∈ output, ∃ notices,
    render template snapshot options defaultColours = .ok (out, notices)

/-- What is handed on at a moment: the page of the result that is accepted. -/
def Moment.handedOn (m : Moment) : List String :=
  (m.accepted?.map (·.output.html)).toList

namespace Session

variable {s s' s'' : Session}

/-- The session remains the same but for its renderer and its outputs. No timer joins the queue. -/
structure Remains (s s' : Session) : Prop where
  template : s'.template = s.template
  options : s'.options = s.options
  now : s.now ≤ s'.now
  queue : ∀ id, .timer id ∈ s'.queue → .timer id ∈ s.queue

/-- The parts of a session that are to remain. -/
def frame (s : Session) : String × RenderOptions × Nat × List Job :=
  (s.template, s.options, s.now, s.queue)

theorem Remains.of_eq (same : s'.frame = s.frame) : Remains s s' := by
  simp only [frame, Prod.mk.injEq] at same
  obtain ⟨template, options, now, queue⟩ := same
  exact ⟨template, options, Nat.le_of_eq now.symm, fun _ mem => queue ▸ mem⟩

/-- One state leads to another by actions on the renderer, one after another, of which each one's
result is handed on if it is accepted. -/
inductive Leads (s : Session) : Session → Prop where
  | refl : Leads s s
  | rest {s' s'' : Session} (leads : Leads s s') (remains : Remains s' s'')
      (renderer : s''.renderer = s'.renderer) (outputs : s''.outputs = s'.outputs) : Leads s s''
  | act {s' s'' : Session} (leads : Leads s s') (remains : Remains s' s'') (a : Action)
      (enabled : a.Enabled (Shows s'.template s'.options) s'.now s'.renderer)
      (renderer : s''.renderer = a.apply s'.now s'.renderer)
      (outputs : s''.outputs = s'.outputs ++ Moment.handedOn ⟨s'.now, s'.renderer, a⟩) :
      Leads s s''

namespace Leads

theorem trans (h : Leads s s') (h' : Leads s' s'') : Leads s s'' := by
  induction h' with
  | refl => exact h
  | rest _ remains renderer outputs ih => exact .rest ih remains renderer outputs
  | act _ remains a enabled renderer outputs ih => exact .act ih remains a enabled renderer outputs

theorem of_rest (remains : Remains s s') (renderer : s'.renderer = s.renderer)
    (outputs : s'.outputs = s.outputs) : Leads s s' :=
  .rest .refl remains renderer outputs

theorem of_act (remains : Remains s s') (a : Action)
    (enabled : a.Enabled (Shows s.template s.options) s.now s.renderer)
    (renderer : s'.renderer = a.apply s.now s.renderer)
    (outputs : s'.outputs = s.outputs ++ Moment.handedOn ⟨s.now, s.renderer, a⟩) : Leads s s' :=
  .act .refl remains a enabled renderer outputs

/-- An action that ends no render hands nothing on. -/
theorem of_silent (remains : Remains s s') (a : Action)
    (enabled : a.Enabled (Shows s.template s.options) s.now s.renderer)
    (renderer : s'.renderer = a.apply s.now s.renderer) (outputs : s'.outputs = s.outputs)
    (silent : Moment.handedOn ⟨s.now, s.renderer, a⟩ = []) : Leads s s' := by
  refine of_act remains a enabled renderer ?_
  rw [silent, List.append_nil, outputs]

end Leads

theorem leads_enqueue (s : Session) {job : Job} (other : ∀ id, job ≠ .timer id) :
    Leads s (s.enqueue job) := by
  refine .of_rest ⟨rfl, rfl, Nat.le_refl _, fun id mem => ?_⟩ rfl rfl
  rcases List.mem_append.mp mem with mem | mem
  · exact mem
  · exact absurd (List.mem_singleton.mp mem).symm (other id)

theorem leads_fired (s : Session) {a : Action}
    (enabled : a.Enabled (Shows s.template s.options) s.now s.renderer)
    (silent : Moment.handedOn ⟨s.now, s.renderer, a⟩ = []) :
    Leads s (s.fired (a.apply s.now s.renderer)) := by
  rw [fired]
  split
  next =>
    refine .trans ?_ (leads_enqueue _ fun id => nofun)
    exact .of_silent (.of_eq rfl) a enabled rfl rfl silent
  next => exact .of_silent (.of_eq rfl) a enabled rfl rfl silent

/-! ## The ends of renders -/

theorem leads_fail (s : Session) {task : RenderTask} (mem : task ∈ s.renderer.inFlight) :
    Leads s (s.fail task.generation) := by
  refine .trans ?_ (leads_enqueue _ fun id => nofun)
  exact .of_silent (.of_eq rfl) (.finish task.generation none)
    ⟨task, mem, rfl, nofun⟩ rfl rfl rfl

/-- What is done with an output besides noting it. -/
theorem leads_accept (s : Session) (out : RenderedOutput) :
    Leads { s with outputs := s.outputs ++ [out.html] } (s.accept out) := by
  rw [accept]
  split
  next => exact .refl
  next =>
    dsimp only
    split
    next => exact .of_silent (.of_eq rfl) (.held _) trivial rfl rfl rfl
    next => exact .refl

theorem leads_complete (s : Session) {task : RenderTask} (mem : task ∈ s.renderer.inFlight) :
    Leads s (s.complete task) := by
  rw [complete]
  cases shown : render s.template task.snapshot s.options defaultColours with
  | error e => exact leads_fail s mem
  | ok result =>
    obtain ⟨out, notices⟩ := result
    dsimp only
    have enabled : (Action.finish task.generation (some out)).Enabled
        (Shows s.template s.options) s.now s.renderer := by
      refine ⟨task, mem, rfl, fun out' mem => ⟨notices, ?_⟩⟩
      rw [← Option.some.inj mem, shown]
    have handed := congrArg (Option.toList ∘ Option.map (·.output.html))
      (accepted?_finish s.now s.renderer task.generation (some out))
    refine .trans ?_ (leads_enqueue _ fun id => nofun)
    by_cases newest : task.generation = s.renderer.generation
    · rw [if_pos (by simp [isNewest, newest])]
      rw [if_pos newest] at handed
      refine .trans ?_ (leads_accept _ out)
      exact .of_act (.of_eq rfl) _ enabled rfl (congrArg (s.outputs ++ ·) handed.symm)
    · rw [if_neg (by simp [isNewest, newest])]
      refine .of_silent (.of_eq rfl) _ enabled rfl rfl ?_
      rw [if_neg newest] at handed
      exact handed

/-! ## Jobs -/

/-- The job can be done: if it is a timer, its time has come or it is no longer outstanding. -/
def Ready (s : Session) : Job → Prop
  | .timer id =>
    id < s.renderer.nextTimer ∧ ∀ t ∈ s.renderer.timers, t.id = id → t.deadline ≤ s.now
  | _ => True

theorem leads_begin (s : Session) (c : Call) : Leads s (s.begin c) := by
  cases c with
  | start =>
    have fired := leads_fired s (a := .start) trivial rfl
    exact .rest fired (.of_eq rfl) rfl rfl
  | drain => exact .of_rest (.of_eq rfl) rfl rfl
  | close => exact .of_silent (.of_eq rfl) .close trivial rfl rfl rfl

theorem leads_beginTask (s : Session) {task : RenderTask} (mem : task ∈ s.renderer.inFlight) :
    Leads s (s.beginTask task) := by
  rw [beginTask]
  split
  next => exact leads_complete s mem
  next =>
    have called : Leads s { s with calls := s.calls ++ [task.snapshot] } :=
      .of_rest (.of_eq rfl) rfl rfl
    dsimp only
    split
    next => exact called.trans (leads_fail _ mem)
    next =>
      split
      next => exact .rest called (.of_eq rfl) rfl rfl
      next => exact called.trans (leads_complete _ mem)

theorem leads_run (s : Session) {job : Job} (ready : s.Ready job) : Leads s (s.run job) := by
  cases job with
  | timer id =>
    rw [run]
    split
    next outstanding =>
      obtain ⟨t, mem, same⟩ := List.any_eq_true.mp outstanding
      have id_eq : t.id = id := beq_iff_eq.mp same
      exact leads_fired s (a := .timer id) ⟨t, mem, id_eq, ready.2 t mem id_eq⟩ rfl
    next => exact .refl
  | begin generation =>
    rw [run]
    split
    next task found => exact leads_beginTask s (List.mem_of_find?_eq_some found)
    next => exact .refl
  | resume generation =>
    rw [run]
    split
    next task found => exact leads_complete s (List.mem_of_find?_eq_some found)
    next => exact .refl
  | settle generation => exact .of_rest (.of_eq rfl) rfl rfl
  | call c => exact leads_begin s c

/-! ## Rounds -/

/-- No timer waits in the queue, and the outstanding ones have numbers of their own. -/
structure Prepared (s : Session) : Prop where
  queue : ∀ id, .timer id ∉ s.queue
  ticketed : Ticketed s.renderer

theorem Leads.prepared (h : Leads s s') (prepared : Prepared s) : Prepared s' := by
  induction h with
  | refl => exact prepared
  | rest _ remains renderer _ ih =>
    exact ⟨fun id mem => ih.queue id (remains.queue id mem), renderer ▸ ih.ticketed⟩
  | act _ remains a enabled renderer _ ih =>
    refine ⟨fun id mem => ih.queue id (remains.queue id mem), ?_⟩
    rw [renderer]
    exact ih.ticketed.renewed (does_apply _ enabled).renewed

theorem Leads.ready {job : Job} (h : Leads s s') (ready : s.Ready job) : s'.Ready job := by
  cases job with
  | timer id =>
    induction h with
    | refl => exact ready
    | rest _ remains renderer _ ih =>
      rw [Ready, renderer]
      exact ⟨ih.1, fun t mem same => Nat.le_trans (ih.2 t mem same) remains.now⟩
    | @act s' s'' _ remains a enabled renderer _ ih =>
      obtain ⟨lt, due⟩ := ih
      rw [Ready, renderer]
      obtain ⟨kept, sub, ⟨timers, next⟩ | ⟨t, number, timers, next⟩⟩ :=
        (does_apply _ enabled).renewed
      · rw [timers, next]
        exact ⟨lt, fun t mem same => Nat.le_trans (due t (sub.mem mem) same) remains.now⟩
      · rw [timers, next]
        refine ⟨Nat.lt_succ_of_lt lt, fun t' mem same => ?_⟩
        rcases List.mem_append.mp mem with mem | mem
        · exact Nat.le_trans (due t' (sub.mem mem) same) remains.now
        · rw [List.mem_singleton.mp mem, number] at same
          exact absurd same (Nat.ne_of_gt lt)
  | begin | resume | settle | call => trivial

theorem leads_foldl : ∀ (jobs : List Job) (s : Session), (∀ job ∈ jobs, s.Ready job) →
    Leads s (jobs.foldl run s)
  | [], _, _ => .refl
  | job :: jobs, s, ready => by
    obtain ⟨first, others⟩ := List.forall_mem_cons.mp ready
    have done := leads_run s first
    exact done.trans (leads_foldl jobs _ fun job mem => done.ready (others job mem))

theorem leads_round (prepared : Prepared s) : Leads s s.round := by
  have emptied : Leads s { s with queue := [] } :=
    .of_rest ⟨rfl, rfl, Nat.le_refl _, fun _ mem => (List.not_mem_nil mem).elim⟩ rfl rfl
  refine emptied.trans (leads_foldl _ _ fun job mem => emptied.ready ?_)
  rcases List.mem_append.mp mem with mem | mem
  · cases job with
    | timer id => exact absurd mem (prepared.queue id)
    | begin | resume | settle | call => trivial
  · obtain ⟨t, found, rfl⟩ := List.mem_map.mp mem
    obtain ⟨outstanding, due⟩ := List.mem_filter.mp found
    refine ⟨prepared.ticketed.lt t outstanding, fun other mem same => ?_⟩
    rw [List.inj_on_of_nodup_map prepared.ticketed.nodup mem outstanding same]
    exact of_decide_eq_true due

theorem leads_tick (prepared : Prepared s) : Leads s s.tick := by
  have rounds : ∀ (n : Nat) (s : Session), Prepared s → Leads s (tick.go n s) := by
    intro n
    induction n with
    | zero => exact fun _ _ => .refl
    | succ n ih =>
      intro s prepared
      rw [tick.go]
      split
      next => exact .refl
      next =>
        have round := leads_round prepared
        exact round.trans (ih _ (round.prepared prepared))
  exact rounds 12 s prepared

/-! ## Steps -/

/-- The step changes the parameters without a report. -/
def Step.ClearsList (data : Params) : Step → Prop
  | .operate keys op => Live.ClearsList data keys op
  | _ => False

theorem leads_step {st : Step} (prepared : Prepared s)
    (kept : ¬st.ClearsList s.renderer.data) : Leads s (s.step st).2 := by
  cases st with
  | operate keys op =>
    rw [step]
    cases done : Live.operate s.renderer.data keys op with
    | error e => exact .refl
    | ok effect =>
      by_cases silent : effect.changes = 0
      · have same : s.renderer.change s.now effect.after effect.changes = s.renderer := by
          rw [silent, operate_of_unreported done silent kept, change_of_none]
        exact .of_rest (.of_eq rfl) same rfl
      · have written : s.renderer.change s.now effect.after effect.changes =
            s.renderer.change s.now effect.after 1 := by
          rw [change_of_some _ _ silent, change_of_some _ _ Nat.one_ne_zero]
        exact .of_silent (.of_eq rfl) (.held effect.after) trivial written rfl rfl
  | patch path value => exact .of_silent (.of_eq rfl) (.patch path value) trivial rfl rfl rfl
  | patchFrom path source =>
    rw [step]
    cases reach s.renderer.data source with
    | error e => exact .refl
    | ok target =>
      exact .of_silent (.of_eq rfl) (.patch path target.toValue) trivial rfl rfl rfl
  | remove path => exact .of_silent (.of_eq rfl) (.remove path) trivial rfl rfl rfl
  | flush => exact leads_fired s (a := .flush) trivial rfl
  | tick => exact leads_tick prepared
  | advance ms =>
    have later : Leads s { s with now := s.now + ms } :=
      .of_rest ⟨rfl, rfl, Nat.le_add_right _ _, fun _ => id⟩ rfl rfl
    exact later.trans (leads_tick (later.prepared prepared))
  | release gate =>
    refine .of_rest ⟨rfl, rfl, Nat.le_refl _, fun id mem => ?_⟩ rfl rfl
    rcases List.mem_append.mp mem with mem | mem
    · exact mem
    · obtain ⟨_, _, other⟩ := List.mem_map.mp mem
      cases other
  | call c =>
    have called : Leads s (s.enqueue (.call c)) := leads_enqueue s fun id => nofun
    exact called.trans (leads_tick (called.prepared prepared))

/-- Nothing has been done to the session or to its renderer. -/
structure Fresh (data : Params) (debounce : Nat) (s : Session) : Prop where
  renderer : s.renderer = .initial data debounce
  queue : s.queue = []
  outputs : s.outputs = []

/-- The states of a session that steps lead to, none of which clears a list of the parameters. -/
inductive Reached (s₀ : Session) : Session → Prop where
  | start : Reached s₀ s₀
  | step {s : Session} (reached : Reached s₀ s) (st : Step)
      (kept : ¬st.ClearsList s.renderer.data) : Reached s₀ (s.step st).2

theorem Reached.leads {s₀ : Session} (reached : Reached s₀ s) (prepared : Prepared s₀) :
    Leads s₀ s := by
  induction reached with
  | start => exact .refl
  | step _ st kept ih => exact ih.trans (leads_step (ih.prepared prepared) kept)

theorem Fresh.prepared (fresh : Fresh data debounce s) : Prepared s := by
  constructor
  · intro id mem
    rw [fresh.queue] at mem
    exact (List.not_mem_nil mem).elim
  · rw [fresh.renderer]
    exact ⟨fun _ mem => (List.not_mem_nil mem).elim, List.nodup_nil⟩

theorem handedOn_accepted (m : Moment) (trace : List Moment) :
    (accepted (m :: trace)).map (·.output.html) =
      (accepted trace).map (·.output.html) ++ m.handedOn := by
  rw [accepted_cons, List.map_append, Moment.handedOn]
  cases m.accepted? <;> rfl

/-- A session that goes on from a run of its renderer makes a longer run of it. -/
theorem Leads.exists_run {r₀ : Renderer} (leads : Leads s s')
    (run : Run (Shows s.template s.options) r₀ trace s.renderer)
    (clock : ∀ m ∈ trace.head?, m.now ≤ s.now)
    (outputs : s.outputs = (accepted trace).map (·.output.html)) :
    s'.template = s.template ∧ s'.options = s.options ∧
      ∃ trace', Run (Shows s.template s.options) r₀ trace' s'.renderer ∧
        (∀ m ∈ trace'.head?, m.now ≤ s'.now) ∧
        s'.outputs = (accepted trace').map (·.output.html) := by
  induction leads with
  | refl => exact ⟨rfl, rfl, trace, run, clock, outputs⟩
  | rest _ remains renderer same ih =>
    obtain ⟨template, options, trace', run, clock, outputs⟩ := ih
    refine ⟨remains.template.trans template, remains.options.trans options, trace', ?_, ?_, ?_⟩
    · rw [renderer]
      exact run
    · exact fun m mem => Nat.le_trans (clock m mem) remains.now
    · exact same.trans outputs
  | @act s' _ _ remains a enabled renderer noted ih =>
    obtain ⟨template, options, trace', run, clock, outputs⟩ := ih
    rw [template, options] at enabled
    refine ⟨remains.template.trans template, remains.options.trans options,
      ⟨s'.now, s'.renderer, a⟩ :: trace', ?_, ?_, ?_⟩
    · rw [renderer]
      exact run.cons clock enabled
    · rintro m ⟨⟩
      exact remains.now
    · rw [handedOn_accepted, ← outputs]
      exact noted

/-- What is done to a session is a run of its renderer, and what it has handed on is what the run
accepts. -/
theorem exists_run {s₀ : Session} (fresh : Fresh data debounce s₀) (reached : Reached s₀ s) :
    ∃ trace, Run (Shows s₀.template s₀.options) (.initial data debounce) trace s.renderer ∧
      s.outputs = (accepted trace).map (·.output.html) := by
  have start : Run (Shows s₀.template s₀.options) (.initial data debounce) [] s₀.renderer := by
    rw [fresh.renderer]
    exact .nil
  obtain ⟨_, _, trace, run, _, outputs⟩ :=
    (reached.leads fresh.prepared).exists_run start nofun fresh.outputs
  exact ⟨trace, run, outputs⟩

end Session

/-- In every run, whatever the order in which renders end, what is accepted is in order. Every
session is such a run, and it hands on what is accepted and nothing else. -/
theorem accepted_in_order :
    (∀ {renders : Params → Option RenderedOutput → Prop} {data : Params} {debounce : Nat}
      {trace : List Moment} {r : Renderer},
      Run renders (.initial data debounce) trace r → Orderly renders trace r) ∧
    ∀ {data : Params} {debounce : Nat} {s₀ s : Session}, s₀.Fresh data debounce → s₀.Reached s →
      ∃ trace, Run (Shows s₀.template s₀.options) (.initial data debounce) trace s.renderer ∧
        s.outputs = (accepted trace).map (·.output.html) :=
  ⟨fun run => run.orderly, fun fresh reached => Session.exists_run fresh reached⟩

/-- Every output is one that the parameters may have. -/
def Unconstrained (_ : Params) (_ : Option RenderedOutput) : Prop :=
  True

/-- The newer of two renders ends first, and a session starts after a change. -/
theorem accepted_in_order_of_overtaken :
    let start : Renderer := .initial [] 100
    let first := start.fire
    let second := first.fire
    let newer : RenderedOutput := ⟨"newer", ""⟩
    let older : RenderedOutput := ⟨"older", ""⟩
    let shown := second.finish 2 (some newer)
    let trace : List Moment := [⟨0, shown, .finish 1 (some older)⟩,
      ⟨0, second, .finish 2 (some newer)⟩, ⟨0, first, .start⟩, ⟨0, start, .start⟩]
    let session : Session := {
      template := "<p>{{n}}</p>", options := {}, mode := .gated, sink := .feedback
      renderer := start }
    let changed := (session.step (.patch "n" (.text "1"))).2
    let started := (changed.step (.call .start)).2
    Orderly Unconstrained trace (shown.finish 1 (some older)) ∧
      ∃ trace, Run (Shows session.template session.options) start trace started.renderer ∧
        started.outputs = (accepted trace).map (·.output.html) := by
  intro start first second newer older shown trace session changed started
  have once : Run Unconstrained start [⟨0, start, .start⟩] first :=
    .cons .nil (by simp) trivial
  have twice : Run Unconstrained start [⟨0, first, .start⟩, ⟨0, start, .start⟩] second :=
    once.cons (by simp) trivial
  have ended : Run Unconstrained start (⟨0, second, .finish 2 (some newer)⟩ :: _) shown :=
    twice.cons (by simp) ⟨⟨2, []⟩, .tail _ (.head _), rfl, trivial⟩
  have late : Run Unconstrained start trace (shown.finish 1 (some older)) :=
    ended.cons (by simp) ⟨⟨1, []⟩, .head _, rfl, trivial⟩
  have fresh : session.Fresh [] 100 := ⟨rfl, rfl, rfl⟩
  have patched : session.Reached changed := .step .start (.patch "n" (.text "1")) id
  have reached : session.Reached started := patched.step (.call .start) id
  exact ⟨accepted_in_order.1 late, accepted_in_order.2 fresh reached⟩

end PageComponent.Live
