import PageComponent.Proofs.Live.Delivery

/-!
# Acceptance

Renders end in any order, and only the result of the newest is accepted: it becomes the last output
and is counted. So the results accepted come in the order in which their renders were fired, and a
render that fails or that a newer one has overtaken leaves no trace.
-/

namespace PageComponent.Live

open Renderer

/-! ## Renders fired and results accepted -/

/-- The output of a render, with the number of the render. -/
structure Result where
  generation : Nat
  output : RenderedOutput

namespace Moment

/-- The render that the moment fires, of the parameters as they are. -/
def fired? (m : Moment) : Option RenderTask :=
  if m.after.generation = m.before.generation then none
  else some ⟨m.after.generation, m.before.data⟩

/-- The result that the moment accepts: a render ends with an output and is counted. -/
def accepted? (m : Moment) : Option Result :=
  match m.action with
  | .finish generation (some output) =>
    if m.after.renderCount = m.before.renderCount then none else some ⟨generation, output⟩
  | _ => none

end Moment

/-- The renders that were fired, the first one first. -/
def firings (trace : List Moment) : List RenderTask :=
  trace.reverse.filterMap Moment.fired?

/-- The results that were accepted, the first one first. -/
def accepted (trace : List Moment) : List Result :=
  trace.reverse.filterMap Moment.accepted?

variable {renders : Params → Option RenderedOutput → Prop} {now : Nat} {r r' : Renderer}
  {a : Action} {data : Params} {debounce : Nat} {trace : List Moment} {m : Moment}

theorem firings_cons (m : Moment) (trace : List Moment) :
    firings (m :: trace) = firings trace ++ m.fired?.toList := by
  simp only [firings, List.reverse_cons, List.filterMap_append, List.filterMap_cons,
    List.filterMap_nil]
  cases m.fired? <;> rfl

theorem accepted_cons (m : Moment) (trace : List Moment) :
    accepted (m :: trace) = accepted trace ++ m.accepted?.toList := by
  simp only [accepted, List.reverse_cons, List.filterMap_append, List.filterMap_cons,
    List.filterMap_nil]
  cases m.accepted? <;> rfl

theorem fired?_of_eq (h : m.after.generation = m.before.generation) : m.fired? = none :=
  if_pos h

theorem accepted?_of_eq (h : m.after.renderCount = m.before.renderCount) : m.accepted? = none := by
  unfold Moment.accepted?
  split
  · exact if_pos h
  · rfl

/-! ## What an action does to renders -/

theorem schedule_renderCount (now : Nat) (r : Renderer) :
    (r.schedule now).renderCount = r.renderCount := by
  cases closed : r.closed
  · rw [schedule_of_open now closed]
  · rw [schedule_of_closed now closed]

theorem schedule_lastOutput (now : Nat) (r : Renderer) :
    (r.schedule now).lastOutput = r.lastOutput := by
  cases closed : r.closed
  · rw [schedule_of_open now closed]
  · rw [schedule_of_closed now closed]

/-- An action leaves the renders alone, fires one, or ends one. -/
inductive RenderStep (renders : Params → Option RenderedOutput → Prop) (r : Renderer) :
    Action → Renderer → Prop where
  | idle {a : Action} {r' : Renderer} (inFlight : r'.inFlight = r.inFlight)
      (generation : r'.generation = r.generation) (count : r'.renderCount = r.renderCount)
      (last : r'.lastOutput = r.lastOutput) : RenderStep renders r a r'
  | fire {a : Action} {r' : Renderer}
      (inFlight : r'.inFlight = r.inFlight ++ [⟨r.generation + 1, r.data⟩])
      (generation : r'.generation = r.generation + 1) (count : r'.renderCount = r.renderCount)
      (last : r'.lastOutput = r.lastOutput) : RenderStep renders r a r'
  | finish (task : RenderTask) (mem : task ∈ r.inFlight) (output : Option RenderedOutput)
      (result : renders task.snapshot output) :
      RenderStep renders r (.finish task.generation output) (r.finish task.generation output)

namespace RenderStep

/-- What fires, fires a render or is closed. -/
theorem of_fire {s : Renderer} (inFlight : s.inFlight = r.inFlight)
    (generation : s.generation = r.generation) (same : s.data = r.data)
    (count : s.renderCount = r.renderCount) (last : s.lastOutput = r.lastOutput) :
    RenderStep renders r a s.fire := by
  cases closed : s.closed with
  | true =>
    rw [fire_of_closed closed]
    exact .idle inFlight generation count last
  | false =>
    rw [fire_of_open closed]
    refine .fire ?_ (congrArg (· + 1) generation) count last
    rw [inFlight, generation, same]

end RenderStep

theorem Does.renderStep (does : Does renders now r a r') : RenderStep renders r a r' := by
  cases does with
  | write data writes =>
    exact .idle (schedule_inFlight ..) (schedule_generation ..) (schedule_renderCount ..)
      (schedule_lastOutput ..)
  | operate | remove | idle => exact .idle rfl rfl rfl rfl
  | start => exact .of_fire rfl rfl rfl rfl rfl
  | flush pending =>
    rw [cancel_eq]
    exact .of_fire rfl rfl rfl rfl rfl
  | close =>
    rw [cancel_eq]
    exact .idle rfl rfl rfl rfl
  | timer t mem due => exact .of_fire rfl rfl rfl rfl rfl
  | finish task mem output result => exact .finish task mem output result

/-! ## The end of a render -/

theorem finish_data (generation : Nat) (output : Option RenderedOutput) (r : Renderer) :
    (r.finish generation output).data = r.data := by
  rw [finish_eq]

/-- A render that fails or is not the newest leaves nothing behind. -/
theorem finish_unaccepted {generation : Nat} {output : Option RenderedOutput}
    (h : output = none ∨ generation ≠ r.generation) :
    (r.finish generation output).lastOutput = r.lastOutput ∧
      (r.finish generation output).renderCount = r.renderCount := by
  rcases h with rfl | older
  · exact ⟨rfl, rfl⟩
  · rw [finish_older older]
    exact ⟨rfl, rfl⟩

theorem fired?_of_finish (now : Nat) (r : Renderer) (generation : Nat)
    (output : Option RenderedOutput) :
    (⟨now, r, .finish generation output⟩ : Moment).fired? = none :=
  fired?_of_eq (finish_generation generation output r)

/-- The result that the end of a render brings is accepted if the render is the newest. -/
theorem accepted?_finish (now : Nat) (r : Renderer) (generation : Nat)
    (output : Option RenderedOutput) :
    (⟨now, r, .finish generation output⟩ : Moment).accepted? =
      if generation = r.generation then output.map (⟨generation, ·⟩) else none := by
  cases output with
  | none => exact (ite_self none).symm
  | some out =>
    by_cases newest : generation = r.generation
    · have counted : (r.finish generation (some out)).renderCount = r.renderCount + 1 := by
        rw [newest, finish_newest]
      have changed : (r.finish generation (some out)).renderCount ≠ r.renderCount := by omega
      rw [if_pos newest]
      exact if_neg changed
    · rw [if_neg newest]
      exact if_pos (finish_unaccepted (.inr newest)).2

theorem accepted?_eq_some {m : Moment} {result : Result} (h : m.accepted? = some result) :
    m.action = .finish result.generation (some result.output) ∧
      result.generation = m.before.generation := by
  obtain ⟨now, r, a⟩ := m
  cases a with
  | finish generation output =>
    rw [accepted?_finish] at h
    split at h
    next newest =>
      obtain ⟨out, rfl, rfl⟩ := Option.map_eq_some_iff.mp h
      exact ⟨rfl, newest⟩
    next => cases h
  | _ => cases h

/-! ## The course of a run -/

/-- How what was fired and accepted shows in a renderer. -/
structure Course (trace : List Moment) (r : Renderer) : Prop where
  /-- Renders are numbered from one on in the order in which they are fired. -/
  numbers : (firings trace).map RenderTask.generation = List.range' 1 r.generation
  /-- What is on its way was fired, of the parameters that it renders. -/
  underway : ∀ task ∈ r.inFlight, task ∈ firings trace
  increasing : (accepted trace).Pairwise (·.generation < ·.generation)
  /-- No render is accepted twice. -/
  passed : ∀ result ∈ accepted trace, result.generation ≤ r.generation ∧
    ∀ task ∈ r.inFlight, task.generation ≠ result.generation
  count : r.renderCount = (accepted trace).length
  last : r.lastOutput = (accepted trace).getLast?.map Result.output

namespace Course

theorem initial (data : Params) (debounce : Nat) : Course [] (Renderer.initial data debounce) where
  numbers := rfl
  underway := fun _ mem => (List.not_mem_nil mem).elim
  increasing := .nil
  passed := fun _ mem => (List.not_mem_nil mem).elim
  count := rfl
  last := rfl

/-- A render whose number is the newest is the last one fired. -/
theorem getLast? (h : Course trace r) {task : RenderTask} (mem : task ∈ firings trace)
    (newest : task.generation = r.generation) : (firings trace).getLast? = some task := by
  have nonempty : firings trace ≠ [] := List.ne_nil_of_mem mem
  have distinct : ((firings trace).map RenderTask.generation).Nodup := by
    rw [h.numbers]
    exact List.nodup_range'
  have lastNumber : ((firings trace).getLast nonempty).generation = r.generation := by
    have lastOf := List.getLast?_map (f := RenderTask.generation) (l := firings trace)
    rw [h.numbers, List.getLast?_eq_some_getLast nonempty, List.getLast?_range'] at lastOf
    split at lastOf
    · cases lastOf
    · simp only [Option.map_some, Option.some.injEq] at lastOf
      omega
  have same : task = (firings trace).getLast nonempty :=
    List.inj_on_of_nodup_map distinct mem (List.getLast_mem nonempty)
      (newest.trans lastNumber.symm)
  rw [List.getLast?_eq_some_getLast nonempty, same]

/-- No render has been fired with a number above the newest. -/
theorem le (h : Course trace r) {task : RenderTask} (mem : task ∈ firings trace) :
    task.generation ≤ r.generation := by
  have listed := List.mem_map_of_mem (f := RenderTask.generation) mem
  rw [h.numbers, List.mem_range'_1] at listed
  omega

theorem exists_newest (h : Course trace r) {task : RenderTask} (mem : task ∈ firings trace) :
    ∃ last ∈ firings trace, last.generation = r.generation := by
  have listed := List.mem_map_of_mem (f := RenderTask.generation) mem
  rw [h.numbers, List.mem_range'_1] at listed
  have newest : r.generation ∈ (firings trace).map RenderTask.generation := by
    rw [h.numbers, List.mem_range'_1]
    omega
  exact List.mem_map.mp newest

/-- Nothing is fired or accepted, and at most a render is no longer on its way. -/
theorem of_calm (h : Course trace m.before) (inFlight : m.after.inFlight ⊆ m.before.inFlight)
    (generation : m.after.generation = m.before.generation)
    (count : m.after.renderCount = m.before.renderCount)
    (last : m.after.lastOutput = m.before.lastOutput) : Course (m :: trace) m.after := by
  have fired : firings (m :: trace) = firings trace := by
    rw [firings_cons, fired?_of_eq generation, Option.toList_none, List.append_nil]
  have kept : accepted (m :: trace) = accepted trace := by
    rw [accepted_cons, accepted?_of_eq count, Option.toList_none, List.append_nil]
  constructor
  · rw [fired, generation]
    exact h.numbers
  · rw [fired]
    exact fun task mem => h.underway task (inFlight mem)
  · rw [kept]
    exact h.increasing
  · rw [kept, generation]
    intro result mem
    obtain ⟨le, ended⟩ := h.passed result mem
    exact ⟨le, fun task mem => ended task (inFlight mem)⟩
  · rw [kept, count]
    exact h.count
  · rw [kept, last]
    exact h.last

theorem of_fire (h : Course trace m.before)
    (inFlight : m.after.inFlight =
      m.before.inFlight ++ [⟨m.before.generation + 1, m.before.data⟩])
    (generation : m.after.generation = m.before.generation + 1)
    (count : m.after.renderCount = m.before.renderCount)
    (last : m.after.lastOutput = m.before.lastOutput) : Course (m :: trace) m.after := by
  have fired : firings (m :: trace) =
      firings trace ++ [⟨m.before.generation + 1, m.before.data⟩] := by
    rw [firings_cons, Moment.fired?, if_neg (by omega), generation, Option.toList_some]
  have kept : accepted (m :: trace) = accepted trace := by
    rw [accepted_cons, accepted?_of_eq count, Option.toList_none, List.append_nil]
  constructor
  · rw [fired, generation, List.map_append, h.numbers, List.range'_concat, Nat.one_mul,
      Nat.add_comm 1]
    rfl
  · rw [fired, inFlight]
    intro task mem
    rcases List.mem_append.mp mem with mem | mem
    · exact List.mem_append_left _ (h.underway task mem)
    · exact List.mem_append_right _ mem
  · rw [kept]
    exact h.increasing
  · rw [kept, inFlight, generation]
    intro result mem
    obtain ⟨le, ended⟩ := h.passed result mem
    refine ⟨Nat.le_succ_of_le le, ?_⟩
    intro task mem
    rcases List.mem_append.mp mem with mem | mem
    · exact ended task mem
    · rw [List.mem_singleton.mp mem]
      exact Nat.ne_of_gt (Nat.lt_succ_of_le le)
  · rw [kept, count]
    exact h.count
  · rw [kept, last]
    exact h.last

/-- The newest render ends with an output: it is accepted, and all accepted before it are older. -/
theorem of_newest (h : Course trace r) {task : RenderTask} (mem : task ∈ r.inFlight)
    (newest : task.generation = r.generation) (out : RenderedOutput) :
    Course (⟨now, r, .finish task.generation (some out)⟩ :: trace)
      (r.finish task.generation (some out)) := by
  have fired : firings (⟨now, r, .finish task.generation (some out)⟩ :: trace) =
      firings trace := by
    rw [firings_cons, fired?_of_finish, Option.toList_none, List.append_nil]
  have grown : accepted (⟨now, r, .finish task.generation (some out)⟩ :: trace) =
      accepted trace ++ [⟨task.generation, out⟩] := by
    rw [accepted_cons, accepted?_finish, if_pos newest, Option.map_some, Option.toList_some]
  have left : ∀ other ∈ (r.finish task.generation (some out)).inFlight,
      other ∈ r.inFlight ∧ other.generation ≠ task.generation := by
    intro other mem
    rw [finish_inFlight, List.mem_filter, decide_eq_true_eq] at mem
    exact mem
  constructor
  · rw [fired, finish_generation]
    exact h.numbers
  · rw [fired]
    exact fun other mem => h.underway other (left other mem).1
  · rw [grown, List.pairwise_append]
    refine ⟨h.increasing, List.pairwise_singleton _ _, ?_⟩
    intro result mem' last lastMem
    rw [List.mem_singleton.mp lastMem]
    obtain ⟨le, ended⟩ := h.passed result mem'
    exact Nat.lt_of_le_of_ne (newest ▸ le) (ended task mem).symm
  · rw [grown, finish_generation]
    intro result mem'
    rcases List.mem_append.mp mem' with mem' | mem'
    · obtain ⟨le, ended⟩ := h.passed result mem'
      exact ⟨le, fun other mem => ended other (left other mem).1⟩
    · rw [List.mem_singleton.mp mem']
      exact ⟨Nat.le_of_eq newest, fun other mem => (left other mem).2⟩
  · rw [grown, newest, finish_newest, List.length_append, ← h.count]
    rfl
  · rw [grown, newest, finish_newest, List.getLast?_concat]
    rfl

theorem step (h : Course trace m.before) (step : RenderStep renders m.before m.action m.after) :
    Course (m :: trace) m.after := by
  obtain ⟨now, r, a⟩ := m
  generalize after : (⟨now, r, a⟩ : Moment).after = r' at step ⊢
  cases step with
  | idle inFlight generation count last =>
    subst after
    exact h.of_calm (fun _ mem => inFlight ▸ mem) generation count last
  | fire inFlight generation count last =>
    subst after
    exact h.of_fire inFlight generation count last
  | finish task mem output result =>
    by_cases older : output = none ∨ task.generation ≠ r.generation
    · obtain ⟨last, count⟩ := finish_unaccepted older
      have fewer : (r.finish task.generation output).inFlight ⊆ r.inFlight := by
        rw [finish_inFlight]
        exact List.filter_subset_self _
      exact h.of_calm fewer (finish_generation _ _ r) count last
    · obtain ⟨succeeded, newest⟩ := not_or.mp older
      obtain ⟨out, rfl⟩ := Option.ne_none_iff_exists'.mp succeeded
      exact h.of_newest mem (not_not.mp newest) out

end Course

theorem Run.course (run : Run renders (Renderer.initial data debounce) trace r) :
    Course trace r := by
  induction run with
  | nil => exact .initial data debounce
  | @cons _ r run now a clock enabled ih =>
    exact Course.step (m := ⟨now, r, a⟩) ih (does_apply renders enabled).renderStep

/-! ## Order -/

/-- What a run promises of the results that it accepts, in whatever order renders end. -/
structure Orderly (renders : Params → Option RenderedOutput → Prop) (trace : List Moment)
    (r : Renderer) : Prop where
  /-- Renders are numbered from one on in the order in which they are fired. -/
  numbers : (firings trace).map RenderTask.generation = List.range' 1 r.generation
  /-- A result is accepted after those of older renders only, and no render's twice. -/
  increasing : ((accepted trace).map Result.generation).Pairwise (· < ·)
  count : r.renderCount = (accepted trace).length
  last : r.lastOutput = (accepted trace).getLast?.map Result.output
  /-- What is accepted comes from the last render fired so far, and renders the parameters as they
  were when it was fired. -/
  newest : ∀ later m earlier result, trace = later ++ m :: earlier → m.accepted? = some result →
    ∃ snapshot, (firings earlier).getLast? = some ⟨result.generation, snapshot⟩ ∧
      renders snapshot (some result.output)
  /-- A render that ends with an output is accepted unless a newer one has been fired. -/
  accepts : ∀ later m earlier generation output, trace = later ++ m :: earlier →
    m.action = .finish generation (some output) →
      (∀ task ∈ firings earlier, task.generation ≤ generation) →
        m.accepted? = some ⟨generation, output⟩
  /-- A render that fails, or that a newer one has overtaken, leaves no trace. -/
  drops : ∀ later m earlier generation output, trace = later ++ m :: earlier →
    m.action = .finish generation output →
      (output = none ∨ ∃ task ∈ firings earlier, generation < task.generation) →
        m.accepted? = none ∧ m.after.lastOutput = m.before.lastOutput ∧
          m.after.renderCount = m.before.renderCount ∧ m.after.data = m.before.data

variable {later earlier : List Moment}

/-- What a run has come to when a render ends. -/
theorem Run.course_finish (run : Run renders (Renderer.initial data debounce) trace r)
    (split : trace = later ++ m :: earlier) {generation : Nat} {output : Option RenderedOutput}
    (ends : m.action = .finish generation output) :
    Course earlier m.before ∧ ∃ task ∈ firings earlier, task.generation = generation ∧
      renders task.snapshot output := by
  subst split
  obtain ⟨before, enabled⟩ := run.earlier
  rw [ends] at enabled
  obtain ⟨task, mem, number, result⟩ := enabled
  exact ⟨before.course, task, before.course.underway task mem, number, result⟩

/-- Renders may end in any order: the results accepted are in the order in which their renders were
fired, each is of the newest render, and the others change nothing. -/
theorem Run.orderly (run : Run renders (Renderer.initial data debounce) trace r) :
    Orderly renders trace r where
  numbers := run.course.numbers
  increasing := List.pairwise_map.mpr run.course.increasing
  count := run.course.count
  last := run.course.last
  newest later m earlier result split accept := by
    obtain ⟨ends, newest⟩ := accepted?_eq_some accept
    obtain ⟨course, task, fired, number, shows⟩ := run.course_finish split ends
    have last := course.getLast? fired (number.trans newest)
    rw [← number]
    exact ⟨task.snapshot, last, shows⟩
  accepts later m earlier generation output split ends latest := by
    obtain ⟨course, task, fired, number, shows⟩ := run.course_finish split ends
    obtain ⟨last, mem, newest⟩ := course.exists_newest fired
    have := latest last mem
    have := course.le fired
    have newest : generation = m.before.generation := by omega
    obtain ⟨now, r, a⟩ := m
    subst ends
    rw [accepted?_finish, if_pos newest, Option.map_some]
  drops later m earlier generation output split ends missed := by
    obtain ⟨course, task, fired, number, shows⟩ := run.course_finish split ends
    have older : output = none ∨ generation ≠ m.before.generation := by
      rcases missed with failed | ⟨other, mem, newer⟩
      · exact .inl failed
      · have := course.le mem
        exact .inr (by omega)
    obtain ⟨now, r, a⟩ := m
    subst ends
    obtain ⟨last, count⟩ := finish_unaccepted older
    refine ⟨?_, last, count, finish_data generation output r⟩
    rw [accepted?_finish]
    rcases older with rfl | older
    · exact ite_self none
    · exact if_neg older

end PageComponent.Live
