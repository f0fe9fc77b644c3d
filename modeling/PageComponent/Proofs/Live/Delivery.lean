import Mathlib.Data.List.Nodup
import PageComponent.Proofs.Live.Runs

/-!
# Delivery

No change is lost. Once something has been asked for, a timer is outstanding, or the newest render
is one of the parameters as they are: it is on its way, it has failed, or its output is the last.
-/

namespace PageComponent.Live

open Renderer

/-! ## The numbers of renders -/

/-- The renders on their way have numbers of their own, none above the newest. -/
structure Numbered (r : Renderer) : Prop where
  le : ∀ task ∈ r.inFlight, task.generation ≤ r.generation
  nodup : (r.inFlight.map RenderTask.generation).Nodup

namespace Numbered

variable {r r' : Renderer}

theorem initial (data : Params) (debounce : Nat) : Numbered (Renderer.initial data debounce) :=
  ⟨fun _ mem => (List.not_mem_nil mem).elim, List.nodup_nil⟩

theorem of_eq (h : Numbered r) (inFlight : r'.inFlight = r.inFlight)
    (generation : r'.generation = r.generation) : Numbered r' := by
  constructor
  · rw [inFlight, generation]
    exact h.le
  · rw [inFlight]
    exact h.nodup

theorem fire (h : Numbered r) : Numbered r.fire := by
  cases closed : r.closed with
  | true =>
    rw [fire_of_closed closed]
    exact h.of_eq rfl rfl
  | false =>
    rw [fire_of_open closed]
    constructor
    · intro task mem
      rcases List.mem_append.mp mem with mem | mem
      · exact Nat.le_succ_of_le (h.le task mem)
      · exact Nat.le_of_eq (congrArg RenderTask.generation (List.mem_singleton.mp mem))
    · simp only [List.map_append, List.map_cons, List.map_nil]
      refine h.nodup.append (List.nodup_singleton _) ?_
      rw [List.disjoint_singleton]
      intro mem
      obtain ⟨task, mem, eq⟩ := List.mem_map.mp mem
      have := h.le task mem
      omega

theorem finish (h : Numbered r) (generation : Nat) (output : Option RenderedOutput) :
    Numbered (r.finish generation output) := by
  constructor
  · intro task mem
    rw [finish_inFlight] at mem
    rw [finish_generation]
    exact h.le task (List.mem_filter.mp mem).1
  · rw [finish_inFlight]
    exact h.nodup.sublist (List.filter_sublist.map _)

/-- A number belongs to one render only. -/
theorem unique (h : Numbered r) {task task' : RenderTask} (mem : task ∈ r.inFlight)
    (mem' : task' ∈ r.inFlight) (eq : task.generation = task'.generation) : task = task' :=
  List.inj_on_of_nodup_map h.nodup mem mem' eq

end Numbered

variable {renders : Params → Option RenderedOutput → Prop} {now : Nat} {r r' : Renderer}
  {a : Action} {data : Params} {debounce : Nat} {trace : List Moment}

theorem Does.numbered (does : Does renders now r a r') (h : Numbered r) : Numbered r' := by
  cases does with
  | write data writes => exact h.of_eq (schedule_inFlight ..) (schedule_generation ..)
  | operate | remove | idle => exact h
  | start => exact h.fire
  | flush pending => exact (h.of_eq (cancel_inFlight r) (cancel_generation r)).fire
  | close => exact h.of_eq (cancel_inFlight r) (cancel_generation r)
  | timer t mem due => exact Numbered.fire (h.of_eq rfl rfl)
  | finish task mem output result => exact h.finish _ _

theorem Run.numbered (run : Run renders (Renderer.initial data debounce) trace r) :
    Numbered r := by
  induction run with
  | nil => exact .initial data debounce
  | cons run clock enabled ih => exact (does_apply renders enabled).numbered ih

theorem Run.closed (run : Run renders (Renderer.initial data debounce) trace r)
    (open' : ∀ m ∈ trace, m.action ≠ .close) : r.closed = false := by
  induction run with
  | nil => rfl
  | cons run clock enabled ih =>
    obtain ⟨openNow, openBefore⟩ := List.forall_mem_cons.mp open'
    rw [(does_apply renders enabled).closed openNow]
    exact ih openBefore

/-! ## The newest render -/

/-- The newest render is one of the parameters as they are. -/
inductive Current (renders : Params → Option RenderedOutput → Prop) (trace : List Moment)
    (r : Renderer) : Prop where
  | underway (task : RenderTask) (mem : task ∈ r.inFlight)
      (newest : task.generation = r.generation) (snapshot : task.snapshot = r.data)
  | failed (m : Moment) (mem : m ∈ trace) (failure : m.action = .finish r.generation none)
  | shown (out : RenderedOutput) (ended : ∀ task ∈ r.inFlight, task.generation ≠ r.generation)
      (last : r.lastOutput = some out) (result : renders r.data (some out))

/-- A timer is outstanding, or there is nothing left to render. -/
def Attended (renders : Params → Option RenderedOutput → Prop) (trace : List Moment)
    (r : Renderer) : Prop :=
  r.timers ≠ [] ∨ Current renders trace r

theorem current_fire (trace : List Moment) {r : Renderer} (isOpen : r.closed = false) :
    Current renders trace r.fire := by
  rw [fire_of_open isOpen]
  exact .underway ⟨r.generation + 1, r.data⟩
    (List.mem_append_right _ (List.mem_singleton.mpr rfl)) rfl rfl

theorem timers_schedule (now : Nat) {r : Renderer} (isOpen : r.closed = false) :
    (r.schedule now).timers ≠ [] := by
  rw [schedule_of_open now isOpen]
  exact List.append_ne_nil_of_right_ne_nil _ (List.cons_ne_nil _ _)

/-- The end of a render: of an older one it changes nothing, and the newest leaves its output
unless it fails. -/
theorem Current.finish {task : RenderTask} {output : Option RenderedOutput}
    (current : Current renders trace r) (numbered : Numbered r) (mem : task ∈ r.inFlight)
    (result : renders task.snapshot output) :
    Current renders (⟨now, r, .finish task.generation output⟩ :: trace)
      (r.finish task.generation output) := by
  cases current with
  | underway task' mem' newest snapshot =>
    by_cases eq : task.generation = r.generation
    · have same : task = task' := numbered.unique mem mem' (eq.trans newest.symm)
      subst same
      cases output with
      | none =>
        refine .failed _ List.mem_cons_self ?_
        rw [finish_generation, eq]
      | some out =>
        rw [eq, finish_newest]
        refine .shown out ?_ rfl (snapshot ▸ result)
        intro other mem
        exact of_decide_eq_true (List.mem_filter.mp mem).2
    · rw [finish_older eq]
      refine .underway task' (List.mem_filter.mpr ⟨mem', ?_⟩) newest snapshot
      exact decide_eq_true fun h => eq (h.symm.trans newest)
  | failed m mem failure =>
    refine .failed m (List.mem_cons_of_mem _ mem) ?_
    rw [finish_generation, failure]
  | shown out ended last result =>
    rw [finish_older (ended task mem)]
    exact .shown out (fun other mem => ended other (List.mem_filter.mp mem).1) last result

theorem Attended.cons {m : Moment} (h : Attended renders trace r) :
    Attended renders (m :: trace) r := by
  rcases h with timers | current
  · exact .inl timers
  · refine .inr ?_
    cases current with
    | underway task mem newest snapshot => exact .underway task mem newest snapshot
    | failed m' mem failure => exact .failed m' (List.mem_cons_of_mem _ mem) failure
    | shown out ended last result => exact .shown out ended last result

theorem Does.attended (does : Does renders now r a r') (numbered : Numbered r)
    (isOpen : r.closed = false) (open' : a ≠ .close)
    (before : (∃ m ∈ trace, m.Requests) → Attended renders trace r)
    (requested : ∃ m ∈ (⟨now, r, a⟩ :: trace : List Moment), m.Requests) :
    Attended renders (⟨now, r, a⟩ :: trace) r' := by
  -- An action that asks for nothing was preceded by one that did.
  have earlier (writes : ¬a.Writes r) (start : a ≠ .start) : Attended renders trace r := by
    obtain ⟨m, mem, requests⟩ := requested
    rcases List.mem_cons.mp mem with rfl | mem
    · exact absurd requests (not_or.mpr ⟨writes, start⟩)
    · exact before ⟨m, mem, requests⟩
  cases does with
  | write data writes => exact .inl (timers_schedule now isOpen)
  | operate keys op writes => exact (earlier writes nofun).cons
  | remove path writes => exact (earlier writes nofun).cons
  | start => exact .inr (current_fire _ isOpen)
  | flush pending => exact .inr (current_fire _ ((cancel_closed r).trans isOpen))
  | idle pending => exact (earlier id nofun).cons
  | close => exact absurd rfl open'
  | timer t mem due => exact .inr (current_fire _ isOpen)
  | finish task mem output result =>
    rcases earlier id nofun with timers | current
    · exact .inl ((finish_timers ..).symm ▸ timers)
    · exact .inr (current.finish numbered mem result)

theorem Run.attended (run : Run renders (Renderer.initial data debounce) trace r)
    (open' : ∀ m ∈ trace, m.action ≠ .close) (requested : ∃ m ∈ trace, m.Requests) :
    Attended renders trace r := by
  induction run with
  | nil =>
    obtain ⟨m, mem, -⟩ := requested
    exact (List.not_mem_nil mem).elim
  | cons run clock enabled ih =>
    obtain ⟨openNow, openBefore⟩ := List.forall_mem_cons.mp open'
    have isOpen := run.closed openBefore
    exact (does_apply renders enabled).attended run.numbered isOpen openNow (ih openBefore)
      requested

/-- No change is lost: once all is quiet, the last output is a render of the parameters as they
are, whatever was done and in whatever order, unless the newest render failed. -/
theorem lastOutput_of_quiet {data : Params} {debounce : Nat} {trace : List Moment} {r : Renderer}
    (run : Run renders (Renderer.initial data debounce) trace r)
    (open' : ∀ m ∈ trace, m.action ≠ .close) (requested : ∃ m ∈ trace, m.Requests)
    (timers : r.timers = []) (inFlight : r.inFlight = [])
    (newest : ∀ m ∈ trace, m.action ≠ .finish r.generation none) :
    ∃ out, r.lastOutput = some out ∧ renders r.data (some out) := by
  rcases run.attended open' requested with outstanding | current
  · exact absurd timers outstanding
  · cases current with
    | underway task mem =>
      rw [inFlight] at mem
      exact (List.not_mem_nil mem).elim
    | failed m mem failure => exact absurd failure (newest m mem)
    | shown out ended last result => exact ⟨out, last, result⟩

/-- Every render shows the parameters themselves. -/
def Inspects (data : Params) (output : Option RenderedOutput) : Prop :=
  output = some ⟨(Value.mapping data).inspect, ""⟩

theorem lastOutput_of_patch :
    let written := (Renderer.initial [] 100).patch 0 "title" (.text "Hello")
    let fired := written.fireTimer 0
    let output : RenderedOutput := ⟨(Value.mapping written.data).inspect, ""⟩
    let shown := fired.finish 1 (some output)
    ∃ out, shown.lastOutput = some out ∧ Inspects shown.data (some out) := by
  intro written fired output shown
  have patched : Run Inspects (.initial [] 100)
      [⟨0, .initial [] 100, .patch "title" (.text "Hello")⟩] written :=
    .cons .nil (by simp) trivial
  have due : Run Inspects (.initial [] 100) (⟨100, written, .timer 0⟩ :: _) fired :=
    patched.cons (by simp) ⟨⟨0, 100⟩, .head _, rfl, Nat.le_refl 100⟩
  have ended : Run Inspects (.initial [] 100) (⟨100, fired, .finish 1 (some output)⟩ :: _) shown :=
    due.cons (by simp) ⟨⟨1, written.data⟩, .head _, rfl, rfl⟩
  refine lastOutput_of_quiet ended (by simp) ⟨_, .tail _ (.tail _ (.head _)), .inl ?_⟩ rfl rfl ?_
  · exact trivial
  · simp

end PageComponent.Live
