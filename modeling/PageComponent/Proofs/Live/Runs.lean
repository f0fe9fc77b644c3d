import PageComponent.Live.Renderer
import PageComponent.Proofs.Live.Views

/-!
# Runs of a renderer

What is done to a renderer is done at a moment, in any order: changes, commands, timers whose time
has come, and the ends of renders. How a render ends is left open: a relation says which outcomes
the parameters may have, where no output is a failure.
-/

namespace PageComponent.Live

namespace Renderer

/-- A renderer to which nothing has been done. -/
def initial (data : Params) (debounce : Nat) : Renderer :=
  { data, debounce }

/-! ## What the operations do -/

theorem cancel_eq (r : Renderer) :
    r.cancel = { r with
      timers := r.timers.filter (fun t => some t.id ≠ r.current)
      current := none } := by
  obtain ⟨data, debounce, timers, current, nextTimer, generation, inFlight, closed, lastOutput,
    renderCount⟩ := r
  cases current with
  | none =>
    simp only [cancel, reduceCtorEq, ne_eq, not_false_eq_true, decide_true, mk.injEq, true_and,
      and_true]
    exact (List.filter_eq_self.mpr fun _ _ => rfl).symm
  | some id => simp [cancel, dropTimer]

theorem schedule_of_closed {r : Renderer} (now : Nat) (h : r.closed = true) :
    r.schedule now = r := by
  simp [schedule, h]

theorem schedule_of_open {r : Renderer} (now : Nat) (h : r.closed = false) :
    r.schedule now = { r with
      timers := r.timers.filter (fun t => some t.id ≠ r.current) ++
        [⟨r.nextTimer, now + r.debounce⟩]
      current := some r.nextTimer
      nextTimer := r.nextTimer + 1 } := by
  simp [schedule, h, cancel_eq]

theorem fire_of_closed {r : Renderer} (h : r.closed = true) :
    r.fire = { r with current := none } := by
  simp [fire, h]

theorem fire_of_open {r : Renderer} (h : r.closed = false) :
    r.fire = { r with
      current := none
      generation := r.generation + 1
      inFlight := r.inFlight ++ [⟨r.generation + 1, r.data⟩] } := by
  simp [fire, h]

theorem finish_newest (out : RenderedOutput) (r : Renderer) :
    r.finish r.generation (some out) = { r with
      inFlight := r.inFlight.filter (·.generation ≠ r.generation)
      lastOutput := some out
      renderCount := r.renderCount + 1 } := by
  simp [finish, isNewest]

theorem finish_older {generation : Nat} {r : Renderer} (h : generation ≠ r.generation)
    (output : Option RenderedOutput) :
    r.finish generation output =
      { r with inFlight := r.inFlight.filter (·.generation ≠ generation) } := by
  cases output with
  | none => rfl
  | some out => simp [finish, isNewest, h]

theorem change_of_none (now : Nat) {r : Renderer} : r.change now r.data 0 = r := rfl

theorem change_of_some (now : Nat) (data : Params) {changes : Nat} (h : changes ≠ 0)
    (r : Renderer) : r.change now data changes = ({ r with data } : Renderer).schedule now := by
  simp [change, h]

/-! What the operations leave alone. -/

@[simp] theorem cancel_generation (r : Renderer) : r.cancel.generation = r.generation := by
  rw [cancel_eq]

@[simp] theorem cancel_inFlight (r : Renderer) : r.cancel.inFlight = r.inFlight := by
  rw [cancel_eq]

@[simp] theorem cancel_closed (r : Renderer) : r.cancel.closed = r.closed := by
  rw [cancel_eq]

@[simp] theorem cancel_current (r : Renderer) : r.cancel.current = none := by
  rw [cancel_eq]

@[simp] theorem schedule_generation (now : Nat) (r : Renderer) :
    (r.schedule now).generation = r.generation := by
  cases h : r.closed <;> simp [schedule, h]

@[simp] theorem schedule_inFlight (now : Nat) (r : Renderer) :
    (r.schedule now).inFlight = r.inFlight := by
  cases h : r.closed <;> simp [schedule, h]

@[simp] theorem schedule_closed (now : Nat) (r : Renderer) :
    (r.schedule now).closed = r.closed := by
  cases h : r.closed <;> simp [schedule, h]

@[simp] theorem schedule_debounce (now : Nat) (r : Renderer) :
    (r.schedule now).debounce = r.debounce := by
  cases h : r.closed
  · rw [schedule_of_open now h]
  · rw [schedule_of_closed now h]

@[simp] theorem schedule_data (now : Nat) (r : Renderer) : (r.schedule now).data = r.data := by
  cases h : r.closed
  · rw [schedule_of_open now h]
  · rw [schedule_of_closed now h]

@[simp] theorem change_data (now : Nat) (data : Params) (changes : Nat) (r : Renderer) :
    (r.change now data changes).data = data := by
  rw [change]
  split
  · rfl
  · rw [schedule_data]

@[simp] theorem fire_closed (r : Renderer) : r.fire.closed = r.closed := by
  cases h : r.closed <;> simp [fire, h]

@[simp] theorem fire_timers (r : Renderer) : r.fire.timers = r.timers := by
  cases h : r.closed <;> simp [fire, h]

theorem fire_generation {r : Renderer} (h : r.closed = false) :
    r.fire.generation = r.generation + 1 := by
  rw [fire_of_open h]

@[simp] theorem fire_current (r : Renderer) : r.fire.current = none := by
  cases h : r.closed <;> simp [fire, h]

section

variable (generation : Nat) (output : Option RenderedOutput) (r : Renderer)

theorem finish_eq : r.finish generation output = { r with
    inFlight := r.inFlight.filter (·.generation ≠ generation)
    lastOutput := (r.finish generation output).lastOutput
    renderCount := (r.finish generation output).renderCount } := by
  by_cases h : generation = r.generation
  · cases output with
    | none => rfl
    | some out => rw [h, finish_newest]
  · rw [finish_older h]

@[simp] theorem finish_inFlight :
    (r.finish generation output).inFlight = r.inFlight.filter (·.generation ≠ generation) := by
  rw [finish_eq]

@[simp] theorem finish_generation :
    (r.finish generation output).generation = r.generation := by
  rw [finish_eq]

@[simp] theorem finish_timers : (r.finish generation output).timers = r.timers := by
  rw [finish_eq]

@[simp] theorem finish_current : (r.finish generation output).current = r.current := by
  rw [finish_eq]

@[simp] theorem finish_debounce : (r.finish generation output).debounce = r.debounce := by
  rw [finish_eq]

@[simp] theorem finish_closed : (r.finish generation output).closed = r.closed := by
  rw [finish_eq]

end

end Renderer

/-! ## Actions -/

inductive Action where
  /-- An operation through the view that the keys lead to. -/
  | operate (keys : List String) (op : Operation)
  /-- A change through a view taken earlier. What it stands on may be elsewhere by now, in several
  places or in none. -/
  | held (data : Params)
  | patch (path : String) (value : Value)
  | remove (path : String)
  | start
  | flush
  | close
  | timer (id : Nat)
  /-- The end of a render, without output if it failed. -/
  | finish (generation : Nat) (output : Option RenderedOutput)

namespace Action

def apply (now : Nat) (a : Action) (r : Renderer) : Renderer :=
  match a with
  | operate keys op =>
    match Live.operate r.data keys op with
    | .ok effect => r.change now effect.after effect.changes
    | .error _ => r
  | held data => r.change now data 1
  | patch path value => r.patch now path value
  | remove path => (r.remove now path).2
  | start => r.fire
  | flush => r.flush
  | close => r.close
  | timer id => r.fireTimer id
  | finish generation output => r.finish generation output

/-- The action changes the parameters, or reports a change of what they were. -/
def Writes (r : Renderer) : Action → Prop
  | operate keys op => ∃ effect, Live.operate r.data keys op = .ok effect ∧ effect.changes ≠ 0
  | held _ | patch .. => True
  | remove path => (r.data.erasePath? path).isSome
  | _ => False

variable (renders : Params → Option RenderedOutput → Prop)

/-- What can be done at a moment: a view stands on a mapping, a timer is outstanding and its time
has come, and a render that ends is in flight and gives what its parameters may give. -/
def Enabled (now : Nat) (r : Renderer) : Action → Prop
  | operate keys _ => ∃ fields, reach r.data keys = .ok (.view fields)
  | timer id => ∃ t ∈ r.timers, t.id = id ∧ t.deadline ≤ now
  | finish generation output =>
    ∃ task ∈ r.inFlight, task.generation = generation ∧ renders task.snapshot output
  | _ => True

end Action

variable (renders : Params → Option RenderedOutput → Prop)

/-- What an action does to a renderer: the action, and the renderer behind it. -/
inductive Does (now : Nat) (r : Renderer) : Action → Renderer → Prop where
  | write {a : Action} (data : Params) (writes : a.Writes r) :
      Does now r a (({ r with data } : Renderer).schedule now)
  | operate (keys : List String) (op : Operation)
      (writes : ¬(Action.operate keys op).Writes r) : Does now r (.operate keys op) r
  | remove (path : String) (writes : ¬(Action.remove path).Writes r) :
      Does now r (.remove path) r
  | start : Does now r .start r.fire
  | flush (pending : r.pending = true) : Does now r .flush r.cancel.fire
  | idle (pending : r.pending = false) : Does now r .flush r
  | close : Does now r .close { r.cancel with closed := true }
  | timer (t : Timer) (mem : t ∈ r.timers) (due : t.deadline ≤ now) :
      Does now r (.timer t.id) (r.dropTimer t.id).fire
  | finish (task : RenderTask) (mem : task ∈ r.inFlight) (output : Option RenderedOutput)
      (result : renders task.snapshot output) :
      Does now r (.finish task.generation output) (r.finish task.generation output)

theorem does_apply {now : Nat} {r : Renderer} {a : Action} (enabled : a.Enabled renders now r) :
    Does renders now r a (a.apply now r) := by
  cases a with
  | operate keys op =>
    obtain ⟨fields, view⟩ := enabled
    simp only [Action.apply]
    cases h : operate r.data keys op with
    | error e => exact .operate keys op (by simp [Action.Writes, h])
    | ok effect =>
      by_cases hc : effect.changes = 0
      · simp only [hc, operate_of_unchanged view h hc, Renderer.change_of_none]
        exact .operate keys op (by simp [Action.Writes, h, hc])
      · simp only [Renderer.change_of_some now _ hc]
        exact .write _ ⟨effect, h, hc⟩
  | held data => exact .write data trivial
  | patch path value => exact .write _ trivial
  | remove path =>
    simp only [Action.apply, Renderer.remove]
    cases h : r.data.erasePath? path with
    | none => exact .remove path (by simp [Action.Writes, h])
    | some data => exact .write data (by simp [Action.Writes, h])
  | start => exact .start
  | flush =>
    simp only [Action.apply, Renderer.flush]
    cases h : r.pending with
    | true => exact .flush h
    | false => exact .idle h
  | close => exact .close
  | timer id =>
    obtain ⟨t, mem, rfl, due⟩ := enabled
    exact .timer t mem due
  | finish generation output =>
    obtain ⟨task, mem, rfl, result⟩ := enabled
    exact .finish task mem output result

/-! ## Runs -/

structure Moment where
  now : Nat
  before : Renderer
  action : Action

namespace Moment

def after (m : Moment) : Renderer :=
  m.action.apply m.now m.before

def Writes (m : Moment) : Prop :=
  m.action.Writes m.before

/-- The action asks for a render, at once or later. -/
def Requests (m : Moment) : Prop :=
  m.Writes ∨ m.action = .start

/-- The action fires a render. -/
def Fires (m : Moment) : Prop :=
  m.after.generation ≠ m.before.generation

end Moment

/-- The moments of a run that leads from `r₀` to a renderer, the latest first. -/
inductive Run (r₀ : Renderer) : List Moment → Renderer → Prop where
  | nil : Run r₀ [] r₀
  | cons {trace : List Moment} {r : Renderer} (run : Run r₀ trace r) {now : Nat} {a : Action}
      (clock : ∀ m ∈ trace.head?, m.now ≤ now) (enabled : a.Enabled renders now r) :
      Run r₀ (⟨now, r, a⟩ :: trace) (a.apply now r)

variable {renders}

/-- Only closing closes. -/
theorem Does.closed {now : Nat} {r r' : Renderer} {a : Action} (does : Does renders now r a r')
    (open' : a ≠ .close) : r'.closed = r.closed := by
  cases does with
  | write data writes => exact Renderer.schedule_closed ..
  | operate | remove | idle => rfl
  | start => exact Renderer.fire_closed r
  | flush pending => rw [Renderer.fire_closed, Renderer.cancel_closed]
  | close => exact absurd rfl open'
  | timer t mem due => exact Renderer.fire_closed _
  | finish task mem output result => exact Renderer.finish_closed ..

namespace Run

/-- A run up to one of its moments. -/
theorem earlier {r₀ r : Renderer} {m : Moment} {later trace : List Moment}
    (run : Run renders r₀ (later ++ m :: trace) r) :
    Run renders r₀ trace m.before ∧ m.action.Enabled renders m.now m.before := by
  induction later generalizing r with
  | nil =>
    cases run with
    | cons run clock enabled => exact ⟨run, enabled⟩
  | cons m' later ih =>
    cases run with
    | cons run clock enabled => exact ih run

/-- The clock never goes back. -/
theorem now_le {r₀ r : Renderer} {trace : List Moment} (run : Run renders r₀ trace r) {now : Nat}
    (clock : ∀ m ∈ trace.head?, m.now ≤ now) : ∀ m ∈ trace, m.now ≤ now := by
  induction run generalizing now with
  | nil => exact fun m mem => (List.not_mem_nil mem).elim
  | cons run earlier enabled ih =>
    have head := clock _ rfl
    intro m mem
    rcases List.mem_cons.mp mem with rfl | mem
    · exact head
    · exact Nat.le_trans (ih earlier m mem) head

/-- What a moment leaves is a state of the run. -/
theorem after_mem {r₀ r : Renderer} {trace : List Moment} (run : Run renders r₀ trace r)
    {m : Moment} (mem : m ∈ trace) : m.after ∈ r :: trace.map Moment.before := by
  induction run with
  | nil => exact (List.not_mem_nil mem).elim
  | cons run clock enabled ih =>
    rcases List.mem_cons.mp mem with rfl | mem
    · exact List.mem_cons_self
    · exact List.mem_cons_of_mem _ (ih mem)

end Run

end PageComponent.Live
