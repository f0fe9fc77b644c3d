import PageComponent.Render.Component
import PageComponent.Value.Path

/-!
# Live rendering

A renderer keeps parameters and renders them anew some time after the last change. Renders are
numbered when they are fired and work on the parameters as they are then; of their results only
that of the newest render counts.
-/

namespace PageComponent.Live

/-- A timer that will fire a render. Times are in milliseconds. -/
structure Timer where
  id : Nat
  deadline : Nat
deriving DecidableEq

/-- A render on its way, with the parameters that it renders. -/
structure RenderTask where
  generation : Nat
  snapshot : Params

structure Renderer where
  data : Params
  debounce : Nat
  /-- The timers that have neither fired nor been cancelled. -/
  timers : List Timer := []
  /-- The timer that the next change cancels. -/
  current : Option Nat := none
  nextTimer : Nat := 0
  /-- The number of the newest render. -/
  generation : Nat := 0
  inFlight : List RenderTask := []
  closed : Bool := false
  lastOutput : Option RenderedOutput := none
  renderCount : Nat := 0

namespace Renderer

/-- Whether a render waits for its timer. -/
def pending (r : Renderer) : Bool :=
  r.current.isSome

def dropTimer (r : Renderer) (id : Nat) : Renderer :=
  { r with timers := r.timers.filter (·.id ≠ id) }

def cancel (r : Renderer) : Renderer :=
  match r.current with
  | some id => { r.dropTimer id with current := none }
  | none => r

/-- Puts the next render off to the end of a new interval. -/
def schedule (now : Nat) (r : Renderer) : Renderer :=
  if r.closed then r
  else
    let r := r.cancel
    { r with
      timers := r.timers ++ [⟨r.nextTimer, now + r.debounce⟩]
      current := some r.nextTimer
      nextTimer := r.nextTimer + 1 }

/-- Starts a render of the parameters as they are. -/
def fire (r : Renderer) : Renderer :=
  let r := { r with current := none }
  if r.closed then r
  else
    { r with
      generation := r.generation + 1
      inFlight := r.inFlight ++ [⟨r.generation + 1, r.data⟩] }

/-- What a timer does when its time has come. -/
def fireTimer (id : Nat) (r : Renderer) : Renderer :=
  (r.dropTimer id).fire

/-- Starts a waiting render at once. -/
def flush (r : Renderer) : Renderer :=
  if r.pending then r.cancel.fire else r

/-- Parameters changed by a view, with the number of changes it reports. -/
def change (now : Nat) (data : Params) (changes : Nat) (r : Renderer) : Renderer :=
  let r := { r with data }
  if changes = 0 then r else r.schedule now

def patch (now : Nat) (path : String) (value : Value) (r : Renderer) : Renderer :=
  r.change now (r.data.setPath path value) 1

/-- Erases the field at a path; nothing happens if there is none. -/
def remove (now : Nat) (path : String) (r : Renderer) : Bool × Renderer :=
  match r.data.erasePath? path with
  | some data => (true, r.change now data 1)
  | none => (false, r)

/-- From now on nothing is scheduled or fired. -/
def close (r : Renderer) : Renderer :=
  { r.cancel with closed := true }

def task? (r : Renderer) (generation : Nat) : Option RenderTask :=
  r.inFlight.find? (·.generation == generation)

/-- Whether the result of a render would count. -/
def isNewest (r : Renderer) (generation : Nat) : Bool :=
  generation == r.generation

/-- Ends a render; one that failed has no output. -/
def finish (generation : Nat) (output : Option RenderedOutput) (r : Renderer) : Renderer :=
  let r := { r with inFlight := r.inFlight.filter (·.generation ≠ generation) }
  match output with
  | some out =>
    if r.isNewest generation then
      { r with lastOutput := some out, renderCount := r.renderCount + 1 }
    else r
  | none => r

end Renderer

end PageComponent.Live
