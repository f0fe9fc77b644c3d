import PageComponent.Live.Renderer
import PageComponent.Live.View

/-!
# Sessions

A session drives a renderer step by step with a clock that only moves when told to. What is to be
done waits in a queue; a tick works through it round by round, and timers whose time has come join
the queue at the end of each round. What is noted on the way: the parameters handed to renders, the
outputs accepted, and notices.
-/

namespace PageComponent.Live

/-- How a session renders. -/
inductive RenderMode where
  /-- At once. -/
  | direct
  /-- At once, with a note of the parameters; a parameter `fail` makes the render fail. -/
  | recorded
  /-- As recorded, but a parameter `gate` makes the render wait until that gate is released. -/
  | gated
deriving DecidableEq

/-- What is done with an accepted output besides noting it. -/
inductive Sink where
  | silent
  /-- The first outputs are counted in a parameter, which changes the parameters. -/
  | feedback
deriving DecidableEq

/-- A call that goes on until no render is on its way. -/
inductive Call where
  | start
  | drain
  | close
deriving DecidableEq

inductive Job where
  | timer (id : Nat)
  | begin (generation : Nat)
  | resume (generation : Nat)
  /-- The end of a render is noticed by those who wait for it. -/
  | settle (generation : Nat)
  | call (c : Call)
deriving DecidableEq

structure Session where
  template : String
  options : RenderOptions
  mode : RenderMode
  sink : Sink
  renderer : Renderer
  now : Nat := 0
  queue : List Job := []
  /-- Renders that wait at a gate, in the order in which they came. -/
  waiting : List (Nat × Value) := []
  released : List Value := []
  /-- Renders whose end has not been noticed. -/
  unsettled : List Nat := []
  /-- Whether the latest call found nothing to wait for. -/
  returned : Bool := false
  calls : List Params := []
  outputs : List String := []
  notices : List Notice := []

namespace Session

def enqueue (s : Session) (job : Job) : Session :=
  { s with queue := s.queue ++ [job] }

/-- Takes over a renderer that has been told to fire, and queues the render if it did. -/
def fired (s : Session) (renderer : Renderer) : Session :=
  if s.renderer.generation < renderer.generation then
    { s with renderer, unsettled := s.unsettled ++ [renderer.generation] }.enqueue
      (.begin renderer.generation)
  else { s with renderer }

def accept (s : Session) (out : RenderedOutput) : Session :=
  let s := { s with outputs := s.outputs ++ [out.html] }
  match s.sink with
  | .silent => s
  | .feedback =>
    let n := s.outputs.length
    if n < 3 then
      let data := Entries.set s.renderer.data "renders" (Value.int n)
      { s with renderer := s.renderer.change s.now data 1 }
    else s

def fail (s : Session) (generation : Nat) : Session :=
  { s with
    renderer := s.renderer.finish generation none
    notices := s.notices ++ [Notice.renderFailure generation] }.enqueue (.settle generation)

/-- Renders and ends the task. -/
def complete (s : Session) (task : RenderTask) : Session :=
  match render s.template task.snapshot s.options defaultColours with
  | .error _ => s.fail task.generation
  | .ok (out, notices) =>
    let newest := s.renderer.isNewest task.generation
    let s := { s with
      renderer := s.renderer.finish task.generation (some out)
      notices := s.notices ++ notices }
    (if newest then s.accept out else s).enqueue (.settle task.generation)

def isFilledAt (params : Params) (key : String) : Bool :=
  ((Entries.get? params key).map Value.isFilled).getD false

/-- The gate at which a render has to wait. -/
def gate? (s : Session) (params : Params) : Option Value :=
  ((Entries.get? params "gate").filter Value.isFilled).filter fun gate =>
    s.mode == .gated && !s.released.contains gate

def beginTask (s : Session) (task : RenderTask) : Session :=
  if s.mode = .direct then s.complete task
  else
    let s := { s with calls := s.calls ++ [task.snapshot] }
    if isFilledAt task.snapshot "fail" then s.fail task.generation
    else match s.gate? task.snapshot with
      | some gate => { s with waiting := s.waiting ++ [(task.generation, gate)] }
      | none => s.complete task

def begin (s : Session) (c : Call) : Session :=
  let s := match c with
    | .start => s.fired s.renderer.fire
    | .drain => s
    | .close => { s with renderer := s.renderer.close }
  { s with returned := s.unsettled.isEmpty }

def run (s : Session) : Job → Session
  | .timer id =>
    if s.renderer.timers.any (·.id == id) then s.fired (s.renderer.fireTimer id) else s
  | .begin generation =>
    match s.renderer.task? generation with
    | some task => s.beginTask task
    | none => s
  | .resume generation =>
    match s.renderer.task? generation with
    | some task => s.complete task
    | none => s
  | .settle generation => { s with unsettled := s.unsettled.erase generation }
  | .call c => s.begin c

def dueTimers (s : Session) : List Job :=
  (s.renderer.timers.filter (·.deadline ≤ s.now)).map (.timer ·.id)

def round (s : Session) : Session :=
  (s.queue ++ s.dueTimers).foldl run { s with queue := [] }

/-- Rounds until nothing is left to do. Each output that changes the parameters asks for three
rounds more, and there are at most two of them. -/
def tick (s : Session) : Session :=
  let rec go : Nat → Session → Session
    | 0, s => s
    | n + 1, s => if s.queue = [] ∧ s.dueTimers = [] then s else go n s.round
  go 12 s

/-! ## Steps -/

inductive Step where
  | operate (keys : List String) (op : Operation)
  | patch (path : String) (value : Value)
  /-- Patches with what the keys lead to. -/
  | patchFrom (path : String) (source : List String)
  | remove (path : String)
  | flush
  | tick
  | advance (ms : Nat)
  | release (gate : Value)
  | call (c : Call)

inductive Outcome where
  | reply (r : Reply)
  | failed (e : AccessError)
  /-- The call is still on its way. -/
  | blocked
  /-- What a start gives: the newest output. -/
  | output (out : Option RenderedOutput)

def Outcome.nothing : Outcome :=
  .reply .nothing

def releaseGate (s : Session) (gate : Value) : Session :=
  let (freed, waiting) := s.waiting.partition (·.2 = gate)
  { s with
    released := gate :: s.released
    waiting
    queue := s.queue ++ freed.map fun w => .resume w.1 }

def isDone (s : Session) : Bool :=
  s.returned || s.unsettled.isEmpty

def step (s : Session) : Step → Outcome × Session
  | .operate keys op =>
    match Live.operate s.renderer.data keys op with
    | .ok effect =>
      let outcome := match effect.stopped with
        | some e => Outcome.failed e
        | none => .reply effect.reply
      (outcome, { s with renderer := s.renderer.change s.now effect.after effect.changes })
    | .error e => (.failed e, s)
  | .patch path value => (.nothing, { s with renderer := s.renderer.patch s.now path value })
  | .patchFrom path source =>
    match reach s.renderer.data source with
    | .ok target =>
      (.nothing, { s with renderer := s.renderer.patch s.now path target.toValue })
    | .error e => (.failed e, s)
  | .remove path =>
    let (removed, renderer) := s.renderer.remove s.now path
    (.reply (.plain (.bool removed)), { s with renderer })
  | .flush => (.nothing, s.fired s.renderer.flush)
  | .tick => (.nothing, s.tick)
  | .advance ms => (.nothing, { s with now := s.now + ms }.tick)
  | .release gate => (.nothing, s.releaseGate gate)
  | .call c =>
    let s := (s.enqueue (.call c)).tick
    let outcome :=
      if !s.isDone then Outcome.blocked
      else match c with
        | .start => .output s.renderer.lastOutput
        | .drain | .close => .nothing
    (outcome, s)

end Session

end PageComponent.Live
