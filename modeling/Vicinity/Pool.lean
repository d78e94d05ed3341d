import Vicinity.Error
import Vicinity.Text.Span

/-! A pool of workers that run tasks from one queue. Whoever owns the pool can pause it, from
outside or from inside a task: while it is paused no task starts, and pausing waits until no
task is running. -/
namespace Vicinity

namespace Pool

/-- One step of a task. -/
inductive Action where
  | note (label : String)
  | submit (script : List Action)
  | pause
  | resume
  | panic
  /-- Waits until the gate of that name is open. -/
  | await (gate : String)

/-- A task waits with the epoch in which it was accepted, and is dropped in a later one. -/
structure Job where
  epoch : Nat
  script : List Action

inductive Worker where
  | idle
  /-- It took a job and has not started it. -/
  | holding (job : Job)
  | running (rest : List Action)
  /-- Inside a pause that waits for the other tasks. -/
  | pausing (rest : List Action)

end Pool

structure Pool where
  name : String
  maxWorkers : Nat
  /-- In milliseconds. -/
  idleTimeout : Nat
  /-- How many pauses are in force. -/
  paused : Nat
  /-- How many tasks are executing. -/
  running : Nat
  /-- How many tasks are accepted and neither finished nor dropped. -/
  pending : Nat
  epoch : Nat
  stopped : Bool
  queue : List Pool.Job
  workers : List Pool.Worker
  openGates : List String
  completed : Nat
  panicked : Nat
  /-- The labels noted so far. -/
  notes : List String

namespace Pool

def start (name : String) (maxWorkers idleTimeout : Nat) : Pool :=
  { name := name, maxWorkers := maxWorkers, idleTimeout := idleTimeout, paused := 0, running := 0
    pending := 0, epoch := 0, stopped := false, queue := [], workers := [], openGates := []
    completed := 0, panicked := 0, notes := [] }

def Worker.isIdle : Worker → Bool
  | .idle => true
  | _ => false

def live (p : Pool) : Nat := p.workers.length

def idle (p : Pool) : Nat := (p.workers.filter Worker.isIdle).length

/-- Queues a task, with one more worker for it if all others are busy. -/
def submit (p : Pool) (script : List Action) : Except ExecutionError Pool :=
  if p.stopped then .error (.stopped p.name)
  else
    let grow := p.live < max p.maxWorkers 1 ∧ p.idle ≤ p.queue.length
    .ok { p with
      queue := p.queue ++ [⟨p.epoch, script⟩]
      pending := p.pending + 1
      workers := if grow then p.workers ++ [.idle] else p.workers }

/-- A pause from inside a task: the task itself does not count as executing. -/
def pauseInside (p : Pool) : Pool := { p with paused := p.paused + 1, running := p.running - 1 }

def resumeInside (p : Pool) : Pool :=
  if p.paused = 0 then p else { p with paused := p.paused - 1, running := p.running + 1 }

def finish (p : Pool) : Pool := { p with running := p.running - 1, pending := p.pending - 1 }

/-- The next step of a worker, if it can take one, and the worker after it. -/
def work (p : Pool) : Worker → Option (Pool × Worker)
  | .idle =>
    match p.queue with
    | [] => none
    | job :: queue => some ({ p with queue := queue }, .holding job)
  | .holding job =>
    if p.stopped ∨ job.epoch ≠ p.epoch then some ({ p with pending := p.pending - 1 }, .idle)
    else if p.paused = 0 then some ({ p with running := p.running + 1 }, .running job.script)
    else none
  | .running [] => some ({ p.finish with completed := p.completed + 1 }, .idle)
  | .running (.note label :: rest) =>
    some ({ p with notes := p.notes ++ [label] }, .running rest)
  | .running (.submit script :: rest) =>
    some (((p.submit script).toOption).getD p, .running rest)
  | .running (.pause :: rest) => some (p.pauseInside, .pausing rest)
  | .running (.resume :: rest) => some (p.resumeInside, .running rest)
  | .running (.panic :: _) => some ({ p.finish with panicked := p.panicked + 1 }, .idle)
  | .running (.await gate :: rest) =>
    if p.openGates.contains gate then some (p, .running rest) else none
  | .pausing rest => if p.running = 0 ∨ p.stopped then some (p, .running rest) else none

/-- The step of the worker at a place. -/
def stepAt (p : Pool) (i : Nat) : Option Pool := do
  let (q, w) ← p.work (← p.workers[i]?)
  return { q with workers := q.workers.set i w }

def Worker.isBusy : Worker → Bool
  | .running _ | .pausing _ => true
  | _ => false

def Worker.isHolding : Worker → Bool
  | .holding _ => true
  | _ => false

/-- Tries the workers of one sort in order. -/
def stepAmong (p : Pool) (sort : Worker → Bool) : Option Pool :=
  (List.range p.workers.length).findSome? fun i =>
    if (p.workers[i]?).any sort then p.stepAt i else none

/-- The next step of the pool: tasks that run go on, then jobs that were taken start, then jobs
are taken from the queue. -/
def step? (p : Pool) : Option Pool :=
  p.stepAmong Worker.isBusy <|> p.stepAmong Worker.isHolding <|> p.stepAmong Worker.isIdle

/-! Every step makes the remaining work smaller. -/

mutual

def Action.size : Action → Nat
  | .submit script => 4 + scriptSize script
  | .pause => 2
  | _ => 1

def scriptSize : List Action → Nat
  | [] => 0
  | a :: rest => a.size + scriptSize rest

end

def Worker.size : Worker → Nat
  | .idle => 0
  | .holding job => 2 + scriptSize job.script
  | .running rest => 1 + scriptSize rest
  | .pausing rest => 2 + scriptSize rest

def Job.size (job : Job) : Nat := 3 + scriptSize job.script

def size (p : Pool) : Nat :=
  p.queue.foldr (fun job n => job.size + n) 0 + p.workers.foldr (fun w n => w.size + n) 0

def stepWithin : Nat → Pool → Pool
  | 0, p => p
  | n + 1, p =>
    match p.step? with
    | none => p
    | some q => stepWithin n q

/-- Goes on until nothing more can run. -/
def settle (p : Pool) : Pool := stepWithin p.size p

/-! ## From outside -/

/-- Accepts a task and lets the pool run. -/
def schedule (p : Pool) (script : List Action) : Except ExecutionError Pool := do
  return (← p.submit script).settle

/-- Whether a pause would return. -/
def canPause (p : Pool) : Bool := p.running == 0 || p.stopped

def pause (p : Pool) : Pool := { p with paused := p.paused + 1 }.settle

/-- One pause less; without one nothing happens. -/
def resume (p : Pool) : Pool :=
  if p.paused = 0 then p else { p with paused := p.paused - 1 }.settle

/-- Drops the tasks that have not started; tells how many of them were still in the queue. -/
def clear (p : Pool) : Nat × Pool :=
  (p.queue.length,
    { p with epoch := p.epoch + 1, queue := [], pending := p.pending - p.queue.length }.settle)

/-- Drops the tasks that have not started, and accepts no more. -/
def stop (p : Pool) : Pool :=
  if p.stopped then p
  else { p with
    stopped := true, epoch := p.epoch + 1, queue := [], pending := p.pending - p.queue.length }.settle

def openGate (p : Pool) (gate : String) : Pool :=
  { p with openGates := gate :: p.openGates }.settle

/-- Whether a task of the pool has still to pass the gate. -/
def awaits (p : Pool) (gate : String) : Bool :=
  let inScript (script : List Action) : Bool := script.any fun
    | .await g => g == gate
    | _ => false
  p.queue.any (inScript ·.script) || p.workers.any fun
    | .idle => false
    | .holding job => inScript job.script
    | .running rest | .pausing rest => inScript rest

/-- Idle workers leave after some time. -/
def retireIdle (p : Pool) : Pool := { p with workers := p.workers.filter (!·.isIdle) }

def isIdle (p : Pool) : Bool := p.pending == 0

def describe (p : Pool) : String :=
  "Scheduler \x7b name: " ++ Text.quote p.name ++ ", config: SchedulerConfig \x7b max_workers: " ++
    toString p.maxWorkers ++ ", idle_timeout: " ++ Text.span p.idleTimeout ++ " \x7d, paused: " ++
    toString p.paused ++ ", running: " ++ toString p.running ++ ", pending: " ++
    toString p.pending ++ ", live: " ++ toString p.live ++ ", stopped: " ++ toString p.stopped ++
    " \x7d"

end Pool

end Vicinity
