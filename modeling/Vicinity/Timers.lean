import Vicinity.Error

/-! Tasks that wait for their time, at most one under each key. Tasks are numbered as they are
armed. A cancelled task leaves its deadline behind, and a deadline without a task is passed
over. -/
namespace Vicinity

structure Armed (τ : Type) where
  number : Nat
  task : τ

structure Timers (κ τ : Type) where
  name : String
  /-- In milliseconds. -/
  now : Nat
  entries : List (κ × Armed τ)
  /-- The key of every armed task, by its number. -/
  keys : List (Nat × κ)
  /-- Deadlines and task numbers in ascending order. -/
  deadlines : List (Nat × Nat)
  next : Nat
  stopped : Bool

namespace Timers

variable {κ τ : Type} [BEq κ]

def start (name : String) : Timers κ τ := ⟨name, 0, [], [], [], 0, false⟩

def isPending (t : Timers κ τ) (key : κ) : Bool := (t.entries.lookup key).isSome

def pending (t : Timers κ τ) : Nat := t.entries.length

/-- A later task with the same deadline comes after an earlier one. -/
def insertDeadline (deadline number : Nat) : List (Nat × Nat) → List (Nat × Nat)
  | [] => [(deadline, number)]
  | (d, n) :: ds =>
    if deadline < d then (deadline, number) :: (d, n) :: ds
    else (d, n) :: insertDeadline deadline number ds

/-- Arms a task; false if one is pending under the key already. -/
def arm (t : Timers κ τ) (key : κ) (delay : Nat) (task : τ) :
    Except ExecutionError (Bool × Timers κ τ) :=
  if t.stopped then .error (.stopped t.name)
  else if t.isPending key then .ok (false, t)
  else .ok (true, { t with
    entries := t.entries ++ [(key, ⟨t.next, task⟩)]
    keys := t.keys ++ [(t.next, key)]
    deadlines := insertDeadline (t.now + delay) t.next t.deadlines
    next := t.next + 1 })

def dropEntry (key : κ) (entries : List (κ × Armed τ)) : List (κ × Armed τ) :=
  entries.filter fun e => !(e.1 == key)

/-- Cancels the task of a key; tells whether there was one. -/
def cancel (t : Timers κ τ) (key : κ) : Bool × Timers κ τ :=
  match t.entries.lookup key with
  | none => (false, t)
  | some armed => (true, { t with
      entries := dropEntry key t.entries
      keys := t.keys.filter (·.1 ≠ armed.number) })

/-- Takes out the task with a number, if it is still armed. -/
def release (t : Timers κ τ) (number : Nat) : Option τ × Timers κ τ :=
  match t.keys.lookup number with
  | none => (none, t)
  | some key => ((t.entries.lookup key).map (·.task), { t with
      entries := dropEntry key t.entries
      keys := t.keys.filter (·.1 ≠ number) })

def releaseAll (t : Timers κ τ) : List Nat → List τ × Timers κ τ
  | [] => ([], t)
  | number :: numbers =>
    let (task, t) := t.release number
    let (tasks, t) := releaseAll t numbers
    (task.toList ++ tasks, t)

/-- Lets time pass. The tasks whose deadlines are reached run, in the order of their deadlines
and then of their numbers. -/
def elapse (t : Timers κ τ) (milliseconds : Nat) : List τ × Timers κ τ :=
  let now := t.now + milliseconds
  releaseAll { t with now := now, deadlines := t.deadlines.filter (now < ·.1) }
    ((t.deadlines.filter (·.1 ≤ now)).map (·.2))

/-- The task of one key runs as if its time had come. -/
def expire (t : Timers κ τ) (key : κ) : Option τ × Timers κ τ :=
  match t.entries.lookup key with
  | none => (none, t)
  | some armed =>
    { t with deadlines := t.deadlines.filter (·.2 ≠ armed.number) }.release armed.number

/-- Drops every armed task. -/
def stop (t : Timers κ τ) : Timers κ τ :=
  { t with entries := [], keys := [], deadlines := [], stopped := true }

/-- Lets time pass from one deadline to the next until `count` tasks have run, over at most
`rounds` deadlines. -/
def awaitWithin : Nat → Nat → Timers κ τ → List τ × Timers κ τ
  | 0, _, t => ([], t)
  | rounds + 1, count, t =>
    match t.deadlines with
    | [] => ([], t)
    | (deadline, _) :: _ =>
      if count = 0 then ([], t)
      else
        let (ran, t) := t.elapse (deadline - t.now)
        let (more, t) := awaitWithin rounds (count - ran.length) t
        (ran ++ more, t)

/-- Waits until `count` tasks have run or none is left. -/
def await (t : Timers κ τ) (count : Nat) : List τ × Timers κ τ :=
  awaitWithin t.deadlines.length count t

def describe (t : Timers κ τ) : String :=
  "DeferredTasks \x7b name: " ++ Text.quote t.name ++ ", pending: " ++ toString t.pending ++
    ", stopped: " ++ toString t.stopped ++ " \x7d"

end Timers

end Vicinity
