import Vicinity.Proofs.Pool.Counters

/-! A pool with one worker and a ledger next to it, which says of every task that was accepted what
became of it. A paused worker may hold a task already; for the ledger it waits like those behind it in
the queue. -/
namespace Vicinity.Pool

variable {p : Pool} {script : List Action}

/-! ## The ledger -/

/-- An accepted task, with its number among all of them. -/
structure Ticket where
  number : Nat
  task : Task

structure Ledger where
  name : String
  /-- How many pauses are in force. -/
  depth : Nat
  stopped : Bool
  accepted : List Ticket
  waiting : List Ticket
  ran : List Ticket
  dropped : List Ticket

def Ticket.said (t : Ticket) : List String := Pool.said t.task.script

def Ticket.panics (t : Ticket) : Bool := Pool.panics t.task.script

def Ticket.job (epoch : Nat) (t : Ticket) : Job := ⟨epoch,t.task.script⟩

namespace Ledger

def start (name : String) : Ledger := ⟨name,0,false,[],[],[],[]⟩

/-- All that wait run. -/
def freed (l : Ledger) : Ledger := { l with ran := l.ran ++ l.waiting, waiting := [] }

/-- All that wait are dropped. -/
def cleared (l : Ledger) : Ledger := { l with dropped := l.dropped ++ l.waiting, waiting := [] }

def enter (l : Ledger) (task : Task) : Ledger :=
  let ticket := ⟨l.accepted.length,task⟩
  { l with accepted := l.accepted ++ [ticket], waiting := l.waiting ++ [ticket] }

/-- One that waits was in the hand of the worker and not in the queue when the others were drained. -/
def apply (l : Ledger) : Operation → Reply × Ledger
  | .schedule task =>
    if l.stopped then (.rejected (.stopped l.name),l)
    else if l.depth = 0 then (.accepted,(l.enter task).freed)
    else (.accepted,l.enter task)
  | .pause => (.done,{ l with depth := l.depth + 1 })
  | .resume =>
    if l.depth = 1 then (.done,{ l.freed with depth := 0 })
    else (.done,{ l with depth := l.depth - 1 })
  | .clear => (.drained (l.waiting.length - 1),l.cleared)
  | .stop => (.done,{ l.cleared with stopped := true })
  | .retire => (.done,l)

def step (l : Ledger) (op : Operation) : Ledger := (l.apply op).2

/-- Every accepted task has one fate, and those that ran and that wait are in order. -/
structure Sound (l : Ledger) : Prop where
  numbers : l.accepted.map (·.number) = List.range l.accepted.length
  fates : (l.ran ++ l.dropped ++ l.waiting).Perm l.accepted
  ordered : (l.ran ++ l.waiting).Sublist l.accepted

variable {l : Ledger}

theorem start_sound (name : String) : (start name).Sound := ⟨rfl,.refl _,.refl _⟩

theorem Sound.freed (sound : l.Sound) : l.freed.Sound where
  numbers := sound.numbers
  fates := by
    refine .trans ?_ sound.fates
    simp only [Ledger.freed,List.append_nil,List.append_assoc]
    exact List.perm_append_comm.append_left _
  ordered := by simpa [Ledger.freed] using sound.ordered

theorem Sound.cleared (sound : l.Sound) : l.cleared.Sound where
  numbers := sound.numbers
  fates := by simpa [Ledger.cleared] using sound.fates
  ordered := by
    simp only [Ledger.cleared,List.append_nil]
    exact (List.sublist_append_left ..).trans sound.ordered

theorem Sound.enter (sound : l.Sound) (task : Task) : (l.enter task).Sound where
  numbers := by simp [Ledger.enter,sound.numbers,List.range_succ]
  fates := by
    simp only [Ledger.enter]
    rw [← List.append_assoc]
    exact sound.fates.append_right _
  ordered := by
    simp only [Ledger.enter]
    rw [← List.append_assoc]
    exact sound.ordered.append_right _

theorem Sound.step (sound : l.Sound) (op : Operation) : (l.step op).Sound := by
  cases op with
  | schedule task =>
    have entered := sound.enter task
    simp only [Ledger.step,Ledger.apply]
    split
    · exact sound
    · split
      · exact entered.freed
      · exact entered
  | pause => exact ⟨sound.numbers,sound.fates,sound.ordered⟩
  | resume =>
    have freed := sound.freed
    simp only [Ledger.step,Ledger.apply]
    split
    · exact ⟨freed.numbers,freed.fates,freed.ordered⟩
    · exact ⟨sound.numbers,sound.fates,sound.ordered⟩
  | clear => exact sound.cleared
  | stop =>
    have cleared := sound.cleared
    exact ⟨cleared.numbers,cleared.fates,cleared.ordered⟩
  | retire => exact sound

/-- While there are pauses nothing runs. -/
theorem step_held {op : Operation} (held : 0 < (l.step op).depth) : (l.step op).ran = l.ran := by
  cases op with
  | schedule task =>
    simp only [step,apply] at *
    split
    · rfl
    next live =>
      split
      next free => simp [live,free,freed,enter] at held
      · rfl
  | resume =>
    simp only [step,apply] at *
    split
    next last => simp [last] at held
    · rfl
  | _ => rfl

/-- Nothing is dropped but when all that wait are. -/
theorem step_kept {op : Operation} (other : op ≠ .clear) (lasts : op ≠ .stop) :
    (l.step op).dropped = l.dropped := by
  cases op with
  | schedule task =>
    simp only [step,apply]
    split
    · rfl
    · split <;> rfl
  | resume =>
    simp only [step,apply]
    split <;> rfl
  | clear => exact absurd rfl other
  | stop => exact absurd rfl lasts
  | _ => rfl

end Ledger

/-! ## What one worker does -/

theorem settle_take (only : p.workers = [.idle]) {job : Job} {queue : List Job}
    (waits : p.queue = job :: queue) :
    p.settle = { p with queue := queue, workers := [.holding job] }.settle := by
  have works : p.work .idle = some ({ p with queue := queue },.holding job) := by rw [work,waits]
  exact settle_step (step?_of_work only works rfl)

/-- A task in the hand might as well be the first in the queue. -/
theorem settle_holding {job : Job} (only : p.workers = [.holding job]) :
    p.settle = { p with queue := job :: p.queue, workers := [.idle] }.settle := by
  have taken := settle_take (p := { p with queue := job :: p.queue, workers := [.idle] }) rfl rfl
  rw [taken,← only]

theorem settle_drop {job : Job} (only : p.workers = [.holding job])
    (stale : p.stopped = true ∨ job.epoch ≠ p.epoch) :
    p.settle = { p with pending := p.pending - 1, workers := [.idle] }.settle := by
  have works : p.work (.holding job) = some ({ p with pending := p.pending - 1 },.idle) :=
    if_pos stale
  exact settle_step (step?_of_work only works rfl)

theorem settle_begin {job : Job} (only : p.workers = [.holding job])
    (fresh : ¬(p.stopped = true ∨ job.epoch ≠ p.epoch)) (free : p.paused = 0) :
    p.settle = { p with running := p.running + 1, workers := [.running job.script] }.settle := by
  have works : p.work (.holding job) = some ({ p with running := p.running + 1 },
      .running job.script) := (if_neg fresh).trans (if_pos free)
  exact settle_step (step?_of_work only works rfl)

/-- The pool with its worker back from a task. -/
def returned (p : Pool) (script : List Action) : Pool := { p.finish with
  completed := p.completed + (!panics script).toNat
  panicked := p.panicked + (panics script).toNat
  notes := p.notes ++ said script
  workers := [.idle] }

theorem settle_running (plain : Plain script) (only : p.workers = [.running script]) :
    p.settle = (p.returned script).settle := by
  induction script generalizing p with
  | nil =>
    have works : p.work (.running []) =
        some ({ p.finish with completed := p.completed + 1 },.idle) := rfl
    rw [settle_step (step?_of_work only works rfl)]
    simp [returned,said,panics,finish]
  | cons action rest ih =>
    cases action with
    | note label =>
      have works : p.work (.running (.note label :: rest)) =
          some ({ p with notes := p.notes ++ [label] },.running rest) := rfl
      rw [settle_step (step?_of_work only works rfl),ih plain.rest rfl]
      simp [returned,said,panics,finish]
    | panic =>
      have works : p.work (.running (.panic :: rest)) =
          some ({ p.finish with panicked := p.panicked + 1 },.idle) := rfl
      rw [settle_step (step?_of_work only works rfl)]
      simp [returned,said,panics,finish]
    | _ => exact absurd (plain _ (List.mem_cons_self ..)) Bool.false_ne_true

/-- The pool after some tasks have run. -/
def worked (p : Pool) (tickets : List Ticket) : Pool := { p with
  queue := []
  pending := p.pending - tickets.length
  completed := p.completed + tickets.countP (!·.panics)
  panicked := p.panicked + tickets.countP (·.panics)
  notes := p.notes ++ tickets.flatMap (·.said) }

/-- The worker works off its queue. -/
theorem settle_queue {tickets : List Ticket} (only : p.workers = [.idle])
    (waits : p.queue = tickets.map (·.job p.epoch)) (live : p.stopped = false)
    (free : p.paused = 0) : p.settle = p.worked tickets := by
  induction tickets generalizing p with
  | nil =>
    have quiet : p.step? = none := by
      rw [step?_eq_none,only]
      intro w member
      obtain rfl := List.mem_singleton.mp member
      rw [work,waits]
      rfl
    rw [settle_quiet quiet]
    have empty : p.queue = [] := waits
    simp [worked,← empty]
  | cons t tickets ih =>
    refine (settle_take only waits).trans ?_
    refine Eq.trans (settle_begin rfl ?_ free) ?_
    · simp [live,Ticket.job]
    refine Eq.trans (settle_running t.task.plain rfl) ?_
    refine Eq.trans (ih rfl rfl live free) ?_
    have fails : panics t.task.script = t.panics := rfl
    have notes : said t.task.script = t.said := rfl
    simp only [worked,returned,finish,fails,notes,only,List.length_cons,List.countP_cons,
      List.flatMap_cons,List.append_assoc,Pool.mk.injEq,true_and,and_true]
    cases t.panics
    all_goals
      simp only [Bool.not_true,Bool.not_false,Bool.toNat_true,Bool.toNat_false,if_true,if_false,
        Bool.false_eq_true]
      omega

/-! ## The pool and its ledger -/

/-- Where the tasks are that wait: the first in the hand of the worker, the others in the queue. -/
def Holds (p : Pool) : List Ticket → Prop
  | [] => p.queue = [] ∧ (p.workers = [] ∨ p.workers = [.idle])
  | t :: tickets => p.workers = [.holding (t.job p.epoch)] ∧
    p.queue = tickets.map (·.job p.epoch) ∧ 0 < p.paused ∧ p.stopped = false

/-- What is counted in the pool is written in the ledger. -/
structure Counts (p : Pool) (l : Ledger) : Prop where
  single : p.maxWorkers ≤ 1
  name : p.name = l.name
  paused : p.paused = l.depth
  stopped : p.stopped = l.stopped
  pending : p.pending = l.waiting.length
  completed : p.completed = l.ran.countP (!·.panics)
  panicked : p.panicked = l.ran.countP (·.panics)
  notes : p.notes = l.ran.flatMap (·.said)

/-- It does not matter for this where the tasks are that wait. -/
theorem Counts.moved {l : Ledger} (counts : Counts p l) (queue : List Job)
    (workers : List Worker) : Counts { p with queue := queue, workers := workers } l :=
  ⟨counts.single,counts.name,counts.paused,counts.stopped,counts.pending,counts.completed,
    counts.panicked,counts.notes⟩

structure Matches (p : Pool) (l : Ledger) : Prop extends Counts p l where
  place : p.Holds l.waiting

variable {l : Ledger}

theorem Holds.quiet {tickets : List Ticket} (holds : p.Holds tickets) : p.step? = none := by
  rw [step?_eq_none]
  intro w member
  cases tickets with
  | nil =>
    obtain ⟨empty,none | idle⟩ := holds
    · exact absurd (none ▸ member) List.not_mem_nil
    · obtain rfl := List.mem_singleton.mp (idle ▸ member)
      rw [work,empty]
  | cons t tickets =>
    obtain ⟨only,_,paused,live⟩ := holds
    obtain rfl := List.mem_singleton.mp (only ▸ member)
    rw [work,if_neg (by simp [live,Ticket.job]),if_neg (Nat.ne_of_gt paused)]

theorem Holds.free {tickets : List Ticket} (holds : p.Holds tickets) (free : p.paused = 0) :
    tickets = [] := by
  cases tickets with
  | nil => rfl
  | cons t tickets => exact absurd free (Nat.ne_of_gt holds.2.2.1)

theorem Holds.ended {tickets : List Ticket} (holds : p.Holds tickets) (stopped : p.stopped = true) :
    tickets = [] := by
  cases tickets with
  | nil => rfl
  | cons t tickets => exact absurd stopped (Bool.eq_false_iff.mp holds.2.2.2)

/-! ### Pausing and resuming -/

theorem Holds.repaused {tickets : List Ticket} (holds : p.Holds tickets) {depth : Nat}
    (deeper : depth ≠ 0) : { p with paused := depth }.Holds tickets := by
  cases tickets with
  | nil => exact holds
  | cons t tickets =>
    obtain ⟨only,queue,_,live⟩ := holds
    exact ⟨only,queue,Nat.pos_of_ne_zero deeper,live⟩

theorem Counts.worked (counts : Counts p l) {workers : List Worker}
    (rests : workers = [] ∨ workers = [.idle]) :
    Matches { p.worked l.waiting with workers := workers } l.freed where
  single := counts.single
  name := counts.name
  paused := counts.paused
  stopped := counts.stopped
  pending := Nat.sub_eq_zero_of_le (Nat.le_of_eq counts.pending)
  completed := by simp [Pool.worked,Ledger.freed,counts.completed]
  panicked := by simp [Pool.worked,Ledger.freed,counts.panicked]
  notes := by simp [Pool.worked,Ledger.freed,counts.notes]
  place := ⟨rfl,rests⟩

/-- A worker that is let go on works off what it holds and then its queue. -/
theorem Holds.freed {tickets : List Ticket} (holds : p.Holds tickets) :
    ∃ workers, (workers = [] ∨ workers = [.idle]) ∧ { p with paused := 0 }.settle =
      { ({ p with paused := 0 } : Pool).worked tickets with workers := workers } := by
  cases tickets with
  | nil =>
    have still : { p with paused := 0 }.Holds [] := holds
    have empty : p.queue = [] := holds.1
    refine ⟨p.workers,holds.2,?_⟩
    rw [settle_quiet still.quiet]
    simp [worked,← empty]
  | cons t tickets =>
    obtain ⟨only,queue,_,live⟩ := holds
    refine ⟨[.idle],.inr rfl,?_⟩
    refine Eq.trans (settle_holding only) ?_
    exact settle_queue rfl (congrArg _ queue) live rfl

theorem Matches.repaused (m : Matches p l) {depth : Nat} (deeper : depth ≠ 0) :
    Matches { p with paused := depth }.settle { l with depth := depth } := by
  have still := m.place.repaused deeper
  rw [settle_quiet still.quiet]
  exact ⟨⟨m.single,m.name,rfl,m.stopped,m.pending,m.completed,m.panicked,m.notes⟩,still⟩

theorem Matches.freed (m : Matches p l) :
    Matches { p with paused := 0 }.settle { l.freed with depth := 0 } := by
  obtain ⟨workers,rests,settled⟩ := m.place.freed
  rw [settled]
  have counts : Counts { p with paused := 0 } { l with depth := 0 } :=
    ⟨m.single,m.name,rfl,m.stopped,m.pending,m.completed,m.panicked,m.notes⟩
  exact counts.worked rests

/-! ### Clearing and stopping -/

theorem Matches.drained (m : Matches p l) (stopped : Bool) :
    Matches { p.drained with stopped := stopped }.settle { l.cleared with stopped := stopped } := by
  obtain ⟨counts,place⟩ := m
  have size := counts.pending
  cases waiting : l.waiting with
  | nil =>
    rw [waiting] at place size
    have still : { p.drained with stopped := stopped }.Holds [] := ⟨rfl,place.2⟩
    rw [settle_quiet still.quiet]
    refine ⟨⟨counts.single,counts.name,counts.paused,rfl,?_,counts.completed,counts.panicked,
      counts.notes⟩,still⟩
    exact Nat.sub_eq_zero_of_le (size ▸ Nat.zero_le _)
  | cons t tickets =>
    rw [waiting] at place size
    obtain ⟨only,queue,_,_⟩ := place
    -- the task in the hand is of an earlier epoch now
    have stale : (t.job p.epoch).epoch ≠ p.epoch + 1 := Nat.ne_of_lt (Nat.lt_succ_self _)
    have settled := settle_drop (p := { p.drained with stopped := stopped }) only (.inr stale)
    have still : { p.drained with
        stopped := stopped
        pending := p.drained.pending - 1
        workers := [.idle] }.Holds [] := ⟨rfl,.inr rfl⟩
    rw [settled,settle_quiet still.quiet]
    refine ⟨⟨counts.single,counts.name,counts.paused,rfl,?_,counts.completed,counts.panicked,
      counts.notes⟩,still⟩
    change p.pending - p.queue.length - 1 = 0
    rw [size,queue,List.length_map,List.length_cons]
    omega

/-! ### Scheduling -/

theorem enqueued_free (single : p.maxWorkers ≤ 1) (empty : p.queue = [])
    (free : p.workers = [] ∨ p.workers = [.idle]) (script : List Action) :
    p.enqueued script = { p with
      queue := [⟨p.epoch,script⟩]
      pending := p.pending + 1
      workers := [.idle] } := by
  have one : max p.maxWorkers 1 = 1 := Nat.max_eq_right single
  rw [enqueued,empty,one,live,idle]
  rcases free with none | ready
  · simp [none]
  · simp [ready,Worker.isIdle]

theorem enqueued_holding (single : p.maxWorkers ≤ 1) {job : Job} (only : p.workers = [.holding job])
    (script : List Action) : p.enqueued script = { p with
      queue := p.queue ++ [⟨p.epoch,script⟩]
      pending := p.pending + 1 } := by
  have one : max p.maxWorkers 1 = 1 := Nat.max_eq_right single
  rw [enqueued,one,live,only]
  simp

theorem Counts.enter (counts : Counts p l) (task : Task) :
    Counts (p.enqueued task.script) (l.enter task) where
  single := counts.single
  name := counts.name
  paused := counts.paused
  stopped := counts.stopped
  pending := by simp [enqueued,Ledger.enter,counts.pending]
  completed := counts.completed
  panicked := counts.panicked
  notes := counts.notes

/-- A task that comes while there are pauses waits behind the others. -/
theorem Matches.queued (m : Matches p l) (live : p.stopped = false) (held : 0 < p.paused)
    (task : Task) : Matches (p.enqueued task.script).settle (l.enter task) := by
  have counts := m.toCounts.enter task
  have place := m.place
  have entered : (l.enter task).waiting = l.waiting ++ [⟨l.accepted.length,task⟩] := rfl
  cases waiting : l.waiting with
  | nil =>
    rw [waiting] at place entered
    rw [enqueued_free m.single place.1 place.2] at counts ⊢
    have taken : { p with
        queue := []
        pending := p.pending + 1
        workers := [.holding ⟨p.epoch,task.script⟩] }.Holds (l.enter task).waiting := by
      rw [entered]
      exact ⟨rfl,rfl,held,live⟩
    rw [settle_take rfl rfl,settle_quiet taken.quiet]
    exact ⟨counts.moved ..,taken⟩
  | cons t tickets =>
    rw [waiting] at place entered
    obtain ⟨only,queue,_,_⟩ := place
    have still : (p.enqueued task.script).Holds (l.enter task).waiting := by
      rw [entered,enqueued_holding m.single only]
      refine ⟨only,?_,held,live⟩
      simp [queue,Ticket.job]
    rw [settle_quiet still.quiet]
    exact ⟨counts,still⟩

/-- A task that comes while there are none runs at once. -/
theorem Matches.served (m : Matches p l) (live : p.stopped = false) (free : p.paused = 0)
    (task : Task) : Matches (p.enqueued task.script).settle (l.enter task).freed := by
  have counts := m.toCounts.enter task
  have place := m.place
  have none := place.free free
  have entered : (l.enter task).waiting = l.waiting ++ [⟨l.accepted.length,task⟩] := rfl
  rw [none] at place entered
  have only := enqueued_free m.single place.1 place.2 task.script
  have ready : (p.enqueued task.script).workers = [.idle] := by rw [only]
  have waits : (p.enqueued task.script).queue =
      (l.enter task).waiting.map (·.job (p.enqueued task.script).epoch) := by
    rw [only,entered]
    rfl
  rw [settle_queue ready waits live free]
  exact counts.worked (.inr ready)

/-! ### One operation -/

/-- What is answered and what becomes of every task is as the ledger has it. -/
structure Follows (p : Pool) (l : Ledger) (op : Operation) : Prop where
  reply : (p.apply op).1 = (l.apply op).1
  state : Matches (p.apply op).2 (l.step op)

theorem follows_of {op : Operation} {reply : Reply} {q : Pool} {k : Ledger}
    (applied : p.apply op = (reply,q)) (entered : l.apply op = (reply,k)) (m : Matches q k) :
    Follows p l op := by
  constructor
  case reply => rw [applied,entered]
  case state =>
    rw [applied,Ledger.step,entered]
    exact m

theorem Matches.schedule (m : Matches p l) (task : Task) : Follows p l (.schedule task) := by
  cases stopped : p.stopped with
  | true =>
    have refused : l.apply (.schedule task) = (.rejected (.stopped l.name),l) :=
      if_pos (m.stopped ▸ stopped)
    rw [← m.name] at refused
    exact follows_of (apply_schedule_stopped stopped task) refused m
  | false =>
    have accepted := apply_schedule_live stopped task
    have live : ¬ l.stopped = true := Bool.eq_false_iff.mp (m.stopped ▸ stopped)
    by_cases free : p.paused = 0
    · have entered : l.apply (.schedule task) = (.accepted,(l.enter task).freed) :=
        (if_neg live).trans (if_pos (m.paused ▸ free))
      exact follows_of accepted entered (m.served stopped free task)
    · have entered : l.apply (.schedule task) = (.accepted,l.enter task) :=
        (if_neg live).trans (if_neg (m.paused ▸ free))
      exact follows_of accepted entered (m.queued stopped (Nat.pos_of_ne_zero free) task)

theorem Matches.pause (m : Matches p l) : Follows p l .pause := by
  refine ⟨rfl,?_⟩
  change Matches { p with paused := p.paused + 1 }.settle { l with depth := l.depth + 1 }
  rw [m.paused]
  exact m.repaused (Nat.succ_ne_zero _)

theorem Matches.resume (m : Matches p l) : Follows p l .resume := by
  have applied : p.apply .resume = (.done,p.resume) := rfl
  by_cases none : p.paused = 0
  · have still : p.resume = p := if_pos none
    have depth : l.depth - 1 = l.depth := by rw [← m.paused,none]
    have same : l.apply .resume = (.done,l) := by
      rw [Ledger.apply,if_neg (by rw [← m.paused,none]; exact Nat.zero_ne_one),depth]
    rw [still] at applied
    exact follows_of applied same m
  · have resumed : p.resume = { p with paused := l.depth - 1 }.settle :=
      m.paused ▸ (if_neg none : p.resume = _)
    rw [resumed] at applied
    by_cases last : l.depth = 1
    · have freed : l.apply .resume = (.done,{ l.freed with depth := 0 }) := if_pos last
      rw [last] at applied
      exact follows_of applied freed m.freed
    · have deeper : l.apply .resume = (.done,{ l with depth := l.depth - 1 }) := if_neg last
      have left : l.depth - 1 ≠ 0 := by
        rw [m.paused] at none
        omega
      exact follows_of applied deeper (m.repaused left)

/-- The task in the hand is not in the queue. -/
theorem Holds.queue_length {tickets : List Ticket} (holds : p.Holds tickets) :
    p.queue.length = tickets.length - 1 := by
  cases tickets with
  | nil => rw [holds.1]; rfl
  | cons t tickets => rw [holds.2.1,List.length_map]; rfl

theorem Matches.clear (m : Matches p l) : Follows p l .clear := by
  constructor
  case reply =>
    change Reply.drained p.queue.length = .drained (l.waiting.length - 1)
    rw [m.place.queue_length]
  case state =>
    have same : { l.cleared with stopped := p.stopped } = l.cleared := by rw [m.stopped]; rfl
    have drained := m.drained p.stopped
    rw [same] at drained
    exact drained

theorem Matches.stop (m : Matches p l) : Follows p l .stop := by
  refine ⟨rfl,?_⟩
  change Matches p.stop _
  rw [Pool.stop]
  split
  next stopped =>
    have none := m.place.ended stopped
    have ended : l.stopped = true := m.stopped ▸ stopped
    have same : l.step .stop = l := by
      change { l.cleared with stopped := true } = l
      simp only [Ledger.cleared,none,List.append_nil]
      rw [← none,← ended]
    rw [same]
    exact m
  · exact m.drained true

theorem Matches.retire (m : Matches p l) : Follows p l .retire := by
  refine ⟨rfl,m.toCounts.moved p.queue _,?_⟩
  have place := m.place
  change ({ p with workers := p.workers.filter (!·.isIdle) } : Pool).Holds l.waiting
  cases waiting : l.waiting with
  | nil =>
    rw [waiting] at place
    refine ⟨place.1,.inl ?_⟩
    rcases place.2 with none | ready
    · rw [none]; rfl
    · rw [ready]; rfl
  | cons t tickets =>
    rw [waiting] at place
    obtain ⟨only,queue,held,live⟩ := place
    exact ⟨by rw [only]; rfl,queue,held,live⟩

theorem Matches.follows (m : Matches p l) (op : Operation) : Follows p l op := by
  cases op with
  | schedule task => exact m.schedule task
  | pause => exact m.pause
  | resume => exact m.resume
  | clear => exact m.clear
  | stop => exact m.stop
  | retire => exact m.retire

/-! ## Runs -/

def Ledger.after (l : Ledger) (ops : List Operation) : Ledger := ops.foldl Ledger.step l

def Ledger.replies (l : Ledger) (ops : List Operation) : List Reply :=
  along Ledger.step (fun l op => [(l.apply op).1]) l ops

theorem start_matches (name : String) {maxWorkers : Nat} (one : maxWorkers ≤ 1)
    (idleTimeout : Nat) : Matches (start name maxWorkers idleTimeout) (.start name) :=
  ⟨⟨one,rfl,rfl,rfl,rfl,rfl,rfl,rfl⟩,rfl,.inl rfl⟩

theorem Ledger.Sound.after {l : Ledger} (sound : l.Sound) (ops : List Operation) :
    (l.after ops).Sound := by
  induction ops generalizing l with
  | nil => exact sound
  | cons op ops ih => exact ih (sound.step op)

theorem Exact.after (exact : p.Exact) (m : Matches p l) (ops : List Operation) :
    (p.after ops).Exact := by
  induction ops generalizing p l with
  | nil => exact exact
  | cons op ops ih => exact ih (exact.apply m.place.quiet op) (m.follows op).state

theorem Matches.after (m : Matches p l) (ops : List Operation) :
    p.replies ops = l.replies ops ∧ Matches (p.after ops) (l.after ops) := by
  refine along_simulation ?_ m ops
  intro p l op m
  have follows := m.follows op
  exact ⟨congrArg ([·]) follows.reply,follows.state⟩

/-- A pool at rest and the ledger of all that happened to it. -/
structure Accounted (p : Pool) (l : Ledger) : Prop where
  rests : p.step? = none
  pauses : p.canPause = true
  counts : Counts p l
  /-- The accepted tasks are numbered in order, and those that ran are among them in that order. -/
  numbers : l.accepted.map (·.number) = List.range l.accepted.length
  ordered : l.ran.Sublist l.accepted
  /-- Every task ran, or was dropped, or waits, and only one of these. -/
  fates : (l.ran ++ l.dropped ++ l.waiting).Perm l.accepted
  balance : l.accepted.length = p.completed + p.panicked + l.dropped.length + p.pending
  /-- Whatever comes next, the counters are exact after every single step. -/
  within : ∀ op n, (stepWithin n (p.begun op)).Exact
  settles : ∀ op, (p.apply op).2 = (p.begun op).settle
  covered : p.Covered ∧ ∀ op n, (stepWithin n (p.begun op)).Covered
  /-- While there are pauses no worker is at a task, and none is started. -/
  calm : ∀ op n, 0 < (stepWithin n (p.begun op)).paused →
    ∀ w ∈ (stepWithin n (p.begun op)).workers, w.isBusy = false
  held : ∀ op, 0 < (p.apply op).2.paused → (l.step op).ran = l.ran ∧ (p.apply op).2.notes = p.notes
  unpaused : p.paused = 0 → p.apply .resume = (.done,p)
  free : p.paused = 0 → p.stopped = false →
    p.pending = 0 ∧ ∀ t ∈ l.accepted, t ∉ l.dropped → t ∈ l.ran
  /-- All that wait are dropped together, those in the queue and the one in the hand. -/
  cleared : ∀ op, op = .clear ∨ op = .stop → (l.step op).dropped = l.dropped ++ l.waiting ∧
    (l.step op).waiting = [] ∧ (l.step op).ran = l.ran ∧ (p.apply op).2.pending = 0
  drained : p.queue.length = l.waiting.length - 1
  kept : ∀ op, op ≠ .clear → op ≠ .stop → (l.step op).dropped = l.dropped
  closed : p.stopped = true → ∀ task, p.apply (.schedule task) = (.rejected (.stopped l.name),p)

/-- Whatever is done with a pool of one worker, its ledger tells what became of every task. -/
theorem single_worker_accounts (name : String) {maxWorkers : Nat} (one : maxWorkers ≤ 1)
    (idleTimeout : Nat) (ops : List Operation) :
    (start name maxWorkers idleTimeout).replies ops = (Ledger.start name).replies ops ∧
      Accounted ((start name maxWorkers idleTimeout).after ops) ((Ledger.start name).after ops) := by
  have first := start_matches name one idleTimeout
  obtain ⟨replies,m⟩ := first.after ops
  have exact := (start_exact name maxWorkers idleTimeout).after first ops
  have sound := (Ledger.start_sound name).after ops
  refine ⟨replies,?_⟩
  generalize (start name maxWorkers idleTimeout).after ops = p at m exact
  generalize (Ledger.start name).after ops = l at m sound
  have quiet := m.place.quiet
  have within (op : Operation) (n : Nat) : (stepWithin n (p.begun op)).Exact :=
    (exact.begun quiet op).within n
  constructor
  case rests => exact quiet
  case pauses => simp [canPause,exact.calm quiet]
  case counts => exact m.toCounts
  case numbers => exact sound.numbers
  case ordered => exact (List.sublist_append_left ..).trans sound.ordered
  case fates => exact sound.fates
  case balance =>
    have fates := sound.fates.length_eq
    have ends : l.ran.length = l.ran.countP (·.panics) + l.ran.countP (!·.panics) := by
      rw [List.length_eq_countP_add_countP (·.panics)]
      congr 2
      funext t
      cases t.panics <;> rfl
    simp only [List.length_append] at fates
    rw [m.pending,m.panicked,m.completed]
    omega
  case within => exact within
  case settles => exact apply_settles quiet
  case covered => exact ⟨exact.covered,fun op n => (within op n).covered⟩
  case calm =>
    intro op n paused w member
    have none := (within op n).running.symm.trans ((within op n).held paused)
    exact Bool.eq_false_iff.mpr (List.countP_eq_zero.mp none w member)
  case held =>
    intro op held
    have next := (m.follows op).state
    rw [next.paused] at held
    have same := Ledger.step_held held
    refine ⟨same,?_⟩
    rw [next.notes,same,m.notes]
  case unpaused =>
    intro free
    have still : p.resume = p := if_pos free
    rw [apply,still]
  case free =>
    intro free _
    have none := m.place.free free
    refine ⟨by rw [m.pending,none]; rfl,fun t accepted kept => ?_⟩
    have fate := sound.fates.mem_iff.mpr accepted
    rw [none,List.append_nil] at fate
    exact (List.mem_append.mp fate).resolve_right kept
  case cleared =>
    intro op clears
    have pending := (m.follows op).state.pending
    rcases clears with rfl | rfl
    · exact ⟨rfl,rfl,rfl,pending⟩
    · exact ⟨rfl,rfl,rfl,pending⟩
  case drained => exact m.place.queue_length
  case kept => exact fun op => Ledger.step_kept
  case closed =>
    intro stopped task
    rw [← m.name]
    exact apply_schedule_stopped stopped task

/-- The task that a paused worker holds is dropped with the others, and was not in the queue. -/
theorem single_worker_accounts_cleared : 1 ≤ 1 ∧
    let ops := [.pause,.schedule ⟨[.note "a"],by simp [Plain,Action.plain]⟩,
      .schedule ⟨[.note "b"],by simp [Plain,Action.plain]⟩,.clear,
      .schedule ⟨[.note "c",.panic],by simp [Plain,Action.plain]⟩,.resume]
    (start "pool" 1 0).replies ops = [.done,.accepted,.accepted,.drained 1,.accepted,.done] ∧
      ((start "pool" 1 0).after ops).notes = ["c"] := by
  have accounts := single_worker_accounts "pool" (Nat.le_refl 1) 0
  exact ⟨Nat.le_refl 1,(accounts _).1.trans rfl,(accounts _).2.counts.notes.trans rfl⟩

end Vicinity.Pool
