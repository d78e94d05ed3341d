import Vicinity.Proofs.Pool.Settling
import Vicinity.Proofs.Runs

/-! A pool whose tasks leave it alone, seen step by step. Its counters are exact between any two steps
of its workers, however many these are, and while it is paused none of them is at a task. -/
namespace Vicinity.Pool

variable {p q r : Pool} {w v : Worker} {script : List Action}

/-! ## Tasks that leave the pool alone -/

def Action.plain : Action → Bool
  | .note _ | .panic => true
  | _ => false

def Plain (script : List Action) : Prop := ∀ action ∈ script, action.plain = true

/-- A task that ends or panics, whatever the pool does. -/
structure Task where
  script : List Action
  plain : Plain script

/-- What a task notes before it ends. -/
def said : List Action → List String
  | .note label :: rest => label :: said rest
  | _ => []

def panics : List Action → Bool
  | .note _ :: rest => panics rest
  | .panic :: _ => true
  | _ => false

inductive Operation where
  | schedule (task : Task)
  | pause
  | resume
  | clear
  | stop
  /-- Idle workers have waited long enough. -/
  | retire

inductive Reply where
  | accepted
  | rejected (cause : ExecutionError)
  /-- How many tasks were drained from the queue. -/
  | drained (count : Nat)
  | done

def apply (p : Pool) : Operation → Reply × Pool
  | .schedule task =>
    match p.schedule task.script with
    | .ok p => (.accepted,p)
    | .error cause => (.rejected cause,p)
  | .pause => (.done,p.pause)
  | .resume => (.done,p.resume)
  | .clear =>
    let (count,p) := p.clear
    (.drained count,p)
  | .stop => (.done,p.stop)
  | .retire => (.done,p.retireIdle)

/-- Tasks that have not started are given up. -/
def drained (p : Pool) : Pool :=
  { p with epoch := p.epoch + 1, queue := [], pending := p.pending - p.queue.length }

/-- The pool before it goes on after an operation. -/
def begun (p : Pool) : Operation → Pool
  | .schedule task => if p.stopped then p else p.enqueued task.script
  | .pause => { p with paused := p.paused + 1 }
  | .resume => { p with paused := p.paused - 1 }
  | .clear => p.drained
  | .stop => if p.stopped then p else { p.drained with stopped := true }
  | .retire => p.retireIdle

def step (p : Pool) (op : Operation) : Pool := (p.apply op).2

def after (p : Pool) (ops : List Operation) : Pool := ops.foldl step p

def replies (p : Pool) (ops : List Operation) : List Reply :=
  along step (fun p op => [(p.apply op).1]) p ops

theorem apply_schedule_stopped (stopped : p.stopped = true) (task : Task) :
    p.apply (.schedule task) = (.rejected (.stopped p.name),p) := by
  rw [apply,schedule,submit_stopped stopped]
  rfl

theorem apply_schedule_live (live : p.stopped = false) (task : Task) :
    p.apply (.schedule task) = (.accepted,(p.enqueued task.script).settle) := by
  rw [apply,schedule,submit_live live]
  rfl

/-- An operation takes its effect, and then the pool goes on; one without any effect leaves it at
rest. -/
theorem apply_settles (quiet : p.step? = none) (op : Operation) :
    (p.apply op).2 = (p.begun op).settle := by
  cases op with
  | schedule task =>
    cases stopped : p.stopped with
    | true => rw [apply_schedule_stopped stopped,begun,if_pos stopped,settle_quiet quiet]
    | false => rw [apply_schedule_live stopped,begun,if_neg (Bool.eq_false_iff.mp stopped)]
  | pause => rfl
  | resume =>
    change p.resume = { p with paused := p.paused - 1 }.settle
    rw [resume]
    split
    next free =>
      have depth : p.paused - 1 = p.paused := by rw [free]
      rw [depth,settle_quiet quiet]
    · rfl
  | clear => rfl
  | stop =>
    change p.stop = _
    rw [stop,begun]
    split
    · exact (settle_quiet quiet).symm
    · rfl
  | retire =>
    refine (settle_quiet (p := p.retireIdle) ?_).symm
    rw [step?_eq_none]
    intro w member
    have stuck := step?_eq_none.mp quiet w (List.mem_filter.mp member).1
    exact (work_eq_none_with _).mpr stuck

/-! ## The counters -/

def Worker.Plain : Worker → Prop
  | .idle => True
  | .holding job => Pool.Plain job.script
  | .running rest => Pool.Plain rest
  | .pausing _ => False

def Worker.isIn (w : Worker) : Bool := !w.isIdle

/-- The counters tell how many tasks run and how many are not done with, and while the pool is paused
none runs. -/
structure Exact (p : Pool) : Prop where
  queued : ∀ job ∈ p.queue, Plain job.script
  hired : ∀ w ∈ p.workers, w.Plain
  running : p.running = p.workers.countP Worker.isBusy
  pending : p.pending = p.queue.length + p.workers.countP Worker.isIn
  held : 0 < p.paused → p.running = 0

theorem Plain.rest {action : Action} {rest : List Action} (plain : Plain (action :: rest)) :
    Plain rest := fun _ member => plain _ (List.mem_cons_of_mem _ member)

theorem countP_set {workers : List Worker} {i : Nat} (found : workers[i]? = some w) (v : Worker)
    (f : Worker → Bool) : (workers.set i v).countP f + (f w).toNat =
      workers.countP f + (f v).toNat := by
  induction workers generalizing i with
  | nil => simp at found
  | cons first workers ih =>
    cases i with
    | zero =>
      obtain rfl : first = w := by simpa using found
      cases before : f first <;> cases later : f v <;> simp [before,later]
    | succ i =>
      have rest := ih (by simpa using found)
      simp only [List.set_cons_succ,List.countP_cons]
      omega

theorem Exact.work (exact : p.Exact) {i : Nat} (found : p.workers[i]? = some w)
    (moves : Moves p w r v) : Exact { r with workers := r.workers.set i v } := by
  obtain ⟨queued,hired,running,pending,held⟩ := exact
  have plain := hired w (List.mem_of_getElem? found)
  have busy := countP_set found v Worker.isBusy
  have taken := countP_set found v Worker.isIn
  have others : v.Plain → ∀ u ∈ p.workers.set i v, u.Plain := by
    intro new u member
    rcases List.mem_or_eq_of_mem_set member with old | rfl
    · exact hired u old
    · exact new
  cases moves
  all_goals simp only [Worker.isBusy,Worker.isIn,Worker.isIdle,Bool.not_true,Bool.not_false,
    Bool.toNat_true,Bool.toNat_false] at busy taken
  case take job queue waits =>
    simp only [waits,List.length_cons] at queued pending
    constructor
    case queued => exact fun other member => queued other (List.mem_cons_of_mem _ member)
    case hired => exact others (queued job (List.mem_cons_self ..))
    case held => exact held
    all_goals
      dsimp only
      omega
  case drop job stale =>
    constructor
    case queued => exact queued
    case hired => exact others trivial
    case held => exact held
    all_goals
      dsimp only
      omega
  case begin job live current free =>
    constructor
    case queued => exact queued
    case hired => exact others plain
    case held => exact fun paused => absurd free (Nat.ne_zero_of_lt paused)
    all_goals
      dsimp only
      omega
  case complete =>
    constructor
    case queued => exact queued
    case hired => exact others trivial
    all_goals
      dsimp only [finish]
      omega
  case panic rest =>
    constructor
    case queued => exact queued
    case hired => exact others trivial
    all_goals
      dsimp only [finish]
      omega
  case note label rest =>
    constructor
    case queued => exact queued
    case hired => exact others plain.rest
    case held => exact held
    all_goals
      dsimp only
      omega
  -- a plain task neither submits, nor pauses or resumes, nor waits
  case wake => exact plain.elim
  all_goals exact absurd (plain _ (List.mem_cons_self ..)) Bool.false_ne_true

theorem Exact.step (exact : p.Exact) (step : p.step? = some q) : q.Exact := by
  obtain ⟨i,w,r,v,found,works,rfl⟩ := exists_work_of_step? step
  exact exact.work found (moves_of_work works)

/-- A plain task can always go on, so none is running where nothing more can run. -/
theorem Exact.calm (exact : p.Exact) (quiet : p.step? = none) : p.running = 0 := by
  rw [exact.running,List.countP_eq_zero]
  intro w member busy
  have stuck := step?_eq_none.mp quiet w member
  have plain := exact.hired w member
  cases w with
  | idle => cases busy
  | holding job => cases busy
  | running rest =>
    cases rest with
    | nil => cases stuck
    | cons action rest =>
      have kind := plain action (List.mem_cons_self ..)
      cases action with
      | note label => cases stuck
      | panic => cases stuck
      | submit script => cases kind
      | pause => cases kind
      | resume => cases kind
      | await gate => cases kind
  | pausing rest => exact plain

theorem Exact.enqueued (exact : p.Exact) (plain : Plain script) : (p.enqueued script).Exact := by
  obtain ⟨queued,hired,running,pending,held⟩ := exact
  constructor
  case queued =>
    intro job member
    rcases List.mem_append.mp member with old | new
    · exact queued job old
    · obtain rfl := List.mem_singleton.mp new
      exact plain
  case hired =>
    intro w member
    rcases p.enqueued_workers script with same | more
    · exact hired w (same ▸ member)
    · rcases List.mem_append.mp (more ▸ member) with old | new
      · exact hired w old
      · obtain rfl := List.mem_singleton.mp new
        trivial
  case running =>
    refine running.trans ?_
    rcases p.enqueued_workers script with same | more
    · rw [same]
    · rw [more,List.countP_append]
      rfl
  case pending =>
    have entered : (p.enqueued script).queue.length = p.queue.length + 1 := List.length_append
    have counted : (p.enqueued script).workers.countP Worker.isIn =
        p.workers.countP Worker.isIn := by
      rcases p.enqueued_workers script with same | more
      · rw [same]
      · rw [more,List.countP_append]
        rfl
    rw [entered,counted]
    exact (congrArg (· + 1) pending).trans (Nat.add_right_comm ..)
  case held => exact held

theorem Exact.drained (exact : p.Exact) : p.drained.Exact := by
  obtain ⟨queued,hired,running,pending,held⟩ := exact
  constructor
  case queued => exact fun job member => absurd member List.not_mem_nil
  case hired => exact hired
  case running => exact running
  case pending =>
    change p.pending - p.queue.length = 0 + p.workers.countP Worker.isIn
    omega
  case held => exact held

theorem Exact.retired (exact : p.Exact) : p.retireIdle.Exact := by
  obtain ⟨queued,hired,running,pending,held⟩ := exact
  have stays (f : Worker → Bool) (others : f .idle = false) :
      p.retireIdle.workers.countP f = p.workers.countP f := by
    change (p.workers.filter _).countP f = _
    rw [List.countP_filter]
    apply List.countP_congr
    intro w _
    cases w <;> simp [Worker.isIdle,others]
  constructor
  case queued => exact queued
  case hired => exact fun w member => hired w (List.mem_filter.mp member).1
  case running => exact running.trans (stays _ rfl).symm
  case pending =>
    rw [stays Worker.isIn rfl]
    exact pending
  case held => exact held

theorem Exact.begun (exact : p.Exact) (quiet : p.step? = none) (op : Operation) :
    (p.begun op).Exact := by
  have calm := exact.calm quiet
  cases op with
  | schedule task =>
    rw [Pool.begun]
    split
    · exact exact
    · exact exact.enqueued task.plain
  | pause => exact ⟨exact.queued,exact.hired,exact.running,exact.pending,fun _ => calm⟩
  | resume => exact ⟨exact.queued,exact.hired,exact.running,exact.pending,fun _ => calm⟩
  | clear => exact exact.drained
  | stop =>
    have drained := exact.drained
    rw [Pool.begun]
    split
    · exact exact
    · exact ⟨drained.queued,drained.hired,drained.running,drained.pending,drained.held⟩
  | retire => exact exact.retired

/-- Nothing is subtracted from a counter that is smaller. -/
structure Covered (p : Pool) : Prop where
  queue : p.queue.length ≤ p.pending
  holding : ∀ w ∈ p.workers, w.isHolding = true → 0 < p.pending
  busy : ∀ w ∈ p.workers, w.isBusy = true → 0 < p.running ∧ 0 < p.pending

theorem Exact.covered (exact : p.Exact) : p.Covered := by
  have counted {f : Worker → Bool} {w : Worker} (member : w ∈ p.workers) (sort : f w = true) :
      0 < p.workers.countP f := List.countP_pos_iff.mpr ⟨w,member,sort⟩
  have running := exact.running
  have pending := exact.pending
  constructor
  case queue => omega
  case holding =>
    intro w member holding
    have taken := counted member (f := Worker.isIn) (by cases w <;> first | rfl | cases holding)
    omega
  case busy =>
    intro w member busy
    have taken := counted member (f := Worker.isIn) (by cases w <;> first | rfl | cases busy)
    have runs := counted member busy
    omega

theorem start_exact (name : String) (maxWorkers idleTimeout : Nat) :
    (start name maxWorkers idleTimeout).Exact where
  queued _ member := absurd member List.not_mem_nil
  hired _ member := absurd member List.not_mem_nil
  running := rfl
  pending := rfl
  held _ := rfl

theorem Exact.within (exact : p.Exact) (n : Nat) : (stepWithin n p).Exact :=
  stepWithin_induction exact (fun _ _ exact step => exact.step step) n

theorem Exact.apply (exact : p.Exact) (quiet : p.step? = none) (op : Operation) :
    (p.step op).Exact := by
  rw [Pool.step,apply_settles quiet]
  exact (exact.begun quiet op).within _

end Vicinity.Pool
