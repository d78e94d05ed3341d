import Mathlib.Logic.Relation
import Vicinity.Proofs.Pool.Counters

/-! Pauses from inside a task, in a pool with one worker. A task that pauses takes itself out of the
count of those that execute, and comes back with each resume; the count cannot go below zero, so it is
kept only by tasks that resume before they pause again, and a deeper nest adds to it for good. -/
namespace Vicinity.Pool

variable {p q r : Pool} {w v : Worker} {script rest : List Action} {most outer high : Nat}
  {own : Option Nat}

/-! ## Balanced tasks -/

mutual

/-- What is submitted in a task is balanced, too. -/
def Action.Fair (most : Nat) : Action → Prop
  | .submit script => Balanced most script 0
  | _ => True

/-- A task that has `own` pauses in force resumes each of them before it ends, and never has more
than `most`. -/
def Balanced (most : Nat) : List Action → Nat → Prop
  | [], own => own = 0
  | .pause :: rest, own => own < most ∧ Balanced most rest (own + 1)
  | .resume :: rest, own => 0 < own ∧ Balanced most rest (own - 1)
  | .panic :: _, own => own = 0
  | action :: rest, own => action.Fair most ∧ Balanced most rest own

end

/-- A pool, and how many pauses are in force from outside. -/
structure Watched where
  pool : Pool
  outer : Nat

/-- One thing that happens to a pool: something is done from outside, or a worker takes a step. Tasks
are balanced, and from outside only pauses that were made there are resumed. -/
inductive Turn (most : Nat) (s : Watched) : Watched → Prop where
  | submit (script : List Action) (balanced : Balanced most script 0)
      (live : s.pool.stopped = false) : Turn most s ⟨s.pool.enqueued script,s.outer⟩
  | pause : Turn most s ⟨{ s.pool with paused := s.pool.paused + 1 },s.outer + 1⟩
  | resume (inForce : 0 < s.outer) :
      Turn most s ⟨{ s.pool with paused := s.pool.paused - 1 },s.outer - 1⟩
  | clear : Turn most s ⟨s.pool.drained,s.outer⟩
  | stop : Turn most s ⟨{ s.pool.drained with stopped := true },s.outer⟩
  | openGate (gate : String) :
      Turn most s ⟨{ s.pool with openGates := gate :: s.pool.openGates },s.outer⟩
  | retire (empty : s.pool.queue = []) : Turn most s ⟨s.pool.retireIdle,s.outer⟩
  | step {q : Pool} (step : s.pool.step? = some q) : Turn most s ⟨q,s.outer⟩

/-- What comes of a pool, in however many turns. -/
def Comes (most : Nat) : Watched → Watched → Prop := Relation.ReflTransGen (Turn most)

/-! ## The account -/

/-- What the worker is at: a task with so many pauses of its own in force, or none. -/
inductive Shift (most : Nat) : List Worker → Option Nat → Prop where
  | nobody : Shift most [] none
  | idle : Shift most [.idle] none
  | holding {job : Job} (balanced : Balanced most job.script 0) : Shift most [.holding job] none
  | running {rest : List Action} {own : Nat} (balanced : Balanced most rest own) :
      Shift most [.running rest] (some own)
  | pausing {rest : List Action} {own : Nat} (balanced : Balanced most rest (own + 1)) :
      Shift most [.pausing rest] (some (own + 1))

theorem Shift.free {workers : List Worker} (shift : Shift most workers own)
    (free : ∀ w ∈ workers, w.isBusy = false) : own = none := by
  cases shift with
  | nobody => rfl
  | idle => rfl
  | holding => rfl
  | running => cases free _ List.mem_cons_self
  | pausing => cases free _ List.mem_cons_self

theorem Shift.executing {workers : List Worker} (shift : Shift most workers (some 0)) :
    ∃ rest, workers = [.running rest] := by
  cases shift
  exact ⟨_,rfl⟩

/-- Pauses are those from outside and those of the task. The count of what executes is exact but for
what came of nests: it is `high - 1` too large once pauses have been nested `high` deep. -/
structure Books (most : Nat) (p : Pool) (outer high : Nat) (own : Option Nat) : Prop where
  paused : p.paused = outer + own.getD 0
  running : p.running = high - own.getD 1
  reached : own.getD 1 ≤ high
  least : 1 ≤ high
  limit : high ≤ max 1 most

/-- Of a pool only the two counts are in the books. -/
theorem Books.same (books : Books most p outer high own) (paused : r.paused = p.paused)
    (running : r.running = p.running) : Books most r outer high own :=
  ⟨paused.trans books.paused,running.trans books.running,books.reached,books.least,books.limit⟩

/-- A task begins without pauses. -/
theorem Books.begun (books : Books most p outer high none) :
    Books most { p with running := p.running + 1 } outer high (some 0) where
  paused := books.paused
  running := (congrArg (· + 1) books.running).trans (Nat.sub_add_cancel books.least)
  reached := Nat.zero_le _
  least := books.least
  limit := books.limit

theorem Books.ended (books : Books most p outer high (some 0)) :
    Books most p.finish outer high none where
  paused := books.paused
  running := congrArg (· - 1) books.running
  reached := books.least
  least := books.least
  limit := books.limit

section

variable {nested : Nat} (books : Books most p outer high (some nested))

include books

/-- In a nest deeper than any before, the count is zero already and cannot follow. -/
theorem Books.deeper (within : nested < most) :
    Books most p.pauseInside outer (max high (nested + 1)) (some (nested + 1)) := by
  obtain ⟨paused,running,reached,least,limit⟩ := books
  simp only [Option.getD_some] at paused running reached
  constructor
  case paused =>
    change p.paused + 1 = outer + (nested + 1)
    omega
  case running =>
    change p.running - 1 = max high (nested + 1) - (nested + 1)
    omega
  case reached => exact Nat.le_max_right ..
  case least => exact Nat.le_trans least (Nat.le_max_left ..)
  case limit => omega

theorem Books.inForce (pauses : 0 < nested) : 0 < p.paused :=
  books.paused ▸ Nat.lt_of_lt_of_le pauses (Nat.le_add_left ..)

theorem Books.resumed (pauses : 0 < nested) :
    Books most { p with paused := p.paused - 1, running := p.running + 1 } outer high
      (some (nested - 1)) := by
  obtain ⟨paused,running,reached,least,limit⟩ := books
  simp only [Option.getD_some] at paused running reached
  constructor
  case paused =>
    change p.paused - 1 = outer + (nested - 1)
    omega
  case running =>
    change p.running + 1 = high - (nested - 1)
    omega
  case reached => exact Nat.le_trans (Nat.sub_le ..) reached
  case least => exact least
  case limit => exact limit

end

/-- All that is true of a pool with one worker whose tasks are balanced. -/
structure Account (most : Nat) (p : Pool) (outer high : Nat) (own : Option Nat) : Prop
    extends Books most p outer high own where
  single : p.maxWorkers ≤ 1
  queued : ∀ job ∈ p.queue, Balanced most job.script 0 ∧ job.epoch = p.epoch
  staffed : p.queue ≠ [] → p.workers ≠ []
  shift : Shift most p.workers own
  pending : p.pending = p.queue.length + p.workers.countP Worker.isIn

theorem start_account (most : Nat) (name : String) {maxWorkers : Nat} (one : maxWorkers ≤ 1)
    (idleTimeout : Nat) : Account most (start name maxWorkers idleTimeout) 0 1 none where
  paused := rfl
  running := rfl
  reached := Nat.le_refl 1
  least := Nat.le_refl 1
  limit := Nat.le_max_left ..
  single := one
  queued _ member := absurd member List.not_mem_nil
  staffed waits := absurd rfl waits
  shift := .nobody
  pending := rfl

/-- The pool has one worker at most, and hires none besides. -/
theorem enqueued_single (single : p.maxWorkers ≤ 1) (only : p.workers = [w])
    (script : List Action) : (p.enqueued script).workers = [w] := by
  have full : ¬(p.live < max p.maxWorkers 1 ∧ p.idle ≤ p.queue.length) := by
    rintro ⟨room,_⟩
    rw [live,only,List.length_singleton] at room
    omega
  exact (if_neg full).trans only

theorem Account.enqueued (account : Account most p outer high own)
    (balanced : Balanced most script 0) : Account most (p.enqueued script) outer high own := by
  have entered : (p.enqueued script).queue.length = p.queue.length + 1 := List.length_append
  have queued : ∀ job ∈ (p.enqueued script).queue,
      Balanced most job.script 0 ∧ job.epoch = p.epoch := by
    intro job member
    rcases List.mem_append.mp member with old | new
    · exact account.queued job old
    · obtain rfl := List.mem_singleton.mp new
      exact ⟨balanced,rfl⟩
  have staff : Shift most (p.enqueued script).workers own ∧ (p.enqueued script).workers ≠ [] ∧
      (p.enqueued script).workers.countP Worker.isIn = p.workers.countP Worker.isIn := by
    have shift := account.shift
    cases only : p.workers with
    | nil =>
      have hired : (p.enqueued script).workers = [.idle] := by
        have room : p.live < max p.maxWorkers 1 ∧ p.idle ≤ p.queue.length := by
          rw [live,idle,only]
          exact ⟨Nat.lt_of_lt_of_le Nat.zero_lt_one (Nat.le_max_right ..),Nat.zero_le _⟩
        exact (if_pos room).trans (by rw [only]; rfl)
      rw [only] at shift
      cases shift
      rw [hired]
      exact ⟨.idle,List.cons_ne_nil _ _,rfl⟩
    | cons w others =>
      have alone : others = [] := by
        rw [only] at shift
        cases shift <;> rfl
      subst alone
      rw [enqueued_single account.single only]
      exact ⟨only ▸ shift,List.cons_ne_nil _ _,rfl⟩
  obtain ⟨shift,someone,same⟩ := staff
  refine ⟨⟨account.paused,account.running,account.reached,account.least,account.limit⟩,
    account.single,queued,fun _ => someone,shift,?_⟩
  rw [entered,same]
  exact (congrArg (· + 1) account.pending).trans (Nat.add_right_comm ..)

theorem resumeInside_inForce (inForce : 0 < p.paused) :
    p.resumeInside = { p with paused := p.paused - 1, running := p.running + 1 } :=
  if_neg (Nat.ne_of_gt inForce)

/-- The worker alone, with what it is at next. -/
theorem Account.alone (single : r.maxWorkers ≤ 1)
    (queued : ∀ job ∈ r.queue, Balanced most job.script 0 ∧ job.epoch = r.epoch) (shift : Shift most [v] own)
    (books : Books most r outer high own)
    (pending : r.pending = r.queue.length + (Worker.isIn v).toNat) :
    Account most { r with workers := [v] } outer high own where
  paused := books.paused
  running := books.running
  reached := books.reached
  least := books.least
  limit := books.limit
  single := single
  queued := queued
  staffed _ := List.cons_ne_nil _ _
  shift := shift
  pending := by
    rw [pending]
    cases within : v.isIn <;> simp [within]

/-- A step of the worker. A nest deeper than all before is written down; nothing else counts. -/
theorem Account.work (account : Account most p outer high own) (only : p.workers = [w])
    (moves : Moves p w r v) : ∃ high' own', high ≤ high' ∧
      Account most { r with workers := [v] } outer high' own' := by
  have single := account.single
  have queued := account.queued
  have books := account.toBooks
  have shift := account.shift
  have pending := account.pending
  rw [only] at shift pending
  cases moves
  case take job queue waits =>
    cases shift
    rw [waits] at queued pending
    have rest : ∀ other ∈ queue, Balanced most other.script 0 ∧ other.epoch = p.epoch :=
      fun other member => queued other (List.mem_cons_of_mem _ member)
    exact ⟨high,none,Nat.le_refl _,.alone single rest
      (.holding (queued job List.mem_cons_self).1) (books.same rfl rfl) pending⟩
  case drop job stale =>
    cases shift
    exact ⟨high,none,Nat.le_refl _,.alone single queued .idle (books.same rfl rfl)
      (congrArg (· - 1) pending)⟩
  case begin job live current free =>
    cases shift with | holding balanced =>
    exact ⟨high,some 0,Nat.le_refl _,.alone single queued (.running balanced) books.begun pending⟩
  case complete =>
    cases shift with | running balanced =>
    cases balanced
    exact ⟨high,none,Nat.le_refl _,.alone single queued .idle (books.ended.same rfl rfl)
      (congrArg (· - 1) pending)⟩
  case panic rest =>
    cases shift with | running balanced =>
    cases balanced
    exact ⟨high,none,Nat.le_refl _,.alone single queued .idle (books.ended.same rfl rfl)
      (congrArg (· - 1) pending)⟩
  case note label rest =>
    cases shift with | running balanced =>
    exact ⟨high,_,Nat.le_refl _,.alone single queued (.running balanced.2) (books.same rfl rfl)
      pending⟩
  case submit script rest live =>
    cases shift with | running balanced =>
    have entered := account.enqueued balanced.1
    have pending := entered.pending
    rw [enqueued_single single only] at pending
    exact ⟨high,_,Nat.le_refl _,.alone single entered.queued (.running balanced.2)
      entered.toBooks pending⟩
  case rejected script rest stopped =>
    cases shift with | running balanced =>
    exact ⟨high,_,Nat.le_refl _,.alone single queued (.running balanced.2) books pending⟩
  case pause rest =>
    cases shift with | running balanced =>
    exact ⟨_,_,Nat.le_max_left ..,.alone single queued (.pausing balanced.2)
      (books.deeper balanced.1) pending⟩
  case resume rest =>
    cases shift with | running balanced =>
    rw [resumeInside_inForce (books.inForce balanced.1)]
    exact ⟨high,_,Nat.le_refl _,.alone single queued (.running balanced.2)
      (books.resumed balanced.1) pending⟩
  case await gate rest passes =>
    cases shift with | running balanced =>
    exact ⟨high,_,Nat.le_refl _,.alone single queued (.running balanced.2) books pending⟩
  case wake rest calm =>
    cases shift with | pausing balanced =>
    exact ⟨high,_,Nat.le_refl _,.alone single queued (.running balanced) books pending⟩

theorem Moves.single (moves : Moves p w r v) (single : p.maxWorkers ≤ 1)
    (only : p.workers = [w]) : r.workers = [w] := by
  cases moves
  case submit script rest live => exact enqueued_single single only script
  case resume rest =>
    rw [resumeInside]
    split <;> exact only
  all_goals exact only

/-- A step of the pool is one of its only worker. -/
theorem Account.moves (account : Account most p outer high own) (step : p.step? = some q) :
    ∃ w r v, p.workers = [w] ∧ Moves p w r v ∧ q = { r with workers := [v] } := by
  obtain ⟨i,w,r,v,found,works,rfl⟩ := exists_work_of_step? step
  have moves := moves_of_work works
  obtain ⟨rfl,only⟩ : i = 0 ∧ p.workers = [w] := by
    have shift := account.shift
    cases workers : p.workers with
    | nil => simp [workers] at found
    | cons first others =>
      rw [workers] at shift found
      have alone : others = [] := by cases shift <;> rfl
      subst alone
      cases i with
      | zero => exact ⟨rfl,congrArg ([·]) (by simpa using found)⟩
      | succ i => simp at found
  refine ⟨w,r,v,only,moves,?_⟩
  rw [moves.single account.single only]
  rfl

theorem Account.step (account : Account most p outer high own) (step : p.step? = some q) :
    ∃ high' own', high ≤ high' ∧ Account most q outer high' own' := by
  obtain ⟨w,r,v,only,moves,rfl⟩ := account.moves step
  exact account.work only moves

/-! ## Turns -/

theorem Account.drained (account : Account most p outer high own) :
    Account most p.drained outer high own where
  paused := account.paused
  running := account.running
  reached := account.reached
  least := account.least
  limit := account.limit
  single := account.single
  queued _ member := absurd member List.not_mem_nil
  staffed waits := absurd rfl waits
  shift := account.shift
  pending := by
    have pending := account.pending
    change p.pending - p.queue.length = 0 + p.workers.countP Worker.isIn
    omega

theorem Account.retired (account : Account most p outer high own) (empty : p.queue = []) :
    Account most p.retireIdle outer high own := by
  have staff : Shift most p.retireIdle.workers own ∧
      p.retireIdle.workers.countP Worker.isIn = p.workers.countP Worker.isIn := by
    have shift := account.shift
    change Shift most (p.workers.filter (!·.isIdle)) own ∧
      (p.workers.filter (!·.isIdle)).countP Worker.isIn = p.workers.countP Worker.isIn
    generalize p.workers = workers at shift
    cases shift with
    | nobody => exact ⟨.nobody,rfl⟩
    | idle => exact ⟨.nobody,rfl⟩
    | holding balanced => exact ⟨.holding balanced,rfl⟩
    | running balanced => exact ⟨.running balanced,rfl⟩
    | pausing balanced => exact ⟨.pausing balanced,rfl⟩
  refine ⟨⟨account.paused,account.running,account.reached,account.least,account.limit⟩,
    account.single,account.queued,fun waits => absurd empty waits,staff.1,?_⟩
  rw [staff.2]
  exact account.pending

/-- The account goes on over a turn. -/
theorem Account.turn {s t : Watched} (account : Account most s.pool s.outer high own)
    (turn : Turn most s t) : ∃ high' own', high ≤ high' ∧
      Account most t.pool t.outer high' own' := by
  obtain ⟨⟨paused,running,reached,least,limit⟩,single,queued,staffed,shift,pending⟩ := id account
  cases turn with
  | submit script balanced live => exact ⟨high,own,Nat.le_refl _,account.enqueued balanced⟩
  | pause =>
    have deeper : s.pool.paused + 1 = s.outer + 1 + own.getD 0 := by omega
    exact ⟨high,own,Nat.le_refl _,⟨deeper,running,reached,least,limit⟩,single,queued,staffed,shift,
      pending⟩
  | resume inForce =>
    have less : s.pool.paused - 1 = s.outer - 1 + own.getD 0 := by omega
    exact ⟨high,own,Nat.le_refl _,⟨less,running,reached,least,limit⟩,single,queued,staffed,shift,
      pending⟩
  | clear => exact ⟨high,own,Nat.le_refl _,account.drained⟩
  | stop =>
    have drained := account.drained
    exact ⟨high,own,Nat.le_refl _,⟨drained.paused,drained.running,reached,least,limit⟩,single,
      drained.queued,drained.staffed,drained.shift,drained.pending⟩
  | openGate gate =>
    exact ⟨high,own,Nat.le_refl _,⟨paused,running,reached,least,limit⟩,single,queued,staffed,shift,
      pending⟩
  | retire empty => exact ⟨high,own,Nat.le_refl _,account.retired empty⟩
  | step step => exact account.step step

theorem Account.comes {s t : Watched} (account : Account most s.pool s.outer high own)
    (comes : Comes most s t) : ∃ high' own', high ≤ high' ∧
      Account most t.pool t.outer high' own' := by
  induction comes with
  | refl => exact ⟨high,own,Nat.le_refl _,account⟩
  | tail _ turn ih =>
    obtain ⟨mid,own,grown,account⟩ := ih
    obtain ⟨high',own',further,account⟩ := account.turn turn
    exact ⟨high',own',Nat.le_trans grown further,account⟩

theorem settle_comes (p : Pool) (outer : Nat) : Comes most ⟨p,outer⟩ ⟨p.settle,outer⟩ :=
  stepWithin_induction (motive := fun q => Comes most ⟨p,outer⟩ ⟨q,outer⟩) .refl
    (fun _ _ came step => came.tail (.step step)) _

theorem schedule_comes (balanced : Balanced most script 0) (accepted : p.schedule script = .ok q)
    (outer : Nat) : Comes most ⟨p,outer⟩ ⟨q,outer⟩ := by
  rw [schedule] at accepted
  cases stopped : p.stopped with
  | true =>
    rw [submit_stopped stopped] at accepted
    cases accepted
  | false =>
    rw [submit_live stopped] at accepted
    cases accepted
    exact .head (.submit script balanced stopped) (settle_comes _ outer)

theorem pause_comes (p : Pool) (outer : Nat) : Comes most ⟨p,outer⟩ ⟨p.pause,outer + 1⟩ :=
  .head .pause (settle_comes ..)

theorem resume_comes (inForce : 0 < p.paused) (outer : Nat) :
    Comes most ⟨p,outer + 1⟩ ⟨p.resume,outer⟩ := by
  rw [resume,if_neg (Nat.ne_of_gt inForce)]
  exact .head (.resume (Nat.succ_pos _)) (settle_comes ..)

theorem openGate_comes (p : Pool) (gate : String) (outer : Nat) :
    Comes most ⟨p,outer⟩ ⟨p.openGate gate,outer⟩ := .head (.openGate gate) (settle_comes ..)

/-! ## Nests -/

/-- A task that pauses so many times and then resumes as often. -/
def nest (d : Nat) (rest : List Action) : List Action :=
  List.replicate d .pause ++ (List.replicate d .resume ++ rest)

theorem stepWithin_pauses {d : Nat} (only : p.workers = [.running (List.replicate d .pause ++ rest)])
    (executes : p.running ≤ 1) : stepWithin (2 * d) p = { p with
      paused := p.paused + d, running := p.running - d, workers := [.running rest] } := by
  induction d generalizing p with
  | zero =>
    have same : p.workers = [.running rest] := only
    rw [← same]
    rfl
  | succ d ih =>
    have pauses : p.work (.running (.pause :: (List.replicate d .pause ++ rest))) =
        some (p.pauseInside,.pausing (List.replicate d .pause ++ rest)) := rfl
    have first := step?_of_work only pauses rfl
    have calm : p.running - 1 = 0 := by omega
    have spare : p.running - 1 ≤ 1 := by omega
    have wakes := step?_of_work (p := { p.pauseInside with
      workers := [.pausing (List.replicate d .pause ++ rest)] }) rfl (if_pos (.inl calm)) rfl
    rw [Nat.mul_succ,stepWithin_step first,stepWithin_step wakes,ih rfl spare]
    simp only [pauseInside,Nat.add_assoc,Nat.sub_sub,Nat.add_comm 1]

theorem stepWithin_resumes {d : Nat}
    (only : p.workers = [.running (List.replicate d .resume ++ rest)]) (deep : d ≤ p.paused) :
    stepWithin d p = { p with
      paused := p.paused - d, running := p.running + d, workers := [.running rest] } := by
  induction d generalizing p with
  | zero =>
    have same : p.workers = [.running rest] := only
    rw [← same]
    rfl
  | succ d ih =>
    have resumes : p.work (.running (.resume :: (List.replicate d .resume ++ rest))) =
        some ({ p with paused := p.paused - 1, running := p.running + 1 },
          .running (List.replicate d .resume ++ rest)) := by
      rw [work,resumeInside_inForce (by omega)]
    have left : d ≤ p.paused - 1 := by omega
    rw [stepWithin_step (step?_of_work only resumes rfl),ih rfl left]
    simp only [Nat.add_assoc,Nat.sub_sub,Nat.add_comm 1]

/-- A task that is executing and nests its pauses: nothing is left of the pauses, but the count is
what the nest was deep. -/
theorem stepWithin_nest {d : Nat} (only : p.workers = [.running (nest d rest)])
    (executes : p.running = 1) : stepWithin (3 * d) p =
      { p with running := max d 1, workers := [.running rest] } := by
  have split : 3 * d = 2 * d + d := by omega
  rw [split,stepWithin_add,stepWithin_pauses only (Nat.le_of_eq executes),
    stepWithin_resumes rfl (Nat.le_add_left ..)]
  have count : 1 - d + d = max d 1 := by omega
  simp only [executes,count,Nat.add_sub_cancel]

/-! ## Rest -/

theorem Moves.stopped (moves : Moves p w r v) : r.stopped = p.stopped := by
  cases moves
  case resume rest =>
    rw [resumeInside]
    split <;> rfl
  all_goals rfl

theorem stopped_of_step? (step : p.step? = some q) : q.stopped = p.stopped := by
  obtain ⟨i,w,r,v,_,works,rfl⟩ := exists_work_of_step? step
  exact (moves_of_work works).stopped

/-- A task of the pool waits at a gate that is closed. -/
def AtGate (p : Pool) : Prop := ∃ gate rest, p.workers = [.running (.await gate :: rest)] ∧
  p.openGates.contains gate = false

/-- Where nothing more can run, nothing executes but a task at a gate. -/
theorem Account.rests (account : Account 1 p outer high own) (quiet : p.step? = none) :
    AtGate p ∨ p.running = 0 ∧ ∀ w ∈ p.workers, w.isBusy = false := by
  have one : high = 1 := Nat.le_antisymm account.limit account.least
  subst one
  have shift := account.shift
  have stuck := step?_eq_none.mp quiet
  have running := account.running
  cases workers : p.workers with
  | nil =>
    rw [workers] at shift
    cases shift
    exact .inr ⟨running,fun _ member => absurd member List.not_mem_nil⟩
  | cons w others =>
    have stuck := stuck w (workers ▸ List.mem_cons_self)
    rw [workers] at shift
    cases shift with
    | idle => exact .inr ⟨running,by simp [Worker.isBusy]⟩
    | holding => exact .inr ⟨running,by simp [Worker.isBusy]⟩
    | @running rest own =>
      cases rest with
      | nil => cases stuck
      | cons action rest =>
        cases action with
        | await gate =>
          refine .inl ⟨gate,rest,workers,Bool.eq_false_iff.mpr fun passes => ?_⟩
          rw [Pool.work,if_pos passes] at stuck
          cases stuck
        | _ => cases stuck
    | @pausing rest own =>
      have calm : p.running = 0 := running.trans (Nat.sub_eq_zero_of_le (Nat.le_add_left ..))
      rw [Pool.work,if_pos (.inl calm)] at stuck
      cases stuck

/-- A pool that has nothing left to do. -/
structure Done (p : Pool) : Prop where
  queue : p.queue = []
  pending : p.pending = 0
  running : p.running = 0
  paused : p.paused = 0
  workers : ∀ w ∈ p.workers, w = .idle

/-- Where nothing more can run, and nothing is paused from outside, only a task at a gate is left over. -/
theorem Account.done (account : Account 1 p 0 high own) (quiet : p.step? = none) :
    AtGate p ∨ Done p := by
  refine (account.rests quiet).imp id fun ⟨running,free⟩ => ?_
  have shift := account.shift
  have stuck := step?_eq_none.mp quiet
  have pending := account.pending
  have staffed := account.staffed
  have paused := account.paused
  cases workers : p.workers with
  | nil =>
    have empty : p.queue = [] := by
      by_contra waits
      exact staffed waits workers
    rw [workers] at shift
    cases shift
    rw [empty,workers] at pending
    exact ⟨empty,pending,running,paused,by simp [workers]⟩
  | cons w others =>
    have stuck := stuck w (workers ▸ List.mem_cons_self)
    have free := free w (workers ▸ List.mem_cons_self)
    rw [workers] at shift pending
    cases shift with
    | idle =>
      cases queue : p.queue with
      | nil =>
        rw [queue] at pending
        exact ⟨queue,pending,running,paused,by simp [workers]⟩
      | cons job jobs => simp [Pool.work,queue] at stuck
    | holding =>
      have unpaused : p.paused = 0 := paused
      simp only [Pool.work,if_pos unpaused] at stuck
      split at stuck <;> cases stuck
    | running => cases free
    | pausing => cases free

def Worker.isDue (epoch : Nat) : Worker → Bool
  | .idle => false
  | .holding job => job.epoch == epoch
  | _ => true

/-- How many tasks were executed, or will be unless they are given up. -/
def owed (p : Pool) : Nat :=
  p.completed + p.panicked + (p.queue.length + p.workers.countP (Worker.isDue p.epoch))

/-- A pool that is not stopped gives up nothing by itself. -/
theorem Account.owed_step (account : Account most p outer high own) (live : p.stopped = false)
    (step : p.step? = some q) : p.owed ≤ q.owed := by
  obtain ⟨w,r,v,only,moves,rfl⟩ := account.moves step
  have queued := account.queued
  have single := account.single
  have before : p.owed = p.completed + p.panicked +
      (p.queue.length + (Worker.isDue p.epoch w).toNat) := by
    rw [owed,only]
    cases due : w.isDue p.epoch <;> simp [due]
  have later : owed { r with workers := [v] } = r.completed + r.panicked +
      (r.queue.length + (Worker.isDue r.epoch v).toNat) := by
    rw [owed]
    cases due : v.isDue r.epoch <;> simp [due]
  rw [before,later]
  cases moves
  case take job queue waits =>
    have current : job.epoch = p.epoch := (queued job (waits ▸ List.mem_cons_self)).2
    simp only [waits,List.length_cons,Worker.isDue,current,beq_self_eq_true,Bool.toNat_true,
      Bool.toNat_false]
    omega
  case drop job stale =>
    have old : job.epoch ≠ p.epoch := stale.resolve_left (by simp [live])
    have none : (job.epoch == p.epoch) = false := beq_eq_false_iff_ne.mpr old
    simp [Worker.isDue,none]
  case begin job _ current _ => simp [Worker.isDue,current]
  case complete =>
    change p.completed + p.panicked + (p.queue.length + 1) ≤
      p.completed + 1 + p.panicked + p.queue.length
    omega
  case panic rest =>
    change p.completed + p.panicked + (p.queue.length + 1) ≤
      p.completed + (p.panicked + 1) + p.queue.length
    omega
  case submit script rest _ =>
    have longer : p.queue.length ≤ (p.enqueued script).queue.length := by simp [Pool.enqueued]
    exact Nat.add_le_add_left (Nat.add_le_add_right longer 1) _
  case resume rest =>
    rw [resumeInside]
    split <;> exact Nat.le_refl _
  all_goals exact Nat.le_refl _

theorem Account.owed_settle (account : Account most p outer high own) (live : p.stopped = false) :
    p.owed ≤ p.settle.owed := by
  have kept : (∃ high own, Account most p.settle outer high own) ∧ p.settle.stopped = false ∧
      p.owed ≤ p.settle.owed := by
    refine stepWithin_induction (motive := fun q => (∃ high own, Account most q outer high own) ∧
      q.stopped = false ∧ p.owed ≤ q.owed) ⟨⟨high,own,account⟩,live,Nat.le_refl _⟩ ?_ _
    rintro q r ⟨⟨high,own,account⟩,live,grown⟩ step
    obtain ⟨high',own',_,next⟩ := account.step step
    exact ⟨⟨high',own',next⟩,(stopped_of_step? step).trans live,
      Nat.le_trans grown (account.owed_step live step)⟩
  exact kept.2.2

theorem Done.owed (done : Done p) : p.owed = p.completed + p.panicked := by
  have none : p.workers.countP (Worker.isDue p.epoch) = 0 := by
    refine List.countP_eq_zero.mpr fun w member => ?_
    rw [done.workers w member]
    exact Bool.false_ne_true
  rw [Pool.owed,done.queue,none]
  rfl

/-- What a nest has added to the count keeps every pause waiting, from then on and for as long as the pool
lives. -/
theorem Account.leaks {s t : Watched} (account : Account most s.pool s.outer high none)
    (left : 0 < s.pool.running) (comes : Comes most s t) (live : t.pool.stopped = false)
    (free : ∀ w ∈ t.pool.workers, w.isBusy = false) : t.pool.canPause = false := by
  obtain ⟨high',own,grown,later⟩ := account.comes comes
  obtain rfl := later.shift.free free
  have running : s.pool.running = high - 1 := account.running
  have still : t.pool.running = high' - 1 := later.running
  have some : t.pool.running ≠ 0 := by omega
  simp [canPause,live,some]

/-! ## What tasks leave -/

/-- What pauses of tasks come to in a pool that is watched, where no task pauses while it is in a pause of
its own. -/
structure Neutral (s : Watched) : Prop where
  /-- Between tasks nothing is left of what they paused and resumed. -/
  between : (∀ w ∈ s.pool.workers, w.isBusy = false) →
    s.pool.paused = s.outer ∧ s.pool.running = 0
  /-- A task executes, or it is in a pause of its own. -/
  inside : ∀ rest, s.pool.workers = [.running rest] ∨ s.pool.workers = [.pausing rest] →
    ∃ own ≤ 1, s.pool.paused = s.outer + own ∧ s.pool.running = 1 - own
  /-- A task that executes may pause so many times and resume as often: what is paused then is what was
  paused before, and without a nest the pool is what it was. -/
  nested : ∀ rest, s.pool.workers = [.running rest] → s.pool.running = 1 → ∀ d,
    let q := stepWithin (3 * d) { s.pool with workers := [.running (nest d rest)] }
    q.workers = [.running rest] ∧ q.paused = s.pool.paused ∧ (d ≤ 1 → q = s.pool)
  finished : s.pool.workers = [.running []] → ∃ q, s.pool.step? = some q ∧
    q.workers = [.idle] ∧ q.paused = s.outer ∧ q.running = 0
  /-- A pause from outside waits for a task that executes, and for nothing else. -/
  waits : s.pool.canPause = true ∨ ∃ rest, s.pool.workers = [.running rest] ∧ s.pool.running = 1
  returns : AtGate s.pool.pause ∨ s.pool.pause.canPause = true
  /-- While nothing is paused from outside, every task that was accepted and not given up is executed,
  unless one waits at a gate. -/
  goesOn : s.outer = 0 → s.pool.stopped = false → AtGate s.pool.settle ∨ Done s.pool.settle ∧
    s.pool.owed ≤ s.pool.settle.completed + s.pool.settle.panicked

theorem Account.neutral {s : Watched} (account : Account 1 s.pool s.outer high own) :
    Neutral s := by
  have one : high = 1 := Nat.le_antisymm account.limit account.least
  subst one
  have shift := account.shift
  have paused := account.paused
  have running := account.running
  constructor
  case between =>
    intro free
    obtain rfl := shift.free free
    exact ⟨paused,running⟩
  case inside =>
    intro rest busy
    rcases busy with only | only
    all_goals
      rw [only] at shift
      cases shift
      exact ⟨_,account.reached,paused,running⟩
  case nested =>
    intro rest only executes d
    have nests := stepWithin_nest (p := { s.pool with workers := [.running (nest d rest)] }) rfl
      executes
    rw [nests]
    refine ⟨rfl,rfl,fun shallow => ?_⟩
    have count : max d 1 = s.pool.running := by omega
    rw [count,← only]
  case finished =>
    intro only
    rw [only] at shift
    cases shift with | running balanced =>
    cases balanced
    refine ⟨_,step?_of_work only rfl rfl,rfl,paused,?_⟩
    exact congrArg (· - 1) running
  case waits =>
    by_cases calm : s.pool.running = 0
    · exact .inl (by simp [canPause,calm])
    obtain rfl : own = some 0 := by
      cases own with
      | none => exact absurd running calm
      | some own =>
        have running : s.pool.running = 1 - own := running
        exact congrArg some (by omega)
    obtain ⟨rest,only⟩ := shift.executing
    exact .inr ⟨rest,only,running⟩
  case returns =>
    obtain ⟨high,own,_,paused⟩ := account.comes (pause_comes s.pool s.outer)
    refine (paused.rests (settle_rests _)).imp id fun ⟨calm,_⟩ => ?_
    exact Bool.or_eq_true_iff.mpr (.inl (beq_iff_eq.mpr calm))
  case goesOn =>
    intro free live
    obtain ⟨high,own,_,settled⟩ := account.comes (settle_comes s.pool s.outer)
    rw [free] at settled
    refine (settled.done s.pool.settle_rests).imp id fun done => ⟨done,?_⟩
    rw [← done.owed]
    exact account.owed_settle live

/-- In a pool with one worker, whatever happens to it, a task that pauses and resumes leaves the pauses
and the count of what executes as they were, as long as no task pauses within a pause of its own. -/
theorem pauses_neutral (name : String) {maxWorkers : Nat} (one : maxWorkers ≤ 1)
    (idleTimeout : Nat) {s : Watched} (comes : Comes 1 ⟨start name maxWorkers idleTimeout,0⟩ s) :
    Neutral s := by
  obtain ⟨high,own,_,account⟩ := (start_account 1 name one idleTimeout).comes comes
  exact account.neutral

/-- A task waits at a gate in its own pause. A pause from outside returns meanwhile, and once the gate is
open and both pauses are over the pool goes on. -/
theorem pauses_neutral_gate : 1 ≤ 1 ∧
    ∃ p, (start "pool" 1 0).schedule [.pause,.await "gate",.resume,.note "a"] = .ok p ∧
      p.paused = 1 ∧ p.pause.canPause = true ∧
      let s : Watched := ⟨(p.pause.openGate "gate").resume,0⟩
      Comes 1 ⟨start "pool" 1 0,0⟩ s ∧ Neutral s ∧ s.pool.notes = ["a"] := by
  let script : List Action := [.pause,.await "gate",.resume,.note "a"]
  let p := ((start "pool" 1 0).enqueued script).settle
  have accepted : (start "pool" 1 0).schedule script = .ok p := rfl
  have balanced : Balanced 1 script 0 := by simp [script,Balanced,Action.Fair]
  have paused : Comes 1 ⟨start "pool" 1 0,0⟩ ⟨p.pause,1⟩ :=
    (schedule_comes balanced accepted 0).trans (pause_comes p 0)
  have inForce : 0 < (p.pause.openGate "gate").paused := by decide +kernel
  have comes := (paused.trans (openGate_comes p.pause "gate" 1)).trans (resume_comes inForce 0)
  have notes : (p.pause.openGate "gate").resume.notes = ["a"] := by decide +kernel
  exact ⟨Nat.le_refl 1,p,accepted,rfl,by decide +kernel,comes,
    pauses_neutral "pool" (Nat.le_refl 1) 0 comes,notes⟩

/-- A later pause has to wait for a task that executes, and after a nest two deep it waits for one that is
long over. -/
theorem later_pause_waits :
    (∃ p q, (start "pool" 1 0).schedule (nest 1 [.note "a"]) = .ok p ∧
      p.paused = 0 ∧ p.running = 0 ∧ p.schedule [.await "gate"] = .ok q ∧
      q.pause.canPause = false) ∧
    ∃ p, (start "pool" 1 0).schedule (nest 2 []) = .ok p ∧
      p.pending = 0 ∧ p.paused = 0 ∧ p.running = 1 ∧
      ∀ s, Comes 2 ⟨p,0⟩ s → s.pool.stopped = false →
        (∀ w ∈ s.pool.workers, w.isBusy = false) → s.pool.canPause = false := by
  constructor
  · let p := ((start "pool" 1 0).enqueued (nest 1 [.note "a"])).settle
    exact ⟨p,(p.enqueued [.await "gate"]).settle,rfl,by decide +kernel,by decide +kernel,rfl,
      by decide +kernel⟩
  · let p := ((start "pool" 1 0).enqueued (nest 2 [])).settle
    have accepted : (start "pool" 1 0).schedule (nest 2 []) = .ok p := rfl
    have balanced : Balanced 2 (nest 2 []) 0 := by
      simp [nest,List.replicate,Balanced]
    have running : p.running = 1 := by decide +kernel
    refine ⟨p,accepted,by decide +kernel,by decide +kernel,running,fun s comes live free => ?_⟩
    obtain ⟨high,own,_,account⟩ := (start_account 2 "pool" (Nat.le_refl 1) 0).comes
      (s := ⟨_,0⟩) (t := ⟨p,0⟩) (schedule_comes balanced accepted 0)
    have idle : ∀ w ∈ p.workers, w.isBusy = false := by decide +kernel
    obtain rfl := account.shift.free idle
    exact account.leaks (Nat.lt_of_lt_of_eq Nat.zero_lt_one running.symm) comes live free

end Vicinity.Pool
