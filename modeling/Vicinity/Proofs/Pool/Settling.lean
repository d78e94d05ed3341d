import Mathlib.Data.List.Basic
import Vicinity.Pool

/-! How a pool goes on. A step is that of one of its workers and makes what is left to do smaller, so
every pool comes to rest, and where it does is the same from each step on the way. -/
namespace Vicinity.Pool

variable {p q r : Pool} {w v : Worker} {script : List Action}

/-! ## One step -/

theorem stepAt_eq_some {i : Nat} : p.stepAt i = some q ↔ ∃ w r v, p.workers[i]? = some w ∧
    p.work w = some (r,v) ∧ { r with workers := r.workers.set i v } = q := by
  simp [stepAt,Option.bind_eq_some_iff]

theorem exists_stepAt_of_stepAmong {sort : Worker → Bool} (step : p.stepAmong sort = some q) :
    ∃ i, p.stepAt i = some q := by
  obtain ⟨i,_,found⟩ := List.exists_of_findSome?_eq_some step
  split at found
  · exact ⟨i,found⟩
  · cases found

/-- A step is that of one worker. -/
theorem exists_work_of_step? (step : p.step? = some q) : ∃ i w r v, p.workers[i]? = some w ∧
    p.work w = some (r,v) ∧ { r with workers := r.workers.set i v } = q := by
  simp only [step?,Option.orElse_eq_orElse,Option.orElse_eq_or,Option.or_eq_some_iff] at step
  obtain busy | ⟨_,holding | ⟨_,idle⟩⟩ := step
  · exact (exists_stepAt_of_stepAmong busy).imp fun _ => stepAt_eq_some.mp
  · exact (exists_stepAt_of_stepAmong holding).imp fun _ => stepAt_eq_some.mp
  · exact (exists_stepAt_of_stepAmong idle).imp fun _ => stepAt_eq_some.mp

theorem stepAmong_eq_none {sort : Worker → Bool} :
    p.stepAmong sort = none ↔ ∀ w ∈ p.workers, sort w = true → p.work w = none := by
  rw [stepAmong,List.findSome?_eq_none_iff]
  constructor
  · intro none w member sorted
    obtain ⟨i,bound,rfl⟩ := List.mem_iff_getElem.mp member
    have at_i := none i (List.mem_range.mpr bound)
    have found : p.workers[i]? = some p.workers[i] := List.getElem?_eq_getElem bound
    rw [found,Option.any_some,if_pos sorted,stepAt,found] at at_i
    cases works : p.work p.workers[i] with
    | none => rfl
    | some result => simp [works] at at_i
  · intro none i bound
    have found : p.workers[i]? = some _ := List.getElem?_eq_getElem (List.mem_range.mp bound)
    rw [found,Option.any_some]
    split
    next sorted => simp [stepAt,found,none _ (List.getElem_mem _) sorted]
    next => rfl

/-- Nothing more can run if no worker can go on. -/
theorem step?_eq_none : p.step? = none ↔ ∀ w ∈ p.workers, p.work w = none := by
  simp only [step?,Option.orElse_eq_orElse,Option.orElse_eq_or,Option.or_eq_none_iff,
    stepAmong_eq_none]
  constructor
  · rintro ⟨busy,holding,idle⟩ w member
    cases w with
    | idle => exact idle _ member rfl
    | holding job => exact holding _ member rfl
    | running rest => exact busy _ member rfl
    | pausing rest => exact busy _ member rfl
  · intro none
    exact ⟨fun w member _ => none w member,fun w member _ => none w member,
      fun w member _ => none w member⟩

/-- Whether a worker can go on does not depend on the others. -/
theorem work_eq_none_with (workers : List Worker) :
    { p with workers := workers }.work w = none ↔ p.work w = none := by
  cases w with
  | idle => cases waits : p.queue <;> simp [work,waits]
  | holding job =>
    simp only [work]
    split
    · simp
    · split <;> simp
  | running rest =>
    cases rest with
    | nil => simp [work]
    | cons action rest =>
      cases action
      case await gate =>
        simp only [work]
        split <;> simp
      all_goals simp [work]
  | pausing rest =>
    simp only [work]
    split <;> simp

/-- The only worker takes every step. -/
theorem step?_of_work (only : p.workers = [w]) (works : p.work w = some (r,v))
    (kept : r.workers = p.workers) : p.step? = some { r with workers := [v] } := by
  cases step : p.step? with
  | none =>
    rw [step?_eq_none.mp step w (only ▸ List.mem_singleton.mpr rfl)] at works
    cases works
  | some q =>
    obtain ⟨i,u,r',v',found,worked,rfl⟩ := exists_work_of_step? step
    obtain ⟨rfl,rfl⟩ : i = 0 ∧ w = u := by
      cases i with
      | zero => exact ⟨rfl,by simpa [only] using found⟩
      | succ i => simp [only] at found
    obtain ⟨rfl,rfl⟩ := Prod.mk.inj (Option.some.inj (works.symm.trans worked))
    rw [kept,only]
    rfl

/-! ## What is left to do -/

def load (queue : List Job) : Nat := queue.foldr (fun job n => job.size + n) 0

def effort (workers : List Worker) : Nat := workers.foldr (fun w n => w.size + n) 0

theorem size_eq (p : Pool) : p.size = load p.queue + effort p.workers := rfl

theorem load_append (jobs : List Job) (job : Job) : load (jobs ++ [job]) = load jobs + job.size := by
  induction jobs with
  | nil => exact Nat.add_comm ..
  | cons first jobs ih =>
    simp only [load,List.cons_append,List.foldr_cons] at *
    omega

theorem effort_hired (workers : List Worker) : effort (workers ++ [.idle]) = effort workers := by
  simp [effort,Worker.size]

theorem effort_set {workers : List Worker} {i : Nat} (found : workers[i]? = some w) (v : Worker) :
    effort (workers.set i v) + w.size = effort workers + v.size := by
  induction workers generalizing i with
  | nil => simp at found
  | cons first workers ih =>
    cases i with
    | zero =>
      obtain rfl : first = w := by simpa using found
      simp only [effort,List.set_cons_zero,List.foldr_cons]
      omega
    | succ i =>
      have rest := ih (by simpa using found)
      simp only [effort,List.set_cons_succ,List.foldr_cons] at *
      omega

/-- The pool with one more task in its queue. -/
def enqueued (p : Pool) (script : List Action) : Pool := { p with
  queue := p.queue ++ [⟨p.epoch,script⟩]
  pending := p.pending + 1
  workers := if p.live < max p.maxWorkers 1 ∧ p.idle ≤ p.queue.length
    then p.workers ++ [.idle] else p.workers }

theorem enqueued_workers (p : Pool) (script : List Action) :
    (p.enqueued script).workers = p.workers ∨
      (p.enqueued script).workers = p.workers ++ [.idle] := by
  rw [enqueued]
  split
  · exact .inr rfl
  · exact .inl rfl

theorem submit_stopped (stopped : p.stopped = true) (script : List Action) :
    p.submit script = .error (.stopped p.name) := if_pos stopped

theorem submit_live (live : p.stopped = false) (script : List Action) :
    p.submit script = .ok (p.enqueued script) := if_neg (Bool.eq_false_iff.mp live)

/-- Who moves how, and what of the pool changes with it. -/
inductive Moves (p : Pool) : Worker → Pool → Worker → Prop where
  | take (job : Job) (queue : List Job) (waits : p.queue = job :: queue) :
    Moves p .idle { p with queue := queue } (.holding job)
  | drop (job : Job) (stale : p.stopped = true ∨ job.epoch ≠ p.epoch) :
    Moves p (.holding job) { p with pending := p.pending - 1 } .idle
  | begin (job : Job) (live : p.stopped = false) (current : job.epoch = p.epoch)
    (free : p.paused = 0) :
    Moves p (.holding job) { p with running := p.running + 1 } (.running job.script)
  | complete : Moves p (.running []) { p.finish with completed := p.completed + 1 } .idle
  | panic (rest : List Action) :
    Moves p (.running (.panic :: rest)) { p.finish with panicked := p.panicked + 1 } .idle
  | note (label : String) (rest : List Action) :
    Moves p (.running (.note label :: rest)) { p with notes := p.notes ++ [label] } (.running rest)
  | submit (script rest : List Action) (live : p.stopped = false) :
    Moves p (.running (.submit script :: rest)) (p.enqueued script) (.running rest)
  | rejected (script rest : List Action) (stopped : p.stopped = true) :
    Moves p (.running (.submit script :: rest)) p (.running rest)
  | pause (rest : List Action) :
    Moves p (.running (.pause :: rest)) p.pauseInside (.pausing rest)
  | resume (rest : List Action) :
    Moves p (.running (.resume :: rest)) p.resumeInside (.running rest)
  | await (gate : String) (rest : List Action) (passes : p.openGates.contains gate = true) :
    Moves p (.running (.await gate :: rest)) p (.running rest)
  | wake (rest : List Action) (calm : p.running = 0 ∨ p.stopped = true) :
    Moves p (.pausing rest) p (.running rest)

theorem moves_of_work (works : p.work w = some (r,v)) : Moves p w r v := by
  cases w with
  | idle =>
    rw [work] at works
    split at works
    · cases works
    next job queue waits => cases works; exact .take job queue waits
  | holding job =>
    rw [work] at works
    split at works
    next stale => cases works; exact .drop job stale
    next fresh =>
      obtain ⟨live,current⟩ := not_or.mp fresh
      split at works
      next free =>
        cases works
        exact .begin job (Bool.eq_false_iff.mpr live) (not_not.mp current) free
      · cases works
  | running rest =>
    cases rest with
    | nil => cases works; exact .complete
    | cons action rest =>
      cases action with
      | note label => cases works; exact .note label rest
      | submit script =>
        cases works
        cases stopped : p.stopped with
        | true => rw [submit_stopped stopped]; exact .rejected script rest stopped
        | false => rw [submit_live stopped]; exact .submit script rest stopped
      | pause => cases works; exact .pause rest
      | resume => cases works; exact .resume rest
      | panic => cases works; exact .panic rest
      | await gate =>
        rw [work] at works
        split at works
        next passes => cases works; exact .await gate rest passes
        · cases works
  | pausing rest =>
    rw [work] at works
    split at works
    next calm => cases works; exact .wake rest calm
    · cases works

/-- Others may be hired meanwhile, and that is all that happens to them. -/
theorem Moves.workers (moves : Moves p w r v) :
    r.workers = p.workers ∨ r.workers = p.workers ++ [.idle] := by
  cases moves
  case submit script rest live => exact p.enqueued_workers script
  case resume =>
    rw [resumeInside]
    split <;> exact .inl rfl
  all_goals exact .inl rfl

/-- What a worker puts down, and what it leaves in the queue, is less than what was there. -/
theorem Moves.size (moves : Moves p w r v) : load r.queue + v.size < load p.queue + w.size := by
  cases moves
  case take job queue waits =>
    simp only [waits,load,List.foldr_cons,Worker.size,Job.size]
    omega
  case submit script rest live =>
    simp only [enqueued,load_append,Worker.size,Job.size,scriptSize,Action.size]
    omega
  case resume rest =>
    rw [resumeInside]
    split <;> simp only [Worker.size,scriptSize,Action.size] <;> omega
  all_goals
    simp only [Worker.size,scriptSize,Action.size,finish,pauseInside]
    omega

theorem size_of_step? (step : p.step? = some q) : q.size < p.size := by
  obtain ⟨i,w,r,v,found,works,rfl⟩ := exists_work_of_step? step
  have moves := moves_of_work works
  have less := moves.size
  have bound := (List.getElem?_eq_some_iff.mp found).1
  have change := effort_set found v
  have workers : effort (r.workers.set i v) = effort (p.workers.set i v) := by
    rcases moves.workers with same | hired
    · rw [same]
    · rw [hired,List.set_append_left _ _ bound,effort_hired]
  simp only [size_eq,workers]
  omega

/-! ## Coming to rest -/

theorem stepWithin_quiet (quiet : p.step? = none) (n : Nat) : stepWithin n p = p := by
  cases n with
  | zero => rfl
  | succ n => rw [stepWithin,quiet]

theorem stepWithin_step (step : p.step? = some q) (n : Nat) :
    stepWithin (n + 1) p = stepWithin n q := by
  rw [stepWithin,step]

theorem stepWithin_add (m n : Nat) (p : Pool) :
    stepWithin (m + n) p = stepWithin n (stepWithin m p) := by
  induction m generalizing p with
  | zero => rw [Nat.zero_add]; rfl
  | succ m ih =>
    rw [Nat.add_right_comm]
    cases step : p.step? with
    | none => simp only [stepWithin_quiet step]
    | some q => rw [stepWithin_step step,stepWithin_step step,ih]

theorem stepWithin_rests {n : Nat} (enough : p.size ≤ n) : (stepWithin n p).step? = none := by
  induction n generalizing p with
  | zero =>
    cases step : p.step? with
    | none => exact step
    | some q =>
      have less := size_of_step? step
      omega
  | succ n ih =>
    cases step : p.step? with
    | none => rw [stepWithin_quiet step,step]
    | some q =>
      have less := size_of_step? step
      rw [stepWithin_step step]
      exact ih (by omega)

theorem settle_rests (p : Pool) : p.settle.step? = none := stepWithin_rests (Nat.le_refl _)

theorem settle_quiet (quiet : p.step? = none) : p.settle = p := stepWithin_quiet quiet _

/-- More steps than there is work change nothing. -/
theorem stepWithin_enough {n : Nat} (enough : p.size ≤ n) : stepWithin n p = p.settle := by
  obtain ⟨k,rfl⟩ := Nat.exists_eq_add_of_le enough
  rw [stepWithin_add]
  exact stepWithin_quiet p.settle_rests k

theorem settle_step (step : p.step? = some q) : p.settle = q.settle := by
  have less := size_of_step? step
  obtain ⟨n,size⟩ := Nat.exists_eq_add_one_of_ne_zero (Nat.ne_zero_of_lt less)
  rw [settle,size,stepWithin_step step]
  exact stepWithin_enough (by omega)

/-- What every step keeps, a pool at rest still has. -/
theorem stepWithin_induction {motive : Pool → Prop} (holds : motive p)
    (step : ∀ q r, motive q → q.step? = some r → motive r) (n : Nat) :
    motive (stepWithin n p) := by
  induction n generalizing p with
  | zero => exact holds
  | succ n ih =>
    cases next : p.step? with
    | none => rwa [stepWithin_quiet next]
    | some q =>
      rw [stepWithin_step next]
      exact ih (step p q holds next)

end Vicinity.Pool
