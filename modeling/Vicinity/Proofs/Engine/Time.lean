import Vicinity.Engine.Operation
import Vicinity.Proofs.Engine.Tasks
import Vicinity.Proofs.Timers

/-! What happens when time passes. The timers hand out deferred tasks; what these evaluate does not
depend on the timers, so the table can be brought up to date before any of them is carried out. -/
namespace Vicinity.Engine

variable {e f g : Engine}

/-- A node with other timers. -/
def withTimers (e : Engine) (t : Timers TimerKey Deferred) : Engine := { e with timers := t }

/-- Whether time passes with an operation. -/
def Operation.passesTime : Operation → Bool
  | .elapse _ | .expire _ | .expireDepartures => true
  | _ => false

/-- The facts of a deferred task. -/
def Deferred.facts : Deferred → List Fact
  | .departure entity => [.left entity]
  | .query .. => []

/-- The answer to the open question: who replied, and the remembered beacons that are close. -/
def found (e : Engine) (within : Distance) : List Entity :=
  e.query.elim [] fun q => q.replies ++ e.cache.filter (·.distance ≤ within)

/-- What a deferred task does besides: it may close the open question. -/
def close (e : Engine) : Deferred → Engine
  | .departure _ => e
  | .query topic within => { e with
      query := none
      transport := e.query.elim e.transport fun q => e.transport.unlisten (.reply q.topic)
      completed := e.completed ++ [⟨topic,e.found within⟩] }

def closeAll (e : Engine) (ds : List Deferred) : Engine := ds.foldl close e

/-- The facts that come of deferred tasks. -/
def deferredFacts (e : Engine) (ds : List Deferred) : List Fact :=
  if e.stopped then [] else ds.flatMap Deferred.facts

theorem closeQuery_eq (e : Engine) (within : Distance) :
    e.closeQuery within = (e.found within,{ e with
      query := none
      transport := e.query.elim e.transport fun q => e.transport.unlisten (.reply q.topic) }) := by
  rw [closeQuery,found]
  cases open? : e.query with
  | none =>
    have same : { e with query := none } = e := by rw [← open?]
    exact congrArg (Prod.mk []) same.symm
  | some q => rfl

@[simp] theorem close_beside (f g : Engine) (d : Deferred) :
    (f.beside g).close d = f.beside (g.close d) := by
  cases d <;> rfl

@[simp] theorem close_stopped (e : Engine) (d : Deferred) : (e.close d).stopped = e.stopped := by
  cases d <;> rfl

@[simp] theorem close_timers (t : Timers TimerKey Deferred) (d : Deferred) :
    (e.withTimers t).close d = (e.close d).withTimers t := by
  cases d <;> rfl

theorem carryOut_eq (e : Engine) (d : Deferred) :
    e.carryOut d = (e.evaluateAll (e.deferredFacts [d])).beside (e.close d) := by
  cases d with
  | departure entity =>
    rw [carryOut,work_eq]
    rw [workFacts,deferredFacts]
    split <;> rfl
  | query topic within =>
    have silent : e.deferredFacts [.query topic within] = [] := by
      simp [deferredFacts,Deferred.facts]
    rw [carryOut,closeQuery_eq,silent]
    rfl

theorem deferredFacts_cons (e : Engine) (d : Deferred) (ds : List Deferred) :
    e.deferredFacts (d :: ds) = e.deferredFacts [d] ++ e.deferredFacts ds := by
  simp only [deferredFacts]
  split <;> simp

theorem closeAll_beside (f g : Engine) (ds : List Deferred) :
    (f.beside g).closeAll ds = f.beside (g.closeAll ds) := by
  induction ds generalizing g with
  | nil => rfl
  | cons d ds ih => exact (congrArg (·.closeAll ds) (close_beside f g d)).trans (ih _)

theorem closeAll_self (e : Engine) (ds : List Deferred) : (e.closeAll ds).self = e.self := by
  induction ds generalizing e with
  | nil => rfl
  | cons d ds ih => exact (ih _).trans (by cases d <;> rfl)

theorem closeAll_timers (t : Timers TimerKey Deferred) (ds : List Deferred) :
    (e.withTimers t).closeAll ds = (e.closeAll ds).withTimers t := by
  induction ds generalizing e with
  | nil => rfl
  | cons d ds ih => exact (congrArg (·.closeAll ds) (close_timers t d)).trans ih

theorem carryAll_eq (e : Engine) (ds : List Deferred) : ds.foldl carryOut e =
    (e.evaluateAll (e.deferredFacts ds)).beside (e.closeAll ds) := by
  induction ds generalizing e with
  | nil => simp [deferredFacts,closeAll]
  | cons d ds ih =>
    have live : (e.carryOut d).deferredFacts ds = e.deferredFacts ds := by
      have stopped : (e.carryOut d).stopped = e.stopped := by
        rw [carryOut_eq]
        exact close_stopped e d
      rw [deferredFacts,stopped,deferredFacts]
    rw [List.foldl_cons,ih,live,carryOut_eq,evaluateAll_beside,closeAll_beside,
      deferredFacts_cons e d ds,evaluateAll_append]
    rfl

/-- Deferred tasks leave the timers to whoever called them. -/
theorem carryAll_timers (e : Engine) (t : Timers TimerKey Deferred) (ds : List Deferred) :
    ds.foldl carryOut (e.withTimers t) = (ds.foldl carryOut e).withTimers t := by
  have facts : (e.withTimers t).evaluateAll (e.deferredFacts ds) =
      (e.evaluateAll (e.deferredFacts ds)).beside (e.withTimers t) :=
    evaluateAll_beside (e := e) (g := e.withTimers t) _
  rw [carryAll_eq,carryAll_eq,closeAll_timers]
  exact congrArg (·.beside ((e.closeAll ds).withTimers t)) facts

/-! ## The operations that let time pass -/

/-- The deferred tasks whose time comes with an operation, and the timers without them. -/
def released (e : Engine) : Operation → List Deferred × Timers TimerKey Deferred
  | .elapse milliseconds => e.timers.elapse milliseconds
  | .expire key => ((e.timers.expire key).1.toList,(e.timers.expire key).2)
  | .expireDepartures => e.timers.expireAll (e.departing.map TimerKey.departure)
  | _ => ([],e.timers)

theorem expire_eq (e : Engine) (key : TimerKey) : e.expire key =
    (e.timers.expire key).1.toList.foldl carryOut (e.withTimers (e.timers.expire key).2) := rfl

theorem expireEach_eq (e : Engine) (ids : List EntityId) :
    ids.foldl (fun e id => e.expire (.departure id)) e =
      (e.timers.expireAll (ids.map TimerKey.departure)).1.foldl carryOut
        (e.withTimers (e.timers.expireAll (ids.map TimerKey.departure)).2) := by
  induction ids generalizing e with
  | nil => rfl
  | cons id ids ih =>
    have timers : (e.expire (.departure id)).timers = (e.timers.expire (.departure id)).2 := by
      rw [expire_eq,carryAll_timers]
      rfl
    rw [List.foldl_cons,ih,timers]
    simp only [List.map_cons,Timers.expireAll,List.foldl_append,expire_eq,carryAll_timers]
    rfl

/-- Time passes in one way: the timers are brought up to date, then the tasks are carried out. -/
theorem apply_released {op : Operation} (passes : op.passesTime = true) :
    (e.apply op).2 = (e.released op).1.foldl carryOut (e.withTimers (e.released op).2) := by
  cases op <;> simp only [Operation.passesTime,Bool.false_eq_true] at passes
  case elapse => rfl
  case expire => rfl
  case expireDepartures => exact expireEach_eq ..

/-- Whether the time of a key comes with an operation if its deadline is known. -/
def expires (e : Engine) (op : Operation) (key : TimerKey) (deadline : Nat) : Bool :=
  match op with
  | .elapse milliseconds => deadline ≤ e.timers.now + milliseconds
  | .expire other => key == other
  | .expireDepartures => key != .query
  | _ => false

theorem passesTime_of_expires {op : Operation} {key : TimerKey} {d : Nat}
    (comes : e.expires op key d = true) : op.passesTime = true := by
  cases op <;> simp only [expires,Bool.false_eq_true] at comes <;> rfl

/-- What is released with its keys: each key once, and those whose time comes. -/
structure Due (e : Engine) (op : Operation) (due : List (TimerKey × Deferred)) : Prop where
  tasks : (e.released op).1 = due.map (·.2)
  keys : (due.map (·.1)).Nodup
  members : ∀ key task, (key,task) ∈ due ↔
    ∃ d, e.timers.waiting? key = some (d,task) ∧ e.expires op key d = true

theorem departing_eq (e : Engine) : e.departing.map TimerKey.departure =
    (e.timers.entries.map (·.1)).filter (· != .query) := by
  rw [departing]
  induction e.timers.entries with
  | nil => rfl
  | cons entry entries ih =>
    obtain ⟨key,armed⟩ := entry
    cases key with
    | departure id => simpa using ih
    | query => simpa using ih

theorem mem_departing (sound : e.timers.Sound) {key : TimerKey} {w : Nat × Deferred}
    (waits : e.timers.waiting? key = some w) :
    key ∈ e.departing.map TimerKey.departure ↔ key ≠ .query := by
  obtain ⟨n,member,_⟩ := sound.waiting?_eq_some.mp waits
  rw [departing_eq,List.mem_filter,bne_iff_ne]
  exact and_iff_right (List.mem_map.mpr ⟨_,member,rfl⟩)

theorem departing_nodup (sound : e.timers.Sound) :
    (e.departing.map TimerKey.departure).Nodup := by
  rw [departing_eq]
  exact sound.keys.filter _

theorem due_of (sound : e.timers.Sound) (op : Operation) : ∃ due, Due e op due := by
  cases op
  case elapse milliseconds =>
    refine ⟨e.timers.due milliseconds,?_,sound.due_nodup milliseconds,fun key task => ?_⟩
    · exact congrArg Prod.fst (sound.elapse_eq milliseconds)
    · simpa [expires] using sound.mem_due
  case expire key =>
    refine ⟨(e.timers.waiting? key).toList.map fun w => (key,w.2),?_,?_,fun k task => ?_⟩
    · simp only [released,sound.expire_eq]
      cases e.timers.waiting? key <;> rfl
    · cases e.timers.waiting? key <;> simp
    · simp only [expires,beq_iff_eq,List.mem_map,Option.mem_toList,Prod.mk.injEq]
      constructor
      · rintro ⟨⟨d,_⟩,waits,rfl,rfl⟩
        exact ⟨d,waits,rfl⟩
      · rintro ⟨d,waits,rfl⟩
        exact ⟨_,waits,rfl,rfl⟩
  case expireDepartures =>
    have distinct := departing_nodup sound
    refine ⟨(e.departing.map TimerKey.departure).filterMap fun key =>
      (e.timers.waiting? key).map fun w => (key,w.2),?_,?_,fun key task => ?_⟩
    · rw [released,sound.expireAll_eq distinct,List.map_filterMap]
      exact List.filterMap_congr fun key _ => by cases e.timers.waiting? key <;> rfl
    · rw [List.map_filterMap]
      apply distinct.filterMap
      intro k l key hk hl
      simp only [Option.map_map,Option.mem_def,Option.map_eq_some_iff,Function.comp_apply] at hk hl
      obtain ⟨_,_,rfl⟩ := hk
      obtain ⟨_,_,same⟩ := hl
      exact same.symm
    · simp only [expires,bne_iff_ne,List.mem_filterMap,Option.map_eq_some_iff,Prod.mk.injEq]
      constructor
      · rintro ⟨k,member,⟨d,_⟩,waits,rfl,rfl⟩
        exact ⟨d,waits,(mem_departing sound waits).mp member⟩
      · rintro ⟨d,waits,apart⟩
        exact ⟨key,(mem_departing sound waits).mpr apart,_,waits,rfl,rfl⟩
  all_goals exact ⟨[],rfl,by simp,by simp [expires]⟩

theorem released_sound (sound : e.timers.Sound) (op : Operation) : (e.released op).2.Sound := by
  cases op
  case elapse milliseconds =>
    rw [released,sound.elapse_eq]
    exact sound.later milliseconds
  case expire key =>
    rw [released,sound.expire_eq]
    exact sound.expired key
  case expireDepartures => exact sound.expireAll _
  all_goals exact sound

theorem released_stopped (sound : e.timers.Sound) (op : Operation) :
    (e.released op).2.stopped = e.timers.stopped := by
  cases op
  case elapse milliseconds => rw [released,sound.elapse_eq]; rfl
  case expire key =>
    rw [released,sound.expire_eq]
    exact Timers.expired_stopped key
  case expireDepartures => exact sound.expireAll_stopped _
  all_goals rfl

/-- What is not released goes on waiting, until the same deadline. -/
theorem waiting?_released (sound : e.timers.Sound) (op : Operation) (key : TimerKey) :
    (e.released op).2.waiting? key =
      (e.timers.waiting? key).filter fun w => !e.expires op key w.1 := by
  cases op
  case elapse milliseconds =>
    rw [released,sound.elapse_eq]
    dsimp only
    rw [sound.waiting?_later]
    refine congrArg (Option.filter · _) (funext fun w => ?_)
    simp [expires,← decide_not]
  case expire other =>
    rw [released,sound.expire_eq]
    dsimp only
    rw [sound.waiting?_expired]
    by_cases same : key == other <;> cases e.timers.waiting? key <;>
      simp [expires,same,Option.filter_some]
  case expireDepartures =>
    rw [released,sound.waiting?_expireAll]
    cases waits : e.timers.waiting? key with
    | none => simp
    | some w =>
      have listed : (e.departing.map TimerKey.departure).contains key = (key != .query) := by
        rw [Bool.eq_iff_iff,List.contains_iff_mem,bne_iff_ne]
        exact mem_departing sound waits
      rw [listed]
      cases key <;> simp [expires,Option.filter_some]
  all_goals cases waits : e.timers.waiting? key <;>
    simp [released,expires,Option.filter_some,waits]

end Vicinity.Engine
