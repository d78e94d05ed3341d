import Vicinity.Proofs.Query
import Vicinity.Proofs.Registry

/-! The end of a node. Whatever reaches a node that has stopped, it evaluates nothing: no facts come
of it any more, nothing waits for its time, and no question is open or can be opened. -/
namespace Vicinity.Engine

variable {e f : Engine} {op : Operation}

/-! ## After the end -/

theorem heard?_stopped (stopped : e.stopped = true) (op : Operation) : e.heard? op = none := by
  cases heard : e.heard? op with
  | none => rfl
  | some body => exact absurd (heard?_live heard) (by simp [stopped])

theorem facts_stopped (stopped : e.stopped = true) (op : Operation) : e.facts op = [] := by
  have hears := heard?_stopped stopped op
  cases op <;> simp_all [facts,workFacts,deferredFacts]

/-- What an operation adds to nothing: events of evaluations, and who is inside a geofence. -/
theorem apply_stopped (stopped : e.stopped = true) (op : Operation) :
    (e.apply op).2.evaluations = e.evaluations ∧
      ∀ id, (∀ sub, op.subscription? = some sub → sub.id ≠ id) →
        (e.apply op).2.inside id = e.inside id := by
  by_cases direct : op.direct = true
  · exact apply_direct direct
  · rw [apply_eq (Bool.eq_false_iff.mpr direct),facts_stopped stopped]
    exact ⟨rfl,fun _ _ => rfl⟩

theorem moved_stopped (stopped : e.stopped = true) (op : Operation) :
    (e.moved op).stopped = true := by
  have closes : ((e.closing? op).elim (e.withTimers (e.released op).2)
      (e.withTimers (e.released op).2).close).stopped = true := by
    cases e.closing? op with
    | none => exact stopped
    | some d => exact (close_stopped _ d).trans stopped
  have hears := heard?_stopped stopped op
  cases op
  case hear => simp [moved,hears,stopped]
  case hearPayload => simp [moved,hears,stopped]
  case ask => simp [moved,stopped]
  case elapse => exact closes
  case expire => exact closes
  case expireDepartures => exact closes
  case stop => simp [moved,stop,stopped]
  all_goals exact stopped

theorem Sound.stopped_apply (sound : e.Sound) (stopped : e.stopped = true) (op : Operation) :
    (e.apply op).2.stopped = true :=
  (sound.apply_moved op).stopped.trans (moved_stopped stopped op)

theorem Sound.completed_stopped (sound : e.Sound) (stopped : e.stopped = true) (op : Operation) :
    (e.apply op).2.completed = e.completed :=
  sound.completed_open (by simp [closing?,sound.silent stopped])

/-- A node after its end, and after whatever was done to it since: nothing was evaluated, nothing
waits to be, and no question is open, answered or accepted. -/
structure Ended (before : Engine) (ops : List Operation) (now : Engine) : Prop where
  stopped : now.stopped = true
  events : now.evaluations = before.evaluations
  detected : ∀ id, (∀ op ∈ ops, ∀ sub, op.subscription? = some sub → sub.id ≠ id) →
    now.inside id = before.inside id
  departures : ∀ x, now.isDeparturePending x = false
  unasked : now.isQueryPending = false
  unheard : ∀ token wanted within timeout,
    now.apply (.ask token wanted within timeout) = (.flag false,now)
  unanswered : now.completed = before.completed
  /-- Tasks that were left to work through when the node stopped are dropped. -/
  unworked : ∀ tasks, now.work tasks = now
  again : now.apply .stop = (.done,now)

theorem Sound.ended_of (sound : e.Sound) (stopped : e.stopped = true) {before : Engine}
    {ops : List Operation} (events : e.evaluations = before.evaluations)
    (detected : ∀ id, (∀ op ∈ ops, ∀ sub, op.subscription? = some sub → sub.id ≠ id) →
      e.inside id = before.inside id)
    (unanswered : e.completed = before.completed) : Ended before ops e := by
  have idle : ∀ key, e.timers.isPending key = false := fun key => by
    rw [sound.timers.isPending_eq,sound.silent stopped]
    rfl
  constructor
  case stopped => exact stopped
  case events => exact events
  case detected => exact detected
  case departures => exact fun x => idle (.departure x)
  case unasked => exact sound.isPending_query.symm.trans (idle .query)
  case unheard => exact fun _ _ _ _ => ask_refused (by simp [stopped])
  case unanswered => exact unanswered
  case unworked => exact fun tasks => by rw [work,if_pos stopped]
  case again => rw [Engine.apply,Engine.stop,if_pos stopped]

/-- A node that stops evaluates nothing and answers nothing any more, whatever it was about to do
and whatever is done to it afterwards. -/
theorem stopped_for_good {self : Entity} {config : Config} (started : start self config = .ok e)
    (pre ops : List Operation) :
    Ended (e.after pre) ops (e.after (pre ++ .stop :: ops)) := by
  have sound := (start_sound started).after
  induction ops using List.reverseRecOn with
  | nil =>
    have stops : (e.after pre).stop.stopped = true := by
      rw [stop]
      split
      next stopped => exact stopped
      next => rfl
    have evaluated : (e.after pre).stop = (e.after pre).amid (e.after pre).stop :=
      @apply_eq (e.after pre) .stop rfl
    have events : (e.after pre).stop.evaluations = (e.after pre).evaluations := by
      rw [evaluated]
      rfl
    have detected : (e.after pre).stop.inside = (e.after pre).inside := by
      rw [evaluated]
      rfl
    rw [after_concat]
    exact ((sound pre).apply .stop).ended_of stops events (fun id _ => congrFun detected id)
      ((sound pre).completed_open (by simp [closing?,expires]))
  | append_singleton ops op ih =>
    have last : pre ++ .stop :: (ops ++ [op]) = (pre ++ .stop :: ops) ++ [op] := by simp
    obtain ⟨events,detected⟩ := apply_stopped ih.stopped op
    have now := sound (pre ++ .stop :: ops)
    rw [last,after_concat]
    refine (now.apply op).ended_of (now.stopped_apply ih.stopped op) (events.trans ih.events)
      (fun id fresh => ?_) ((now.completed_stopped ih.stopped op).trans ih.unanswered)
    have earlier := ih.detected id fun other member => fresh other (List.mem_append_left _ member)
    exact (detected id (fresh op (List.mem_append_right _ (List.mem_singleton_self op)))).trans earlier

/-- A node that asks the network and awaits a departure, and is told of an arrival after its end. -/
def cutShort : List Operation := [
  .setSink (some .recorder),
  .trackGroup (.ofNat 1) (.everyone "all"),
  .hear ⟨visitor.id,"log",.checkOut visitor false⟩,
  .ask "Q0" (.everyone "all") .far 1000]

theorem stopped_for_good_asking : ∃ e, start watcher .standard = .ok e ∧
    (e.after cutShort).isQueryPending = true ∧
    (e.after cutShort).isDeparturePending visitor.id = true ∧
    Ended (e.after cutShort) [.hear ⟨visitor.id,"log",.checkIn visitor⟩,.elapse 60000]
      (e.after (cutShort ++ .stop :: [.hear ⟨visitor.id,"log",.checkIn visitor⟩,.elapse 60000])) :=
  have started : start watcher .standard = .ok _ := rfl
  ⟨_,started,rfl,rfl,stopped_for_good started cutShort _⟩

end Vicinity.Engine
