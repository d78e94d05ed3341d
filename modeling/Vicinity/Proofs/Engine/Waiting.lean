import Mathlib.Data.List.Induction
import Vicinity.Proofs.Engine.Step

/-! What waits under a key of the timers, along a whole run. Something begins to wait in one way
only, and goes on waiting, unchanged, until something ends it. -/
namespace Vicinity.Engine

variable {e : Engine} {op : Operation} {body : Message.Body}

/-! ## Runs -/

@[simp] theorem after_nil (e : Engine) : e.after [] = e := rfl

@[simp] theorem after_cons (e : Engine) (op : Operation) (ops : List Operation) :
    e.after (op :: ops) = (e.apply op).2.after ops := rfl

theorem after_append (e : Engine) (ops more : List Operation) :
    e.after (ops ++ more) = (e.after ops).after more :=
  List.foldl_append

theorem after_concat (e : Engine) (ops : List Operation) (op : Operation) :
    e.after (ops ++ [op]) = ((e.after ops).apply op).2 :=
  after_append e ops [op]

theorem Sound.after (sound : e.Sound) (ops : List Operation) : (e.after ops).Sound := by
  induction ops generalizing e with
  | nil => exact sound
  | cons op ops ih => exact ih (sound.apply op)

/-- No operation of a run is of a kind that depends on the state in which it comes. -/
def never (kind : Engine → Operation → Bool) (e : Engine) : List Operation → Prop
  | [] => True
  | op :: ops => kind e op = false ∧ never kind (e.apply op).2 ops

theorem never_append (kind : Engine → Operation → Bool) (ops more : List Operation) :
    never kind e (ops ++ more) ↔ never kind e ops ∧ never kind (e.after ops) more := by
  induction ops generalizing e with
  | nil => exact (true_and _).to_iff.symm
  | cons op ops ih => exact (and_congr_right fun _ => ih).trans and_assoc.symm

/-- A run either has no operation of a kind, or a first one. -/
theorem never_or_first (kind : Engine → Operation → Bool) (e : Engine) (ops : List Operation) :
    never kind e ops ∨ ∃ pre op post, ops = pre ++ op :: post ∧ never kind e pre ∧
      kind (e.after pre) op = true := by
  induction ops generalizing e with
  | nil => exact .inl trivial
  | cons op ops ih =>
    by_cases now : kind e op = true
    · exact .inr ⟨[],op,ops,rfl,trivial,now⟩
    have first := Bool.eq_false_iff.mpr now
    rcases ih (e.apply op).2 with later | ⟨pre,next,post,rfl,later,comes⟩
    · exact .inl ⟨first,later⟩
    · exact .inr ⟨op :: pre,next,post,rfl,⟨first,later⟩,comes⟩

/-! ## Keys -/

/-- What a message makes wait under a key: a departure that may be a loss of connection. -/
def awaits? (e : Engine) (key : TimerKey) : Message.Body → Option (Nat × Deferred)
  | .checkOut entity false =>
    if key == .departure entity.id then
      some (e.timers.now + e.config.checkoutGrace,.departure entity)
    else none
  | _ => none

/-- Whether a message settles what waits under a key. -/
def settles (key : TimerKey) : Message.Body → Bool
  | .checkOut entity true => key == .departure entity.id
  | .propertiesUpdate entity _ => key == .departure entity.id
  | _ => false

/-- What an operation makes wait under a key if nothing waits there yet. -/
def arms? (e : Engine) (key : TimerKey) (op : Operation) : Option (Nat × Deferred) :=
  match op with
  | .ask token _ within timeout =>
    if e.stopped || key != .query then none
    else some (e.timers.now + timeout,.query (replyTopic token) within)
  | _ => (e.heard? op).bind (e.awaits? key)

/-- Whether an operation ends what waits under a key: a message settles it, its time comes, or the
node comes to its end. -/
def ends (e : Engine) (key : TimerKey) (op : Operation) : Bool :=
  match op with
  | .hear _ | .hearPayload _ => (e.heard? op).any (settles key)
  | .stop => true
  | _ => (e.timers.waiting? key).any fun w => e.expires op key w.1

theorem moved_timers_pass (passes : op.passesTime = true) :
    (e.moved op).timers = (e.released op).2 := by
  have closed : ((e.closing? op).elim (e.withTimers (e.released op).2)
      (e.withTimers (e.released op).2).close).timers = (e.released op).2 := by
    cases e.closing? op with
    | none => rfl
    | some d => cases d <;> rfl
  cases op <;> simp only [Operation.passesTime,Bool.false_eq_true] at passes <;> exact closed

theorem filter_eq_unless {α : Type} (o : Option α) (p : α → Bool) :
    o.filter (fun a => !p a) = if o.any p then none else o := by
  cases o with
  | none => rfl
  | some a => cases passes : p a <;> simp [Option.filter_some,passes]

theorem Sound.waiting?_pass (sound : e.Sound) (passes : op.passesTime = true)
    (key : TimerKey) : (e.moved op).timers.waiting? key =
      if (e.timers.waiting? key).any fun w => e.expires op key w.1 then none
      else e.timers.waiting? key := by
  rw [moved_timers_pass passes,waiting?_released sound.timers]
  exact filter_eq_unless ..

theorem Sound.waiting?_awaitDeparture (sound : e.Sound) (live : e.stopped = false)
    (entity : Entity) (key : TimerKey) : (e.awaitDeparture entity).timers.waiting? key =
      (e.timers.waiting? key <|> e.awaits? key (.checkOut entity false)) := by
  have pending := sound.timers.isPending_eq (.departure entity.id)
  rw [sound.awaitDeparture_eq live,isDeparturePending,awaits?]
  by_cases idle : e.timers.isPending (.departure entity.id) = true
  · rw [if_pos idle]
    obtain ⟨w,waits⟩ := Option.isSome_iff_exists.mp (pending.symm.trans idle)
    by_cases same : key == .departure entity.id
    · simp [eq_of_beq same,waits]
    · simp [same]
  · have idle := Bool.eq_false_iff.mpr idle
    rw [idle,if_neg Bool.false_ne_true,withTimers,sound.timers.waiting?_withTask idle]
    by_cases same : key == .departure entity.id
    · have absent : e.timers.waiting? (.departure entity.id) = none := by
        simpa [idle] using pending
      simp [eq_of_beq same,absent]
    · simp [same]

theorem Sound.waiting?_prepared (sound : e.Sound) (live : e.stopped = false)
    (body : Message.Body) (key : TimerKey) : (e.prepared body).timers.waiting? key =
      if settles key body then none else e.timers.waiting? key <|> e.awaits? key body := by
  cases body with
  | checkOut entity valid =>
    cases valid
    · exact sound.waiting?_awaitDeparture live entity key
    · exact (sound.timers.waiting?_cancel ..).trans (by simp [settles,awaits?])
  | propertiesUpdate entity old =>
    exact (sound.timers.waiting?_cancel ..).trans (by simp [settles,awaits?])
  | _ => simp [Engine.prepared,collect,settles,awaits?]

theorem Sound.waiting?_hear (sound : e.Sound) (key : TimerKey) (op : Operation) :
    ((e.heard? op).elim e e.prepared).timers.waiting? key =
      if (e.heard? op).any (settles key) then none
      else e.timers.waiting? key <|> (e.heard? op).bind (e.awaits? key) := by
  cases heard : e.heard? op with
  | none => simp
  | some body => simpa using sound.waiting?_prepared (heard?_live heard) body key

theorem Sound.waiting?_ask (sound : e.Sound) (token : String) (wanted : Group)
    (within : Distance) (timeout : Nat) (key : TimerKey) :
    (e.moved (.ask token wanted within timeout)).timers.waiting? key =
      (e.timers.waiting? key <|> e.arms? key (.ask token wanted within timeout)) := by
  have pending := sound.isPending_query.symm.trans (sound.timers.isPending_eq .query)
  unfold Engine.moved arms?
  dsimp only
  by_cases stopped : e.stopped = true
  · simp [stopped]
  have live := Bool.eq_false_iff.mpr stopped
  by_cases query : key = .query
  · subst query
    by_cases asked : e.isQueryPending = true
    · obtain ⟨w,waits⟩ := Option.isSome_iff_exists.mp (pending.symm.trans asked)
      simp [live,asked,waits]
    · have closed := Bool.eq_false_iff.mpr asked
      have idle := sound.isPending_query.trans closed
      have absent : e.timers.waiting? .query = none := by simpa [closed] using pending
      simp [live,closed,absent,sound.timers.waiting?_withTask idle]
  · by_cases asked : e.isQueryPending = true
    · simp [live,asked,query]
    · have closed := Bool.eq_false_iff.mpr asked
      have idle := sound.isPending_query.trans closed
      simp [live,closed,query,sound.timers.waiting?_withTask idle]

theorem Sound.waiting?_stop (sound : e.Sound) (key : TimerKey) :
    e.stop.timers.waiting? key = none := by
  rw [Engine.stop]
  split
  next stopped => exact sound.silent stopped key
  next => rfl

/-- The one law of waiting: what ends is gone, what waits goes on unchanged, and only where nothing
waits may something begin to. -/
theorem Sound.waiting?_apply (sound : e.Sound) (key : TimerKey) (op : Operation) :
    (e.apply op).2.timers.waiting? key =
      if e.ends key op then none else e.timers.waiting? key <|> e.arms? key op := by
  rw [(sound.apply_moved op).timers]
  cases op
  case hear m => exact sound.waiting?_hear key (.hear m)
  case hearPayload payload => exact sound.waiting?_hear key (.hearPayload payload)
  case ask token wanted within timeout =>
    rw [sound.waiting?_ask]
    cases e.timers.waiting? key <;> simp [ends,expires]
  case elapse => exact (sound.waiting?_pass rfl key).trans (by simp [ends,arms?,heard?])
  case expire => exact (sound.waiting?_pass rfl key).trans (by simp [ends,arms?,heard?])
  case expireDepartures => exact (sound.waiting?_pass rfl key).trans (by simp [ends,arms?,heard?])
  case stop => exact sound.waiting?_stop key
  all_goals cases waits : e.timers.waiting? key <;>
    simp [Engine.moved,ends,arms?,heard?,expires,waits]

/-! ## Where it comes from -/

theorem ends_expired {key : TimerKey} {w : Nat × Deferred}
    (waits : e.timers.waiting? key = some w) (comes : e.expires op key w.1 = true) :
    e.ends key op = true := by
  have passes := passesTime_of_expires comes
  cases op <;> simp only [Operation.passesTime,Bool.false_eq_true] at passes <;>
    simpa [ends,waits] using comes

theorem ends_of_arms {key : TimerKey} {w : Nat × Deferred} (arms : e.arms? key op = some w) :
    e.ends key op = false := by
  have hears : (e.heard? op).bind (e.awaits? key) = some w →
      (e.heard? op).any (settles key) = false := by
    intro arms
    obtain ⟨body,heard,awaits⟩ := Option.bind_eq_some_iff.mp arms
    rw [heard,Option.any_some]
    cases body with
    | checkOut entity valid => cases valid <;> simp [awaits?,settles] at awaits ⊢
    | _ => simp [awaits?] at awaits
  cases op
  case hear => exact hears arms
  case hearPayload => exact hears arms
  case ask => simp [ends,expires]
  all_goals simp [arms?,heard?] at arms

/-- What waits goes on waiting while nothing ends it. -/
theorem Sound.waits_on (sound : e.Sound) {key : TimerKey} {w : Nat × Deferred}
    {ops : List Operation} (waits : e.timers.waiting? key = some w)
    (lasts : never (·.ends key ·) e ops) : (e.after ops).timers.waiting? key = some w := by
  induction ops generalizing e with
  | nil => exact waits
  | cons op ops ih =>
    refine ih (sound.apply op) ?_ lasts.2
    simp [sound.waiting?_apply,lasts.1,waits]

theorem Sound.waits_armed (sound : e.Sound) {key : TimerKey} {w : Nat × Deferred}
    (idle : e.timers.waiting? key = none) (arms : e.arms? key op = some w) :
    (e.apply op).2.timers.waiting? key = some w := by
  simp [sound.waiting?_apply,ends_of_arms arms,idle,arms]

/-- Whatever waits under the key, something does after an operation that would make it wait. -/
theorem Sound.waits_some (sound : e.Sound) {key : TimerKey} {w : Nat × Deferred}
    (arms : e.arms? key op = some w) : ∃ w, (e.apply op).2.timers.waiting? key = some w := by
  rw [sound.waiting?_apply,ends_of_arms arms,arms]
  cases e.timers.waiting? key with
  | none => exact ⟨w,rfl⟩
  | some old => exact ⟨old,rfl⟩

/-- What waits is unchanged by an operation that neither ends it nor could make anything wait. -/
theorem Sound.waiting?_same (sound : e.Sound) {key : TimerKey} (lasts : e.ends key op = false)
    (same : (e.timers.waiting? key).isSome ∨ e.arms? key op = none) :
    (e.apply op).2.timers.waiting? key = e.timers.waiting? key := by
  rw [sound.waiting?_apply,lasts]
  rcases same with pending | unarmed
  · obtain ⟨w,waits⟩ := Option.isSome_iff_exists.mp pending
    simp [waits]
  · simp [unarmed]

/-- Something waits exactly if it began to, where nothing waited, and nothing ended it since. -/
theorem Sound.waits_iff (sound : e.Sound) {key : TimerKey}
    (idle : e.timers.waiting? key = none) (ops : List Operation) (w : Nat × Deferred) :
    (e.after ops).timers.waiting? key = some w ↔
      ∃ pre op post, ops = pre ++ op :: post ∧ (e.after pre).timers.waiting? key = none ∧
        (e.after pre).arms? key op = some w ∧
        never (·.ends key ·) (e.after (pre ++ [op])) post := by
  constructor
  · induction ops using List.reverseRecOn with
    | nil => simp [idle]
    | append_singleton ops last ih =>
      intro waits
      rw [after_concat,(sound.after ops).waiting?_apply] at waits
      split at waits
      · cases waits
      next lasts =>
        have lasts := Bool.eq_false_iff.mpr lasts
        cases before : (e.after ops).timers.waiting? key with
        | none =>
          rw [before] at waits
          exact ⟨ops,last,[],rfl,before,by simpa using waits,trivial⟩
        | some old =>
          obtain rfl : old = w := by simpa [before] using waits
          obtain ⟨pre,op,post,rfl,unarmed,arms,quiet⟩ := ih before
          refine ⟨pre,op,post ++ [last],by simp,unarmed,arms,(never_append ..).mpr ⟨quiet,?_,trivial⟩⟩
          rw [← after_append,List.append_assoc]
          exact lasts
  · rintro ⟨pre,op,post,rfl,unarmed,arms,quiet⟩
    have armed := (sound.after pre).waits_armed unarmed arms
    rw [← after_concat] at armed
    have waits := (sound.after (pre ++ [op])).waits_on armed quiet
    rwa [← after_append,List.append_assoc] at waits

end Vicinity.Engine
