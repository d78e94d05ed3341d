import Vicinity.Proofs.Engine.Notices
import Vicinity.Proofs.Engine.Waiting

/-! Departures. One that may be a loss of connection waits for a while and is then evaluated, unless
something settles it first; a confirmed one is evaluated at once. Either way there is one round: an
event for every registered group that the participant belongs to. -/
namespace Vicinity.Engine

variable {e f : Engine} {op : Operation} {x : EntityId}

/-- Whether a notice tells of the departure of a participant. -/
def tellsDeparture (x : EntityId) (n : Notice) : Bool :=
  match n.payload with
  | .group .checkOut member _ => member.id == x
  | _ => false

/-- What the application heard of departures of a participant. -/
def departures (e : Engine) (x : EntityId) : List Notice := e.delivered.filter (tellsDeparture x)

/-- The events of one departure: one for each registered group of the participant. -/
def roundEvents (e : Engine) (entity : Entity) : List (Subscription × Payload) :=
  e.group.filterMap fun sub =>
    match sub.watch with
    | .group members =>
      if members.contains entity then some (sub,.group .checkOut entity members) else none
    | _ => none

def round (e : Engine) (entity : Entity) : List Notice :=
  (e.roundEvents entity).map fun event => ⟨some event.1.id,event.2⟩

/-- What is heard of a round: nothing if nobody listens, and only the first event if the application
panics over the participant. -/
def hearRound (sink : Option Sink) (x : EntityId) (events : List Notice) : List Notice :=
  match sink with
  | none => []
  | some sink => if sink.reaction = .panicOver x then events.take 1 else events

theorem acts_left (e : Engine) (entity : Entity) : e.acts (.left entity) =
    (e.roundEvents entity).map fun event => .tell event.1 event.2 := by
  unfold acts roundEvents
  dsimp only
  induction e.group with
  | nil => rfl
  | cons sub subs ih =>
    rw [List.flatMap_cons,ih]
    obtain ⟨id,watch⟩ := sub
    cases watch with
    | group members =>
      by_cases member : members.contains entity = true <;> simp [groupActs,when,member]
    | _ => simp [groupActs]

theorem roundEvents_subject {event : Subscription × Payload} {entity : Entity}
    (member : event ∈ e.roundEvents entity) :
    ∃ members, event.2 = .group .checkOut entity members := by
  obtain ⟨sub,_,found⟩ := List.mem_filterMap.mp member
  cases watch : sub.watch with
  | group members =>
    simp only [watch] at found
    split at found
    · cases found
      exact ⟨members,rfl⟩
    · cases found
  | _ => simp [watch] at found

/-- Events about one participant are all heard, or the first one only. -/
theorem heardWith_round (r : Reaction) {events : List (Subscription × Payload)}
    (subject : ∀ event ∈ events, subject? event.2 = some x) :
    heardWith r events = if r = .panicOver x
      then (events.map fun event => Notice.mk (some event.1.id) event.2).take 1
      else events.map fun event => ⟨some event.1.id,event.2⟩ := by
  have breaks : ∀ p, subject? p = some x → breaksOff r p = decide (r = .panicOver x) := by
    intro p about
    cases r with
    | panicOver id =>
      by_cases same : id = x
      · simp [breaksOff,about,same]
      · have apart : x ≠ id := fun h => same h.symm
        simp [breaksOff,about,same,apart]
    | _ => simp [breaksOff,about]
  induction events with
  | nil => simp [heardWith]
  | cons event events ih =>
    obtain ⟨sub,p⟩ := event
    have first := subject _ (List.mem_cons_self ..)
    have rest := ih fun event member => subject event (List.mem_cons_of_mem _ member)
    rw [heardWith,breaks p first,rest]
    by_cases panics : r = .panicOver x <;> simp [panics]

theorem heardOf_hearRound (sink : Option Sink) {events : List (Subscription × Payload)}
    (subject : ∀ event ∈ events, subject? event.2 = some x) :
    heardOf sink events = hearRound sink x (events.map fun event => ⟨some event.1.id,event.2⟩) := by
  cases sink with
  | none => rfl
  | some sink => exact heardWith_round sink.reaction subject

theorem heardOf_round (e : Engine) (sink : Option Sink) (entity : Entity) :
    heardOf sink (e.roundEvents entity) = hearRound sink entity.id (e.round entity) := by
  refine heardOf_hearRound sink fun event member => ?_
  obtain ⟨members,about⟩ := roundEvents_subject member
  rw [about]
  rfl

theorem mem_hearRound {sink : Option Sink} {events : List Notice} {n : Notice}
    (member : n ∈ hearRound sink x events) : n ∈ events := by
  simp only [hearRound] at member
  split at member
  · cases member
  split at member
  · exact List.mem_of_mem_take member
  · exact member

theorem hearRound_tells {sink : Option Sink} {entity : Entity} {n : Notice}
    (member : n ∈ hearRound sink entity.id (e.round entity)) :
    ∃ members, n.payload = .group .checkOut entity members := by
  obtain ⟨event,registered,rfl⟩ := List.mem_map.mp (mem_hearRound member)
  exact roundEvents_subject registered

/-! ## Which facts lead to a round -/

/-- Whether a fact is the departure of a participant. -/
def Fact.departs (x : EntityId) : Fact → Bool
  | .left entity => entity.id == x
  | _ => false

theorem evaluate_left (e : Engine) (entity : Entity) :
    (e.evaluate (.left entity)).departures entity.id =
      e.departures entity.id ++ hearRound e.sink entity.id (e.round entity) := by
  have told : (e.evaluate (.left entity)).delivered =
      e.delivered ++ hearRound e.sink entity.id (e.round entity) := by
    rw [evaluate,acts_left,performAll_tell,heardOf_round]
  have all : (hearRound e.sink entity.id (e.round entity)).filter (tellsDeparture entity.id) =
      hearRound e.sink entity.id (e.round entity) :=
    List.filter_eq_self.mpr fun n member => by
      obtain ⟨members,payload⟩ := hearRound_tells member
      simp [tellsDeparture,payload]
  rw [departures,told,List.filter_append,all]
  rfl

theorem observe_untold {sub : Subscription} {center candidate : Entity} {radius seen : Distance}
    {n : Notice} (tells : (Act.observe sub center radius candidate seen).tells n) :
    tellsDeparture x n = false := by
  obtain ⟨_,transition,crosses⟩ := tells
  cases transition <;> simp [crossing?] at crosses <;> simp [tellsDeparture,← crosses]

theorem acts_untold {fact : Fact} (other : fact.departs x = false) {a : Act}
    (member : a ∈ e.acts fact) {n : Notice} (tells : a.tells n) :
    tellsDeparture x n = false := by
  cases fact with
  | apart e1 e2 d =>
    simp only [acts] at member
    split at member
    · cases member
    · obtain ⟨sub,_,follows⟩ := List.mem_flatMap.mp member
      obtain ⟨_,rfl⟩ := mem_apartActs follows
      rw [show n = _ from tells]
      rfl
  | sees seer beacons =>
    obtain ⟨sub,_,follows⟩ := List.mem_flatMap.mp member
    obtain ⟨center,members,radius,candidate,seen,_,rfl⟩ := mem_seesActs follows
    exact observe_untold tells
  | around e1 e2 d =>
    obtain ⟨sub,_,follows⟩ := List.mem_flatMap.mp member
    obtain ⟨center,members,radius,candidate,seen,_,rfl⟩ := mem_aroundActs follows
    exact observe_untold tells
  | changed entity old =>
    obtain ⟨sub,_,follows⟩ := List.mem_flatMap.mp member
    obtain ⟨members,happened,_,comes,rfl⟩ := mem_groupActs follows
    rw [show n = _ from tells]
    simp only [membership] at comes
    split at comes
    · cases comes; rfl
    · cases comes; rfl
    · cases comes
  | arrived entity =>
    simp only [acts] at member
    split at member
    · cases member
    · obtain ⟨sub,_,follows⟩ := List.mem_flatMap.mp member
      obtain ⟨members,happened,_,comes,rfl⟩ := mem_groupActs follows
      rw [show n = _ from tells]
      rw [when] at comes
      split at comes
      · cases comes; rfl
      · cases comes
  | left entity =>
    obtain ⟨sub,_,follows⟩ := List.mem_flatMap.mp member
    obtain ⟨members,happened,_,comes,rfl⟩ := mem_groupActs follows
    rw [show n = _ from tells]
    rw [when] at comes
    split at comes
    · cases comes; exact other
    · cases comes

/-- No other fact leads to an event about the departure of the participant. -/
theorem evaluateAll_departures (e : Engine) {facts : List Fact}
    (others : ∀ fact ∈ facts, fact.departs x = false) :
    (e.evaluateAll facts).departures x = e.departures x := by
  induction facts generalizing e with
  | nil => rfl
  | cons fact facts ih =>
    have first := others fact (List.mem_cons_self ..)
    have rest := ih (e.evaluate fact) fun fact member =>
      others fact (List.mem_cons_of_mem _ member)
    rw [evaluateAll_cons,rest]
    exact performAll_untold e fun a member n => acts_untold first member

/-! ## Which operations have such a fact -/

theorem facts_confirmed {entity : Entity}
    (heard : e.heard? op = some (.checkOut entity true)) : e.facts op = [.left entity] := by
  rw [facts_heard heard,workFacts,heard?_live heard]
  rfl

/-- Nothing that is left for later is a departure. -/
theorem leaves_quiet {t : Task} {fact : Fact} (left : fact ∈ e.leaves t) :
    fact.departs x = false := by
  cases t with
  | estimate peer beacons =>
    cases known : e.estimated? peer beacons with
    | none => simp [Engine.leaves,known] at left
    | some d =>
      simp only [Engine.leaves,known,Option.map_some,Option.getD_some,peerFacts] at left
      split at left
      · obtain rfl := List.mem_singleton.mp left
        rfl
      · rcases List.mem_cons.mp left with rfl | left
        · rfl
        · obtain rfl := List.mem_singleton.mp left
          rfl
  | evaluate fact => cases left
  | answer => cases left

theorem tasks_quiet {body : Message.Body} {fact : Fact} (departs : fact.departs x = true)
    (listed : .evaluate fact ∈ e.tasks body) :
    ∃ entity, body = .checkOut entity true ∧ entity.id = x := by
  cases body with
  | checkIn entity =>
    simp only [tasks,List.mem_cons,Task.evaluate.injEq,List.not_mem_nil,or_false] at listed
    rcases listed with rfl | rfl <;> cases departs
  | checkOut entity valid =>
    cases valid
    · cases listed
    · obtain ⟨rfl⟩ := List.mem_singleton.mp listed
      exact ⟨entity,rfl,by simpa [Fact.departs] using departs⟩
  | propertiesUpdate entity old =>
    obtain ⟨rfl⟩ := List.mem_singleton.mp listed
    cases departs
  | proximityUpdate e1 e2 d =>
    simp only [tasks,List.mem_cons,Task.evaluate.injEq,List.not_mem_nil,or_false] at listed
    rcases listed with rfl | rfl <;> cases departs
  | beaconReport entity beacons =>
    simp only [tasks,reportTasks,List.cons_append,List.mem_cons,List.mem_append,List.mem_map,
      Task.evaluate.injEq] at listed
    rcases listed with rfl | ⟨b,_,rfl⟩ | estimate
    · cases departs
    · cases departs
    · split at estimate
      · cases estimate
      · cases List.mem_singleton.mp estimate
  | syncRequest topic beacons wanted within =>
    simp only [tasks] at listed
    split at listed
    · cases List.mem_singleton.mp listed
    · cases listed
  | syncResponse entity => cases listed

/-- What a node works through of a message holds a departure only if it is confirmed. -/
theorem workFacts_quiet {body : Message.Body} {fact : Fact} (departs : fact.departs x = true)
    (member : fact ∈ e.workFacts (e.tasks body)) :
    ∃ entity, body = .checkOut entity true ∧ entity.id = x := by
  rw [workFacts] at member
  split at member
  · cases member
  rcases List.mem_append.mp member with now | later
  · obtain ⟨t,listed,now⟩ := List.mem_flatMap.mp now
    cases t with
    | evaluate other =>
      obtain rfl := List.mem_singleton.mp now
      exact tasks_quiet departs listed
    | estimate => cases now
    | answer => cases now
  · obtain ⟨t,_,later⟩ := List.mem_flatMap.mp later
    exact absurd (leaves_quiet (x := x) later) (by simp [departs])

theorem scan_quiet {readings : List BeaconReading} {fact : Fact}
    (member : fact ∈ e.facts (.scan readings)) : fact.departs x = false := by
  simp only [facts,workFacts,scanTasks] at member
  split at member
  · cases member
  split at member
  · cases member
  rcases List.mem_append.mp member with now | later
  · simp only [List.flatMap_append,List.mem_append,List.mem_flatMap,List.mem_map] at now
    rcases now with ⟨t,⟨b,_,rfl⟩,now⟩ | ⟨t,listed,now⟩
    · obtain rfl := List.mem_singleton.mp now
      rfl
    · obtain rfl := List.mem_singleton.mp listed
      obtain rfl := List.mem_singleton.mp now
      rfl
  · obtain ⟨t,_,later⟩ := List.mem_flatMap.mp later
    exact leaves_quiet later

/-! ## Time -/

/-- A task that is due under another key is not the departure of the participant. -/
theorem Sound.due_quiet (sound : e.Sound) {due : List (TimerKey × Deferred)}
    (isDue : Due e op due) {key : TimerKey} {task : Deferred} (member : (key,task) ∈ due)
    (other : key ≠ .departure x) {fact : Fact} (listed : fact ∈ task.facts) :
    fact.departs x = false := by
  obtain ⟨d,waits,_⟩ := (isDue.members _ _).mp member
  cases key with
  | departure y =>
    obtain ⟨entity,rfl,rfl⟩ := sound.departures y _ waits
    obtain rfl := List.mem_singleton.mp listed
    simpa [Fact.departs] using other
  | query =>
    obtain ⟨q,within,_,rfl⟩ := sound.asked waits
    cases listed

theorem Sound.pass_quiet (sound : e.Sound) (passes : op.passesTime = true)
    (early : ∀ w, e.timers.waiting? (.departure x) = some w →
      e.expires op (.departure x) w.1 = false)
    {fact : Fact} (member : fact ∈ e.facts op) : fact.departs x = false := by
  obtain ⟨due,isDue⟩ := due_of sound.timers op
  rw [facts_pass passes,deferredFacts,isDue.tasks] at member
  split at member
  · cases member
  obtain ⟨task,listed,member⟩ := List.mem_flatMap.mp member
  obtain ⟨⟨key,task⟩,isMember,rfl⟩ := List.mem_map.mp listed
  refine sound.due_quiet isDue isMember (fun same => ?_) member
  obtain ⟨d,waits,comes⟩ := (isDue.members _ _).mp isMember
  rw [same] at waits comes
  simp [early _ waits] at comes

/-- When the time of the participant comes, its departure is the one fact about it. -/
theorem Sound.facts_expiring (sound : e.Sound) {d : Nat} {entity : Entity}
    (waits : e.timers.waiting? (.departure x) = some (d,.departure entity))
    (comes : e.expires op (.departure x) d = true) :
    ∃ before after, e.facts op = before ++ .left entity :: after ∧
      (∀ fact ∈ before, fact.departs x = false) ∧ ∀ fact ∈ after, fact.departs x = false := by
  have passes := passesTime_of_expires comes
  obtain ⟨due,isDue⟩ := due_of sound.timers op
  have live : e.stopped = false := by
    by_contra stopped
    have silent := sound.silent (by simpa using stopped) (.departure x)
    rw [silent] at waits
    cases waits
  have facts : e.facts op = due.flatMap fun k => k.2.facts := by
    rw [facts_pass passes,deferredFacts,live,isDue.tasks,List.flatMap_map]
    rfl
  have member := (isDue.members _ _).mpr ⟨d,waits,comes⟩
  obtain ⟨early,late,split⟩ := List.append_of_mem member
  have keys := isDue.keys
  simp only [split,List.map_append,List.map_cons,List.nodup_append,List.nodup_cons] at keys
  refine ⟨early.flatMap fun k => k.2.facts,late.flatMap fun k => k.2.facts,?_,?_,?_⟩
  · rw [facts,split,List.flatMap_append,List.flatMap_cons]
    rfl
  · intro fact listed
    obtain ⟨⟨key,task⟩,inEarly,listed⟩ := List.mem_flatMap.mp listed
    have member : (key,task) ∈ due := split ▸ List.mem_append_left _ inEarly
    refine sound.due_quiet isDue member (fun same => ?_) listed
    exact keys.2.2 _ (List.mem_map.mpr ⟨_,inEarly,same⟩) _ (List.mem_cons_self ..) rfl
  · intro fact listed
    obtain ⟨⟨key,task⟩,inLate,listed⟩ := List.mem_flatMap.mp listed
    have member : (key,task) ∈ due :=
      split ▸ List.mem_append_right _ (List.mem_cons_of_mem _ inLate)
    refine sound.due_quiet isDue member (fun same => ?_) listed
    exact keys.2.1.1 (List.mem_map.mpr ⟨_,inLate,same⟩)

/-! ## One operation -/

theorem apply_departures (indirect : op.direct = false) :
    (e.apply op).2.departures x = (e.evaluateAll (e.facts op)).departures x := by
  rw [departures,departures,delivered,delivered,(apply_agree indirect).told]

/-- What the application calls by itself leads to no event of a departure. -/
theorem direct_departures (direct : op.direct = true) :
    (e.apply op).2.departures x = e.departures x := by
  have refused : ∀ sub why, (e.refuse sub why).departures x = e.departures x := by
    intro sub why
    have told := tell_told (e := e) sub (.error why)
    rw [departures,refuse,told,List.filter_append]
    split <;> simp [tellsDeparture,departures]
  cases op <;> simp only [Operation.direct,Bool.false_eq_true] at direct
  case trackDistance id anchor others =>
    simp only [apply,trackDistance]
    split
    · exact refused ..
    · rfl
  case trackGeofence id anchor members radius =>
    simp only [apply,trackGeofence]
    split
    · exact refused ..
    split
    · exact refused ..
    · rfl
  case trackGroup => rfl
  case unsubscribe sub =>
    rw [departures,departures,delivered,delivered]
    exact congrArg (fun told => (List.reverse told).filter _) (unsubscribe_told sub)
  case crossRegion name entered =>
    simp only [apply,crossRegion,tellPoi]
    split
    · rfl
    · split
      · simp [departures,delivered,tellsDeparture]
      · rfl
  case setSink => rfl

/-- A confirmed departure leads to its round at once. -/
theorem departures_confirmed {entity : Entity}
    (heard : e.heard? op = some (.checkOut entity true)) :
    (e.apply op).2.departures entity.id =
      e.departures entity.id ++ hearRound e.sink entity.id (e.round entity) := by
  rw [apply_departures (direct_of_heard heard),facts_confirmed heard]
  exact evaluate_left e entity

/-- A departure whose time comes leads to its round, for the groups that are registered then. -/
theorem Sound.departures_expired (sound : e.Sound) {d : Nat} {entity : Entity}
    (waits : e.timers.waiting? (.departure x) = some (d,.departure entity))
    (comes : e.expires op (.departure x) d = true) :
    ∃ before after, e.facts op = before ++ .left entity :: after ∧
      (e.apply op).2.departures x =
        e.departures x ++ hearRound e.sink x ((e.evaluateAll before).round entity) := by
  have indirect := direct_of_passesTime (passesTime_of_expires comes)
  obtain ⟨before,after,facts,early,late⟩ := sound.facts_expiring waits comes
  obtain ⟨_,⟨rfl⟩,rfl⟩ := sound.departures x _ waits
  refine ⟨before,after,facts,?_⟩
  rw [apply_departures indirect,facts,evaluateAll_append,evaluateAll_cons,
    evaluateAll_departures _ late,evaluate_left,evaluateAll_departures e early,
    (evaluateAll_kept before).2]

/-- No other operation leads to an event of the departure. -/
theorem Sound.departures_otherwise (sound : e.Sound)
    (unconfirmed : ∀ entity, e.heard? op = some (.checkOut entity true) → entity.id ≠ x)
    (early : ∀ w, e.timers.waiting? (.departure x) = some w →
      e.expires op (.departure x) w.1 = false) :
    (e.apply op).2.departures x = e.departures x := by
  by_cases direct : op.direct = true
  · exact direct_departures direct
  rw [apply_departures (Bool.eq_false_iff.mpr direct)]
  apply evaluateAll_departures e
  intro fact member
  have hears : ∀ body, e.heard? op = some body → fact.departs x = false := by
    intro body heard
    rw [facts_heard heard] at member
    by_contra departs
    obtain ⟨entity,rfl,same⟩ := workFacts_quiet (by simpa using departs) member
    exact unconfirmed entity heard same
  cases op
  case hear m =>
    cases heard : e.heard? (.hear m) with
    | none => simp [facts,heard] at member
    | some body => exact hears body heard
  case hearPayload payload =>
    cases heard : e.heard? (.hearPayload payload) with
    | none => simp [facts,heard] at member
    | some body => exact hears body heard
  case scan readings => exact scan_quiet member
  case elapse => exact sound.pass_quiet rfl early member
  case expire => exact sound.pass_quiet rfl early member
  case expireDepartures => exact sound.pass_quiet rfl early member
  all_goals cases member

/-! ## Whole runs -/

theorem config_after (sound : e.Sound) (ops : List Operation) :
    (e.after ops).config = e.config := by
  induction ops generalizing e with
  | nil => rfl
  | cons op ops ih =>
    rw [after_cons,ih (sound.apply op),sound.config_apply op]

/-- An operation with which the departure of a participant begins to wait. -/
structure Doubts (e : Engine) (x : EntityId) (op : Operation) (entity : Entity) : Prop where
  idle : e.isDeparturePending x = false
  heard : e.heard? op = some (.checkOut entity false)
  about : entity.id = x

/-- Whether a message settles or doubts the presence of a participant. -/
def concerns (x : EntityId) : Message.Body → Bool
  | .checkOut entity _ | .propertiesUpdate entity _ => entity.id == x
  | _ => false

theorem Sound.isDeparturePending_eq (sound : e.Sound) (x : EntityId) :
    e.isDeparturePending x = (e.timers.waiting? (.departure x)).isSome :=
  sound.timers.isPending_eq _

theorem arms?_doubted {entity : Entity}
    (heard : e.heard? op = some (.checkOut entity false)) : e.arms? (.departure entity.id) op =
      some (e.timers.now + e.config.checkoutGrace,.departure entity) := by
  cases op <;> simp only [heard?,reduceCtorEq] at heard
  case hear => simp [arms?,heard?,heard,awaits?]
  case hearPayload => simp [arms?,heard?,heard,awaits?]

theorem doubted_of_arms {w : Nat × Deferred} (arms : e.arms? (.departure x) op = some w) :
    ∃ entity, e.heard? op = some (.checkOut entity false) ∧ entity.id = x := by
  have hears : (e.heard? op).bind (e.awaits? (.departure x)) = some w := by
    cases op <;> first | exact arms | simp [arms?] at arms
  obtain ⟨body,heard,awaits⟩ := Option.bind_eq_some_iff.mp hears
  cases body with
  | checkOut entity valid =>
    cases valid with
    | false =>
      simp only [awaits?] at awaits
      split at awaits
      next same => exact ⟨entity,heard,by simpa using (eq_of_beq same).symm⟩
      next => cases awaits
    | true => cases awaits
  | _ => cases awaits

theorem ends_confirmed {entity : Entity} (heard : e.heard? op = some (.checkOut entity true)) :
    e.ends (.departure entity.id) op = true := by
  cases op <;> simp only [heard?,reduceCtorEq] at heard
  case hear => simp [ends,heard?,heard,settles]
  case hearPayload => simp [ends,heard?,heard,settles]

theorem ends_doubted {entity : Entity} (heard : e.heard? op = some (.checkOut entity false))
    (key : TimerKey) : e.ends key op = false := by
  cases op <;> simp only [heard?,reduceCtorEq] at heard
  case hear => simp [ends,heard?,heard,settles]
  case hearPayload => simp [ends,heard?,heard,settles]

theorem Doubts.ends {entity : Entity} (doubts : Doubts e x op entity) : e.ends (.departure x) op = false := by
  obtain ⟨_,heard,rfl⟩ := doubts
  exact ends_of_arms (arms?_doubted heard)

theorem Doubts.waits {entity : Entity} (doubts : Doubts e x op entity) (sound : e.Sound) :
    (e.apply op).2.timers.waiting? (.departure x) =
      some (e.timers.now + e.config.checkoutGrace,.departure entity) := by
  obtain ⟨idle,heard,rfl⟩ := doubts
  rw [sound.isDeparturePending_eq] at idle
  exact sound.waits_armed (by simpa using idle) (arms?_doubted heard)

/-- Nothing is told of the departure while nothing ends the wait for it. -/
theorem Sound.departures_lasting (sound : e.Sound) (lasts : e.ends (.departure x) op = false) :
    (e.apply op).2.departures x = e.departures x := by
  refine sound.departures_otherwise (fun entity heard same => ?_) fun w waits => ?_
  · subst same
    rw [ends_confirmed heard] at lasts
    cases lasts
  · by_contra comes
    rw [ends_expired waits (by simpa using comes)] at lasts
    cases lasts

theorem Sound.departures_never (sound : e.Sound) {ops : List Operation}
    (lasts : never (·.ends (.departure x) ·) e ops) :
    (e.after ops).departures x = e.departures x := by
  induction ops generalizing e with
  | nil => rfl
  | cons op ops ih =>
    exact (ih (sound.apply op) lasts.2).trans (sound.departures_lasting lasts.1)

/-- What becomes of the departures of a participant in a whole run. -/
structure Debounced (e₀ : Engine) (x : EntityId) : Prop where
  /-- One is pending exactly if an unconfirmed one was heard and nothing ended it since. -/
  pending : ∀ ops, (e₀.after ops).isDeparturePending x = true ↔
    ∃ pre op post entity, ops = pre ++ op :: post ∧
      (e₀.after pre).heard? op = some (.checkOut entity false) ∧ entity.id = x ∧
      never (·.ends (.departure x) ·) (e₀.after (pre ++ [op])) post
  /-- While nothing ends it, the entity and the deadline are those of the first message, and there
  is no round. -/
  lasting : ∀ pre op entity mid, Doubts (e₀.after pre) x op entity →
    never (·.ends (.departure x) ·) (e₀.after (pre ++ [op])) mid →
    (e₀.after (pre ++ op :: mid)).timers.waiting? (.departure x) =
      some ((e₀.after pre).timers.now + e₀.config.checkoutGrace,.departure entity) ∧
    (e₀.after (pre ++ op :: mid)).departures x = (e₀.after pre).departures x
  /-- Its expiry leads to one round, about that entity and for the groups registered then. -/
  expired : ∀ pre op entity mid last, Doubts (e₀.after pre) x op entity →
    never (·.ends (.departure x) ·) (e₀.after (pre ++ [op])) mid →
    let e := e₀.after (pre ++ op :: mid)
    e.expires last (.departure x) ((e₀.after pre).timers.now + e₀.config.checkoutGrace) = true →
    (e.apply last).2.isDeparturePending x = false ∧
    ∃ before after, e.facts last = before ++ .left entity :: after ∧
      (e.apply last).2.departures x =
        e.departures x ++ hearRound e.sink x ((e.evaluateAll before).round entity)
  /-- Whatever else ends it leads to no round of its own. -/
  settled : ∀ ops op, (e₀.after ops).ends (.departure x) op = true →
    ((e₀.after ops).apply op).2.isDeparturePending x = false ∧
    ((∀ entity, (e₀.after ops).heard? op ≠ some (.checkOut entity true)) →
      (∀ d, (e₀.after ops).expires op (.departure x) d = false) →
      ((e₀.after ops).apply op).2.departures x = (e₀.after ops).departures x)
  /-- A confirmed departure leads to a round of its own at once. -/
  confirmed : ∀ ops op entity, (e₀.after ops).heard? op = some (.checkOut entity true) →
    entity.id = x →
    ((e₀.after ops).apply op).2.departures x = (e₀.after ops).departures x ++
      hearRound (e₀.after ops).sink x ((e₀.after ops).round entity)
  /-- Without a pending departure and a confirmed one there is no round. -/
  silent : ∀ ops op, (e₀.after ops).isDeparturePending x = false →
    (∀ entity, (e₀.after ops).heard? op = some (.checkOut entity true) → entity.id ≠ x) →
    ((e₀.after ops).apply op).2.departures x = (e₀.after ops).departures x
  /-- Further unconfirmed departures change nothing while one is pending. -/
  again : ∀ ops op entity, (e₀.after ops).isDeparturePending x = true →
    (e₀.after ops).heard? op = some (.checkOut entity false) →
    ((e₀.after ops).apply op).2.timers.waiting? (.departure x) =
      (e₀.after ops).timers.waiting? (.departure x)
  /-- Neither does any message of another kind, such as an arrival, or about anybody else. -/
  unconcerned : ∀ ops op body, (e₀.after ops).heard? op = some body → concerns x body = false →
    ((e₀.after ops).apply op).2.timers.waiting? (.departure x) =
      (e₀.after ops).timers.waiting? (.departure x) ∧
    ((e₀.after ops).apply op).2.departures x = (e₀.after ops).departures x
  /-- Nor does the expiry of anybody else's. -/
  others : ∀ ops y, y ≠ x →
    ((e₀.after ops).apply (.expire (.departure y))).2.timers.waiting? (.departure x) =
      (e₀.after ops).timers.waiting? (.departure x) ∧
    ((e₀.after ops).apply (.expire (.departure y))).2.departures x = (e₀.after ops).departures x

theorem Sound.pending_iff (sound : e.Sound)
    (idle : e.timers.waiting? (.departure x) = none) (ops : List Operation) :
    (e.after ops).isDeparturePending x = true ↔
      ∃ pre op post entity, ops = pre ++ op :: post ∧
        (e.after pre).heard? op = some (.checkOut entity false) ∧ entity.id = x ∧
        never (·.ends (.departure x) ·) (e.after (pre ++ [op])) post := by
  rw [(sound.after ops).isDeparturePending_eq,Option.isSome_iff_exists]
  constructor
  · rintro ⟨w,waits⟩
    obtain ⟨pre,op,post,rfl,_,arms,lasts⟩ := (sound.waits_iff idle ops w).mp waits
    obtain ⟨entity,heard,about⟩ := doubted_of_arms arms
    exact ⟨pre,op,post,entity,rfl,heard,about,lasts⟩
  · rintro ⟨pre,op,post,entity,rfl,heard,rfl,lasts⟩
    obtain ⟨w,waits⟩ := (sound.after pre).waits_some (arms?_doubted heard)
    rw [← after_concat] at waits
    have waits := (sound.after (pre ++ [op])).waits_on waits lasts
    rw [← after_append,List.append_assoc] at waits
    exact ⟨w,waits⟩

theorem Doubts.lasting {entity : Entity} {mid : List Operation} (doubts : Doubts e x op entity)
    (sound : e.Sound) (lasts : never (·.ends (.departure x) ·) (e.apply op).2 mid) :
    (e.after (op :: mid)).timers.waiting? (.departure x) =
        some (e.timers.now + e.config.checkoutGrace,.departure entity) ∧
      (e.after (op :: mid)).departures x = e.departures x := by
  have sound' := sound.apply op
  refine ⟨sound'.waits_on (doubts.waits sound) lasts,?_⟩
  exact (sound'.departures_never lasts).trans (sound.departures_lasting doubts.ends)

theorem Sound.ended (sound : e.Sound) (ends : e.ends (.departure x) op = true) :
    (e.apply op).2.isDeparturePending x = false := by
  rw [(sound.apply op).isDeparturePending_eq,sound.waiting?_apply,ends]
  rfl

theorem ends_unconcerned {body : Message.Body} (heard : e.heard? op = some body)
    (other : concerns x body = false) :
    e.ends (.departure x) op = false ∧ e.arms? (.departure x) op = none := by
  have apart : ∀ entity : Entity, (entity.id == x) = false →
      (TimerKey.departure x == .departure entity.id) = false := by
    intro entity other
    rw [beq_eq_false_iff_ne] at other ⊢
    exact fun same => other (TimerKey.departure.inj same).symm
  have quiet : settles (.departure x) body = false ∧ e.awaits? (.departure x) body = none := by
    cases body with
    | checkOut entity valid => cases valid <;> simp only [settles,awaits?,apart entity other] <;> simp
    | propertiesUpdate entity old => exact ⟨apart entity other,rfl⟩
    | _ => exact ⟨rfl,rfl⟩
  cases op <;> simp only [heard?,reduceCtorEq] at heard
  case hear => simpa [ends,arms?,heard?,heard] using quiet
  case hearPayload => simpa [ends,arms?,heard?,heard] using quiet

theorem departures_debounced {self : Entity} {config : Config}
    (started : start self config = .ok e) (x : EntityId) : Debounced e x := by
  have sound := start_sound started
  have idle := start_idle started (.departure x)
  constructor
  case pending => exact sound.pending_iff idle
  case lasting =>
    intro pre op entity mid doubts lasts
    rw [after_concat] at lasts
    rw [after_append,← config_after sound pre]
    exact doubts.lasting (sound.after pre) lasts
  case expired =>
    intro pre op entity mid last doubts lasts
    rw [after_concat] at lasts
    rw [after_append,← config_after sound pre]
    intro e' comes
    have waits := (doubts.lasting (sound.after pre) lasts).1
    have sound' := (sound.after pre).after (op :: mid)
    exact ⟨sound'.ended (ends_expired waits comes),sound'.departures_expired waits comes⟩
  case settled =>
    intro ops op ends
    refine ⟨(sound.after ops).ended ends,fun unconfirmed early => ?_⟩
    exact (sound.after ops).departures_otherwise
      (fun entity heard => absurd heard (unconfirmed entity)) fun w _ => early w.1
  case confirmed =>
    rintro ops op entity heard rfl
    exact departures_confirmed heard
  case silent =>
    intro ops op idle unconfirmed
    rw [(sound.after ops).isDeparturePending_eq] at idle
    exact (sound.after ops).departures_otherwise unconfirmed fun w waits => by simp [waits] at idle
  case again =>
    intro ops op entity pending heard
    rw [(sound.after ops).isDeparturePending_eq] at pending
    exact (sound.after ops).waiting?_same (ends_doubted heard _) (.inl pending)
  case unconcerned =>
    intro ops op body heard other
    obtain ⟨lasts,unarmed⟩ := ends_unconcerned heard other
    exact ⟨(sound.after ops).waiting?_same lasts (.inr unarmed),
      (sound.after ops).departures_lasting lasts⟩
  case others =>
    intro ops y apart
    have lasts : (e.after ops).ends (.departure x) (.expire (.departure y)) = false := by
      have other : (TimerKey.departure x == .departure y) = false := by simpa using apart.symm
      simp only [ends,expires,other]
      cases (e.after ops).timers.waiting? (.departure x) <;> rfl
    exact ⟨(sound.after ops).waiting?_same lasts (.inr rfl),
      (sound.after ops).departures_lasting lasts⟩

/-! ## A departure that is doubted -/

def host : Entity := .bare (.of "me") .device

def leaver : Entity := .bare (.of "x") .device

/-- The application watches two groups of which everybody is a member. -/
def attendedBy (r : Reaction) : List Operation := [
  .setSink (some ⟨true,r⟩),
  .trackGroup (.ofNat 1) (.everyone "all"),
  .trackGroup (.ofNat 2) (.everyone "all")]

/-- Somebody may have left. -/
def doubted : Operation := .hear ⟨leaver.id,"log",.checkOut leaver false⟩

/-- Time goes by, and the doubt comes up again. -/
def unsettled : List Operation := [.elapse 10000,doubted]

theorem departures_debounced_host : ∃ e, start host .standard = .ok e ∧ Debounced e leaver.id ∧
    let e₀ := e.after (attendedBy .pass)
    let d := e.after (attendedBy .pass ++ doubted :: unsettled)
    Doubts e₀ leaver.id doubted leaver ∧
      never (·.ends (.departure leaver.id) ·) (e.after (attendedBy .pass ++ [doubted])) unsettled ∧
      d.expires (.elapse 20000) (.departure leaver.id) (e₀.timers.now + e.config.checkoutGrace) = true ∧
      d.isDeparturePending leaver.id = true ∧ d.departures leaver.id = [] ∧
      (d.apply (.elapse 20000)).2.isDeparturePending leaver.id = false ∧
      ((d.apply (.elapse 20000)).2.departures leaver.id).length = 2 ∧
      ∃ before after, d.facts (.elapse 20000) = before ++ .left leaver :: after ∧
        (d.apply (.elapse 20000)).2.departures leaver.id = d.departures leaver.id ++
          hearRound d.sink leaver.id ((d.evaluateAll before).round leaver) := by
  have started : start host .standard = .ok _ := rfl
  have debounced := departures_debounced started leaver.id
  have lasting := debounced.lasting (attendedBy .pass) doubted leaver unsettled
  have expired := debounced.expired (attendedBy .pass) doubted leaver unsettled (.elapse 20000)
  refine ⟨_,started,debounced,?doubts,?lasts,?comes,?pending,(lasting ?doubts ?lasts).2,
    (expired ?doubts ?lasts ?comes).1,?heard,(expired ?doubts ?lasts ?comes).2⟩
  case doubts => exact ⟨by decide,rfl,rfl⟩
  case lasts => exact ⟨by decide,by decide,trivial⟩
  case comes => decide
  case pending => decide
  case heard => decide

/-- If the application panics over the participant, the second group is not told. -/
theorem round_cut_short : ∃ e₀, start host .standard = .ok e₀ ∧
    let e := e₀.after (attendedBy (.panicOver leaver.id) ++ [doubted])
    e.isDeparturePending leaver.id = true ∧ e.departures leaver.id = [] ∧
      (e.round leaver).length = 2 ∧
      ((e.apply (.expire (.departure leaver.id))).2.departures leaver.id).length = 1 := by
  refine ⟨_,rfl,?_⟩
  decide

end Vicinity.Engine
