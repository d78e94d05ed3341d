import Vicinity.Proofs.Engine.Time

/-! What one operation does. Its facts are evaluated in order; the timers, the open question and the
answers change in a few operations only, and `moved` says how. -/
namespace Vicinity.Engine

variable {e f g : Engine} {op : Operation} {body : Message.Body}

/-! ## Messages -/

/-- The part of a message that a node takes in. It takes in nothing of its own, and nothing after
its end. -/
def heeds? (e : Engine) (m : Message) : Option Message.Body :=
  if e.stopped || m.sender == e.self.id then none else some m.body

/-- What a node takes in with an operation. -/
def heard? (e : Engine) : Operation → Option Message.Body
  | .hear m => e.heeds? m
  | .hearPayload payload =>
    if payloadLimit < payload.size then none else (Message.decode payload).toOption.bind e.heeds?
  | _ => none

theorem hear_eq (e : Engine) (m : Message) : e.hear m = (e.heeds? m).elim e e.hearBody := by
  rw [hear,heeds?]
  split <;> rfl

theorem hearPayload_eq (e : Engine) (payload : ByteArray) :
    (e.hearPayload payload).2 = (e.heard? (.hearPayload payload)).elim e e.hearBody := by
  by_cases large : payloadLimit < payload.size
  · simp [hearPayload,heard?,large]
  · cases decoded : Message.decode payload with
    | error cause => simp [hearPayload,heard?,large,decoded,Except.toOption]
    | ok m => simp [hearPayload,heard?,large,decoded,Except.toOption,hear_eq]

theorem apply_heard (heard : e.heard? op = some body) : (e.apply op).2 = e.hearBody body := by
  cases op <;> simp only [heard?,reduceCtorEq] at heard
  case hear m => exact (hear_eq e m).trans (by rw [heard]; rfl)
  case hearPayload payload =>
    exact (hearPayload_eq e payload).trans (by rw [heard?,heard]; rfl)

theorem heeds?_live {m : Message} (heeds : e.heeds? m = some body) : e.stopped = false := by
  rw [heeds?] at heeds
  split at heeds
  · cases heeds
  next open' =>
    simp only [Bool.or_eq_true,not_or] at open'
    exact Bool.eq_false_iff.mpr open'.1

theorem heard?_live (heard : e.heard? op = some body) : e.stopped = false := by
  cases op <;> simp only [heard?,reduceCtorEq] at heard
  case hear m => exact heeds?_live heard
  case hearPayload payload =>
    split at heard
    · cases heard
    · obtain ⟨m,_,heeds⟩ := Option.bind_eq_some_iff.mp heard
      exact heeds?_live heeds

/-- What a message changes at once. -/
def prepared (e : Engine) : Message.Body → Engine
  | .checkOut entity false => e.awaitDeparture entity
  | .checkOut entity true => e.settleDeparture entity
  | .propertiesUpdate entity _ => e.settleDeparture entity
  | .syncResponse entity => e.collect entity
  | _ => e

/-- What a message gives a node to work through. -/
def tasks (e : Engine) : Message.Body → List Task
  | .checkIn entity => [.evaluate (.apart e.self entity .sameWifi),.evaluate (.arrived entity)]
  | .checkOut entity true => [.evaluate (.left entity)]
  | .checkOut _ false => []
  | .propertiesUpdate entity old => [.evaluate (.changed entity old)]
  | .proximityUpdate e1 e2 d => [.evaluate (.apart e1 e2 d),.evaluate (.around e1 e2 d)]
  | .beaconReport entity beacons => reportTasks entity beacons
  | .syncRequest topic beacons wanted within =>
    if e.policy.proximityChanges then [.answer topic beacons wanted within] else []
  | .syncResponse _ => []

theorem prepared_eq (e : Engine) (body : Message.Body) :
    ∃ t q, e.prepared body = { e with timers := t, query := q } := by
  cases body with
  | checkOut entity valid =>
    cases valid
    · simp only [prepared,awaitDeparture]
      split
      next t _ => exact ⟨t,e.query,rfl⟩
      next => exact ⟨e.timers,e.query,rfl⟩
    · exact ⟨_,e.query,rfl⟩
  | propertiesUpdate entity old => exact ⟨_,e.query,rfl⟩
  | syncResponse entity => exact ⟨e.timers,_,rfl⟩
  | _ => exact ⟨e.timers,e.query,rfl⟩

theorem hearBody_eq (e : Engine) (body : Message.Body) :
    e.hearBody body = (e.prepared body).work (e.tasks body) := by
  have idle : ∀ f : Engine, f.work [] = f := fun f => by
    rw [work]
    split <;> rfl
  cases body with
  | checkOut entity valid => cases valid <;> first | rfl | exact (idle _).symm
  | syncRequest topic beacons wanted within =>
    simp only [hearBody,prepared,tasks]
    split
    · rfl
    · exact (idle e).symm
  | syncResponse entity => exact (idle _).symm
  | _ => rfl

/-! ## The connection -/

/-- The node has another connection, and perhaps says other things of itself. -/
structure Rewired (e f : Engine) : Prop where
  rewired : ∃ t self v, f = { e with transport := t, self := self, visibility := v } ∧
    self.id = e.self.id

theorem Rewired.refl (e : Engine) : Rewired e e := ⟨e.transport,e.self,e.visibility,rfl,rfl⟩

theorem Rewired.trans (first : Rewired e f) (second : Rewired f g) : Rewired e g := by
  obtain ⟨t,self,v,rfl,same⟩ := first
  obtain ⟨u,other,w,rfl,same'⟩ := second
  exact ⟨u,other,w,rfl,same'.trans same⟩

theorem Rewired.visibility (e : Engine) (v : Visibility) :
    Rewired e { e with visibility := v } :=
  ⟨e.transport,e.self,v,rfl,rfl⟩

theorem publish_rewired (e : Engine) (c : Channel) (logId : String) (body : Message.Body) :
    Rewired e (e.publish c logId body) := by
  rw [publish]
  split
  · exact ⟨_,e.self,e.visibility,rfl,rfl⟩
  · exact .refl e

theorem listen_rewired (e : Engine) (c : Channel) : Rewired e (e.listen c) := by
  rw [listen]
  split
  · exact ⟨_,e.self,e.visibility,rfl,rfl⟩
  · exact .refl e

theorem listenEach_rewired (e : Engine) (cs : List Channel) : Rewired e (cs.foldl listen e) := by
  induction cs generalizing e with
  | nil => exact .refl e
  | cons c cs ih => exact (listen_rewired e c).trans (ih _)

theorem connected_rewired (e : Engine) : Rewired e e.connected := by
  unfold connected
  dsimp only
  split
  · exact (publish_rewired ..).trans (listenEach_rewired ..)
  · exact listenEach_rewired ..

theorem replaceSelf_rewired {new : Entity} {announce : Bool} (same : new.id = e.self.id)
    (replaced : e.replaceSelf new announce = .ok f) : Rewired e f := by
  rw [replaceSelf] at replaced
  cases reconnected : e.transport.reconnect with
  | error cause => rw [reconnected] at replaced; cases replaced
  | ok t =>
    rw [reconnected] at replaced
    cases replaced
    have linked : Rewired e { e with transport := t } := ⟨t,e.self,e.visibility,rfl,rfl⟩
    have renamed : ∀ f : Engine, Rewired e f → Rewired e { f with self := new } := by
      rintro _ ⟨u,self,v,rfl,_⟩
      exact ⟨u,new,v,rfl,same⟩
    refine renamed _ (linked.trans (.trans ?_ (listenEach_rewired ..)))
    split
    · exact publish_rewired ..
    · exact .refl _

theorem settled_rewired {r : Except TransportError Engine}
    (rewired : ∀ f, r = .ok f → Rewired e f) : Rewired e (e.settled r).2 := by
  simp only [settled]
  split
  next f => exact rewired f rfl
  next => exact .refl e

theorem updateSelf_rewired (e : Engine) (new : Entity) : Rewired e (e.updateSelf new).2 := by
  rw [updateSelf]
  split
  next same => exact settled_rewired fun f => replaceSelf_rewired same
  next => exact .refl e

theorem enterGhost_rewired (e : Engine) : Rewired e e.enterGhost.2 := by
  rw [enterGhost]
  split
  · exact .refl e
  next before v _ =>
    refine (Rewired.visibility e v).trans (.trans ?_
      (settled_rewired fun f => replaceSelf_rewired rfl))
    split
    · exact publish_rewired ..
    · exact .refl _

theorem leaveGhost_rewired (e : Engine) : Rewired e e.leaveGhost.2 := by
  rw [leaveGhost]
  split
  · exact .refl e
  next after v _ =>
    refine (Rewired.visibility e v).trans (.trans ?_
      (settled_rewired fun f => replaceSelf_rewired rfl))
    split
    · exact publish_rewired ..
    · exact .refl _

/-! ## The timers and the open question -/

/-- The timers, the open question and the answers are the same. -/
structure Still (e f : Engine) : Prop where
  config : f.config = e.config
  id : f.self.id = e.self.id
  query : f.query = e.query
  timers : f.timers = e.timers
  stopped : f.stopped = e.stopped
  completed : f.completed = e.completed

theorem Still.refl (e : Engine) : Still e e := ⟨rfl,rfl,rfl,rfl,rfl,rfl⟩

theorem Still.trans (first : Still e f) (second : Still f g) : Still e g :=
  ⟨second.config.trans first.config,second.id.trans first.id,second.query.trans first.query,
    second.timers.trans first.timers,second.stopped.trans first.stopped,
    second.completed.trans first.completed⟩

theorem Rewired.still (rewired : Rewired e f) : Still e f := by
  obtain ⟨t,self,v,rfl,same⟩ := rewired
  exact ⟨rfl,same,rfl,rfl,rfl,rfl⟩

theorem Sent.still (sent : Sent e f) : Still e f := by
  obtain ⟨more,rfl⟩ := sent
  exact ⟨rfl,rfl,rfl,rfl,rfl,rfl⟩

theorem beside_still (same : f.self.id = g.self.id) : Still g (f.beside g) :=
  ⟨rfl,same,rfl,rfl,rfl,rfl⟩

theorem tell_still (e : Engine) (sub : Subscription) (p : Payload) :
    Still e (e.tell sub p).2 := by
  have aside : (e.tell sub p).2 = (e.tell sub p).2.beside e :=
    congrArg Prod.snd (tell_beside (e := e) (g := e) sub p)
  rw [aside]
  exact beside_still (by rw [(tell_kept sub p).1])

theorem unsubscribe_still (e : Engine) (sub : Subscription) : Still e (e.unsubscribe sub).2 := by
  have aside : (e.unsubscribe sub).2 = (e.unsubscribe sub).2.beside e :=
    congrArg Prod.snd (unsubscribe_beside (e := e) (g := e) sub)
  rw [aside]
  exact beside_still (by rw [(unsubscribe_kept sub).1])

theorem work_still (e : Engine) (ts : List Task) : Still e (e.work ts) := by
  rw [work_eq]
  have kept : (e.evaluateAll (e.workFacts ts)).self = e.self := (evaluateAll_kept _).1
  split
  · exact beside_still (by rw [kept])
  · have sent := sends_sent e ts
    refine sent.still.trans (beside_still ?_)
    rw [kept,sent.still.id]

theorem countScan_still (e : Engine) : Still e e.countScan.2 := by
  rw [countScan]
  split <;> exact ⟨rfl,rfl,rfl,rfl,rfl,rfl⟩

theorem report_still (e : Engine) (beacons : List Entity) : Still e (e.report beacons) := by
  have counted := countScan_still e
  rw [report]
  split
  · cases count : e.countScan with
    | mk isDue f =>
      rw [count] at counted
      cases isDue
      · exact counted
      · exact counted.trans (publish_rewired f ..).still
  · exact .refl e

theorem scan_still (e : Engine) (readings : List BeaconReading) : Still e (e.scan readings) := by
  rw [scan]
  split
  · exact ⟨rfl,rfl,rfl,rfl,rfl,rfl⟩
  split
  · exact .refl e
  · have still := (work_still e (scanTasks e.self (readings.map BeaconReading.entity))).trans
      (report_still _ (readings.map BeaconReading.entity))
    exact ⟨still.config,still.id,still.query,still.timers,still.stopped,still.completed⟩

/-- The topic of a question whose time may come. -/
def Deferred.topic? : Deferred → Option String
  | .departure _ => none
  | .query topic _ => some topic

/-- A timer waits for every open question and for nothing else under its key; what waits under a
departure is the departure of that participant; after the end nothing waits. -/
structure Sound (e : Engine) : Prop where
  timers : e.timers.Sound
  stopped : e.timers.stopped = e.stopped
  silent : e.stopped = true → ∀ key, e.timers.waiting? key = none
  departures : ∀ x w, e.timers.waiting? (.departure x) = some w →
    ∃ entity, w.2 = .departure entity ∧ entity.id = x
  query : (e.timers.waiting? .query).map (·.2.topic?) = e.query.map fun q => some q.topic

theorem Sound.still (sound : e.Sound) (still : Still e f) : f.Sound where
  timers := by rw [still.timers]; exact sound.timers
  stopped := by rw [still.timers,still.stopped]; exact sound.stopped
  silent := by rw [still.timers,still.stopped]; exact sound.silent
  departures := by rw [still.timers]; exact sound.departures
  query := by rw [still.timers,still.query]; exact sound.query

theorem Sound.isPending_query (sound : e.Sound) :
    e.timers.isPending .query = e.isQueryPending := by
  have query := congrArg Option.isSome sound.query
  simpa [sound.timers.isPending_eq,isQueryPending] using query

theorem Sound.asked (sound : e.Sound) {w : Nat × Deferred}
    (waits : e.timers.waiting? .query = some w) :
    ∃ q within, e.query = some q ∧ w.2 = .query q.topic within := by
  have query := sound.query
  rw [waits] at query
  cases asked : e.query with
  | none => simp [asked] at query
  | some q =>
    obtain ⟨d,task⟩ := w
    cases task <;> simp [asked,Deferred.topic?] at query
    next topic within => exact ⟨q,within,rfl,by rw [query]⟩

/-! ## What is due -/

theorem closeAll_departures (e : Engine) {due : List (TimerKey × Deferred)}
    (only : ∀ k ∈ due, ∃ entity, k.2 = .departure entity) :
    e.closeAll (due.map (·.2)) = e := by
  induction due with
  | nil => rfl
  | cons k due ih =>
    obtain ⟨entity,departure⟩ := only k (List.mem_cons_self ..)
    rw [List.map_cons,departure]
    exact ih fun k member => only k (List.mem_cons_of_mem _ member)

/-- The task of the open question, if its time comes with an operation. -/
def closing? (e : Engine) (op : Operation) : Option Deferred :=
  ((e.timers.waiting? .query).filter fun w => e.expires op .query w.1).map (·.2)

theorem Sound.due_departure (sound : e.Sound) {due : List (TimerKey × Deferred)}
    (isDue : Due e op due) {x : EntityId} {task : Deferred} (member : (.departure x,task) ∈ due) :
    ∃ entity, task = .departure entity := by
  obtain ⟨d,waits,_⟩ := (isDue.members _ _).mp member
  obtain ⟨entity,departure,_⟩ := sound.departures x _ waits
  exact ⟨entity,departure⟩

/-- Of all that is due, only the task of the open question closes it. -/
theorem Sound.closeAll_released (sound : e.Sound) (op : Operation) (f : Engine) :
    f.closeAll (e.released op).1 = (e.closing? op).elim f f.close := by
  obtain ⟨due,isDue⟩ := due_of sound.timers op
  rw [isDue.tasks]
  have departures : ∀ part : List (TimerKey × Deferred), (∀ k ∈ part, k ∈ due) →
      TimerKey.query ∉ part.map (·.1) → ∀ k ∈ part, ∃ entity, k.2 = .departure entity := by
    rintro part sub absent ⟨key,task⟩ member
    cases key with
    | departure x => exact sound.due_departure isDue (sub _ member)
    | query => exact absurd (List.mem_map.mpr ⟨_,member,rfl⟩) absent
  cases closing : e.closing? op with
  | none =>
    refine closeAll_departures f (departures due (fun _ => id) fun member => ?_)
    obtain ⟨⟨_,task⟩,member,rfl⟩ := List.mem_map.mp member
    obtain ⟨d,waits,passes⟩ := (isDue.members _ _).mp member
    simp [closing?,waits,passes,Option.filter_some] at closing
  | some closed =>
    obtain ⟨⟨d,task⟩,waits,rfl⟩ := Option.map_eq_some_iff.mp closing
    obtain ⟨waits,passes⟩ := Option.filter_eq_some_iff.mp waits
    have member := (isDue.members _ _).mpr ⟨d,waits,passes⟩
    obtain ⟨before,after,split⟩ := List.append_of_mem member
    have keys := isDue.keys
    simp only [split,List.map_append,List.map_cons,List.nodup_append,List.nodup_cons] at keys
    have early := departures before (fun k h => by simp [split,h]) fun h =>
      keys.2.2 _ h _ (List.mem_cons_self ..) rfl
    have late := departures after (fun k h => by simp [split,h]) keys.2.1.1
    rw [split,List.map_append,List.map_cons]
    calc f.closeAll (before.map (·.2) ++ task :: after.map (·.2))
        = ((f.closeAll (before.map (·.2))).close task).closeAll (after.map (·.2)) := by
          simp [closeAll]
      _ = f.close task := by
          rw [closeAll_departures f early,closeAll_departures _ late]

/-! ## One operation -/

/-- The node as an operation leaves its timers, the open question and the answers. -/
def moved (e : Engine) (op : Operation) : Engine :=
  match op with
  | .hear _ | .hearPayload _ => (e.heard? op).elim e e.prepared
  | .ask token _ within timeout =>
    if e.stopped || e.isQueryPending then e
    else { e with
      query := some ⟨replyTopic token,[]⟩
      timers := e.timers.withTask .query timeout (.query (replyTopic token) within) }
  | .elapse _ | .expire _ | .expireDepartures =>
    (e.closing? op).elim (e.withTimers (e.released op).2) (e.withTimers (e.released op).2).close
  | .stop => e.stop
  | _ => e

/-- A question that may be opened is, and the network is asked. -/
theorem Sound.ask_accepted (sound : e.Sound) (free : (e.stopped || e.isQueryPending) = false)
    (token : String) (wanted : Group) (within : Distance) (timeout : Nat) :
    let f := (e.moved (.ask token wanted within timeout)).listen (.reply (replyTopic token))
    e.ask token wanted within timeout =
      (true,f.publish .broadcast f.stamp (.syncRequest (replyTopic token) f.cache wanted within)) := by
  obtain ⟨live,closed⟩ := Bool.or_eq_false_iff.mp free
  have armed := Timers.arm_idle (sound.stopped.trans live) (sound.isPending_query.trans closed)
    timeout (.query (replyTopic token) within)
  simp only [ask,free,Bool.false_eq_true,if_false,armed,moved]

theorem hear_moved (hears : e.moved op = (e.heard? op).elim e e.prepared)
    (applied : (e.apply op).2 = (e.heard? op).elim e e.hearBody) :
    Still (e.moved op) (e.apply op).2 := by
  rw [hears,applied]
  cases heard : e.heard? op with
  | none => exact .refl e
  | some body =>
    rw [Option.elim_some,Option.elim_some,hearBody_eq]
    exact work_still ..

theorem pass_moved (sound : e.Sound) (passes : op.passesTime = true)
    (moved : e.moved op = (e.closing? op).elim (e.withTimers (e.released op).2)
      (e.withTimers (e.released op).2).close) : Still (e.moved op) (e.apply op).2 := by
  rw [apply_released passes,carryAll_eq,moved,← sound.closeAll_released op]
  exact beside_still (by rw [(evaluateAll_kept _).1,closeAll_self])

theorem Sound.apply_moved (sound : e.Sound) (op : Operation) :
    Still (e.moved op) (e.apply op).2 := by
  cases op
  case trackDistance id anchor others =>
    simp only [apply,moved,trackDistance]
    split
    · exact tell_still ..
    · exact ⟨rfl,rfl,rfl,rfl,rfl,rfl⟩
  case trackGeofence id anchor members radius =>
    simp only [apply,moved,trackGeofence]
    split
    · exact tell_still ..
    split
    · exact tell_still ..
    · exact ⟨rfl,rfl,rfl,rfl,rfl,rfl⟩
  case unsubscribe sub => exact unsubscribe_still e sub
  case connected => exact (connected_rewired e).still
  case hear m => exact hear_moved rfl (hear_eq e m)
  case hearPayload payload => exact hear_moved rfl (hearPayload_eq e payload)
  case scan readings => exact scan_still e readings
  case ask token wanted within timeout =>
    by_cases free : (e.stopped || e.isQueryPending) = true
    · simp only [apply,moved,ask,free,if_true]
      exact .refl e
    · simp only [apply,sound.ask_accepted (Bool.eq_false_iff.mpr free)]
      exact (listen_rewired ..).still.trans (publish_rewired ..).still
  case elapse => exact pass_moved sound rfl rfl
  case expire => exact pass_moved sound rfl rfl
  case expireDepartures => exact pass_moved sound rfl rfl
  case updateSelf new => exact (updateSelf_rewired e new).still
  case enterGhost => exact (enterGhost_rewired e).still
  case leaveGhost => exact (leaveGhost_rewired e).still
  case addPois json =>
    simp only [apply,moved,addPois]
    split <;> exact ⟨rfl,rfl,rfl,rfl,rfl,rfl⟩
  case crossRegion name entered =>
    simp only [apply,moved,crossRegion,tellPoi]
    split
    · exact .refl e
    · split <;> exact ⟨rfl,rfl,rfl,rfl,rfl,rfl⟩
  all_goals exact ⟨rfl,rfl,rfl,rfl,rfl,rfl⟩

/-- No operation changes the settings. -/
theorem Sound.config_apply (sound : e.Sound) (op : Operation) :
    (e.apply op).2.config = e.config := by
  have hears : ((e.heard? op).elim e e.prepared).config = e.config := by
    cases e.heard? op with
    | none => rfl
    | some body =>
      obtain ⟨t,q,eq⟩ := prepared_eq e body
      rw [Option.elim_some,eq]
  have closes : ((e.closing? op).elim (e.withTimers (e.released op).2)
      (e.withTimers (e.released op).2).close).config = e.config := by
    cases e.closing? op with
    | none => rfl
    | some d => cases d <;> rfl
  rw [(sound.apply_moved op).config]
  cases op
  case hear => exact hears
  case hearPayload => exact hears
  case ask => simp only [moved]; split <;> rfl
  case elapse => exact closes
  case expire => exact closes
  case expireDepartures => exact closes
  case stop => simp only [moved,stop]; split <;> rfl
  all_goals rfl

/-! ## The invariant -/

/-- Fewer tasks may wait, as long as the one of the open question goes with it. -/
theorem Sound.of_fewer (sound : e.Sound) (timers : f.timers.Sound)
    (stopped : f.timers.stopped = e.timers.stopped) (same : f.stopped = e.stopped)
    (fewer : ∀ key w, f.timers.waiting? key = some w → e.timers.waiting? key = some w)
    (query : (f.timers.waiting? .query).map (·.2.topic?) = f.query.map fun q => some q.topic) :
    f.Sound where
  timers := timers
  stopped := by rw [stopped,same,sound.stopped]
  silent ended key := by
    cases waits : f.timers.waiting? key with
    | none => rfl
    | some w =>
      have old := fewer key w waits
      rw [sound.silent (same ▸ ended)] at old
      cases old
  departures x w waits := sound.departures x w (fewer _ w waits)
  query := query

theorem Sound.settleDeparture (sound : e.Sound) (entity : Entity) :
    (e.settleDeparture entity).Sound := by
  have waiting := sound.timers.waiting?_cancel (.departure entity.id)
  refine sound.of_fewer (sound.timers.cancel _) ?_ rfl (fun key w waits => ?_) ?_
  · exact sound.timers.cancel_stopped _
  · rw [Engine.settleDeparture,waiting] at waits
    split at waits
    · cases waits
    · exact waits
  · rw [Engine.settleDeparture,waiting]
    exact sound.query

theorem Sound.awaitDeparture_eq (sound : e.Sound) (live : e.stopped = false) (entity : Entity) :
    e.awaitDeparture entity = if e.isDeparturePending entity.id then e
      else e.withTimers (e.timers.withTask (.departure entity.id) e.config.checkoutGrace
        (.departure entity)) := by
  have running := sound.stopped.trans live
  rw [awaitDeparture,isDeparturePending]
  by_cases pending : e.timers.isPending (.departure entity.id) = true
  · rw [Timers.arm_pending running pending,if_pos pending]
  · rw [Timers.arm_idle running (Bool.eq_false_iff.mpr pending),if_neg pending]
    rfl

theorem Sound.awaitDeparture (sound : e.Sound) (live : e.stopped = false) (entity : Entity) :
    (e.awaitDeparture entity).Sound := by
  rw [sound.awaitDeparture_eq live]
  split
  · exact sound
  next idle =>
    have idle := Bool.eq_false_iff.mpr idle
    have waiting := sound.timers.waiting?_withTask idle e.config.checkoutGrace (.departure entity)
    constructor
    · exact sound.timers.withTask idle ..
    · exact sound.stopped
    · exact fun ended => absurd (live.symm.trans ended) Bool.false_ne_true
    · intro x w waits
      rw [withTimers,waiting] at waits
      split at waits
      next same =>
        cases waits
        exact ⟨entity,rfl,by simpa using (eq_of_beq same).symm⟩
      next => exact sound.departures x w waits
    · rw [withTimers,waiting]
      exact sound.query

theorem Sound.prepared (sound : e.Sound) (live : e.stopped = false) (body : Message.Body) :
    (e.prepared body).Sound := by
  cases body with
  | checkOut entity valid =>
    cases valid
    · exact sound.awaitDeparture live entity
    · exact sound.settleDeparture entity
  | propertiesUpdate entity old => exact sound.settleDeparture entity
  | syncResponse entity =>
    refine ⟨sound.timers,sound.stopped,sound.silent,sound.departures,?_⟩
    have query := sound.query
    simp only [Engine.prepared,collect,query,Option.map_map]
    rfl
  | _ => exact sound

theorem Sound.ask (sound : e.Sound) (free : (e.stopped || e.isQueryPending) = false)
    (topic : String) (within : Distance) (timeout : Nat) :
    { e with
      query := some ⟨topic,[]⟩
      timers := e.timers.withTask .query timeout (.query topic within) }.Sound := by
  obtain ⟨live,closed⟩ := Bool.or_eq_false_iff.mp free
  have idle := sound.isPending_query.trans closed
  have waiting := sound.timers.waiting?_withTask idle timeout (.query topic within)
  constructor
  · exact sound.timers.withTask idle ..
  · exact sound.stopped
  · exact fun ended => absurd (live.symm.trans ended) Bool.false_ne_true
  · intro x w waits
    rw [waiting] at waits
    exact sound.departures x w waits
  · rw [waiting]
    rfl

theorem Sound.released (sound : e.Sound) (op : Operation) :
    ((e.closing? op).elim (e.withTimers (e.released op).2)
      (e.withTimers (e.released op).2).close).Sound := by
  have waiting := waiting?_released sound.timers op
  have fewer : ∀ key w, (e.released op).2.waiting? key = some w →
      e.timers.waiting? key = some w := fun key w waits =>
    Option.eq_some_of_filter_eq_some ((waiting key).symm.trans waits)
  have timers := released_sound sound.timers op
  have stopped := released_stopped sound.timers op
  have query := waiting .query
  cases waits : e.timers.waiting? .query with
  | none =>
    have none : e.closing? op = none := by simp [closing?,waits]
    rw [none]
    refine sound.of_fewer timers stopped rfl fewer ?_
    have asked := sound.query
    rw [waits] at asked query
    rw [Option.elim_none,withTimers,query]
    exact asked
  | some w =>
    obtain ⟨q,within,asked,task⟩ := sound.asked waits
    rw [waits] at query
    by_cases passes : e.expires op .query w.1 = true
    · have some : e.closing? op = some w.2 := by simp [closing?,waits,passes,Option.filter_some]
      rw [some,Option.elim_some,task]
      refine sound.of_fewer timers stopped rfl fewer ?_
      simp only [close,withTimers,query]
      simp [passes,Option.filter_some]
    · have none : e.closing? op = none := by simp [closing?,waits,passes,Option.filter_some]
      rw [none]
      refine sound.of_fewer timers stopped rfl fewer ?_
      have old := sound.query
      rw [waits] at old
      simp only [Option.elim_none,withTimers,query]
      simpa [passes,Option.filter_some] using old

theorem Sound.stop (sound : e.Sound) : e.stop.Sound := by
  rw [Engine.stop]
  split
  · exact sound
  · exact ⟨Timers.stop_sound _,rfl,fun _ _ => rfl,(fun x w waits => by cases waits),rfl⟩

theorem Sound.moved (sound : e.Sound) (op : Operation) : (e.moved op).Sound := by
  have hears : ((e.heard? op).elim e e.prepared).Sound := by
    cases heard : e.heard? op with
    | none => exact sound
    | some body => exact sound.prepared (heard?_live heard) body
  cases op
  case hear => exact hears
  case hearPayload => exact hears
  case ask token wanted within timeout =>
    unfold Engine.moved
    dsimp only
    split
    · exact sound
    next free => exact sound.ask (Bool.eq_false_iff.mpr free) ..
  case elapse => exact sound.released _
  case expire => exact sound.released _
  case expireDepartures => exact sound.released _
  case stop => exact sound.stop
  all_goals exact sound

theorem Sound.apply (sound : e.Sound) (op : Operation) : (e.apply op).2.Sound :=
  (sound.moved op).still (sound.apply_moved op)

theorem start_sound {self : Entity} {config : Config} (started : start self config = .ok e) :
    e.Sound := by
  rw [start] at started
  split at started
  · cases started
  · cases started
    exact ⟨Timers.start_sound _,rfl,fun _ _ => rfl,(fun x w waits => by cases waits),rfl⟩

section Start

variable {self : Entity} {config : Config}

theorem start_idle (started : start self config = .ok e) (key : TimerKey) :
    e.timers.waiting? key = none := by
  rw [start] at started
  split at started <;> cases started
  rfl

theorem start_unasked (started : start self config = .ok e) : e.query = none := by
  rw [start] at started
  split at started <;> cases started
  rfl

theorem start_unanswered (started : start self config = .ok e) : e.completed = [] := by
  rw [start] at started
  split at started <;> cases started
  rfl

end Start

end Vicinity.Engine
