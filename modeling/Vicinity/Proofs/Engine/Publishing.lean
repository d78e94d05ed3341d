import Vicinity.Proofs.Engine.Surroundings

/-! What a node says to the network. `sayings` gives what an operation tries to say, one thing at
most; all of it goes out if the connection takes messages at that time, and nothing otherwise. -/
namespace Vicinity

namespace Transport

variable {t : Transport}

/-- Whether a message that is published now goes out. -/
def accepts (t : Transport) : Bool := t.connected && !t.refusesPublish

/-- A connection over which messages went out. -/
def sent (t : Transport) (ms : List (Channel × Message)) : Transport :=
  { t with published := t.published ++ ms }

@[simp] theorem sent_nil (t : Transport) : t.sent [] = t := by
  rw [sent,List.append_nil]

theorem publish_accepted (accepts : t.accepts = true) (c : Channel) (m : Message) :
    t.publish c m = .ok (t.sent [(c,m)]) := by
  simp only [Transport.accepts,Bool.and_eq_true,Bool.not_eq_true'] at accepts
  simp [publish,sent,accepts]

theorem publish_refused (refuses : t.accepts = false) (c : Channel) (m : Message) :
    ∃ cause, t.publish c m = .error cause := by
  rw [publish]
  by_cases connected : t.connected = true
  · have takesNone : t.refusesPublish = true := by simpa [accepts,connected] using refuses
    exact ⟨.publishFailed c.name "injected failure",by simp [connected,takesNone]⟩
  · exact ⟨notConnected,by simp [connected]⟩

/-- A connection in a session that has just begun. -/
def linked (t : Transport) : Transport :=
  { t with reconnects := t.reconnects + 1, topics := [], connected := true }

/-- Why no new session begins. -/
def refusal : TransportError := .connectionFailed "injected reconnect failure"

theorem reconnect_eq (t : Transport) :
    t.reconnect = if t.refusesReconnect then .error refusal else .ok t.linked := rfl

/-- The names of channels, as a connection keeps them. -/
def topicsOf (cs : List Channel) : List String :=
  cs.foldl (fun ns c => insertTopic c.name ns) []

end Transport

namespace Engine

variable {e : Engine} {op : Operation}

/-- A node with another connection. -/
def withTransport (e : Engine) (t : Transport) : Engine := { e with transport := t }

/-- Something to say, on a channel. -/
structure Saying where
  channel : Channel
  logId : String
  body : Message.Body

/-- The message in which a participant says it. -/
def Saying.signed (s : Saying) (id : EntityId) : Channel × Message :=
  (s.channel,⟨id,s.logId,s.body⟩)

/-- What goes out of things that are said now. -/
def uttered (e : Engine) (ss : List Saying) : List (Channel × Message) :=
  if e.transport.accepts then ss.map (·.signed e.self.id) else []

/-- A node that has tried to say things. -/
def say (e : Engine) (ss : List Saying) : Engine :=
  e.withTransport (e.transport.sent (e.uttered ss))

/-! ## Publishing and listening -/

@[simp] theorem uttered_nil (e : Engine) : e.uttered [] = [] := by
  rw [uttered]
  split <;> rfl

theorem uttered_if (e : Engine) (b : Bool) (s : Saying) : e.uttered (if b then [s] else []) =
    if b && e.transport.accepts then [s.signed e.self.id] else [] := by
  cases b
  · exact uttered_nil e
  · exact congrArg (if e.transport.accepts then · else []) (List.map_singleton ..)

@[simp] theorem say_nil (e : Engine) : e.say [] = e := by
  rw [say,uttered_nil,Transport.sent_nil]
  rfl

theorem publish_eq (e : Engine) (c : Channel) (logId : String) (body : Message.Body) :
    e.publish c logId body = e.say [⟨c,logId,body⟩] := by
  rw [publish,say,uttered]
  by_cases accepts : e.transport.accepts = true
  · rw [Transport.publish_accepted accepts,if_pos accepts]
    rfl
  · obtain ⟨cause,refused⟩ := Transport.publish_refused (Bool.eq_false_iff.mpr accepts) c
      ⟨e.self.id,logId,body⟩
    rw [refused,if_neg accepts,Transport.sent_nil]
    rfl

theorem publish_if (e : Engine) (b : Bool) (c : Channel) (logId : String) (body : Message.Body) :
    (if b then e.publish c logId body else e) = e.say (if b then [⟨c,logId,body⟩] else []) := by
  cases b
  · exact (say_nil e).symm
  · exact publish_eq e c logId body

/-- Listening takes nothing back that was published, and lets messages out as before. -/
theorem listen_eq (e : Engine) (c : Channel) : ∃ t, e.listen c = e.withTransport t ∧
    t.published = e.transport.published ∧ t.accepts = e.transport.accepts := by
  rw [listen,Transport.listen]
  split
  next t listened =>
    split at listened
    · cases listened
    · cases listened
      exact ⟨_,rfl,rfl,rfl⟩
  next => exact ⟨e.transport,rfl,rfl,rfl⟩

theorem listenEach_eq (e : Engine) (cs : List Channel) : ∃ t,
    cs.foldl listen e = e.withTransport t ∧ t.published = e.transport.published := by
  induction cs generalizing e with
  | nil => exact ⟨e.transport,rfl,rfl⟩
  | cons c cs ih =>
    obtain ⟨t,listened,same,_⟩ := listen_eq e c
    obtain ⟨u,rest,same'⟩ := ih (e.listen c)
    rw [listened] at rest same'
    exact ⟨u,(congrArg (cs.foldl listen) listened).trans rest,same'.trans same⟩

/-- With a connection, all the channels are listened to. -/
theorem listenEach_connected (connected : e.transport.connected = true) (cs : List Channel) :
    cs.foldl listen e = e.withTransport { e.transport with
      topics := cs.foldl (fun ns c => Transport.insertTopic c.name ns) e.transport.topics } := by
  induction cs generalizing e with
  | nil => rfl
  | cons c cs ih =>
    have listens : e.listen c = e.withTransport { e.transport with
        topics := Transport.insertTopic c.name e.transport.topics } := by
      simp [listen,Transport.listen,connected,withTransport]
    rw [List.foldl_cons,listens,ih (by exact connected)]
    rfl

/-! ## A new session -/

/-- How a node announces a change of itself. -/
def renewal (e : Engine) (new : Entity) (announce : Bool) : List Saying :=
  if announce && e.policy.groupChanges then
    [⟨.group,e.stamp,.propertiesUpdate new e.self.bag⟩]
  else []

/-- A node that has begun a new session as `new`, and has said so if asked to. -/
def renewed (e : Engine) (new : Entity) (announce : Bool) : Engine :=
  let session := { e.transport.linked with
    topics := Transport.topicsOf (Channel.shared ++ [.entity new.id]) }
  { (e.withTransport session).say (e.renewal new announce) with self := new }

theorem replaceSelf_eq (e : Engine) (new : Entity) (announce : Bool) :
    e.replaceSelf new announce =
      if e.transport.refusesReconnect then .error Transport.refusal
      else .ok (e.renewed new announce) := by
  rw [replaceSelf,Transport.reconnect_eq]
  by_cases refuses : e.transport.refusesReconnect = true
  · rw [if_pos refuses,if_pos refuses]
    rfl
  rw [if_neg refuses,if_neg refuses]
  -- the announcement goes over the new session
  have said := publish_if (e.withTransport e.transport.linked)
    (announce && e.policy.groupChanges) .group e.stamp (.propertiesUpdate new e.self.bag)
  have listened := listenEach_connected
    (e := (e.withTransport e.transport.linked).say (e.renewal new announce)) rfl
    (Channel.shared ++ [.entity new.id])
  refine congrArg Except.ok ?_
  calc _ = { ((e.withTransport e.transport.linked).say (e.renewal new announce)).listenAs new.id with
          self := new } := congrArg (fun f : Engine => { f.listenAs new.id with self := new }) said
    _ = _ := by rw [listenAs,listened]; rfl

theorem updateSelf_eq (e : Engine) (new : Entity) : e.updateSelf new =
    if new.id = e.self.id then
      if e.transport.refusesReconnect then (.error (.transport Transport.refusal),e)
      else (.ok (),e.renewed new true)
    else (.error (.execution (.selfIdentityChanged e.self.id new.id)),e) := by
  rw [updateSelf,replaceSelf_eq]
  by_cases refuses : e.transport.refusesReconnect = true
  · rw [if_pos refuses,if_pos refuses]
    rfl
  · rw [if_neg refuses,if_neg refuses]
    rfl

/-- A switch to another visibility: the node says something and begins a new session. Without the
session the switch fails, but the visibility is the other one already. -/
def switched (e : Engine) (v : Visibility) (ss : List Saying) : Except Error Bool × Engine :=
  let said := { e with visibility := v }.say ss
  if e.transport.refusesReconnect then (.error (.transport Transport.refusal),said)
  else (.ok true,said.renewed said.self false)

theorem switched_eq {v : Visibility} {ss : List Saying} (said : Engine)
    (same : said = { e with visibility := v }.say ss) :
    settledFlag (said.settled (said.replaceSelf said.self false)) = e.switched v ss := by
  have refusal : said.transport.refusesReconnect = e.transport.refusesReconnect := by
    rw [same]
    rfl
  rw [replaceSelf_eq,refusal,switched,← same]
  split <;> rfl

/-- What a node says when it goes. -/
def farewell (e : Engine) : List Saying :=
  if e.policy.groupChanges then [⟨.broadcast,e.stamp,.checkOut e.self true⟩] else []

/-- What a node says when it comes, under the policy that is in force then. -/
def greeting (e : Engine) (p : Policy) : List Saying :=
  if p.groupChanges then [⟨.broadcast,e.stamp,.checkIn e.self⟩] else []

theorem connected_eq (e : Engine) :
    e.connected = (e.say (e.greeting e.policy)).listenAs e.self.id :=
  congrArg (fun f : Engine => f.listenAs f.self.id) (publish_if ..)

theorem enterGhost_eq (e : Engine) : e.enterGhost =
    if e.isGhost then (.ok false,e)
    else e.switched ⟨.silent,some e.policy⟩ e.farewell := by
  rw [enterGhost,Visibility.enterGhost,isGhost,Visibility.isGhost]
  cases e.visibility.saved with
  | some p => rfl
  | none => exact switched_eq _ (publish_if ..)

theorem leaveGhost_eq (e : Engine) : e.leaveGhost =
    match e.visibility.saved with
    | none => (.ok false,e)
    | some p => e.switched ⟨p,none⟩ (e.greeting p) := by
  rw [leaveGhost,Visibility.leaveGhost]
  cases e.visibility.saved with
  | none => rfl
  | some p => exact switched_eq _ (publish_if ..)

/-! ## What an operation says -/

/-- What a message makes a node say: how far a peer is that reports beacons, and the answer to a
query. -/
def response (e : Engine) : Message.Body → List Saying
  | .beaconReport peer beacons =>
    if e.policy.proximityChanges then
      ((e.estimated? peer beacons).map fun d =>
        ⟨.entity peer.id,e.stamp,.proximityUpdate e.self peer d⟩).toList
    else []
  | .syncRequest topic beacons wanted within =>
    let d := Distance.fuse beacons e.cache
    if e.policy.proximityChanges && wanted.contains e.self && d ≤ within then
      [⟨.reply topic,topic,.syncResponse { e.self with type := .device, distance := d }⟩]
    else []
  | _ => []

/-- What a node tries to say in an operation. -/
def sayings (e : Engine) (op : Operation) : List Saying :=
  match op with
  | .connected => e.greeting e.policy
  | .hear _ | .hearPayload _ => (e.heard? op).elim [] e.response
  | .scan readings =>
    if !readings.isEmpty && !e.stopped && e.policy.proximityChanges && e.countScan.1 then
      [⟨.proximity,e.stamp,.beaconReport e.self (readings.map BeaconReading.entity)⟩]
    else []
  | .ask token wanted within _ =>
    if e.stopped || e.isQueryPending then []
    else [⟨.broadcast,e.stamp,.syncRequest (replyTopic token) e.cache wanted within⟩]
  | .updateSelf new =>
    if new.id = e.self.id ∧ ¬ e.transport.refusesReconnect then e.renewal new true else []
  | .enterGhost => if e.isGhost then [] else e.farewell
  | .leaveGhost => e.visibility.saved.elim [] e.greeting
  | _ => []

theorem sayings_enterGhost (shown : e.isGhost = false) : e.sayings .enterGhost = e.farewell :=
  if_neg (by simp [shown])

theorem sayings_leaveGhost {p : Policy} (saved : e.visibility.saved = some p) :
    e.sayings .leaveGhost = e.greeting p := by
  rw [sayings,saved,Option.elim_some]

/-- The messages that go out in an operation. A change of the node itself is announced over a new
session. -/
def outgoing (e : Engine) (op : Operation) : List (Channel × Message) :=
  match op with
  | .updateSelf _ => (e.withTransport e.transport.linked).uttered (e.sayings op)
  | _ => e.uttered (e.sayings op)

theorem estimate_responds (e : Engine) (peer : Entity) (beacons : List Entity) :
    e.send (.estimate peer beacons) = e.say (e.response (.beaconReport peer beacons)) := by
  rw [send,response]
  cases e.estimated? peer beacons with
  | none => simp
  | some d => exact publish_if e e.policy.proximityChanges ..

theorem answer_responds (e : Engine) (topic : String) (beacons : List Entity) (wanted : Group)
    (within : Distance) :
    (if e.policy.proximityChanges then e.answer topic beacons wanted within else e) =
      e.say (e.response (.syncRequest topic beacons wanted within)) := by
  rw [answer,response]
  by_cases advertises : e.policy.proximityChanges = true
  · by_cases isWanted : wanted.contains e.self = true
    · by_cases close : Distance.fuse beacons e.cache ≤ within
      · simp only [advertises,isWanted,close,if_true,decide_true,Bool.and_self]
        exact publish_eq ..
      · simp [advertises,isWanted,close]
    · simp [isWanted]
  · simp [advertises]

/-- What a message makes a node do besides is to respond. -/
theorem prepared_responds (e : Engine) (body : Message.Body) :
    (e.prepared body).sends (e.tasks body) = (e.prepared body).say (e.response body) := by
  have silent : ∀ f : Engine, ∀ ts : List Task, (∀ t ∈ ts, ∃ fact, t = .evaluate fact) →
      f.sends ts = f.say [] := fun f ts only => (sends_evaluations only).trans (say_nil f).symm
  cases body with
  | beaconReport peer beacons =>
    have facts : ∀ t ∈ .evaluate (.sees peer beacons) ::
        beacons.map fun b => Task.evaluate (.apart peer b b.distance),
        ∃ fact, t = .evaluate fact := by
      simp
    have rest : e.sends (reportTasks peer beacons) =
        e.sends (if beacons.isEmpty then [] else [.estimate peer beacons]) := by
      rw [reportTasks,sends,List.foldl_append]
      exact congrArg (List.foldl send · _) (sends_evaluations facts)
    refine rest.trans ?_
    cases beacons with
    | nil =>
      have nothing : e.response (.beaconReport peer []) = [] := by
        simp [response,estimated?,commonBeacons]
      exact (congrArg e.say nothing).symm ▸ (say_nil e).symm
    | cons b bs => exact estimate_responds ..
  | syncRequest topic beacons wanted within =>
    refine .trans ?_ (answer_responds e topic beacons wanted within)
    rw [tasks]
    split
    · rfl
    · rfl
  | checkOut entity valid => cases valid <;> exact silent _ _ (by simp [tasks])
  | _ => exact silent _ _ (by simp [tasks])

/-! ## What goes out -/

theorem say_published (e : Engine) (ss : List Saying) :
    (e.say ss).transport.published = e.transport.published ++ e.uttered ss := rfl

theorem renewed_published (e : Engine) (new : Entity) (announce : Bool) :
    (e.renewed new announce).transport.published = e.transport.published ++
      (e.withTransport e.transport.linked).uttered (e.renewal new announce) := rfl

theorem switched_published (e : Engine) (v : Visibility) (ss : List Saying) :
    (e.switched v ss).2.transport.published = e.transport.published ++ e.uttered ss := by
  rw [switched]
  split
  · rfl
  · simp only [renewed_published,renewal,Bool.false_and,Bool.false_eq_true,if_false,uttered_nil,
      List.append_nil]
    rfl

theorem hear_published (e : Engine) (op : Operation) :
    ((e.heard? op).elim e fun body =>
      (e.prepared body).sends (e.tasks body)).transport.published =
      e.transport.published ++ e.uttered ((e.heard? op).elim [] e.response) := by
  cases e.heard? op with
  | none => simp
  | some body =>
    obtain ⟨t,q,eq⟩ := prepared_eq e body
    rw [Option.elim_some,prepared_responds,say_published,eq]
    rfl

theorem closeAll_published (e : Engine) (ds : List Deferred) :
    (e.closeAll ds).transport.published = e.transport.published := by
  induction ds generalizing e with
  | nil => rfl
  | cons d ds ih =>
    refine (ih _).trans ?_
    cases d with
    | departure entity => rfl
    | query topic within =>
      rw [close]
      cases e.query <;> rfl

theorem countScan_scans (e : Engine) : ∃ n, e.countScan.2 = { e with scans := n } := by
  rw [countScan]
  split
  · exact ⟨0,rfl⟩
  · exact ⟨e.scans + 1,rfl⟩

theorem report_published (e : Engine) (beacons : List Entity) :
    (e.report beacons).transport.published = e.transport.published ++
      e.uttered (if e.policy.proximityChanges && e.countScan.1 then
        [⟨.proximity,e.stamp,.beaconReport e.self beacons⟩] else []) := by
  obtain ⟨n,counted⟩ := countScan_scans e
  rw [report]
  by_cases advertises : e.policy.proximityChanges = true
  · rw [if_pos advertises,advertises,Bool.true_and]
    cases count : e.countScan with
    | mk isDue f =>
      rw [count] at counted
      obtain rfl : f = _ := counted
      cases isDue with
      | false => simp
      | true =>
        simp only [publish_eq]
        rfl
  · simp [advertises]

theorem scan_published (e : Engine) (readings : List BeaconReading) :
    (e.surroundings (.scan readings)).transport.published =
      e.transport.published ++ e.uttered (e.sayings (.scan readings)) := by
  rw [surroundings,sayings]
  by_cases empty : readings.isEmpty = true
  · simp [empty]
  by_cases stopped : e.stopped = true
  · simp [empty,stopped]
  · simp only [empty,stopped]
    exact report_published ..

theorem Sound.ask_published (sound : e.Sound) (token : String) (wanted : Group)
    (within : Distance) (timeout : Nat) :
    (e.ask token wanted within timeout).2.transport.published =
      e.transport.published ++ e.uttered (e.sayings (.ask token wanted within timeout)) := by
  rw [sayings]
  by_cases free : (e.stopped || e.isQueryPending) = true
  · rw [if_pos free,Engine.ask,if_pos free,uttered_nil,List.append_nil]
  · have accepted := sound.ask_accepted (Bool.eq_false_iff.mpr free) token wanted within timeout
    obtain ⟨t,listened,same,accepts⟩ := listen_eq (e.moved (.ask token wanted within timeout))
      (.reply (replyTopic token))
    have moved : e.moved (.ask token wanted within timeout) = { e with
        query := some ⟨replyTopic token,[]⟩
        timers := e.timers.withTask .query timeout (.query (replyTopic token) within) } :=
      if_neg free
    rw [moved] at same accepts
    rw [accepted,if_neg free,publish_eq,say_published,uttered,uttered,listened,moved]
    simp only [withTransport,same,accepts]
    rfl

/-- All that goes out in an operation is added to what the node has published. -/
theorem Sound.published_apply (sound : e.Sound) (op : Operation) :
    (e.apply op).2.transport.published = e.transport.published ++ e.outgoing op := by
  rw [(apply_aside e op).transport]
  have silent : e.transport.published = e.transport.published ++ e.uttered [] := by simp
  cases op
  case connected =>
    obtain ⟨t,listened,same⟩ := listenEach_eq (e.say (e.greeting e.policy))
      (Channel.shared ++ [.entity e.self.id])
    change e.connected.transport.published = _
    rw [connected_eq,listenAs,listened]
    exact same
  case hear m => exact hear_published e (.hear m)
  case hearPayload payload => exact hear_published e (.hearPayload payload)
  case scan readings => exact scan_published e readings
  case ask token wanted within timeout => exact sound.ask_published ..
  case elapse => exact (closeAll_published ..).trans silent
  case expire => exact (closeAll_published ..).trans silent
  case expireDepartures => exact (closeAll_published ..).trans silent
  case updateSelf new =>
    simp only [surroundings,Engine.apply,updateSelf_eq,outgoing,sayings]
    by_cases same : new.id = e.self.id
    · by_cases refuses : e.transport.refusesReconnect = true
      · simp [same,refuses]
      · simp only [same,refuses]
        exact renewed_published ..
    · simp [same]
  case enterGhost =>
    simp only [surroundings,Engine.apply,enterGhost_eq,outgoing,sayings]
    split
    · exact silent
    · exact switched_published ..
  case leaveGhost =>
    simp only [surroundings,Engine.apply,leaveGhost_eq,outgoing,sayings]
    cases e.visibility.saved with
    | none => exact silent
    | some p => exact switched_published ..
  case addPois json =>
    simp only [surroundings,Engine.apply,addPois]
    split <;> exact silent
  case stop =>
    simp only [surroundings,Engine.apply,Engine.stop]
    split <;> exact silent
  all_goals exact silent

/-- What a node publishes in an operation. -/
def news (e : Engine) (op : Operation) : List (Channel × Message) :=
  (e.apply op).2.transport.published.drop e.transport.published.length

theorem Sound.news_eq (sound : e.Sound) (op : Operation) : e.news op = e.outgoing op := by
  rw [news,sound.published_apply,List.drop_left]

theorem mem_uttered {ss : List Saying} {c : Channel} {m : Message}
    (member : (c,m) ∈ e.uttered ss) : ∃ s ∈ ss, (c,m) = s.signed e.self.id := by
  rw [uttered] at member
  split at member
  · obtain ⟨s,said,signed⟩ := List.mem_map.mp member
    exact ⟨s,said,signed.symm⟩
  · cases member

/-- Whatever a node publishes, it tried to say in its own name. -/
theorem Sound.said (sound : e.Sound) {c : Channel} {m : Message} (member : (c,m) ∈ e.news op) :
    ∃ s ∈ e.sayings op, (c,m) = s.signed e.self.id := by
  rw [sound.news_eq] at member
  cases op
  case updateSelf => exact mem_uttered (e := e.withTransport e.transport.linked) member
  all_goals exact mem_uttered member

theorem start_published {self : Entity} {config : Config} (started : start self config = .ok e) :
    e.transport.published = [] := by
  rw [start] at started
  split at started <;> cases started
  rfl

end Engine

end Vicinity
