import Vicinity.Proofs.Distances
import Vicinity.Proofs.Fusion
import Vicinity.Proofs.Membership

/-! What a node makes of the beacons that a peer reports. Its estimate of the distance goes to the
peer if it lets others know of distances, and to its own subscriptions for distances otherwise; the
geofences around either of the two get it in both cases. -/
namespace Vicinity.Engine

variable {e f g : Engine} {op : Operation} {peer : Entity} {beacons : List Entity} {d : Distance}
  {v w : Visibility} {x : EntityId}

/-- A node that is the same but for its visibility. -/
def showing (e : Engine) (v : Visibility) : Engine := { e with visibility := v }

/-- A beacon of a report is among those that the node remembers. -/
def Remembers (e : Engine) (beacons : List Entity) : Prop :=
  ∃ theirs ∈ beacons, ∃ own ∈ e.cache, own.id = theirs.id

theorem commonBeacons_isEmpty :
    (e.commonBeacons beacons).isEmpty = true ↔ ¬e.Remembers beacons := by
  simp [commonBeacons,Remembers,Entity.same,List.filter_eq_nil_iff]

/-- An estimate is that of all the beacons, also of those that the node does not remember. -/
theorem estimated?_familiar (other : peer.id ≠ e.self.id) (familiar : e.Remembers beacons) :
    e.estimated? peer beacons = some (Distance.fuse beacons e.cache) := by
  have apart : peer.same e.self = false := by simp [Entity.same,other]
  have common : (e.commonBeacons beacons).isEmpty = false :=
    Bool.eq_false_iff.mpr fun none => commonBeacons_isEmpty.mp none familiar
  have fused : Distance.fuse (e.commonBeacons beacons) e.cache = Distance.fuse beacons e.cache :=
    Distance.fuse_filter ..
  rw [estimated?,apart,common,fused]
  rfl

theorem estimated?_strange (strange : ¬e.Remembers beacons) : e.estimated? peer beacons = none := by
  rw [estimated?,commonBeacons_isEmpty.mpr strange,Bool.or_true]
  rfl

/-! ## A report in general -/

/-- The facts that a report states. -/
def reportFacts (peer : Entity) (beacons : List Entity) : List Fact :=
  .sees peer beacons :: beacons.map fun b => .apart peer b b.distance

/-- A node that has evaluated what a report states. -/
def informed (e : Engine) (peer : Entity) (beacons : List Entity) : Engine :=
  e.evaluateAll (reportFacts peer beacons)

/-- The facts of the estimate that comes of a report. -/
def estimateFacts (e : Engine) (peer : Entity) (beacons : List Entity) : List Fact :=
  ((e.estimated? peer beacons).map (e.peerFacts peer)).getD []

theorem workFacts_report (live : e.stopped = false) (peer : Entity) (beacons : List Entity) :
    e.workFacts (reportTasks peer beacons) =
      reportFacts peer beacons ++ e.estimateFacts peer beacons := by
  have stated : (beacons.map fun b => Task.evaluate (.apart peer b b.distance)).flatMap Task.facts =
      beacons.map fun b => .apart peer b b.distance := by
    rw [List.flatMap_map,List.map_eq_flatMap]
    rfl
  have nothing : (beacons.map fun b => Task.evaluate (.apart peer b b.distance)).flatMap e.leaves =
      [] := by
    simp [List.flatMap_map,leaves]
  rw [workFacts,if_neg (by simp [live]),reportTasks,List.flatMap_append,List.flatMap_append,
    List.flatMap_cons,List.flatMap_cons,stated,nothing]
  cases beacons with
  | nil => simp [reportFacts,estimateFacts,estimated?,commonBeacons,leaves,Task.facts]
  | cons b bs => simp [reportFacts,estimateFacts,leaves,Task.facts]

theorem apply_report (heard : e.heard? op = some (.beaconReport peer beacons)) :
    (e.apply op).2 = ((e.informed peer beacons).evaluateAll (e.estimateFacts peer beacons)).beside
      (e.say (e.response (.beaconReport peer beacons))) := by
  have live := heard?_live heard
  have said : e.sends (reportTasks peer beacons) =
      e.say (e.response (.beaconReport peer beacons)) :=
    prepared_responds e (.beaconReport peer beacons)
  have worked : (e.apply op).2 = e.work (reportTasks peer beacons) := apply_heard heard
  rw [worked,work_eq,live,if_neg Bool.false_ne_true,said,workFacts_report live,evaluateAll_append]
  rfl

theorem apply_report_showing (v : Visibility)
    (heard : e.heard? op = some (.beaconReport peer beacons)) : ((e.showing v).apply op).2 = ((e.informed peer beacons).evaluateAll
      ((e.showing v).estimateFacts peer beacons)).beside
        ((e.showing v).say ((e.showing v).response (.beaconReport peer beacons))) := by
  have heard' : (e.showing v).heard? op = some (.beaconReport peer beacons) := by
    rw [heard?_received] at heard ⊢
    exact heard
  have informed' : (e.showing v).informed peer beacons =
      (e.informed peer beacons).beside (e.showing v) :=
    evaluateAll_beside (e := e) (g := e.showing v) _
  rw [apply_report heard',informed',evaluateAll_beside]
  rfl

/-! ## Applications that do nothing -/

/-- The application does nothing after events about a participant. -/
def Indifferent (e : Engine) (x : EntityId) : Prop := ∀ sink, e.sink = some sink →
  sink.reaction = .pass ∨ ∃ y, y ≠ x ∧ sink.reaction = .panicOver y

/-- A node with another record of what it told. -/
def recalling (e : Engine) (t : List Notice) : Engine := { e with told := t }

theorem unsubscribe_recalling (t : List Notice) (sub : Subscription) :
    (e.recalling t).unsubscribe sub =
      ((e.unsubscribe sub).1,(e.unsubscribe sub).2.recalling t) := by
  have group : (e.recalling t).group = e.group := rfl
  have proximity : (e.recalling t).proximity = e.proximity := rfl
  have geofence : (e.recalling t).geofence = e.geofence := rfl
  simp only [unsubscribe]
  rw [group,proximity,geofence]
  cases removeFirst sub e.group
  case some => rfl
  cases removeFirst sub e.proximity
  case some => rfl
  cases removeFirst sub e.geofence <;> rfl

theorem react_recalling (t : List Notice) (r : Reaction) (sub : Subscription) (p : Payload) :
    (e.recalling t).react r sub p = ((e.react r sub p).1,(e.react r sub p).2.recalling t) := by
  simp only [react]
  cases subject? p with
  | none => rfl
  | some about => cases r <;> first | rfl | simp only [unsubscribe_recalling]

theorem tell_recalling (t : List Notice) (sub : Subscription) (p : Payload) : ∃ t',
    (e.recalling t).tell sub p = ((e.tell sub p).1,(e.tell sub p).2.recalling t') := by
  cases heard : e.sink with
  | none =>
    rw [tell_unheard heard,tell_unheard (e := e.recalling t) heard]
    exact ⟨t,rfl⟩
  | some sink =>
    rw [tell_heard heard,tell_heard (e := e.recalling t) heard]
    exact ⟨⟨some sub.id,p⟩ :: t,react_recalling (e := e.noted sub p) ..⟩

theorem perform_recalling (t : List Notice) (a : Act) : ∃ t',
    (e.recalling t).perform a = ((e.perform a).1,(e.perform a).2.recalling t') := by
  cases a with
  | tell sub p => exact tell_recalling t sub p
  | observe sub center radius candidate seen =>
    cases observed : (e.inside sub.id).observe candidate.id seen radius with
    | mk transition inside =>
      rw [perform_observe observed,perform_observe (e := e.recalling t) observed]
      cases crossing? center candidate seen transition with
      | none => exact ⟨t,rfl⟩
      | some p => exact tell_recalling (e := e.place sub.id inside) t sub p

/-- Nothing that a node does depends on what it told before. -/
theorem performAll_recalling (t : List Notice) (as : List Act) : ∃ t',
    (e.recalling t).performAll as = (e.performAll as).recalling t' := by
  induction as generalizing e t with
  | nil => exact ⟨t,rfl⟩
  | cons a as ih =>
    obtain ⟨t',performed⟩ := perform_recalling (e := e) t a
    rw [performAll,performAll,performed]
    cases e.perform a with
    | mk broken after =>
      cases broken with
      | true => exact ⟨t',rfl⟩
      | false => exact ih t'

theorem Indifferent.tell (indifferent : e.Indifferent x) {p : Payload}
    (subject : subject? p = some x) (sub : Subscription) :
    ∃ t, e.tell sub p = (false,e.recalling t) := by
  cases heard : e.sink with
  | none => exact ⟨e.told,tell_unheard heard sub p⟩
  | some sink =>
    refine ⟨⟨some sub.id,p⟩ :: e.told,?_⟩
    rw [tell_heard heard]
    simp only [react,subject]
    rcases indifferent sink heard with passes | ⟨y,other,panics⟩
    · rw [passes]
      rfl
    · rw [panics]
      exact congrArg (·,e.noted sub p) (beq_eq_false_iff_ne.mpr other.symm)

theorem Indifferent.performAll_tell (indifferent : e.Indifferent x)
    {events : List (Subscription × Payload)}
    (subject : ∀ event ∈ events, subject? event.2 = some x) :
    ∃ t, e.performAll (events.map fun event => .tell event.1 event.2) = e.recalling t := by
  induction events generalizing e with
  | nil => exact ⟨e.told,rfl⟩
  | cons event events ih =>
    obtain ⟨t,told⟩ := indifferent.tell (subject event (List.mem_cons_self ..)) event.1
    have later : (e.recalling t).Indifferent x := indifferent
    obtain ⟨t',rest⟩ := ih later fun event member => subject event (List.mem_cons_of_mem _ member)
    rw [List.map_cons,performAll,perform,told]
    exact ⟨t',rest⟩

theorem Indifferent.evaluate_apart {e1 e2 : Entity} (indifferent : e.Indifferent e2.id)
    (other : e1.id ≠ e2.id) : ∃ t, e.evaluate (.apart e1 e2 d) = e.recalling t := by
  rw [evaluate,acts_apart other]
  refine indifferent.performAll_tell fun event member => ?_
  obtain ⟨sub,_,rfl⟩ := List.mem_map.mp member
  rfl

/-! ## Two runs -/

/-- What becomes of the estimate where others are let know of distances, and where they are not. -/
structure Estimated (e : Engine) (peer : Entity) (beacons : List Entity) (v w : Visibility)
    (d : Distance) (on off : Engine) : Prop where
  /-- The estimate goes to the peer, and nothing else is different besides. -/
  sent : Aside ((e.showing v).say [⟨.entity peer.id,e.stamp,.proximityUpdate e.self peer d⟩]) on
  kept : Aside (e.showing w) off
  /-- Each subscription that pairs the two is there once. -/
  once : (((e.informed peer beacons).pairing e.self peer).map (·.id)).Nodup
  /-- The events are those of the report and those of geofences, and in the other case the ones of
  the estimate between them. -/
  told : on.delivered = (e.informed peer beacons).delivered ++
    (e.informed peer beacons).aroundRound e.self peer d
  additional : off.delivered = (e.informed peer beacons).delivered ++
    hearRound e.sink peer.id ((e.informed peer beacons).distanceRound e.self peer d) ++
    (e.informed peer beacons).aroundRound e.self peer d
  geofences : off.delivered.filter tellsGeofence = on.delivered.filter tellsGeofence
  inside : ∀ id, ¬e.Takes id → off.inside id = on.inside id
  /-- What the application does after the additional events is the only other difference. -/
  indifferent : e.Indifferent peer.id →
    off = { on with told := off.told, transport := e.transport, visibility := w }

/-- A report of a peer where others are let know of distances, and where they are not. -/
structure Reported (e : Engine) (peer : Entity) (beacons : List Entity) (v w : Visibility)
    (on off : Engine) : Prop where
  estimated : e.Remembers beacons →
    Estimated e peer beacons v w (Distance.fuse beacons e.cache) on off
  strange : ¬e.Remembers beacons →
    on = (e.informed peer beacons).showing v ∧ off = (e.informed peer beacons).showing w

theorem Distinct.estimated (distinct : Distinct e) (other : peer.id ≠ e.self.id)
    {on off : Engine} (d : Distance)
    (isOn : on = ((e.informed peer beacons).evaluate (.around e.self peer d)).beside
      ((e.showing v).say [⟨.entity peer.id,e.stamp,.proximityUpdate e.self peer d⟩]))
    (isOff : off = (((e.informed peer beacons).evaluate (.apart e.self peer d)).evaluate
      (.around e.self peer d)).beside (e.showing w)) :
    Estimated e peer beacons v w d on off := by
  have kept := evaluateAll_kept (e := e) (reportFacts peer beacons)
  have known : Distinct (e.informed peer beacons) := distinct.evaluateAll _
  obtain ⟨akin,geofence⟩ := known.evaluate_apart e.self peer d
  obtain ⟨akin',same⟩ := known.evaluate_around akin geofence e.self peer d
  have apart := evaluate_apart_delivered (e := e.informed peer beacons) (d := d) other.symm
  have sink : (e.informed peer beacons).sink = e.sink := kept.2
  have onTold : on.delivered = (e.informed peer beacons).delivered ++
      (e.informed peer beacons).aroundRound e.self peer d := isOn ▸ evaluate_around_delivered
  have offTold : off.delivered = (e.informed peer beacons).delivered ++
      hearRound e.sink peer.id ((e.informed peer beacons).distanceRound e.self peer d) ++
      (e.informed peer beacons).aroundRound e.self peer d := by
    rw [← sink,← apart,← same,isOff]
    exact evaluate_around_delivered
  constructor
  case sent =>
    rw [isOn]
    exact beside_aside ((performAll_kept _).1.trans kept.1)
  case kept =>
    rw [isOff]
    exact beside_aside ((performAll_kept _).1.trans ((performAll_kept _).1.trans kept.1))
  case once => exact known.proximity.sublist (List.filter_sublist.map _)
  case told => exact onTold
  case additional => exact offTold
  case geofences =>
    have others : (hearRound e.sink peer.id ((e.informed peer beacons).distanceRound e.self peer
        d)).filter tellsGeofence = [] := List.filter_eq_nil_iff.mpr fun n member => by
      obtain ⟨sub,_,rfl⟩ := List.mem_map.mp (mem_hearRound member)
      exact Bool.false_ne_true
    rw [onTold,offTold,List.filter_append,List.filter_append,List.filter_append,others,
      List.append_nil]
  case inside =>
    intro id untaken
    rw [isOn,isOff]
    refine akin'.inside id ?_
    exact mt (takes_same ((performAll_kept _).2.trans sink)).mp untaken
  case indifferent =>
    intro indifferent
    have still : (e.informed peer beacons).Indifferent peer.id := by rwa [Indifferent,sink]
    obtain ⟨t,told⟩ := still.evaluate_apart (d := d) other.symm
    obtain ⟨t',rest⟩ := performAll_recalling (e := e.informed peer beacons) t
      ((e.informed peer beacons).acts (.around e.self peer d))
    have rest : ((e.informed peer beacons).recalling t).evaluate (.around e.self peer d) =
      ((e.informed peer beacons).evaluate (.around e.self peer d)).recalling t' := rest
    rw [isOff,isOn,told,rest]
    rfl

/-- The estimate of a peer is that of all the beacons it reports, and it makes no difference to
geofences whether the peer is told of it. -/
theorem report_estimated {self : Entity} {config : Config} {node : Engine}
    (started : start self config = .ok node) {ops : List Operation} (given : GivenOnce ops)
    (live : (node.after ops).stopped = false) {m : Message} (received : op.received? = some m)
    (reports : m.body = .beaconReport peer beacons) (foreign : m.sender ≠ self.id)
    (other : peer.id ≠ self.id) (shows : v.current.proximityChanges = true)
    (hides : w.current.proximityChanges = false) :
    Reported (node.after ops) peer beacons v w (((node.after ops).showing v).apply op).2
      (((node.after ops).showing w).apply op).2 := by
  have distinct := distinct_after started given
  have own : (node.after ops).self.id = self.id := by rw [id_after,start_self started]
  generalize node.after ops = e at *
  have heard : e.heard? op = some (.beaconReport peer beacons) := by
    rw [heard?_received,received,Option.bind_some,heeds?_foreign live (own ▸ foreign),reports]
  have other : peer.id ≠ e.self.id := own ▸ other
  have on := apply_report_showing v heard
  have off := apply_report_showing w heard
  have advertised : (e.showing v).policy.proximityChanges = true := shows
  have hidden : (e.showing w).policy.proximityChanges = false := hides
  constructor
  case estimated =>
    intro familiar
    have estimate : ∀ u, (e.showing u).estimated? peer beacons =
        some (Distance.fuse beacons e.cache) := fun _ => estimated?_familiar other familiar
    simp only [estimateFacts,response,estimate,peerFacts,advertised,hidden,Bool.false_eq_true,
      if_true,if_false,Option.map_some,Option.getD_some,Option.toList_some,say_nil] at on off
    exact distinct.estimated other _ on off
  case strange =>
    intro strange
    have nothing : ∀ u, (e.showing u).estimated? peer beacons = none :=
      fun _ => estimated?_strange strange
    simp only [estimateFacts,response,nothing,Option.map_none,Option.getD_none,Option.toList_none,
      ite_self,say_nil,evaluateAll_nil] at on off
    have aside : e.informed peer beacons = (e.informed peer beacons).beside e :=
      (evaluateAll_aside e (reportFacts peer beacons)).symm
    rw [aside]
    exact ⟨on,off⟩

/-- The beacon that the scans find, next to another participant. -/
def landmark : Entity := { Entity.bare (.of "b:1:1") .beacon with distance := .immediate }

def sightsLandmark : Operation := .hear ⟨visitor.id,"log",.beaconReport visitor [landmark]⟩

theorem remembers_landmark {own : Entity} (cached : e.cache = [own]) (same : own.id = landmark.id) :
    e.Remembers [landmark] :=
  ⟨landmark,List.mem_singleton_self _,own,cached ▸ List.mem_singleton_self _,same⟩

/-- Others are let know of arrivals and changes, and not of distances. -/
def discreet : Visibility := .start ⟨true,false⟩

/-- Distances of the node and a geofence around it, with a beacon at hand. -/
def surveys (r : Reaction) : List Operation := [
  .setSink (some ⟨true,r⟩),
  .trackDistance (.ofNat 1) watcher (.everyone "all"),
  .trackDistance (.ofNat 2) watcher (.everyone "others"),
  .trackGeofence (.ofNat 3) watcher (.everyone "all") .near,
  sights 1.5]

theorem report_estimated_visitor : ∃ node, start watcher .standard = .ok node ∧
    let e := node.after (surveys .pass)
    GivenOnce (surveys .pass) ∧ e.stopped = false ∧ e.Remembers [landmark] ∧
    (e.informed visitor [landmark]).pairing e.self visitor = e.proximity ∧
    Reported e visitor [landmark] (.start .shown) discreet
      ((e.showing (.start .shown)).apply sightsLandmark).2
      ((e.showing discreet).apply sightsLandmark).2 := by
  have started : start watcher .standard = .ok _ := rfl
  have given : GivenOnce (surveys .pass) := by
    refine ⟨by decide,fun sink first k set follows => ?_⟩
    obtain rfl : sink = ⟨true,.pass⟩ := by simpa [surveys,sights] using set
    cases follows
  exact ⟨_,started,given,rfl,remembers_landmark rfl rfl,rfl,
    report_estimated started given rfl rfl rfl (by decide) (by decide) rfl rfl⟩

/-- An application that panics over the peer is told of the estimate once, one that ends
subscriptions ends those that were told, and none at all is told nothing. A node that has ended
estimates nothing, and what the connection refuses does not reach the peer. -/
theorem estimate_cut_short : ∃ node, start watcher .standard = .ok node ∧
    let heard := fun (e : Engine) (v : Visibility) => ((e.showing v).apply sightsLandmark).2
    let e := node.after (surveys (.panicOver visitor.id))
    let leaving := node.after (surveys .leave)
    e.Remembers [landmark] ∧ ((e.informed visitor [landmark]).pairing e.self visitor).length = 2 ∧
    (heard e discreet).delivered.length = (heard e (.start .shown)).delivered.length + 1 ∧
    (heard leaving (.start .shown)).proximity = leaving.proximity ∧
    (heard leaving discreet).proximity = [] ∧
    (heard (e.apply (.setSink none)).2 discreet).delivered =
      (heard (e.apply (.setSink none)).2 (.start .shown)).delivered ∧
    (∀ op ∈ [.stop,.refusePublish true], (e.apply op).2.Remembers [landmark] ∧
      (heard (e.apply op).2 (.start .shown)).transport.published = e.transport.published) := by
  refine ⟨_,rfl,remembers_landmark rfl rfl,rfl,rfl,rfl,rfl,rfl,?_⟩
  exact List.forall_mem_cons.mpr ⟨⟨remembers_landmark rfl rfl,rfl⟩,
    List.forall_mem_singleton.mpr ⟨remembers_landmark rfl rfl,rfl⟩⟩

end Vicinity.Engine
