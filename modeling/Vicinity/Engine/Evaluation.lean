import Vicinity.Distance.Fusion
import Vicinity.Engine.Registry

/-! Facts against subscriptions. An evaluation looks at the registered subscriptions once, and
what follows from them is a list of acts; the acts are then performed one by one, until the
application panics. -/
namespace Vicinity.Engine

/-- A fact that subscriptions may be about. -/
inductive Fact where
  /-- Two participants are at a distance. -/
  | apart (e1 e2 : Entity) (distance : Distance)
  /-- A participant sees beacons. -/
  | sees (seer : Entity) (beacons : List Entity)
  /-- Two participants are at a distance, for those who watch around one of them. -/
  | around (e1 e2 : Entity) (distance : Distance)
  /-- The properties of a participant were others before. -/
  | changed (entity : Entity) (old : Members)
  | arrived (entity : Entity)
  | left (entity : Entity)

/-- What follows for one subscription. -/
inductive Act where
  | tell (sub : Subscription) (payload : Payload)
  /-- A candidate for a geofence is seen at a distance from its centre. -/
  | observe (sub : Subscription) (center : Entity) (radius : Distance) (candidate : Entity)
      (seen : Distance)

/-- A participant with the properties it had. Old properties may come in a bag or bare, and a
malformed bag counts as empty. -/
def before (entity : Entity) (old : Members) : Entity :=
  let base := Entity.bare entity.id entity.type
  if Members.contains old Entity.propertiesKey then
    ((base.withBag? (.obj old)).toOption).getD base
  else { base with properties := old }

/-- Two participants concern two groups in either order. -/
def pairs (a b : Group) (e1 e2 : Entity) : Bool :=
  (a.contains e1 && b.contains e2) || (a.contains e2 && b.contains e1)

def apartActs (e1 e2 : Entity) (d : Distance) (sub : Subscription) : List Act :=
  match sub.watch with
  | .proximity a b =>
    if pairs a b e1 e2 then [.tell sub (.entity .proximityUpdate e1 e2 d)] else []
  | _ => []

/-- At the centre, beacons are the candidates. Elsewhere the participant is, as far from the
centre as it sees it; without any beacon it is at least in the same network. -/
def seesActs (seer : Entity) (beacons : List Entity) (sub : Subscription) : List Act :=
  match sub.watch with
  | .geofence center members radius =>
    if seer.same center then
      (beacons.filter members.contains).map fun b => .observe sub center radius b b.distance
    else if members.contains seer then
      if beacons.isEmpty then [.observe sub center radius seer .sameWifi]
      else (beacons.filter (·.same center)).map fun b =>
        .observe sub center radius seer b.distance
    else []
  | _ => []

/-- Whichever of the two is the centre, the other one is the candidate. -/
def aroundActs (e1 e2 : Entity) (d : Distance) (sub : Subscription) : List Act :=
  match sub.watch with
  | .geofence center members radius =>
    let observe (candidate : Entity) : List Act :=
      if members.contains candidate then [.observe sub center radius candidate d] else []
    if e1.same center then observe e2
    else if e2.same center then observe e1
    else []
  | _ => []

def groupActs (event : Group → Option GroupEvent) (entity : Entity) (sub : Subscription) :
    List Act :=
  match sub.watch with
  | .group members =>
    match event members with
    | some event => [.tell sub (.group event entity members)]
    | none => []
  | _ => []

/-- Whether a change makes a participant join a group or leave it. -/
def membership (was is : Bool) : Option GroupEvent :=
  match was, is with
  | false, true => some .groupJoin
  | true, false => some .groupLeave
  | _, _ => none

def when (event : GroupEvent) (b : Bool) : Option GroupEvent := if b then some event else none

/-- What follows from a fact. -/
def acts (e : Engine) : Fact → List Act
  | .apart e1 e2 d => if e1.same e2 then [] else e.proximity.flatMap (apartActs e1 e2 d)
  | .sees seer beacons => e.geofence.flatMap (seesActs seer beacons)
  | .around e1 e2 d => e.geofence.flatMap (aroundActs e1 e2 d)
  | .changed entity old =>
    e.group.flatMap (groupActs
      (fun g => membership (g.contains (before entity old)) (g.contains entity)) entity)
  | .arrived entity =>
    if entity.same e.self then []
    else e.group.flatMap (groupActs (fun g => when .checkIn (g.contains entity)) entity)
  | .left entity => e.group.flatMap (groupActs (fun g => when .checkOut (g.contains entity)) entity)

/-- Performs an act; true if the application panics. -/
def perform (e : Engine) : Act → Bool × Engine
  | .tell sub payload => e.tell sub payload
  | .observe sub center radius candidate seen =>
    let (transition, inside) := (e.inside sub.id).observe candidate.id seen radius
    let e := e.place sub.id inside
    match transition with
    | .entry => e.tell sub (.entity .geofenceEntry center candidate seen)
    | .exit => e.tell sub (.entity .geofenceExit center candidate seen)
    | .full => e.tell sub (.error .entitySizeExceeded)
    | .unchanged => (false, e)

/-- Performs acts up to a panic, which is counted. -/
def performAll (e : Engine) : List Act → Engine
  | [] => e
  | a :: as =>
    match e.perform a with
    | (true, e) => { e with panicked := e.panicked + 1 }
    | (false, e) => e.performAll as

def evaluate (e : Engine) (f : Fact) : Engine := e.performAll (e.acts f)

/-! ## Tasks -/

/-- What a node has to work through. -/
inductive Task where
  | evaluate (fact : Fact)
  /-- A peer sees beacons; how far is it? -/
  | estimate (peer : Entity) (beacons : List Entity)
  /-- Somebody looks for participants. -/
  | answer (topic : String) (beacons : List Entity) (wanted : Group) (within : Distance)

/-- The beacons that the node remembers, too. -/
def commonBeacons (e : Engine) (beacons : List Entity) : List Entity :=
  beacons.filter fun b => e.cache.any (·.same b)

/-- Estimates the distance of a peer from the beacons that both see. The estimate goes to the
peer if distances are advertised, and is evaluated here otherwise; geofences learn of it in both
cases. -/
def estimate (e : Engine) (peer : Entity) (beacons : List Entity) : List Fact × Engine :=
  if peer.same e.self then ([], e)
  else
    let common := e.commonBeacons beacons
    if common.isEmpty then ([], e)
    else
      let d := Distance.fuse common e.cache
      let around := Fact.around e.self peer d
      if e.policy.proximityChanges then
        ([around], e.publish (.entity peer.id) e.stamp (.proximityUpdate e.self peer d))
      else ([.apart e.self peer d, around], e)

/-- Replies to a query if the node is wanted and close enough. -/
def answer (e : Engine) (topic : String) (beacons : List Entity) (wanted : Group)
    (within : Distance) : Engine :=
  if wanted.contains e.self then
    let d := Distance.fuse beacons e.cache
    if d ≤ within then
      e.publish (.reply topic) topic (.syncResponse { e.self with type := .device, distance := d })
    else e
  else e

/-- Runs a task; what it leaves to do comes after all tasks that wait already. -/
def runTask (e : Engine) : Task → List Fact × Engine
  | .evaluate f => ([], e.evaluate f)
  | .estimate peer beacons => e.estimate peer beacons
  | .answer topic beacons wanted within => ([], e.answer topic beacons wanted within)

def runTasks (e : Engine) : List Task → List Fact × Engine
  | [] => ([], e)
  | t :: ts =>
    let (more, e) := e.runTask t
    let (rest, e) := e.runTasks ts
    (more ++ rest, e)

/-- Works through tasks and then through what they left to do. A stopped node does nothing. -/
def work (e : Engine) (ts : List Task) : Engine :=
  if e.stopped then e
  else
    let (more, e) := e.runTasks ts
    more.foldl evaluate e

end Vicinity.Engine
