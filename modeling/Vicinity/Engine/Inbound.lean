import Vicinity.Engine.Query

/-! What reaches a node: messages of other nodes, and scans of the beacons around it. -/
namespace Vicinity.Engine

/-- Larger payloads are dropped. -/
def payloadLimit : Nat := 0x100000

/-- A departure that may be a loss of connection waits; a later one changes nothing. -/
def awaitDeparture (e : Engine) (entity : Entity) : Engine :=
  match e.timers.arm (.departure entity.id) e.config.checkoutGrace (.departure entity) with
  | .ok (_, timers) => { e with timers := timers }
  | .error _ => e

/-- The participant is known to be here, or to be gone. -/
def settleDeparture (e : Engine) (entity : Entity) : Engine :=
  { e with timers := (e.timers.cancel (.departure entity.id)).2 }

/-- A report is a fact about its sender, a distance to each beacon, and a hint at the distance of
the sender. -/
def reportTasks (entity : Entity) (beacons : List Entity) : List Task :=
  .evaluate (.sees entity beacons) ::
    (beacons.map fun b => Task.evaluate (.apart entity b b.distance)) ++
    (if beacons.isEmpty then [] else [.estimate entity beacons])

def hearBody (e : Engine) : Message.Body → Engine
  | .checkIn entity =>
    e.work [.evaluate (.apart e.self entity .sameWifi), .evaluate (.arrived entity)]
  | .checkOut entity false => e.awaitDeparture entity
  | .checkOut entity true => (e.settleDeparture entity).work [.evaluate (.left entity)]
  | .propertiesUpdate entity old =>
    (e.settleDeparture entity).work [.evaluate (.changed entity old)]
  | .proximityUpdate e1 e2 d => e.work [.evaluate (.apart e1 e2 d), .evaluate (.around e1 e2 d)]
  | .beaconReport entity beacons => e.work (reportTasks entity beacons)
  | .syncRequest topic beacons wanted within =>
    if e.policy.proximityChanges then e.work [.answer topic beacons wanted within] else e
  | .syncResponse entity => e.collect entity

/-- A node does not listen to itself, and a stopped one listens to nobody. -/
def hear (e : Engine) (m : Message) : Engine :=
  if e.stopped || m.sender == e.self.id then e else e.hearBody m.body

/-- Hears a payload if it can be decoded; tells whether it could. -/
def hearPayload (e : Engine) (payload : ByteArray) : Bool × Engine :=
  if payloadLimit < payload.size then (false, e)
  else
    match Message.decode payload with
    | .ok m => (true, e.hear m)
    | .error _ => (false, e)

/-! ## Scans -/

/-- A report is due with every so many scans. -/
def reportInterval (e : Engine) : UInt32 :=
  if e.config.reportInterval = 0 then 1 else e.config.reportInterval

/-- Counts a scan; true, and the count starts again, if a report is due. -/
def countScan (e : Engine) : Bool × Engine :=
  if e.reportInterval ≤ e.scans + 1 then (true, { e with scans := 0 })
  else (false, { e with scans := e.scans + 1 })

/-- Publishes a beacon report if distances are advertised and it is due. -/
def report (e : Engine) (beacons : List Entity) : Engine :=
  if e.policy.proximityChanges then
    match e.countScan with
    | (true, e) => e.publish .proximity e.stamp (.beaconReport e.self beacons)
    | (false, e) => e
  else e

def scanTasks (self : Entity) (beacons : List Entity) : List Task :=
  (beacons.map fun b => Task.evaluate (.apart self b b.distance)) ++
    [.evaluate (.sees self beacons)]

/-- An empty scan is forgotten at once, even by a stopped node. -/
def scan (e : Engine) (readings : List BeaconReading) : Engine :=
  if readings.isEmpty then { e with cache := [] }
  else if e.stopped then e
  else
    let beacons := readings.map BeaconReading.entity
    let e := (e.work (scanTasks e.self beacons)).report beacons
    { e with cache := BeaconReading.keep readings }

end Vicinity.Engine
