import Vicinity.Channel
import Vicinity.Group
import Vicinity.Text.Utf8

/-! What the nodes tell each other. A message travels as JSON in an envelope with the one key
`message`; its kind stands under `msg_type`, beside the fields of that kind. -/
namespace Vicinity

namespace Message

/-- The part of a message that depends on its kind. -/
inductive Body where
  | checkIn (entity : Entity)
  /-- A departure that is not `valid` may be a loss of connection. -/
  | checkOut (entity : Entity) (valid : Bool)
  | propertiesUpdate (entity : Entity) (old : Members)
  | proximityUpdate (first second : Entity) (distance : Distance)
  | beaconReport (entity : Entity) (beacons : List Entity)
  | syncRequest (topic : String) (beacons : List Entity) (wanted : Group) (within : Distance)
  | syncResponse (entity : Entity)

namespace Body

def kind : Body → String
  | checkIn _ => "CHECK_IN"
  | checkOut _ _ => "CHECK_OUT"
  | propertiesUpdate _ _ => "PROPERTIES_UPDATE"
  | proximityUpdate _ _ _ => "PROXIMITY_UPDATE"
  | beaconReport _ _ => "PROX_BEACONS"
  | syncRequest _ _ _ _ => "SYNC_REQ"
  | syncResponse _ => "SYNC_RESP"

/-- A list of beacons travels without types and properties. -/
def beaconsToJson (beacons : List Entity) : Json :=
  .arr (beacons.map fun b =>
    .obj [("beacon_id", .str b.id.text), ("distance_range", b.distance.toJson)])

def members : Body → Members
  | checkIn e => [("entity", e.toJson)]
  | checkOut e valid => [("entity", e.toJson), ("valid", .bool valid)]
  | propertiesUpdate e old => [("entity", e.toJson), ("old_properties", .obj old)]
  | proximityUpdate e1 e2 d =>
    [("distance_range", d.toJson), ("entity1", e1.toJson), ("entity2", e2.toJson)]
  | beaconReport e beacons => [("beacons", beaconsToJson beacons), ("entity", e.toJson)]
  | syncRequest topic beacons g d =>
    [("beacons", beaconsToJson beacons), ("distance_range", d.toJson), ("group", g.toJson),
      ("topic_reply", .str topic)]
  | syncResponse e => [("entity", e.toJson)]

open Json (Decoder Fields present)

def reportDecoder : Decoder (EntityId × Distance) :=
  (Fields.none.and "beacon_id" EntityId.decoder |>.and "distance_range" Distance.decoder).decoder
  fun (((), id), distance) => do return (← present id, distance.getD .unknown)

def beaconOf (report : EntityId × Distance) : Except Json.Defect Entity := do
  let e ← (Entity.named? report.1 .beacon).mapError .invalid
  return { e with distance := report.2 }

/-- The ids are looked at when the whole list is read. -/
def beaconsDecoder : Decoder (List Entity) := fun f n => do
  (← Decoder.list reportDecoder f n).mapM beaconOf

def checkInDecoder : Decoder Body :=
  (Fields.none.and "entity" Entity.decoder).decoder
  fun ((), e) => do return .checkIn (← present e)

def checkOutDecoder : Decoder Body :=
  (Fields.none.and "entity" Entity.decoder |>.and "valid" Decoder.flag).decoder
  fun (((), e), valid) => do return .checkOut (← present e) (← present valid)

def propertiesUpdateDecoder : Decoder Body :=
  (Fields.none.and "entity" Entity.decoder |>.and "old_properties" Decoder.members).decoder
  fun (((), e), old) => do return .propertiesUpdate (← present e) (old.getD [])

def proximityUpdateDecoder : Decoder Body :=
  (Fields.none.and "entity1" Entity.decoder
    |>.and "entity2" Entity.decoder
    |>.and "distance_range" Distance.decoder).decoder
  fun ((((), e1), e2), d) => do
    return .proximityUpdate (← present e1) (← present e2) (← present d)

def beaconReportDecoder : Decoder Body :=
  (Fields.none.and "entity" Entity.decoder |>.and "beacons" beaconsDecoder).decoder
  fun (((), e), beacons) => do return .beaconReport (← present e) (← present beacons)

def syncRequestDecoder : Decoder Body :=
  (Fields.none.and "topic_reply" Decoder.string
    |>.and "beacons" beaconsDecoder
    |>.and "group" Group.decoder
    |>.and "distance_range" Distance.decoder).decoder
  fun (((((), topic), beacons), g), d) => do
    return .syncRequest (← present topic) (← present beacons) (← present g) (← present d)

def syncResponseDecoder : Decoder Body :=
  (Fields.none.and "entity" Entity.decoder).decoder
  fun ((), e) => do return .syncResponse (← present e)

/-- The kinds in the order of their numbers. -/
def kinds : List (String × Decoder Body) :=
  [("CHECK_IN", checkInDecoder), ("CHECK_OUT", checkOutDecoder),
    ("PROPERTIES_UPDATE", propertiesUpdateDecoder), ("PROXIMITY_UPDATE", proximityUpdateDecoder),
    ("PROX_BEACONS", beaconReportDecoder), ("SYNC_REQ", syncRequestDecoder),
    ("SYNC_RESP", syncResponseDecoder)]

def sameAll (xs ys : List Entity) : Bool := xs.map (·.id) == ys.map (·.id)

/-- Entities are compared as participants, everything else by content. -/
def same : Body → Body → Bool
  | checkIn a, checkIn b => a.same b
  | checkOut a v, checkOut b w => a.same b && v == w
  | propertiesUpdate a old, propertiesUpdate b old' => a.same b && Json.obj old == .obj old'
  | proximityUpdate a c d, proximityUpdate b c' d' => a.same b && c.same c' && d == d'
  | beaconReport a xs, beaconReport b ys => a.same b && sameAll xs ys
  | syncRequest t xs g d, syncRequest t' ys g' d' =>
    t == t' && sameAll xs ys && g == g' && d == d'
  | syncResponse a, syncResponse b => a.same b
  | _, _ => false

end Body

end Message

structure Message where
  sender : EntityId
  /-- Ties together what one message causes. -/
  logId : String
  body : Message.Body

namespace Message

open Json (Decoder Node Fields Form Defect present require)

def kind (m : Message) : String := m.body.kind

def same (a b : Message) : Bool :=
  a.sender == b.sender && a.logId == b.logId && a.body.same b.body

def toJson (m : Message) : Json :=
  .object (m.body.members ++
    [("log_id", .str m.logId), ("msg_type", .str m.kind), ("sender", .str m.sender.text)])

def inEnvelope (m : Message) : Json := .obj [("message", m.toJson)]

/-- The payload that travels. -/
def encode (m : Message) : ByteArray := m.inEnvelope.compact.toUTF8

/-- Takes the sender and the log id out of the members and checks the rest. -/
def takeHead (f : Form) :
    List (Option String × Node) → Option EntityId → Option String →
      Except Defect (Option EntityId × Option String × List (Option String × Node))
  | [], sender, logId => .ok (sender, logId, [])
  | (k, n) :: ms, sender, logId => do
    let k ← present k
    if k = "sender" then
      require sender.isNone
      takeHead f ms (some (← EntityId.decoder f n)) logId
    else if k = "log_id" then
      require logId.isNone
      takeHead f ms sender (some (← Decoder.string f n))
    else
      n.hold f
      let (sender, logId, rest) ← takeHead f ms sender logId
      return (sender, logId, (some k, n) :: rest)

/-- A message is read through before its kind is known. -/
def decoder : Decoder Message := fun f n =>
  match n with
  | .obj ms closed => do
    let (sender, logId, rest) ← takeHead (← f.enter) ms none none
    require closed
    let sender ← present sender
    let (kind, rest) ← Json.splitTag "msg_type" Body.kinds .again rest none
    let body ← (← present kind) .again (.obj rest true)
    return ⟨sender, logId.getD "", body⟩
  | _ => .error .malformed

def envelopeDecoder : Decoder Message :=
  (Fields.none.and "message" decoder).decoder fun ((), m) => present m

def decode (payload : ByteArray) : Except Defect Message :=
  Json.decodeText envelopeDecoder (.ofUnits (Text.units payload))

end Message

end Vicinity
