import Vicinity.Distance

/-! The participants of the network: devices that run an engine, and beacons that devices see.
An entity is what somebody observed of a participant, so two entities are the same participant
if their ids agree, whatever else they say. -/
namespace Vicinity

inductive EntityType where
  | device
  | beacon
  deriving DecidableEq

namespace EntityType

def name : EntityType → String
  | device => "DEVICE"
  | beacon => "BLE_BEACON"

def decoder : Json.Decoder EntityType :=
  Json.Decoder.name [(device.name, device), (beacon.name, beacon)]

end EntityType

def EntityId.decoder : Json.Decoder EntityId := fun f n => do
  return EntityId.of (← Json.Decoder.string f n)

structure Entity where
  id : EntityId
  type : EntityType
  distance : Distance
  properties : Members

namespace Entity

/-- The property bag of an entity is an object with this one key; the properties are inside. -/
def propertiesKey : String := "properties"

/-- The bag around a property map. -/
def bagOf (properties : Members) : Members := [(propertiesKey, .obj properties)]

/-- An entity without properties, at an unknown distance. -/
def bare (id : EntityId) (type : EntityType) : Entity := ⟨id, type, .unknown, []⟩

def bag (e : Entity) : Members := bagOf e.properties

def property? (e : Entity) (name : String) : Option Json := e.properties.get? name

def isBeacon (e : Entity) : Bool := e.type == .beacon

/-- Whether two entities are the same participant. -/
def same (a b : Entity) : Bool := a.id == b.id

/-- A beacon by its three identifiers. -/
def ofBeacon (uuid : String) (major minor : Nat) (distance : Distance) : Entity :=
  { bare (.of (uuid ++ ":" ++ toString major ++ ":" ++ toString minor)) .beacon with
    distance := distance }

/-- An entity with an id that is not empty. -/
def named? (id : EntityId) (type : EntityType) : Except ValidationError Entity :=
  if id.isEmpty then .error .emptyEntityId else .ok (bare id type)

/-- The properties in a bag. -/
def unpack? (bag : Json) : Except ValidationError Members :=
  match bag with
  | .obj [(key, .obj properties)] =>
    if key = propertiesKey then .ok properties else .error (.invalidPropertyBag [key])
  | .obj ms => .error (.invalidPropertyBag (Members.keys ms))
  | _ => .error (.invalidPropertyBag [])

def withBag? (e : Entity) (bag : Json) : Except ValidationError Entity := do
  return { e with properties := ← unpack? bag }

def describe (e : Entity) : String := e.id.text ++ "(" ++ e.type.name ++ ")"

def toJson (e : Entity) : Json :=
  .obj [("distance_range", e.distance.toJson), ("entity_id", .str e.id.text),
    ("entity_type", .str e.type.name), ("properties", .obj e.bag)]

/-- The id is checked before the bag. -/
def decoder : Json.Decoder Entity :=
  (Json.Fields.none.and "entity_id" EntityId.decoder
    |>.and "entity_type" EntityType.decoder
    |>.and "distance_range" Distance.decoder
    |>.and "properties" fun f n => n.json f).decoder
  fun (((((), id), type), distance), bag) => do
    let e ← (named? (← Json.present id) (← Json.present type)).mapError .invalid
    let e ← (e.withBag? (bag.getD (.obj (bagOf [])))).mapError .invalid
    return { e with distance := distance.getD .unknown }

end Entity

end Vicinity
