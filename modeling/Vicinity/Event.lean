import Vicinity.Poi
import Vicinity.Subscription
import Vicinity.Timestamp

/-! What the application is told. -/
namespace Vicinity

inductive EntityEvent where
  | proximityUpdate
  | geofenceEntry
  | geofenceExit
  deriving DecidableEq

namespace EntityEvent

def all : List EntityEvent := [proximityUpdate, geofenceEntry, geofenceExit]

def name : EntityEvent → String
  | proximityUpdate => "PROXIMITY_UPDATE"
  | geofenceEntry => "GEOFENCE_ENTRY"
  | geofenceExit => "GEOFENCE_EXIT"

def decoder : Json.Decoder EntityEvent := Json.Decoder.name (all.map fun e => (e.name, e))

end EntityEvent

inductive GroupEvent where
  | checkIn
  | checkOut
  | groupJoin
  | groupLeave
  deriving DecidableEq

namespace GroupEvent

def all : List GroupEvent := [checkIn, checkOut, groupJoin, groupLeave]

def name : GroupEvent → String
  | checkIn => "CHECK_IN"
  | checkOut => "CHECK_OUT"
  | groupJoin => "GROUP_JOIN"
  | groupLeave => "GROUP_LEAVE"

def decoder : Json.Decoder GroupEvent := Json.Decoder.name (all.map fun e => (e.name, e))

end GroupEvent

/-- Why a subscription was refused or could not track one more participant. -/
inductive ErrorEvent where
  | entitySizeExceeded
  | numberLimitExceeded
  | notValid
  deriving DecidableEq

namespace ErrorEvent

def all : List ErrorEvent := [entitySizeExceeded, numberLimitExceeded, notValid]

def name : ErrorEvent → String
  | entitySizeExceeded => "ENTITY_SIZE_EXCEEDED"
  | numberLimitExceeded => "NUMBER_LIMIT_EXCEEDED"
  | notValid => "NOT_VALID"

def message : ErrorEvent → String
  | entitySizeExceeded => "geofence subscription reached its maximum number of tracked entities"
  | numberLimitExceeded => "maximum number of geofence subscriptions reached"
  | notValid => "anchor entity must be a BLE beacon or the local entity"

def decoder : Json.Decoder ErrorEvent := Json.Decoder.name (all.map fun e => (e.name, e))

end ErrorEvent

/-- One event, without the subscription that it is for. -/
inductive Payload where
  | entity (event : EntityEvent) (e1 e2 : Entity) (distance : Distance)
  | group (event : GroupEvent) (member : Entity) (members : Group)
  | error (reason : ErrorEvent)
  | poi (visitor : Entity) (place : Poi) (entered : Bool)

namespace Payload

def entityEvent? : Payload → Option EntityEvent
  | .entity event _ _ _ => some event
  | _ => none

def groupEvent? : Payload → Option GroupEvent
  | .group event _ _ => some event
  | _ => none

def errorEvent? : Payload → Option ErrorEvent
  | .error reason => some reason
  | _ => none

def entityDecoder : Json.Decoder Payload :=
  (Json.Fields.none.and "event" EntityEvent.decoder
    |>.and "e1" Entity.decoder
    |>.and "e2" Entity.decoder
    |>.and "distance" Distance.decoder).decoder
  fun (((((), event), e1), e2), distance) => do
    return .entity (← Json.present event) (← Json.present e1) (← Json.present e2)
      (← Json.present distance)

def groupDecoder : Json.Decoder Payload :=
  (Json.Fields.none.and "event" GroupEvent.decoder
    |>.and "entity" Entity.decoder
    |>.and "group" Group.decoder).decoder
  fun ((((), event), member), members) => do
    return .group (← Json.present event) (← Json.present member) (← Json.present members)

def errorDecoder : Json.Decoder Payload :=
  (Json.Fields.none.and "error" ErrorEvent.decoder).decoder
  fun ((), reason) => do return .error (← Json.present reason)

def poiDecoder : Json.Decoder Payload :=
  (Json.Fields.none.and "entity" Entity.decoder
    |>.and "poi" Poi.decoder
    |>.and "entered" Json.Decoder.flag).decoder
  fun ((((), visitor), place), entered) => do
    return .poi (← Json.present visitor) (← Json.present place) (← Json.present entered)

def decoder : Json.Decoder Payload :=
  .tagged "type" [("entity", entityDecoder), ("group", groupDecoder), ("error", errorDecoder),
    ("poi", poiDecoder)]

end Payload

/-- One event as it is offered to the application. -/
structure Notice where
  subscription : Option SubscriptionId
  payload : Payload

/-- One event as it is kept. -/
structure EventRecord where
  id : Uuid
  subscription : Option SubscriptionId
  time : Timestamp
  payload : Payload

def EventRecord.decoder : Json.Decoder EventRecord :=
  (Json.Fields.none.and "event_id" Uuid.decoder
    |>.and "subscription_id" (.optional Uuid.decoder)
    |>.and "timestamp" Timestamp.decoder
    |>.and "payload" Payload.decoder).decoder
  fun (((((), id), subscription), time), payload) => do
    return ⟨← Json.present id, subscription.join, ← Json.present time, ← Json.present payload⟩

end Vicinity
