import Vicinity.Group
import Vicinity.Uuid

/-! Standing requests for events. What a subscription watches is its natural key: an equal one
made elsewhere stands for it. -/
namespace Vicinity

/-- What a subscription watches. -/
inductive Watch where
  /-- Distances between members of two groups. -/
  | proximity (tracked other : Group)
  /-- Members of a group that come within a radius of a centre, or leave it. -/
  | geofence (center : Entity) (members : Group) (radius : Distance)
  /-- Members of a group that come, go or change. -/
  | group (members : Group)

namespace Watch

/-- Centres are compared as participants, groups part by part. -/
def sameKey : Watch → Watch → Bool
  | .proximity a b, .proximity c d => a == c && b == d
  | .geofence c g r, .geofence d h s => c.same d && g == h && r == s
  | .group a, .group b => a == b
  | _, _ => false

/-- The first group of a subscription, and the second one if there is one. -/
def groups : Watch → Group × Option Group
  | .proximity tracked other => (tracked, some other)
  | .geofence _ members _ => (members, none)
  | .group members => (members, none)

def describe : Watch → String
  | .proximity tracked other => tracked.description ++ " - " ++ other.description
  | .geofence center members radius =>
    center.id.text ++ " - " ++ members.description ++ " dist: " ++ radius.name
  | .group members => members.description

def toJson : Watch → Json
  | .proximity tracked other =>
    .obj [("other", other.toJson), ("tracked", tracked.toJson), ("type", .str "proximity")]
  | .geofence center members radius =>
    .obj [("center", center.toJson), ("group", members.toJson), ("radius", radius.toJson),
      ("type", .str "geofence")]
  | .group members => .obj [("group", members.toJson), ("type", .str "group")]

def proximityDecoder : Json.Decoder Watch :=
  (Json.Fields.none.and "tracked" Group.decoder |>.and "other" Group.decoder).decoder
  fun (((), tracked), other) => do
    return .proximity (← Json.present tracked) (← Json.present other)

def geofenceDecoder : Json.Decoder Watch :=
  (Json.Fields.none.and "center" Entity.decoder
    |>.and "group" Group.decoder
    |>.and "radius" Distance.decoder).decoder
  fun ((((), center), members), radius) => do
    return .geofence (← Json.present center) (← Json.present members) (← Json.present radius)

def groupDecoder : Json.Decoder Watch :=
  (Json.Fields.none.and "group" Group.decoder).decoder
  fun ((), members) => do return .group (← Json.present members)

def decoder : Json.Decoder Watch :=
  .tagged "type" [("proximity", proximityDecoder), ("geofence", geofenceDecoder),
    ("group", groupDecoder)]

end Watch

abbrev SubscriptionId := Uuid

structure Subscription where
  id : SubscriptionId
  watch : Watch

namespace Subscription

/-- Whether two subscriptions stand for each other. -/
def standsFor (a b : Subscription) : Bool := a.id == b.id || a.watch.sameKey b.watch

end Subscription

end Vicinity
