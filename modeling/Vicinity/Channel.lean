import Vicinity.Entity.Id

/-! The channels of the network. A channel travels as its name alone, and participants listen to
names; two channels of one name are still different channels. -/
namespace Vicinity

inductive Channel where
  /-- Arrivals, departures and queries. -/
  | broadcast
  /-- Beacon reports. -/
  | proximity
  /-- Property changes. -/
  | group
  /-- The private channel of one participant. -/
  | entity (id : EntityId)
  /-- The channel for the replies to one query. -/
  | reply (topic : String)
  deriving DecidableEq

namespace Channel

def name : Channel → String
  | broadcast => "BROADCAST"
  | proximity => "PROXIMITY"
  | group => "GROUP"
  | entity id => id.text
  | reply topic => topic

/-- The channels that every node listens to. -/
def shared : List Channel := [broadcast, proximity, group]

end Channel

end Vicinity
