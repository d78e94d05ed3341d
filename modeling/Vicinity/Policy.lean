import Vicinity.Json.Decoder

/-! What a node tells the network about itself. In ghost mode it tells nothing, and the policy
that was in force before comes back afterwards. -/
namespace Vicinity

structure Policy where
  /-- Arrivals, departures and property changes. -/
  groupChanges : Bool
  /-- Beacon reports and distances to peers. -/
  proximityChanges : Bool
  deriving DecidableEq

namespace Policy

def shown : Policy := ⟨true, true⟩

def silent : Policy := ⟨false, false⟩

def decoder : Json.Decoder Policy :=
  (Json.Fields.none.and "group_changes_enabled" Json.Decoder.flag
    |>.and "proximity_changes_enabled" Json.Decoder.flag).decoder
  fun (((), groups), proximity) => .ok ⟨groups.getD true, proximity.getD true⟩

def toJson (p : Policy) : Json :=
  .obj [("group_changes_enabled", .bool p.groupChanges),
    ("proximity_changes_enabled", .bool p.proximityChanges)]

end Policy

/-- The policy in force, and the one to come back to while ghost mode is on. -/
structure Visibility where
  current : Policy
  saved : Option Policy
  deriving DecidableEq

namespace Visibility

def start (p : Policy) : Visibility := ⟨p, none⟩

def isGhost (v : Visibility) : Bool := v.saved.isSome

/-- Ignored in ghost mode. -/
def set (v : Visibility) (p : Policy) : Visibility :=
  if v.isGhost then v else { v with current := p }

/-- Turns ghost mode on; gives the policy in force before, unless it was on already. -/
def enterGhost (v : Visibility) : Option (Policy × Visibility) :=
  match v.saved with
  | some _ => none
  | none => some (v.current, ⟨.silent, some v.current⟩)

/-- Turns ghost mode off; gives the policy that comes back, unless it was off. -/
def leaveGhost (v : Visibility) : Option (Policy × Visibility) :=
  v.saved.map fun p => (p, ⟨p, none⟩)

end Visibility

end Vicinity
