import Vicinity.Entity

/-! Beacons as a device ranges them, and the few of them that it remembers. -/
namespace Vicinity

/-- One ranged beacon of a scan. -/
structure BeaconReading where
  id : EntityId
  meters : Decimal.Signed

namespace BeaconReading

def ofBeacon (uuid : String) (major minor : Nat) (meters : Decimal.Signed) :
    BeaconReading :=
  ⟨(Entity.ofBeacon uuid major minor .unknown).id, meters⟩

def distance (r : BeaconReading) : Distance := .ofMeters r.meters.toFloat

/-- The beacon at the distance of the reading. -/
def entity (r : BeaconReading) : Entity :=
  { Entity.bare r.id .beacon with distance := r.distance }

/-- How many beacons of one scan are remembered. -/
def remembered : Nat := 3

/-- All beacons of a small scan; of a larger one the two nearest and the farthest. -/
def keep (readings : List BeaconReading) : List Entity :=
  if readings.length ≤ remembered then readings.map entity
  else
    let sorted := readings.mergeSort fun a b => a.meters.rank ≤ b.meters.rank
    (sorted.take 2 ++ sorted.getLast?.toList).map entity

end BeaconReading

end Vicinity
