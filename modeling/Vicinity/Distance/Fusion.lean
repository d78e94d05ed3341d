import Vicinity.Entity

/-! One estimate of the distance between two devices out of the beacons that both of them see. -/
namespace Vicinity.Distance

/-- How a reading of one beacon by the peer and our own reading of it improve an estimate. A
beacon next to the peer bounds the distance by the closer reading, one next to us by the
reading of the peer. -/
def improve (best theirs ours : Distance) : Distance :=
  if theirs ≤ nextTo then
    if ours < best then min ours theirs else best
  else if ours ≤ nextTo ∧ theirs < best then theirs
  else best

/-- Readings of the same beacon, in the order of the peer's list. -/
def commonReadings (peer mine : List Entity) : List (Distance × Distance) :=
  peer.flatMap fun t => (mine.filter fun o => o.id = t.id).map fun o => (t.distance, o.distance)

/-- Without a beacon in common the two devices are only known to share a network. -/
def fuse (peer mine : List Entity) : Distance :=
  match commonReadings peer mine with
  | [] => sameWifi
  | pairs => pairs.foldl (fun best (theirs, ours) => improve best theirs ours) sameBeacon

end Vicinity.Distance
