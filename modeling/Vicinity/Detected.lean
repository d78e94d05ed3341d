import Vicinity.Distance

/-! The participants that are inside a geofence, in the order in which they entered. -/
namespace Vicinity

structure Detected where
  ids : List EntityId
  deriving DecidableEq

namespace Detected

/-- How many participants a geofence keeps track of. -/
def capacity : Nat := 50

def empty : Detected := ⟨[]⟩

def contains (d : Detected) (id : EntityId) : Bool := d.ids.contains id

def size (d : Detected) : Nat := d.ids.length

def isEmpty (d : Detected) : Bool := d.ids.isEmpty

def isFull (d : Detected) : Bool := capacity ≤ d.size

/-- Lets an id in; false if there is no place for it. -/
def insert (d : Detected) (id : EntityId) : Bool × Detected :=
  if d.contains id then (true, d)
  else if d.isFull then (false, d)
  else (true, ⟨d.ids ++ [id]⟩)

/-- Lets an id out; tells whether it was inside. -/
def erase (d : Detected) (id : EntityId) : Bool × Detected :=
  (d.contains id, ⟨d.ids.erase id⟩)

/-- What one observation means for a geofence. -/
inductive Transition where
  | entry
  | exit
  | full
  | unchanged
  deriving DecidableEq

/-- A participant enters when it is absent and seen within the radius, and leaves when it is
inside and seen beyond. -/
def observe (d : Detected) (id : EntityId) (observed radius : Distance) : Transition × Detected :=
  if d.contains id then
    if radius < observed then (.exit, (d.erase id).2) else (.unchanged, d)
  else if observed ≤ radius then
    match d.insert id with
    | (true, d) => (.entry, d)
    | (false, d) => (.full, d)
  else (.unchanged, d)

end Detected

end Vicinity
