import Vicinity.Event

/-! A bounded buffer of events between the engine and an application. An event that finds the
buffer full is dropped and counted; the events in the buffer keep their places. -/
namespace Vicinity

structure EventStream where
  capacity : Nat
  buffer : List Notice
  dropped : Nat

namespace EventStream

def defaultCapacity : Nat := 1024

/-- There is always room for one event. -/
def start (capacity : Nat) : EventStream := ⟨max capacity 1, [], 0⟩

def size (s : EventStream) : Nat := s.buffer.length

def isEmpty (s : EventStream) : Bool := s.buffer.isEmpty

def push (s : EventStream) (n : Notice) : EventStream :=
  if s.buffer.length < s.capacity then { s with buffer := s.buffer ++ [n] }
  else { s with dropped := s.dropped + 1 }

/-- The oldest event, if there is one. -/
def pop? (s : EventStream) : Option (Notice × EventStream) :=
  match s.buffer with
  | [] => none
  | n :: ns => some (n, { s with buffer := ns })

/-- The oldest event, or a timeout when there is none within the given time. Nothing arrives
while the caller waits. -/
def popWithin (s : EventStream) (milliseconds : Nat) :
    Except ExecutionError (Notice × EventStream) :=
  match s.pop? with
  | some r => .ok r
  | none => .error (.timeout milliseconds)

/-- All events in the buffer, oldest first. -/
def drain (s : EventStream) : List Notice × EventStream := (s.buffer, { s with buffer := [] })

end EventStream

end Vicinity
