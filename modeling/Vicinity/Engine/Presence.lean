import Vicinity.Engine.Evaluation

/-! How a node shows itself to the network: its arrival, its properties, ghost mode, and its
end. Points of interest are kept here, too. -/
namespace Vicinity.Engine

def announceArrival (e : Engine) : Engine :=
  e.publish .broadcast e.stamp (.checkIn e.self)

/-- The connection is up. -/
def connected (e : Engine) : Engine :=
  let e := if e.policy.groupChanges then e.announceArrival else e
  e.listenAs e.self.id

/-- Reconnects as `new` and says so if asked to; if the connection fails, the node stays who it
was. -/
def replaceSelf (e : Engine) (new : Entity) (announce : Bool) :
    Except TransportError Engine := do
  let transport ← e.transport.reconnect
  let e := { e with transport := transport }
  let e :=
    if announce && e.policy.groupChanges then
      e.publish .group e.stamp (.propertiesUpdate new e.self.bag)
    else e
  return { e.listenAs new.id with self := new }

/-- The outcome of a call that may fail at the transport. -/
def settled (e : Engine) (r : Except TransportError Engine) : Except Error Unit × Engine :=
  match r with
  | .ok e => (.ok (), e)
  | .error cause => (.error (.transport cause), e)

/-- Changes the properties of the node. Its id stays. -/
def updateSelf (e : Engine) (new : Entity) : Except Error Unit × Engine :=
  if new.id = e.self.id then e.settled (e.replaceSelf new true)
  else (.error (.execution (.selfIdentityChanged e.self.id new.id)), e)

def settledFlag (r : Except Error Unit × Engine) : Except Error Bool × Engine :=
  (r.1.map fun _ => true, r.2)

/-- Turns ghost mode on and says goodbye; false if it was on. -/
def enterGhost (e : Engine) : Except Error Bool × Engine :=
  match e.visibility.enterGhost with
  | none => (.ok false, e)
  | some (before, visibility) =>
    let e := { e with visibility := visibility }
    let e :=
      if before.groupChanges then e.publish .broadcast e.stamp (.checkOut e.self true) else e
    settledFlag (e.settled (e.replaceSelf e.self false))

/-- Turns ghost mode off and says hello; false if it was off. -/
def leaveGhost (e : Engine) : Except Error Bool × Engine :=
  match e.visibility.leaveGhost with
  | none => (.ok false, e)
  | some (after, visibility) =>
    let e := { e with visibility := visibility }
    let e := if after.groupChanges then e.announceArrival else e
    settledFlag (e.settled (e.replaceSelf e.self false))

/-- Ignored in ghost mode. -/
def setPolicy (e : Engine) (p : Policy) : Engine :=
  { e with visibility := e.visibility.set p }

/-- Ends all evaluation and leaves the network. -/
def stop (e : Engine) : Engine :=
  if e.stopped then e
  else { e with
    stopped := true, timers := e.timers.stop, query := none, transport := e.transport.disconnect }

/-! ## Points of interest -/

/-- Registers the points of a list, or none of them; gives their number. -/
def addPois (e : Engine) (json : String) : Except Error Nat × Engine :=
  match Poi.parseList json with
  | .ok pois => (.ok pois.length, { e with pois := e.pois ++ pois })
  | .error cause => (.error (.validation cause), e)

/-- Tells the application of a point, if it wants to hear of points. -/
def tellPoi (e : Engine) (place : Poi) (entered : Bool) : Engine :=
  if e.sink.any (·.hearsPois) then
    { e with told := Notice.mk none (.poi e.self place entered) :: e.told }
  else e

/-- The node enters or leaves a region; false if no point is registered under its name. -/
def crossRegion (e : Engine) (name : String) (entered : Bool) : Bool × Engine :=
  match e.pois.find? (·.name == name) with
  | none => (false, e)
  | some place => (true, e.tellPoi place entered)

end Vicinity.Engine
