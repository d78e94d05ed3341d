import Vicinity.Engine.Inbound
import Vicinity.Engine.Presence

/-! Everything that can happen to a node, as data, and runs of it. What is random in a node is
part of the operation that needs it: the id of a subscription and the token of a query. -/
namespace Vicinity.Engine

inductive Operation where
  | trackDistance (id : SubscriptionId) (anchor : Entity) (others : Group)
  | trackGeofence (id : SubscriptionId) (anchor : Entity) (members : Group) (radius : Distance)
  | trackGroup (id : SubscriptionId) (members : Group)
  | unsubscribe (sub : Subscription)
  | connected
  | hear (message : Message)
  | hearPayload (payload : ByteArray)
  | scan (readings : List BeaconReading)
  | ask (token : String) (wanted : Group) (within : Distance) (timeout : Nat)
  | elapse (milliseconds : Nat)
  | expire (key : TimerKey)
  | expireDepartures
  | updateSelf (new : Entity)
  | enterGhost
  | leaveGhost
  | setPolicy (policy : Policy)
  | addPois (json : String)
  | crossRegion (name : String) (entered : Bool)
  | setSink (sink : Option Sink)
  | refusePublish (on : Bool)
  | refuseReconnect (on : Bool)
  | disconnect
  | stop

inductive Reply where
  | done
  | flag (value : Bool)
  | count (value : Nat)
  | subscription (sub : Option Subscription)
  | failed (error : Error)

namespace Reply

def ofUnit : Except Error Unit → Reply
  | .ok () => .done
  | .error e => .failed e

def ofFlag : Except Error Bool → Reply
  | .ok b => .flag b
  | .error e => .failed e

def ofCount : Except Error Nat → Reply
  | .ok n => .count n
  | .error e => .failed e

end Reply

def apply (e : Engine) : Operation → Reply × Engine
  | .trackDistance id anchor others =>
    let (sub, e) := e.trackDistance id anchor others
    (.subscription sub, e)
  | .trackGeofence id anchor members radius =>
    let (sub, e) := e.trackGeofence id anchor members radius
    (.subscription sub, e)
  | .trackGroup id members =>
    let (sub, e) := e.trackGroup id members
    (.subscription (some sub), e)
  | .unsubscribe sub =>
    let (b, e) := e.unsubscribe sub
    (.flag b, e)
  | .connected => (.done, e.connected)
  | .hear message => (.done, e.hear message)
  | .hearPayload payload =>
    let (b, e) := e.hearPayload payload
    (.flag b, e)
  | .scan readings => (.done, e.scan readings)
  | .ask token wanted within timeout =>
    let (b, e) := e.ask token wanted within timeout
    (.flag b, e)
  | .elapse milliseconds => (.done, e.elapse milliseconds)
  | .expire key => (.done, e.expire key)
  | .expireDepartures => (.done, e.expireDepartures)
  | .updateSelf new =>
    let (r, e) := e.updateSelf new
    (.ofUnit r, e)
  | .enterGhost =>
    let (r, e) := e.enterGhost
    (.ofFlag r, e)
  | .leaveGhost =>
    let (r, e) := e.leaveGhost
    (.ofFlag r, e)
  | .setPolicy policy => (.done, e.setPolicy policy)
  | .addPois json =>
    let (r, e) := e.addPois json
    (.ofCount r, e)
  | .crossRegion name entered =>
    let (b, e) := e.crossRegion name entered
    (.flag b, e)
  | .setSink sink => (.done, { e with sink := sink })
  | .refusePublish on => (.done, { e with transport := { e.transport with refusesPublish := on } })
  | .refuseReconnect on =>
    (.done, { e with transport := { e.transport with refusesReconnect := on } })
  | .disconnect => (.done, { e with transport := e.transport.disconnect })
  | .stop => (.done, e.stop)

/-- Operations one after another, with what each replies. -/
def run (e : Engine) : List Operation → List Reply × Engine
  | [] => ([], e)
  | op :: ops =>
    let (reply, e) := e.apply op
    let (replies, e) := e.run ops
    (reply :: replies, e)

/-- The state after operations. -/
def after (e : Engine) (ops : List Operation) : Engine := ops.foldl (fun e op => (e.apply op).2) e

end Vicinity.Engine
