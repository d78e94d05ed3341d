import Vicinity.Engine.Basic

/-! The subscriptions of a node, and how the application hears of what happens to them. A
subscription around a participant needs one that the node can watch by itself: a beacon, or the
node itself. -/
namespace Vicinity.Engine

/-- Takes the first subscription that `sub` stands for out of a list. -/
def removeFirst (sub : Subscription) : List Subscription → Option (List Subscription)
  | [] => none
  | s :: ss => if s.standsFor sub then some ss else (removeFirst sub ss).map (s :: ·)

/-- Ends the first subscription that `sub` stands for; tells whether there was one. -/
def unsubscribe (e : Engine) (sub : Subscription) : Bool × Engine :=
  match removeFirst sub e.group with
  | some group => (true, { e with group := group })
  | none =>
    match removeFirst sub e.proximity with
    | some proximity => (true, { e with proximity := proximity })
    | none =>
      match removeFirst sub e.geofence with
      | some geofence => (true, { e with geofence := geofence })
      | none => (false, e)

/-- Watches the changes of a group. -/
def trackGroup (e : Engine) (id : SubscriptionId) (members : Group) : Subscription × Engine :=
  let sub : Subscription := ⟨id, .group members⟩
  (sub, { e.place id .empty with group := e.group ++ [sub] })

/-! ## Telling the application -/

/-- Whom an event is about. -/
def subject? : Payload → Option EntityId
  | .entity _ _ other _ => some other.id
  | .group _ member _ => some member.id
  | _ => none

/-- What the application does after an event; true if it panics. It has nothing to do after an
error. -/
def react (e : Engine) (r : Reaction) (sub : Subscription) (p : Payload) : Bool × Engine :=
  match subject? p, r with
  | none, _ | some _, .pass => (false, e)
  | some about, .panicOver id => (about == id, e)
  | some _, .leave => (false, (e.unsubscribe sub).2)
  | some _, .follow first =>
    (false, { (e.trackGroup (first.add e.followed) sub.watch.groups.1).2 with
      followed := e.followed + 1 })

/-- Tells the application of an event; true if it panics. -/
def tell (e : Engine) (sub : Subscription) (p : Payload) : Bool × Engine :=
  match e.sink with
  | none => (false, e)
  | some sink =>
    let e := { e with told := Notice.mk (some sub.id) p :: e.told }
    e.react sink.reaction sub p

/-- Reports that a subscription is refused. -/
def refuse (e : Engine) (sub : Subscription) (why : ErrorEvent) : Engine :=
  (e.tell sub (.error why)).2

/-! ## Subscribing around a participant -/

def canAnchor (e : Engine) (anchor : Entity) : Bool := anchor.isBeacon || anchor.same e.self

/-- Watches the distances between a participant and the members of a group. -/
def trackDistance (e : Engine) (id : SubscriptionId) (anchor : Entity) (others : Group) :
    Option Subscription × Engine :=
  let sub : Subscription := ⟨id, .proximity (.single anchor) others⟩
  if !e.canAnchor anchor then (none, e.refuse sub .notValid)
  else (some sub, { e.place id .empty with proximity := e.proximity ++ [sub] })

/-- Watches who comes within a radius of a participant. -/
def trackGeofence (e : Engine) (id : SubscriptionId) (anchor : Entity) (members : Group)
    (radius : Distance) : Option Subscription × Engine :=
  let sub : Subscription := ⟨id, .geofence anchor members radius⟩
  if !e.canAnchor anchor then (none, e.refuse sub .notValid)
  else if e.config.geofenceLimit ≤ e.geofence.length then
    (none, e.refuse sub .numberLimitExceeded)
  else (some sub, { e.place id .empty with geofence := e.geofence ++ [sub] })

end Vicinity.Engine
