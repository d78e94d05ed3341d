import Vicinity.Beacon
import Vicinity.Config
import Vicinity.Detected
import Vicinity.Timers
import Vicinity.Transport

/-! The state of a node: who it is, what it is subscribed to, what it has seen, and its
connection to the network. Everything that it tells the application is kept, and `delivered` gives
it in order. -/
namespace Vicinity

/-- What an application does after an event about a subscription. -/
inductive Reaction where
  | pass
  /-- Panics over one participant. -/
  | panicOver (id : EntityId)
  /-- Ends the subscription. -/
  | leave
  /-- Subscribes to the changes of the first group; the ids of its subscriptions count up. -/
  | follow (first : SubscriptionId)
  deriving DecidableEq

/-- Where events go. -/
structure Sink where
  hearsPois : Bool
  reaction : Reaction
  deriving DecidableEq

namespace Sink

/-- Takes everything and does nothing. -/
def recorder : Sink := ⟨true, .pass⟩

end Sink

namespace Engine

/-- What the timers of a node wait for. -/
inductive TimerKey where
  | departure (id : EntityId)
  | query
  deriving DecidableEq

/-- What happens when the time comes. -/
inductive Deferred where
  | departure (entity : Entity)
  | query (topic : String) (within : Distance)

/-- A question to the network that is still open. -/
structure Query where
  topic : String
  /-- Who replied, in order. -/
  replies : List Entity

/-- The answer to a question. -/
structure Completion where
  topic : String
  found : List Entity

end Engine

structure Engine where
  config : Config
  /-- The node as a participant. -/
  self : Entity
  proximity : List Subscription
  geofence : List Subscription
  group : List Subscription
  sink : Option Sink
  pois : List Poi
  /-- The beacons of the last scan. -/
  cache : List Entity
  query : Option Engine.Query
  timers : Timers Engine.TimerKey Engine.Deferred
  /-- Scans since the last beacon report. -/
  scans : UInt32
  visibility : Visibility
  stopped : Bool
  /-- Who is inside, for every subscription there ever was. -/
  inside : SubscriptionId → Detected
  transport : Transport
  /-- How many evaluations the application broke off. -/
  panicked : Nat
  /-- What the application was told, latest first. -/
  told : List Notice
  completed : List Engine.Completion
  /-- How many subscriptions the application made while it was told of events. -/
  followed : Nat

namespace Engine

/-- A node that is connected, subscribed to nothing and heard by nobody. -/
def start (self : Entity) (config : Config) : Except Error Engine :=
  if self.id.isEmpty then .error (.validation .emptyEntityId)
  else .ok {
    config := config, self := self, proximity := [], geofence := [], group := [], sink := none
    pois := [], cache := [], query := none, timers := .start "node", scans := 0
    visibility := .start config.advertise, stopped := false, inside := fun _ => .empty
    transport := .start, panicked := 0, told := [], completed := [], followed := 0 }

/-- What the application was told, in order. -/
def delivered (e : Engine) : List Notice := e.told.reverse

def policy (e : Engine) : Policy := e.visibility.current

def isGhost (e : Engine) : Bool := e.visibility.isGhost

/-- The log id of what the node does by itself: who and when. -/
def stamp (e : Engine) : String := e.self.id.text ++ toString e.timers.now

/-- Publishes a message; one that the transport refuses is lost. -/
def publish (e : Engine) (c : Channel) (logId : String) (body : Message.Body) : Engine :=
  match e.transport.publish c ⟨e.self.id, logId, body⟩ with
  | .ok t => { e with transport := t }
  | .error _ => e

/-- Listens to a channel; without a connection nothing comes of it. -/
def listen (e : Engine) (c : Channel) : Engine :=
  match e.transport.listen c with
  | .ok t => { e with transport := t }
  | .error _ => e

/-- Listens to the shared channels and to the private one of a participant. -/
def listenAs (e : Engine) (id : EntityId) : Engine :=
  (Channel.shared ++ [Channel.entity id]).foldl listen e

/-- Sets who is inside a geofence. -/
def place (e : Engine) (id : SubscriptionId) (d : Detected) : Engine :=
  let before := e.inside
  { e with inside := fun other => if other = id then d else before other }

/-- Group subscriptions, then those for distances, then geofences. -/
def subscriptions (e : Engine) : List Subscription := e.group ++ e.proximity ++ e.geofence

def isQueryPending (e : Engine) : Bool := e.query.isSome

def isDeparturePending (e : Engine) (id : EntityId) : Bool := e.timers.isPending (.departure id)

def describe (e : Engine) : String :=
  "ProximityEngine \x7b self_entity: EntityId(" ++ Text.quote e.self.id.text ++
    "), proximity: " ++ toString e.proximity.length ++ ", geofence: " ++
    toString e.geofence.length ++ ", group: " ++ toString e.group.length ++ ", stopped: " ++
    toString e.stopped ++ " \x7d"

end Engine

end Vicinity
