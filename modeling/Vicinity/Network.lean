import Vicinity.Engine.Operation

/-! Several nodes and what travels between them. Every node delivers into a stream of its own,
and its host keeps the subscriptions that it was given. -/
namespace Vicinity

structure Node where
  engine : Engine
  stream : EventStream
  /-- The subscriptions that calls returned, in order. -/
  held : List Subscription
  /-- The topic of the last query that was started, until its outcome is fetched. -/
  asked : Option String
  /-- How many of the published messages were passed on. -/
  relayed : Nat

namespace Node

/-- A node that delivers into its stream from the beginning. -/
def start (self : Entity) (config : Config) : Except Error Node := do
  let e ← Engine.start self config
  return ⟨{ e with sink := some .recorder }, .start config.queueCapacity, [], none, 0⟩

/-- Runs an operation; the stream takes what is delivered. -/
def apply (n : Node) (op : Engine.Operation) : Engine.Reply × Node :=
  let (reply, e) := n.engine.apply op
  let news := e.told.take (e.told.length - n.engine.told.length)
  (reply, { n with engine := e, stream := news.reverse.foldl .push n.stream })

/-- Subscribes, and keeps what the call returns; gives its place. -/
def subscribe (n : Node) (op : Engine.Operation) : Option Nat × Node :=
  match n.apply op with
  | (.subscription (some sub), n) => (some n.held.length, { n with held := n.held ++ [sub] })
  | (_, n) => (none, n)

/-- The place of a subscription among those that are kept. -/
def place? (n : Node) (id : SubscriptionId) : Option Nat := n.held.findIdx? (·.id == id)

/-- Starts a query. Without a timeout it never ends, and with no time at all it ends at once. -/
def ask (n : Node) (token : String) (wanted : Group) (within : Distance) (timeout : Option Nat) :
    Bool × Node :=
  match n.apply (.ask token wanted within (timeout.getD Config.word)) with
  | (.flag true, n) =>
    let n := { n with asked := some (Engine.replyTopic token) }
    (true, if timeout = some 0 then (n.apply (.expire .query)).2 else n)
  | (_, n) => (false, n)

inductive Outcome where
  /-- Nothing was asked, or the outcome was fetched before. -/
  | none
  | found (entities : List Entity)
  /-- The node stopped before the time of the query came. -/
  | abandoned

/-- Waits for the time of the last query. -/
def outcome (n : Node) : Outcome × Node :=
  match n.asked with
  | Option.none => (.none, n)
  | some topic =>
    let n := { (n.apply (.expire .query)).2 with asked := Option.none }
    match n.engine.completed.find? (·.topic == topic) with
    | some c => (.found c.found, n)
    | Option.none => (.abandoned, n)

/-- Takes the events out of the stream. -/
def drain (n : Node) : List Notice × Node :=
  let (notices, stream) := n.stream.drain
  (notices, { n with stream := stream })

end Node

structure Network where
  nodes : List Node
  /-- How many queries were started. -/
  queries : Nat

namespace Network

/-- One message on its way to one node. -/
structure Passage where
  receiver : Nat
  channel : Channel
  kind : String
  accepted : Bool

def start (nodes : List Node) : Network := ⟨nodes, 0⟩

/-- The `n`-th query of the network carries its number. -/
def token (net : Network) : String := "Q" ++ toString net.queries

def set (net : Network) (i : Nat) (n : Node) : Network := { net with nodes := net.nodes.set i n }

/-- Waits so many milliseconds for departures: where none may be unconfirmed for longer, the time
of every pending one comes. -/
def expireDepartures (net : Network) (wait : Nat) : Network :=
  { net with nodes := net.nodes.map fun n =>
      if n.engine.config.checkoutGrace ≤ wait then (n.apply .expireDepartures).2 else n }

/-- Hands a message to a node if it listens to the channel. -/
def pass (net : Network) (c : Channel) (m : Message) (j : Nat) : Option Passage × Network :=
  match net.nodes[j]? with
  | none => (none, net)
  | some n =>
    if n.engine.transport.listensTo c then
      match n.apply (.hearPayload m.encode) with
      | (.flag accepted, n) => (some ⟨j, c, m.kind, accepted⟩, net.set j n)
      | (_, n) => (none, net.set j n)
    else (none, net)

def passAll (net : Network) : List (Channel × Message × Nat) → List Passage × Network
  | [] => ([], net)
  | (c, m, j) :: rest =>
    let (passage, net) := net.pass c m j
    let (passages, net) := net.passAll rest
    (passage.toList ++ passages, net)

/-- Hands to the other nodes what a node published since its last relay. -/
def relay (net : Network) (i : Nat) : List Passage × Network :=
  match net.nodes[i]? with
  | none => ([], net)
  | some n =>
    let published := n.engine.transport.published
    let others := (List.range net.nodes.length).filter (· ≠ i)
    (net.set i { n with relayed := published.length }).passAll
      ((published.drop n.relayed).flatMap fun (c, m) => others.map fun j => (c, m, j))

end Network

end Vicinity
