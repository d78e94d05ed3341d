import Vicinity.Error
import Vicinity.Message

/-! The connection of a node to the network, kept in memory: what the node published, in order,
and the names it listens to. Failures can be asked for. -/
namespace Vicinity

structure Transport where
  published : List (Channel × Message)
  /-- Names in ascending order, each once. -/
  topics : List String
  connected : Bool
  reconnects : Nat
  refusesPublish : Bool
  refusesReconnect : Bool

namespace Transport

/-- A new connection is up. -/
def start : Transport := ⟨[], [], true, 0, false, false⟩

def notConnected : TransportError := .connectionFailed "not connected"

def publish (t : Transport) (c : Channel) (m : Message) : Except TransportError Transport :=
  if !t.connected then .error notConnected
  else if t.refusesPublish then .error (.publishFailed c.name "injected failure")
  else .ok { t with published := t.published ++ [(c, m)] }

def insertTopic (name : String) : List String → List String
  | [] => [name]
  | n :: ns =>
    if name < n then name :: n :: ns
    else if name = n then n :: ns
    else n :: insertTopic name ns

def listen (t : Transport) (c : Channel) : Except TransportError Transport :=
  if !t.connected then .error notConnected
  else .ok { t with topics := insertTopic c.name t.topics }

/-- Works without a connection, too. -/
def unlisten (t : Transport) (c : Channel) : Transport :=
  { t with topics := t.topics.filter (· ≠ c.name) }

/-- A new session listens to nothing. -/
def reconnect (t : Transport) : Except TransportError Transport :=
  if t.refusesReconnect then .error (.connectionFailed "injected reconnect failure")
  else .ok { t with reconnects := t.reconnects + 1, topics := [], connected := true }

def disconnect (t : Transport) : Transport := { t with connected := false, topics := [] }

def listensTo (t : Transport) (c : Channel) : Bool := t.topics.contains c.name

def publishedOn (t : Transport) (c : Channel) : List Message :=
  (t.published.filter (·.1 = c)).map (·.2)

/-- Hands out what was published, and forgets it. -/
def take (t : Transport) : List (Channel × Message) × Transport :=
  (t.published, { t with published := [] })

end Transport

end Vicinity
