import Vicinity.Engine.Evaluation

/-! Questions to the network: who of a group is within a distance? Replies come on a channel made
for the question, and a timer alone ends the wait. One question is open at a time. -/
namespace Vicinity.Engine

/-- The name of the channel for the replies, which nobody else uses. -/
def replyTopic (token : String) : String := token ++ "-reqTopic"

/-- Opens a question; false, and nothing happens, while another is open. -/
def ask (e : Engine) (token : String) (wanted : Group) (within : Distance) (timeout : Nat) :
    Bool × Engine :=
  if e.stopped || e.isQueryPending then (false, e)
  else
    let topic := replyTopic token
    match e.timers.arm .query timeout (.query topic within) with
    | .error _ => (false, e)
    | .ok (_, timers) =>
      let e := { e with query := some ⟨topic, []⟩, timers := timers }.listen (.reply topic)
      (true, e.publish .broadcast e.stamp (.syncRequest topic e.cache wanted within))

/-- Takes in a reply; without an open question nobody waits for it. -/
def collect (e : Engine) (entity : Entity) : Engine :=
  { e with query := e.query.map fun q => { q with replies := q.replies ++ [entity] } }

/-- Closes the open question. Its answer is who replied, and the remembered beacons that are
close enough. -/
def closeQuery (e : Engine) (within : Distance) : List Entity × Engine :=
  match e.query with
  | none => ([], e)
  | some q =>
    (q.replies ++ e.cache.filter (·.distance ≤ within),
      { e with query := none, transport := e.transport.unlisten (.reply q.topic) })

/-- What was deferred happens now. -/
def carryOut (e : Engine) : Deferred → Engine
  | .departure entity => e.work [.evaluate (.left entity)]
  | .query topic within =>
    let (found, e) := e.closeQuery within
    { e with completed := e.completed ++ [⟨topic, found⟩] }

/-- Lets time pass. -/
def elapse (e : Engine) (milliseconds : Nat) : Engine :=
  let (due, timers) := e.timers.elapse milliseconds
  due.foldl carryOut { e with timers := timers }

/-- The time of one timer comes. -/
def expire (e : Engine) (key : TimerKey) : Engine :=
  let (due, timers) := e.timers.expire key
  due.toList.foldl carryOut { e with timers := timers }

/-- The participants whose departure waits to be confirmed, earliest first. -/
def departing (e : Engine) : List EntityId :=
  e.timers.entries.filterMap fun (key, _) =>
    match key with
    | .departure id => some id
    | .query => none

/-- The time of every pending departure comes. -/
def expireDepartures (e : Engine) : Engine :=
  e.departing.foldl (fun e id => e.expire (.departure id)) e

end Vicinity.Engine
