import Vicinity.Engine.Inbound
import Vicinity.Proofs.Engine.Evaluation

/-! What a node evaluates and what it does besides. Whatever it works through comes down to facts
that are evaluated in order, beside a change of its surroundings that no evaluation sees. -/
namespace Vicinity.Engine

variable {e f g : Engine}

/-! ## Publishing -/

theorem publish_beside (same : f.self = g.self) (c : Channel) (logId : String)
    (body : Message.Body) :
    (f.beside g).publish c logId body = f.beside (g.publish c logId body) := by
  have self : (f.beside g).self = g.self := same
  have outcome : (f.beside g).transport.publish c ⟨(f.beside g).self.id,logId,body⟩ =
      g.transport.publish c ⟨g.self.id,logId,body⟩ := by rw [self]; rfl
  simp only [publish]
  rw [outcome]
  split <;> rfl

/-- How far a peer is, if it is another participant and sees a beacon that is remembered. -/
def estimated? (e : Engine) (peer : Entity) (beacons : List Entity) : Option Distance :=
  if peer.same e.self || (e.commonBeacons beacons).isEmpty then none
  else some (Distance.fuse (e.commonBeacons beacons) e.cache)

/-- The facts of a distance to a peer. A peer that is told of the distance evaluates it itself. -/
def peerFacts (e : Engine) (peer : Entity) (d : Distance) : List Fact :=
  if e.policy.proximityChanges then [.around e.self peer d]
  else [.apart e.self peer d,.around e.self peer d]

/-- A peer is told of its distance if distances are advertised. -/
def tellPeer (e : Engine) (peer : Entity) (d : Distance) : Engine :=
  if e.policy.proximityChanges then
    e.publish (.entity peer.id) e.stamp (.proximityUpdate e.self peer d)
  else e

theorem estimate_eq (e : Engine) (peer : Entity) (beacons : List Entity) :
    e.estimate peer beacons = match e.estimated? peer beacons with
      | some d => (e.peerFacts peer d,e.tellPeer peer d)
      | none => ([],e) := by
  simp only [estimate,estimated?,peerFacts,tellPeer]
  by_cases own : peer.same e.self = true
  · simp [own]
  by_cases strange : (e.commonBeacons beacons).isEmpty = true
  · simp [own,strange]
  · by_cases told : e.policy.proximityChanges = true <;> simp [own,strange,told]

theorem tellPeer_beside (same : f.self = g.self) (peer : Entity) (d : Distance) :
    (f.beside g).tellPeer peer d = f.beside (g.tellPeer peer d) := by
  have self : (f.beside g).self = g.self := same
  have stamp : (f.beside g).stamp = g.stamp := by rw [stamp,self]; rfl
  have policy : (f.beside g).policy = g.policy := rfl
  simp only [tellPeer]
  rw [stamp,policy,publish_beside same]
  split
  · rw [self]
  · rfl

theorem answer_beside (same : f.self = g.self) (topic : String) (beacons : List Entity)
    (wanted : Group) (within : Distance) : (f.beside g).answer topic beacons wanted within =
      f.beside (g.answer topic beacons wanted within) := by
  have self : (f.beside g).self = g.self := same
  have cache : (f.beside g).cache = g.cache := rfl
  simp only [answer,self,cache,publish_beside same]
  by_cases asked : wanted.contains g.self = true
  · by_cases close : Distance.fuse beacons g.cache ≤ within <;> simp [asked,close]
  · simp [asked]

/-! ## Tasks -/

/-- The facts of a task. -/
def Task.facts : Task → List Fact
  | .evaluate fact => [fact]
  | .estimate .. | .answer .. => []

/-- The facts that a task leaves for later. -/
def leaves (e : Engine) : Task → List Fact
  | .estimate peer beacons => ((e.estimated? peer beacons).map (e.peerFacts peer)).getD []
  | .evaluate _ | .answer .. => []

/-- What a task does besides: it may publish a message. -/
def send (e : Engine) : Task → Engine
  | .evaluate _ => e
  | .estimate peer beacons => ((e.estimated? peer beacons).map (e.tellPeer peer)).getD e
  | .answer topic beacons wanted within => e.answer topic beacons wanted within

/-- Only the log of the connection grows. -/
structure Sent (e f : Engine) : Prop where
  sent : ∃ more, f = { e with
    transport := { e.transport with published := e.transport.published ++ more } }

theorem Sent.refl (e : Engine) : Sent e e := ⟨[],by simp⟩

theorem Sent.trans (first : Sent e f) (second : Sent f g) : Sent e g := by
  obtain ⟨more,rfl⟩ := first
  obtain ⟨rest,rfl⟩ := second
  exact ⟨more ++ rest,by simp⟩

theorem publish_sent (e : Engine) (c : Channel) (logId : String) (body : Message.Body) :
    Sent e (e.publish c logId body) := by
  rw [publish,Transport.publish]
  split
  next t published =>
    split at published
    · cases published
    split at published
    · cases published
    · cases published
      exact ⟨_,rfl⟩
  next => exact .refl e

theorem tellPeer_sent (e : Engine) (peer : Entity) (d : Distance) :
    Sent e (e.tellPeer peer d) := by
  rw [tellPeer]
  split
  · exact publish_sent ..
  · exact .refl e

theorem answer_sent (e : Engine) (topic : String) (beacons : List Entity) (wanted : Group)
    (within : Distance) : Sent e (e.answer topic beacons wanted within) := by
  rw [answer]
  dsimp only
  split
  · split
    · exact publish_sent ..
    · exact .refl e
  · exact .refl e

theorem send_sent (e : Engine) (t : Task) : Sent e (e.send t) := by
  cases t with
  | evaluate fact => exact .refl e
  | estimate peer beacons =>
    rw [send]
    cases e.estimated? peer beacons with
    | none => exact .refl e
    | some d => exact tellPeer_sent ..
  | answer topic beacons wanted within => exact answer_sent ..

theorem estimated?_beside (same : f.self = g.self) (peer : Entity) (beacons : List Entity) :
    (f.beside g).estimated? peer beacons = g.estimated? peer beacons := by
  have self : (f.beside g).self = g.self := same
  rw [estimated?]
  rw [self]
  rfl

theorem send_beside (same : f.self = g.self) (t : Task) :
    (f.beside g).send t = f.beside (g.send t) := by
  cases t with
  | evaluate fact => rfl
  | estimate peer beacons =>
    rw [send,send,estimated?_beside same]
    cases g.estimated? peer beacons with
    | none => rfl
    | some d => exact tellPeer_beside same peer d
  | answer topic beacons wanted within => exact answer_beside same ..

theorem leaves_beside (same : f.self = g.self) (t : Task) :
    (f.beside g).leaves t = g.leaves t := by
  have self : (f.beside g).self = g.self := same
  cases t with
  | evaluate fact => rfl
  | estimate peer beacons =>
    have facts : (f.beside g).peerFacts peer = g.peerFacts peer := by
      funext d
      rw [peerFacts]
      rw [self]
      rfl
    simp only [leaves,estimated?_beside same,facts]
  | answer topic beacons wanted within => rfl

/-- What is left for later does not depend on what was published. -/
theorem leaves_sent (sent : Sent e f) (t : Task) : f.leaves t = e.leaves t := by
  obtain ⟨more,rfl⟩ := sent
  cases t <;> rfl

theorem runTask_eq (e : Engine) (t : Task) :
    e.runTask t = (e.leaves t,(e.evaluateAll t.facts).beside (e.send t)) := by
  cases t with
  | evaluate fact => exact congrArg _ (evaluateAll_aside e [fact]).symm
  | estimate peer beacons =>
    simp only [runTask,estimate_eq,leaves,send]
    cases e.estimated? peer beacons with
    | none => rfl
    | some d => exact congrArg _ (tellPeer_beside (f := e) rfl peer d)
  | answer topic beacons wanted within => exact congrArg _ (answer_beside (f := e) rfl ..)

/-- The changes that tasks make besides. -/
def sends (e : Engine) (ts : List Task) : Engine := ts.foldl send e

theorem sends_sent (e : Engine) (ts : List Task) : Sent e (e.sends ts) := by
  induction ts generalizing e with
  | nil => exact .refl e
  | cons t ts ih => exact (send_sent e t).trans (ih _)

theorem sends_beside (same : f.self = g.self) (ts : List Task) :
    (f.beside g).sends ts = f.beside (g.sends ts) := by
  induction ts generalizing g with
  | nil => rfl
  | cons t ts ih =>
    have kept : (g.send t).self = g.self := by
      obtain ⟨more,sent⟩ := send_sent g t
      rw [sent]
    exact (congrArg (·.sends ts) (send_beside same t)).trans (ih (same.trans kept.symm))

theorem runTasks_eq (e : Engine) (ts : List Task) : e.runTasks ts =
    (ts.flatMap e.leaves,(e.evaluateAll (ts.flatMap Task.facts)).beside (e.sends ts)) := by
  induction ts generalizing e with
  | nil => rfl
  | cons t ts ih =>
    have sent := send_sent e t
    have same : (e.evaluateAll t.facts).self = (e.send t).self := by
      obtain ⟨more,sent⟩ := sent
      rw [sent,(evaluateAll_kept t.facts).1]
    have leaves : ts.flatMap ((e.evaluateAll t.facts).beside (e.send t)).leaves =
        ts.flatMap e.leaves :=
      congrArg ts.flatMap (funext fun u => (leaves_beside same u).trans (leaves_sent sent u))
    simp only [runTasks,runTask_eq,ih,leaves,List.flatMap_cons,evaluateAll_beside,
      evaluateAll_append,sends_beside same]
    rfl

/-- The facts that come of tasks. -/
def workFacts (e : Engine) (ts : List Task) : List Fact :=
  if e.stopped then [] else ts.flatMap Task.facts ++ ts.flatMap e.leaves

theorem work_eq (e : Engine) (ts : List Task) : e.work ts =
    (e.evaluateAll (e.workFacts ts)).beside (if e.stopped then e else e.sends ts) := by
  rw [work,workFacts]
  split
  · rfl
  · simp only [runTasks_eq,evaluateAll_append]
    exact evaluateAll_beside _

end Vicinity.Engine
