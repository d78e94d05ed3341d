import Mathlib.Data.List.Perm.Basic
import Vicinity.Proofs.Engine.Utterances
import Vicinity.Proofs.Query

/-! A question and its answers, from the node that asks over any number of peers and back. Each peer
has a run of its own, and the network delivers what they say in any order; whom the answer names
depends on none of that. -/
namespace Vicinity.Engine

variable {e : Engine} {op : Operation} {topic : String}

/-! ## What reaches a node -/

/-- The message that reaches a node with an operation, whether the node takes it in or not. -/
def Operation.received? : Operation → Option Message
  | .hear m => some m
  | .hearPayload payload =>
    if payloadLimit < payload.size then none else (Message.decode payload).toOption
  | _ => none

/-- The reply that reaches a node with an operation. -/
def Operation.response? (op : Operation) : Option Message :=
  op.received?.filter fun m => (replier? m.body).isSome

theorem heard?_received (e : Engine) (op : Operation) :
    e.heard? op = op.received?.bind e.heeds? := by
  cases op
  case hearPayload payload =>
    simp only [heard?,Operation.received?]
    split <;> rfl
  all_goals rfl

theorem heeds?_body {m : Message} {body : Message.Body} (heeds : e.heeds? m = some body) :
    m.body = body := by
  rw [heeds?] at heeds
  split at heeds <;> cases heeds
  rfl

/-- What a node takes in with an operation reached it in a message. -/
theorem received_of_heard {body : Message.Body} (heard : e.heard? op = some body) :
    ∃ m, op.received? = some m ∧ m.body = body := by
  rw [heard?_received] at heard
  obtain ⟨m,received,heeds⟩ := Option.bind_eq_some_iff.mp heard
  exact ⟨m,received,heeds?_body heeds⟩

theorem heeds?_foreign {m : Message} (live : e.stopped = false) (foreign : m.sender ≠ e.self.id) :
    e.heeds? m = some m.body := by
  rw [heeds?,live,beq_eq_false_iff_ne.mpr foreign]
  rfl

/-- A node that lives takes in every reply of another one. -/
theorem reply?_response (live : e.stopped = false)
    (foreign : ∀ m, op.response? = some m → m.sender ≠ e.self.id) :
    e.reply? op = op.response?.bind fun m => replier? m.body := by
  rw [reply?,heard?_received,Operation.response?]
  cases received : op.received? with
  | none => rfl
  | some m =>
    cases replies : replier? m.body with
    | none =>
      have unheeded : (e.heeds? m).bind replier? = none := by
        rw [heeds?]
        split
        · rfl
        · exact replies
      simpa [Option.filter_some,replies] using unheeded
    | some entity =>
      have taken := heeds?_foreign live (foreign m (by
        simp [Operation.response?,received,replies]))
      simp [Option.filter_some,replies,taken]

theorem Sound.repliesIn_responses (sound : e.Sound) {w : Nat × Deferred}
    (waits : e.timers.waiting? .query = some w) {ops : List Operation}
    (lasts : never (·.ends .query ·) e ops)
    (foreign : ∀ m ∈ ops.filterMap Operation.response?, m.sender ≠ e.self.id) :
    e.repliesIn ops =
      (ops.filterMap Operation.response?).filterMap fun m => replier? m.body := by
  induction ops generalizing e with
  | nil => rfl
  | cons op ops ih =>
    have live : e.stopped = false := by
      by_contra stopped
      rw [sound.silent (by simpa using stopped)] at waits
      cases waits
    have waits' := sound.waits_on waits (show never (·.ends .query ·) e [op] from ⟨lasts.1,trivial⟩)
    have rest := ih (sound.apply op) waits' lasts.2 fun m member => by
      rw [id_apply]
      exact foreign m (by
        rw [List.filterMap_cons]
        cases op.response? with
        | none => exact member
        | some _ => exact List.mem_cons_of_mem _ member)
    have first : e.reply? op = op.response?.bind fun m => replier? m.body :=
      reply?_response live fun m received => foreign m (by
        rw [List.filterMap_cons,received]
        exact List.mem_cons_self ..)
    rw [repliesIn,rest,first]
    cases received : op.response? with
    | none => simp [received]
    | some m => cases replies : replier? m.body <;> simp [received,replies]

/-! ## What a peer says -/

/-- Whether an operation brings a question that wants its replies on a channel. -/
def Operation.Brings (op : Operation) (topic : String) : Prop :=
  ∃ m beacons wanted within, op.received? = some m ∧
    m.body = .syncRequest topic beacons wanted within

theorem not_brings (silent : op.received? = none) : ¬ op.Brings topic := by
  rintro ⟨m,_,_,_,received,_⟩
  rw [silent] at received
  cases received

theorem brings_of_heard {beacons : List Entity} {wanted : Group} {within : Distance}
    (heard : e.heard? op = some (.syncRequest topic beacons wanted within)) : op.Brings topic := by
  obtain ⟨m,received,asks⟩ := received_of_heard heard
  exact ⟨m,beacons,wanted,within,received,asks⟩

/-- On a channel for replies only questions are answered that want them there. -/
theorem sayings_channel {s : Saying} (said : s ∈ e.sayings op)
    (channel : s.channel = .reply topic) : op.Brings topic := by
  cases utterance_of_sayings said with
  | answer other beacons wanted within heard =>
    obtain rfl := Channel.reply.inj channel
    exact brings_of_heard heard
  | _ => cases channel

theorem Sound.publishedOn_apply (sound : e.Sound) (op : Operation) (c : Channel) :
    (e.apply op).2.transport.publishedOn c =
      e.transport.publishedOn c ++ ((e.news op).filter (·.1 = c)).map (·.2) := by
  rw [Transport.publishedOn,sound.published_apply,sound.news_eq,List.filter_append,List.map_append]
  rfl

/-- Without a question nothing is replied. -/
theorem Sound.publishedOn_after (sound : e.Sound) {ops : List Operation}
    (unasked : ∀ op ∈ ops, ¬ op.Brings topic) :
    (e.after ops).transport.publishedOn (.reply topic) =
      e.transport.publishedOn (.reply topic) := by
  induction ops generalizing e with
  | nil => rfl
  | cons op ops ih =>
    have silent : (e.news op).filter (·.1 = .reply topic) = [] := by
      refine List.filter_eq_nil_iff.mpr fun m member => ?_
      obtain ⟨s,said,signed⟩ := sound.said member
      have channel : m.1 = s.channel := congrArg Prod.fst signed
      simp only [channel,decide_eq_true_eq]
      exact fun replies => unasked op (List.mem_cons_self ..) (sayings_channel said replies)
    rw [after_cons,ih (sound.apply op) fun op member => unasked op (List.mem_cons_of_mem _ member),
      sound.publishedOn_apply,silent,List.map_nil,List.append_nil]

/-- What a node publishes when a message reaches it. -/
theorem Sound.news_received (sound : e.Sound) {m : Message} (received : op.received? = some m)
    (live : e.stopped = false) (foreign : m.sender ≠ e.self.id) :
    e.news op = e.uttered (e.response m.body) := by
  have taken : e.heard? op = some m.body := by
    rw [heard?_received,received,Option.bind_some,heeds?_foreign live foreign]
  rw [sound.news_eq]
  cases op <;> simp only [Operation.received?,reduceCtorEq] at received
  all_goals exact congrArg (fun h : Option Message.Body => e.uttered (h.elim [] e.response)) taken

/-! ## Peers -/

/-- What is put to the network: where to reply, which beacons the asking node sees, who is wanted, and
how close. -/
structure Question where
  topic : String
  beacons : List Entity
  wanted : Group
  within : Distance

def Question.body (q : Question) : Message.Body :=
  .syncRequest q.topic q.beacons q.wanted q.within

/-- Another node, with all that ever happens to it. The question reaches it once, while it lives and
what it says goes out; no other message wants replies on the channel that was made for them. -/
structure Peer (m : Message) (topic : String) where
  self : Entity
  config : Config
  node : Engine
  started : start self config = .ok node
  earlier : List Operation
  delivery : Operation
  later : List Operation
  received : delivery.received? = some m
  once : ∀ op ∈ earlier ++ later, ¬ op.Brings topic
  live : (node.after earlier).stopped = false
  accepts : (node.after earlier).transport.accepts = true

namespace Peer

variable {m : Message} {topic : String}

def id (p : Peer m topic) : EntityId := p.self.id

/-- The peer at the time the question reaches it. -/
def asked (p : Peer m topic) : Engine := p.node.after p.earlier

/-- All that the peer ever says on a channel for replies. -/
def answers (p : Peer m topic) : List Message :=
  (p.node.after (p.earlier ++ p.delivery :: p.later)).transport.publishedOn (.reply topic)

/-- Whether the peer is looked for: it advertises distances, it is wanted and it is close enough. -/
def isFound (p : Peer m topic) (q : Question) : Bool :=
  p.asked.policy.proximityChanges && q.wanted.contains p.asked.self &&
    Distance.fuse q.beacons p.asked.cache ≤ q.within

/-- The peer as a device at the distance that both caches together give. -/
def entry (p : Peer m topic) (q : Question) : Entity :=
  { p.asked.self with type := .device, distance := Distance.fuse q.beacons p.asked.cache }

theorem asked_id (p : Peer m topic) : p.asked.self.id = p.id := by
  rw [asked,id_after,start_self p.started,id]

theorem asked_sound (p : Peer m topic) : p.asked.Sound := (start_sound p.started).after p.earlier

/-- What the peer publishes when the question reaches it. -/
theorem news_delivery {q : Question} (p : Peer m q.topic) (asks : m.body = q.body)
    (foreign : m.sender ≠ p.id) : p.asked.news p.delivery =
      if p.isFound q then [(.reply q.topic,⟨p.id,q.topic,.syncResponse (p.entry q)⟩)] else [] := by
  have accepts : p.asked.transport.accepts = true := p.accepts
  have said : p.asked.response q.body =
      if p.isFound q then [⟨.reply q.topic,q.topic,.syncResponse (p.entry q)⟩] else [] := rfl
  rw [p.asked_sound.news_received p.received p.live (p.asked_id ▸ foreign),asks,said,uttered_if,
    accepts,Bool.and_true,p.asked_id]
  rfl

/-- A peer that is looked for replies once, and no other ever does. -/
theorem answers_eq {q : Question} (p : Peer m q.topic) (asks : m.body = q.body)
    (foreign : m.sender ≠ p.id) : p.answers =
      if p.isFound q then [⟨p.id,q.topic,.syncResponse (p.entry q)⟩] else [] := by
  have early : p.asked.transport.publishedOn (.reply q.topic) = [] := by
    rw [asked,(start_sound p.started).publishedOn_after fun op member =>
      p.once op (List.mem_append_left _ member),Transport.publishedOn,start_published p.started]
    rfl
  have late := (p.asked_sound.apply p.delivery).publishedOn_after fun op member =>
    p.once op (List.mem_append_right _ member)
  have whole : p.answers =
      ((p.asked.apply p.delivery).2.after p.later).transport.publishedOn (.reply q.topic) :=
    congrArg (·.transport.publishedOn (.reply q.topic)) (after_append p.node p.earlier _)
  rw [whole,late,p.asked_sound.publishedOn_apply,early,List.nil_append,
    p.news_delivery asks foreign]
  split <;> simp

/-- The peers that are looked for, as they are to be named. -/
def named (q : Question) (peers : List (Peer m topic)) : List Entity :=
  (peers.filter (·.isFound q)).map (·.entry q)

/-- Everything that peers reply is who they are, from those that are looked for. -/
theorem answers_named {q : Question} (peers : List (Peer m q.topic)) (asks : m.body = q.body)
    (foreign : ∀ p ∈ peers, m.sender ≠ p.id) :
    (peers.flatMap answers).filterMap (fun m => replier? m.body) = named q peers := by
  induction peers with
  | nil => rfl
  | cons p peers ih =>
    have rest := ih fun p member => foreign p (List.mem_cons_of_mem _ member)
    rw [List.flatMap_cons,List.filterMap_append,rest,
      p.answers_eq asks (foreign p (List.mem_cons_self ..)),named,named]
    by_cases found : p.isFound q = true
    · simp [found,replier?]
    · simp [found]

theorem answers_senders {q : Question} (peers : List (Peer m q.topic)) (asks : m.body = q.body)
    (foreign : ∀ p ∈ peers, m.sender ≠ p.id) {reply : Message}
    (member : reply ∈ peers.flatMap answers) : ∃ p ∈ peers, reply.sender = p.id := by
  obtain ⟨p,isPeer,answer⟩ := List.mem_flatMap.mp member
  rw [p.answers_eq asks (foreign p isPeer),List.mem_ite_nil_right,List.mem_singleton] at answer
  exact ⟨p,isPeer,by rw [answer.2]⟩

theorem entry_id (p : Peer m topic) (q : Question) : (p.entry q).id = p.id := p.asked_id

/-- Among peers with ids of their own, each that is looked for is named once. -/
theorem named_once (q : Question) {peers : List (Peer m topic)}
    (distinct : (peers.map Peer.id).Nodup) {p : Peer m topic} (member : p ∈ peers) :
    (named q peers).filter (·.id = p.id) = if p.isFound q then [p.entry q] else [] := by
  induction peers with
  | nil => cases member
  | cons other peers ih =>
    obtain ⟨unlike,distinct⟩ := List.nodup_cons.mp distinct
    have first : named q (other :: peers) =
        (if other.isFound q then [other.entry q] else []) ++ named q peers := by
      rw [named,List.filter_cons]
      split <;> rfl
    rw [first,List.filter_append]
    rcases List.mem_cons.mp member with rfl | later
    · have rest : (named q peers).filter (·.id = p.id) = [] := by
        refine List.filter_eq_nil_iff.mpr fun x isNamed => ?_
        obtain ⟨r,isPeer,rfl⟩ := List.mem_map.mp isNamed
        have apart : r.id ≠ p.id := fun same =>
          unlike (same ▸ List.mem_map_of_mem (List.mem_of_mem_filter isPeer))
        simpa [entry_id] using apart
      rw [rest,List.append_nil]
      split <;> simp [entry_id]
    · have apart : other.id ≠ p.id := fun same =>
        unlike (same ▸ List.mem_map_of_mem later)
      rw [ih distinct later]
      have none : (if other.isFound q then [other.entry q] else []).filter (·.id = p.id) = [] := by
        split <;> simp [entry_id,apart]
      rw [none,List.nil_append]

end Peer

/-! ## The whole exchange -/

/-- A node that asks, with all that happened to it before. -/
structure Asker where
  self : Entity
  config : Config
  node : Engine
  started : start self config = .ok node
  earlier : List Operation
  token : String
  wanted : Group
  within : Distance
  timeout : Nat

namespace Asker

/-- The node at the time it asks. -/
def idle (a : Asker) : Engine := a.node.after a.earlier

def asks (a : Asker) : Operation := .ask a.token a.wanted a.within a.timeout

def waiting (a : Asker) : Engine := (a.idle.apply a.asks).2

def deadline (a : Asker) : Nat := a.idle.timers.now + a.timeout

/-- What the node puts to the network: its beacons are those that it remembers then. -/
def question (a : Asker) : Question := ⟨replyTopic a.token,a.idle.cache,a.wanted,a.within⟩

variable {a : Asker} {m : Message}

theorem idle_sound (a : Asker) : a.idle.Sound := (start_sound a.started).after a.earlier

theorem idle_id (a : Asker) : a.idle.self.id = a.self.id := by
  rw [idle,id_after,start_self a.started]

theorem waiting_id (a : Asker) : a.waiting.self.id = a.self.id := by
  rw [waiting,id_apply,idle_id]

/-- A question goes out in the name of the node that asks, and only if no other is open. -/
theorem published (asked : (.broadcast,m) ∈ a.idle.news a.asks) :
    a.idle.Free ∧ m.sender = a.self.id ∧ m.body = a.question.body := by
  obtain ⟨s,said,signed⟩ := a.idle_sound.said asked
  simp only [asks,sayings,List.mem_ite_nil_left,List.mem_singleton] at said
  obtain ⟨free,rfl⟩ := said
  obtain ⟨-,rfl⟩ := Prod.mk.inj signed
  simp only [isQueryPending,Bool.or_eq_true,not_or,Bool.not_eq_true,Option.isSome_eq_false_iff,
    Option.isNone_iff_eq_none] at free
  exact ⟨free,a.idle_id,rfl⟩

end Asker

/-- Names in an answer: each peer that is looked for once, no other, and all in the order in which
their replies arrived. -/
structure Names (q : Question) {m : Message} (peers : List (Peer m q.topic))
    (arrived : List Message) (found : List Entity) : Prop where
  order : found = arrived.filterMap fun m => replier? m.body
  members : found.Perm (Peer.named q peers)
  once : ∀ p ∈ peers, found.filter (·.id = p.id) = if p.isFound q then [p.entry q] else []

/-- A question that reached peers once, and whose replies arrived once before its time came, is
answered with the peers that it looks for, and with the remembered beacons that are close enough. -/
theorem question_answered (a : Asker) {m : Message} (asked : (.broadcast,m) ∈ a.idle.news a.asks)
    (peers : List (Peer m a.question.topic)) (distinct : (a.self.id :: peers.map Peer.id).Nodup)
    {mid : List Operation} (lasts : never (·.ends .query ·) a.waiting mid)
    (delivered : (mid.filterMap Operation.response?).Perm (peers.flatMap Peer.answers))
    {last : Operation} (comes : (a.waiting.after mid).expires last .query a.deadline = true) :
    ∃ found, Names a.question peers (mid.filterMap Operation.response?) found ∧
      ((a.waiting.after mid).apply last).2.completed = a.idle.completed ++ [⟨a.question.topic,
        found ++ (a.waiting.after mid).cache.filter (·.distance ≤ a.within)⟩] := by
  obtain ⟨free,sender,body⟩ := Asker.published asked
  obtain ⟨unlike,distinct⟩ := List.nodup_cons.mp distinct
  have foreign : ∀ p ∈ peers, m.sender ≠ p.id := fun p isPeer same =>
    unlike ((sender.symm.trans same) ▸ List.mem_map_of_mem isPeer)
  have sound := a.idle_sound.apply a.asks
  -- what the node takes in is what its peers said, since none of them has its id
  have strange : ∀ r ∈ mid.filterMap Operation.response?, r.sender ≠ a.waiting.self.id := by
    intro r arrived
    obtain ⟨p,isPeer,same⟩ := Peer.answers_senders peers body foreign (delivered.mem_iff.mp arrived)
    rw [same,a.waiting_id,← sender]
    exact (foreign p isPeer).symm
  have opened := (a.idle_sound.opened free a.token a.wanted a.within a.timeout).2.1
  have replies := sound.repliesIn_responses opened lasts strange
  obtain ⟨query,waits,completed⟩ := a.idle_sound.collecting free lasts
  have answer := ((sound.after mid).answered query waits comes).1
  have members : (a.waiting.repliesIn mid).Perm (Peer.named a.question peers) := by
    rw [← Peer.answers_named peers body foreign]
    exact replies ▸ delivered.filterMap _
  refine ⟨a.waiting.repliesIn mid,⟨replies,members,fun p isPeer => ?_⟩,?_⟩
  · have same := members.filter fun x : Entity => x.id = p.id
    rw [Peer.named_once a.question distinct isPeer] at same
    split at same
    next found => exact (List.perm_singleton.mp same).trans (if_pos found).symm
    next missed => exact (List.perm_nil.mp same).trans (if_neg missed).symm
  · exact answer.trans (congrArg (· ++ _) completed)

/-! ## Two peers -/

def seeker : Asker where
  self := .bare (.of "me") .device
  config := .standard
  node := _
  started := rfl
  earlier := [sights 1.5]
  token := "Q0"
  wanted := .everyone "all"
  within := .far
  timeout := 10000

def search : Message := ⟨.of "me",seeker.idle.stamp,seeker.question.body⟩

/-- A peer that sees the same beacon. -/
def neighbour : Peer search seeker.question.topic where
  self := .bare (.of "you") .device
  config := .standard
  node := _
  started := rfl
  earlier := [sights 3.0]
  delivery := .hear search
  later := [.stop]
  received := rfl
  once := List.forall_mem_cons.mpr ⟨not_brings rfl,List.forall_mem_singleton.mpr (not_brings rfl)⟩
  live := rfl
  accepts := rfl

/-- A peer that sees it as well, and does not let others know. -/
def recluse : Peer search seeker.question.topic where
  self := .bare (.of "they") .device
  config := .standard
  node := _
  started := rfl
  earlier := [sights 0.5,.setPolicy ⟨true,false⟩]
  delivery := .hear search
  later := []
  received := rfl
  once := List.forall_mem_cons.mpr ⟨not_brings rfl,List.forall_mem_singleton.mpr (not_brings rfl)⟩
  live := rfl
  accepts := rfl

def awaited : List Operation := [.elapse 5000,
  .hear ⟨.of "you",seeker.question.topic,.syncResponse (neighbour.entry seeker.question)⟩]

theorem question_answered_pair : neighbour.isFound seeker.question = true ∧
    recluse.isFound seeker.question = false ∧
    (neighbour.entry seeker.question).distance = .nextTo ∧
    ∃ found,
      Names seeker.question [recluse,neighbour] (awaited.filterMap Operation.response?) found ∧
      ((seeker.waiting.after awaited).apply (.elapse 5000)).2.completed = seeker.idle.completed ++
        [⟨seeker.question.topic,found ++
          (seeker.waiting.after awaited).cache.filter (·.distance ≤ seeker.within)⟩] := by
  have asked : (.broadcast,search) ∈ seeker.idle.news seeker.asks := List.mem_singleton.mpr rfl
  have lasts : never (·.ends .query ·) seeker.waiting awaited := ⟨by decide,by decide,trivial⟩
  have delivered : (awaited.filterMap Operation.response?).Perm
      ([recluse,neighbour].flatMap Peer.answers) := .of_eq rfl
  exact ⟨by decide,by decide,by decide,
    question_answered seeker asked [recluse,neighbour] (by decide) lasts delivered (by decide)⟩

end Vicinity.Engine
