import Vicinity.Proofs.Engine.Persona
import Vicinity.Proofs.Engine.Waiting

/-! Where messages come from. A node has seven things to say, each in its own place, and whatever it
published in a run it published in one operation of the run, in its own name. -/
namespace Vicinity.Engine

variable {e : Engine} {op : Operation}

/-- What a node can say in an operation, and where. -/
inductive Utterance (e : Engine) (op : Operation) : Saying → Prop
  | arrival (greets : op = .connected ∨ op = .leaveGhost) :
    Utterance e op ⟨.broadcast,e.stamp,.checkIn e.self⟩
  | farewell (hides : op = .enterGhost) :
    Utterance e op ⟨.broadcast,e.stamp,.checkOut e.self true⟩
  | change (new : Entity) (asked : op = .updateSelf new) (same : new.id = e.self.id) :
    Utterance e op ⟨.group,e.stamp,.propertiesUpdate new e.self.bag⟩
  | report (readings : List BeaconReading) (scanned : op = .scan readings) :
    Utterance e op
      ⟨.proximity,e.stamp,.beaconReport e.self (readings.map BeaconReading.entity)⟩
  | question (token : String) (wanted : Group) (within : Distance) (timeout : Nat)
      (asked : op = .ask token wanted within timeout) :
    Utterance e op ⟨.broadcast,e.stamp,.syncRequest (replyTopic token) e.cache wanted within⟩
  | estimate (peer : Entity) (beacons : List Entity) (d : Distance)
      (heard : e.heard? op = some (.beaconReport peer beacons)) :
    Utterance e op ⟨.entity peer.id,e.stamp,.proximityUpdate e.self peer d⟩
  | answer (topic : String) (beacons : List Entity) (wanted : Group) (within : Distance)
      (heard : e.heard? op = some (.syncRequest topic beacons wanted within)) :
    Utterance e op ⟨.reply topic,topic,
      .syncResponse { e.self with type := .device, distance := Distance.fuse beacons e.cache }⟩

theorem utterance_of_response {body : Message.Body} (heard : e.heard? op = some body) {s : Saying}
    (said : s ∈ e.response body) : Utterance e op s := by
  cases body <;> simp only [response,List.mem_ite_nil_right,List.mem_singleton,Option.mem_toList,
    Option.map_eq_some_iff,List.not_mem_nil] at said
  case beaconReport peer beacons =>
    obtain ⟨-,d,-,rfl⟩ := said
    exact .estimate peer beacons d heard
  case syncRequest topic beacons wanted within =>
    obtain ⟨-,rfl⟩ := said
    exact .answer topic beacons wanted within heard

theorem utterance_of_heard {s : Saying} (said : s ∈ (e.heard? op).elim [] e.response) :
    Utterance e op s := by
  cases heard : e.heard? op with
  | none =>
    rw [heard] at said
    cases said
  | some body =>
    rw [heard] at said
    exact utterance_of_response heard said

/-- All that a node tries to say is one of these. -/
theorem utterance_of_sayings {s : Saying} (said : s ∈ e.sayings op) : Utterance e op s := by
  cases op <;> simp only [sayings,greeting,farewell,renewal,List.mem_ite_nil_left,
    List.mem_ite_nil_right,List.mem_singleton,List.not_mem_nil] at said
  case connected =>
    obtain ⟨-,rfl⟩ := said
    exact .arrival (.inl rfl)
  case hear => exact utterance_of_heard said
  case hearPayload => exact utterance_of_heard said
  case scan readings =>
    obtain ⟨-,rfl⟩ := said
    exact .report readings rfl
  case ask token wanted within timeout =>
    obtain ⟨-,rfl⟩ := said
    exact .question token wanted within timeout rfl
  case updateSelf new =>
    obtain ⟨⟨same,-⟩,-,rfl⟩ := said
    exact .change new rfl same
  case enterGhost =>
    obtain ⟨-,-,rfl⟩ := said
    exact .farewell rfl
  case leaveGhost =>
    cases saved : e.visibility.saved with
    | none =>
      rw [saved] at said
      cases said
    | some p =>
      simp only [saved,Option.elim_some,greeting,List.mem_ite_nil_right,List.mem_singleton] at said
      obtain ⟨-,rfl⟩ := said
      exact .arrival (.inr rfl)

theorem Sound.utterance (sound : e.Sound) {c : Channel} {m : Message} (member : (c,m) ∈ e.news op) :
    ∃ s, Utterance e op s ∧ (c,m) = s.signed e.self.id := by
  obtain ⟨s,said,signed⟩ := sound.said member
  exact ⟨s,utterance_of_sayings said,signed⟩

/-- Whatever is published after a run was before, or was news in one operation of the run. -/
theorem Sound.published_origin (sound : e.Sound) (ops : List Operation) {p : Channel × Message}
    (member : p ∈ (e.after ops).transport.published) :
    p ∈ e.transport.published ∨
      ∃ pre op post, ops = pre ++ op :: post ∧ p ∈ (e.after pre).news op := by
  induction ops generalizing e with
  | nil => exact .inl member
  | cons op ops ih =>
    rcases ih (sound.apply op) member with before | ⟨pre,next,post,rfl,news⟩
    · rw [sound.published_apply,← sound.news_eq] at before
      exact (List.mem_append.mp before).imp_right fun news => ⟨[],op,ops,rfl,news⟩
    · exact .inr ⟨op :: pre,next,post,rfl,news⟩

/-- A node publishes in its own name only. -/
theorem Sound.news_sender (sound : e.Sound) {c : Channel} {m : Message}
    (member : (c,m) ∈ e.news op) : m.sender = e.self.id := by
  obtain ⟨s,_,signed⟩ := sound.utterance member
  exact congrArg (·.2.sender) signed

end Vicinity.Engine
