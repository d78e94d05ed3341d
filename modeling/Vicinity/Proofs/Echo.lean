import Vicinity.Proofs.Exchange
import Vicinity.Proofs.Message.Legible

/-! A node and its own words. Each message goes to the channel for its kind, in the name of the node
that says it; since a node never changes its id, nothing that it ever said makes any difference to it
when it comes back, now or later, as a message or as the payload that a message travels in. -/
namespace Vicinity.Engine

variable {e : Engine} {op : Operation} {c : Channel} {m : Message}

/-- The channel for a message that is sent in an operation: a reply goes where the question wants it,
and an estimate to the participant that it is about. -/
def Routed (op : Operation) (c : Channel) : Message.Body → Prop
  | .checkIn _ | .checkOut _ _ | .syncRequest _ _ _ _ => c = .broadcast
  | .beaconReport _ _ => c = .proximity
  | .propertiesUpdate _ _ => c = .group
  | .proximityUpdate _ second _ => c = .entity second.id
  | .syncResponse _ => ∃ topic, c = .reply topic ∧ op.Brings topic

theorem Utterance.routed {s : Saying} (utterance : Utterance e op s) :
    Routed op s.channel s.body := by
  cases utterance with
  | answer topic beacons wanted within heard => exact ⟨topic,rfl,brings_of_heard heard⟩
  | _ => rfl

theorem Sound.news_routed (sound : e.Sound) (member : (c,m) ∈ e.news op) :
    Routed op c m.body := by
  obtain ⟨s,utterance,signed⟩ := sound.utterance member
  obtain ⟨rfl,rfl⟩ := Prod.mk.inj signed
  exact utterance.routed

/-! ## What comes back -/

theorem hear_own (own : m.sender = e.self.id) : e.hear m = e :=
  if_pos (by simp [own])

/-- A payload that a node wrote holds a message of its own, if it holds any. -/
theorem hearPayload_own (own : m.sender = e.self.id) : (e.hearPayload m.encode).2 = e := by
  rw [hearPayload]
  split
  · rfl
  · split
    next m' read => exact hear_own ((Message.legible_of_decode read).sender.trans own)
    next => rfl

/-- Nothing in a node reacts to a message. -/
structure Ignores (e : Engine) (m : Message) : Prop where
  message : e.apply (.hear m) = (.done,e)
  payload : ∃ b, e.apply (.hearPayload m.encode) = (.flag b,e)

theorem ignores_own (own : m.sender = e.self.id) : Ignores e m where
  message := congrArg (Prod.mk Reply.done) (hear_own own)
  payload := ⟨_,congrArg (Prod.mk (Reply.flag _)) (hearPayload_own own)⟩

/-- Whatever a node publishes in a run it ignores from then on, and it published it where messages of
the kind belong. -/
theorem own_messages_ignored {self : Entity} {config : Config}
    (started : start self config = .ok e) (ops : List Operation)
    (published : (c,m) ∈ (e.after ops).transport.published) :
    (∀ more, Ignores (e.after (ops ++ more)) m) ∧
      ∃ pre op post, ops = pre ++ op :: post ∧ (c,m) ∈ (e.after pre).news op ∧
        Routed op c m.body := by
  have sound := start_sound started
  have origin := sound.published_origin ops published
  rw [start_published started] at origin
  obtain ⟨pre,op,post,rfl,news⟩ := origin.resolve_left List.not_mem_nil
  refine ⟨fun more => ignores_own ?_,pre,op,post,rfl,news,(sound.after pre).news_routed news⟩
  rw [(sound.after pre).news_sender news,id_after,id_after]

/-- A node says hello, and later of whom it has become. -/
theorem own_messages_ignored_arrival :
    ∃ e, start (.bare (.of "me") .device) .standard = .ok e ∧
      let arrival : Message := ⟨.of "me",e.stamp,.checkIn e.self⟩
      (.broadcast,arrival) ∈ (e.after [.connected]).transport.published ∧
      Ignores (e.after [.connected,.updateSelf ⟨.of "me",.beacon,.near,[]⟩]) arrival := by
  have started : start (.bare (.of "me") .device) .standard = .ok _ := rfl
  refine ⟨_,started,?published,(own_messages_ignored started [.connected] ?published).1 [_]⟩
  exact List.mem_singleton.mpr rfl

end Vicinity.Engine
