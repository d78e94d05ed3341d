import Vicinity.Proofs.Channel
import Vicinity.Proofs.Engine.Persona

/-! A change of the node by its application. It is refused for another id, comes to nothing if no
new session begins, and happens as a whole otherwise. What the node watches, remembers and waits for
is not touched by it. -/
namespace Vicinity

namespace Transport

theorem mem_foldl_insertTopic (n : String) (cs : List Channel) (ns : List String) :
    n ∈ cs.foldl (fun ns c => insertTopic c.name ns) ns ↔ n ∈ cs.map Channel.name ∨ n ∈ ns := by
  induction cs generalizing ns with
  | nil => simp
  | cons c cs ih => simp only [List.foldl_cons,ih,mem_insertTopic,List.map_cons,List.mem_cons,
      or_left_comm,or_assoc]

theorem mem_topicsOf (n : String) (cs : List Channel) :
    n ∈ topicsOf cs ↔ n ∈ cs.map Channel.name := by
  simp [topicsOf,mem_foldl_insertTopic]

end Transport

namespace Engine

variable {e f : Engine} {new : Entity}

/-- A node `f` that has become `new` over a new session, and was `e` before. -/
structure Became (e : Engine) (new : Entity) (f : Engine) : Prop where
  self : f.self = new
  /-- The names of the session are exactly those of the shared channels and the own id. -/
  topics : ∀ n, n ∈ f.transport.topics ↔
    n ∈ (Channel.shared ++ [Channel.entity e.self.id]).map Channel.name
  /-- At most the change is announced, with the properties there were before. -/
  published : f.transport.published = e.transport.published ++
    if e.policy.groupChanges && !e.transport.refusesPublish then
      [(.group,⟨e.self.id,e.stamp,.propertiesUpdate new e.self.bag⟩)]
    else []
  session : f.transport = { e.transport with
    connected := true, reconnects := e.transport.reconnects + 1
    topics := f.transport.topics, published := f.transport.published }
  /-- Only the participant and its connection are others. -/
  frame : f = { e with self := new, transport := f.transport }

theorem renewed_became (same : new.id = e.self.id) : Became e new (e.renewed new true) where
  self := rfl
  topics n := by
    rw [← same]
    exact Transport.mem_topicsOf ..
  published := by
    rw [renewed_published,renewal,uttered,Transport.accepts,Bool.true_and]
    cases e.policy.groupChanges <;> cases refuses : e.transport.refusesPublish <;>
      simp [withTransport,Transport.linked,refuses,Saying.signed]
  session := rfl
  frame := by dsimp only [renewed,say,withTransport]

/-- How a change to `new` turns out. -/
structure Changes (e : Engine) (new : Entity) : Prop where
  /-- Refused, and without any effect, exactly for another id. -/
  identity : (∃ current requested, (e.apply (.updateSelf new)).1 =
      .failed (.execution (.selfIdentityChanged current requested))) ↔ new.id ≠ e.self.id
  refused : new.id ≠ e.self.id → e.apply (.updateSelf new) =
    (.failed (.execution (.selfIdentityChanged e.self.id new.id)),e)
  unconnected : new.id = e.self.id → e.transport.refusesReconnect = true →
    e.apply (.updateSelf new) = (.failed (.transport Transport.refusal),e)
  done : new.id = e.self.id → e.transport.refusesReconnect = false →
    (e.apply (.updateSelf new)).1 = .done ∧ Became e new (e.apply (.updateSelf new)).2

theorem apply_updateSelf (e : Engine) (new : Entity) : e.apply (.updateSelf new) =
    if new.id = e.self.id then
      if e.transport.refusesReconnect then (.failed (.transport Transport.refusal),e)
      else (.done,e.renewed new true)
    else (.failed (.execution (.selfIdentityChanged e.self.id new.id)),e) := by
  have applied : e.apply (.updateSelf new) =
      (.ofUnit (e.updateSelf new).1,(e.updateSelf new).2) := rfl
  rw [applied,updateSelf_eq]
  split
  · split <;> rfl
  · rfl

theorem changes (e : Engine) (new : Entity) : Changes e new := by
  have outcome := apply_updateSelf e new
  constructor
  case identity =>
    rw [outcome]
    by_cases same : new.id = e.self.id
    · cases refuses : e.transport.refusesReconnect <;> simp [same]
    · simp [same]
  case refused =>
    intro other
    rw [outcome,if_neg other]
  case unconnected =>
    intro same refuses
    rw [outcome,if_pos same,if_pos refuses]
  case done =>
    intro same connects
    rw [outcome,if_pos same,connects]
    exact ⟨rfl,renewed_became same⟩

/-- In every state that a node can reach it has the id it began with, and a change of it happens as
a whole or not at all. -/
theorem self_change_atomic {self : Entity} {config : Config} (started : start self config = .ok e)
    (ops : List Operation) :
    (e.after ops).self.id = self.id ∧ ∀ new, Changes (e.after ops) new := by
  exact ⟨by rw [id_after,start_self started],changes (e.after ops)⟩

theorem self_change_atomic_connected : ∃ e, start (.bare (.of "me") .device) .standard = .ok e ∧
    (e.after [.connected]).self.id = .of "me" ∧ ∀ new, Changes (e.after [.connected]) new := by
  have started : start (.bare (.of "me") .device) .standard = .ok _ := rfl
  exact ⟨_,started,self_change_atomic started [.connected]⟩

end Engine

end Vicinity
