import Mathlib.Logic.Relation
import Vicinity.Proofs.Engine.Publishing

/-! What an operation comes to, besides what is evaluated: a few deeds of the node, one after another.
What no deed of an operation changes is not changed by the operation. -/
namespace Vicinity.Engine

variable {e f : Engine} {op : Operation}

/-- The channels that a node may begin to listen to when an operation comes. -/
def Operation.tunes (id : EntityId) : Operation → List Channel
  | .connected | .updateSelf _ | .enterGhost | .leaveGhost => Channel.shared ++ [.entity id]
  | .ask token _ _ _ => [.reply (replyTopic token)]
  | _ => []

/-- One thing that a node does when an operation comes. -/
inductive Deed (op : Operation) (e : Engine) : Engine → Prop where
  | say (ss : List Saying) : Deed op e (e.say ss)
  | listen (c : Channel) (tunes : c ∈ op.tunes e.self.id) : Deed op e (e.listen c)
  /-- A new session begins, under the name of the node. -/
  | renew (new : Entity) (announce : Bool) (same : new.id = e.self.id)
    (tunes : op.tunes e.self.id = Channel.shared ++ [.entity new.id]) :
    Deed op e (e.renewed new announce)
  | close (d : Deferred) : Deed op e (e.close d)
  /-- What is waited for is another. -/
  | await (t : Timers TimerKey Deferred) (q : Option Query) :
    Deed op e { e with timers := t, query := q }
  | count (readings : List BeaconReading) (scan : op = .scan readings) (n : UInt32) :
    Deed op e { e with scans := n }
  | remember (readings : List BeaconReading) (scan : op = .scan readings) (bs : List Entity) :
    Deed op e { e with cache := bs }
  | appear (v : Visibility) : Deed op e { e with visibility := v }
  | register (json : String) (adds : op = .addPois json) (pois : List Poi) :
    Deed op e { e with pois := e.pois ++ pois }
  /-- The network takes no messages any more, or takes them again; or it is left. -/
  | rewire (t : Transport) (fewer : t.topics ⊆ e.transport.topics)
    (said : t.published = e.transport.published) : Deed op e (e.withTransport t)
  | finish (ends : op = .stop) : Deed op e { e with stopped := true }

/-- Deeds in a row. -/
def Deeds (op : Operation) : Engine → Engine → Prop := Relation.ReflTransGen (Deed op)

theorem Deed.deeds (deed : Deed op e f) : Deeds op e f := .single deed

theorem Deeds.refl (e : Engine) : Deeds op e e := Relation.ReflTransGen.refl

theorem Deeds.then (deeds : Deeds op e f) {g : Engine} (deed : Deed op f g) : Deeds op e g :=
  deeds.tail deed

theorem Deed.id (deed : Deed op e f) : f.self.id = e.self.id := by
  cases deed with
  | say => rfl
  | listen c =>
    obtain ⟨t,listened,_⟩ := listen_eq e c
    rw [listened]
    rfl
  | renew new announce same => exact same
  | close d => cases d <;> rfl
  | _ => rfl

theorem Deeds.id (deeds : Deeds op e f) : f.self.id = e.self.id := by
  induction deeds with
  | refl => rfl
  | tail _ deed ih => exact deed.id.trans ih

/-! ## The deeds of an operation -/

theorem listenEach_deeds (e : Engine) {cs : List Channel} (tunes : cs ⊆ op.tunes e.self.id) :
    Deeds op e (cs.foldl listen e) := by
  induction cs generalizing e with
  | nil => exact .refl e
  | cons c cs ih =>
    obtain ⟨member,others⟩ := List.cons_subset.mp tunes
    have listens : Deed op e (e.listen c) := .listen c member
    exact .head listens (ih _ (listens.id ▸ others))

theorem closeAll_deeds (e : Engine) (ds : List Deferred) : Deeds op e (e.closeAll ds) := by
  induction ds generalizing e with
  | nil => exact .refl e
  | cons d ds ih => exact .head (.close d) (ih (e.close d))

theorem pass_deeds (e : Engine) : Deeds op e
    ((e.withTimers (e.released op).2).closeAll (e.released op).1) :=
  .head (.await (e.released op).2 e.query) (closeAll_deeds ..)

theorem hear_deeds (e : Engine) : Deeds op e
    ((e.heard? op).elim e fun body => (e.prepared body).sends (e.tasks body)) := by
  cases e.heard? op with
  | none => exact .refl e
  | some body =>
    obtain ⟨t,q,eq⟩ := prepared_eq e body
    rw [Option.elim_some,prepared_responds,eq]
    exact (Deed.await t q).deeds.then (.say _)

theorem report_deeds (e : Engine) {readings : List BeaconReading} (scan : op = .scan readings)
    (beacons : List Entity) : Deeds op e (e.report beacons) := by
  obtain ⟨n,counted⟩ := countScan_scans e
  have counts : Deeds op e { e with scans := n } := .single (.count readings scan n)
  rw [report]
  split
  · cases count : e.countScan with
    | mk isDue f =>
      rw [count] at counted
      obtain rfl : f = _ := counted
      cases isDue with
      | false => exact counts
      | true =>
        simp only [publish_eq]
        exact counts.then (.say _)
  · exact .refl e

theorem ask_deeds (e : Engine) (token : String) (wanted : Group) (within : Distance)
    (timeout : Nat) :
    Deeds (.ask token wanted within timeout) e (e.ask token wanted within timeout).2 := by
  rw [ask]
  dsimp only
  split
  · exact .refl e
  split
  · exact .refl e
  next armed timers _ =>
    rw [publish_eq]
    have asks : Deeds (.ask token wanted within timeout) e
        { e with query := some ⟨replyTopic token,[]⟩, timers := timers } := .single (.await ..)
    exact (asks.then (.listen _ (List.mem_singleton_self _))).then (.say _)

theorem switched_deeds (tunes : op.tunes e.self.id = Channel.shared ++ [.entity e.self.id])
    (v : Visibility) (ss : List Saying) : Deeds op e (e.switched v ss).2 := by
  have appears : Deeds op e ({ e with visibility := v }.say ss) :=
    (Deed.appear v).deeds.then (.say ss)
  rw [switched]
  split
  · exact appears
  · exact appears.then (.renew _ false rfl tunes)

theorem surroundings_deeds (e : Engine) (op : Operation) : Deeds op e (e.surroundings op) := by
  cases op
  case connected =>
    rw [show e.surroundings .connected = _ from connected_eq e]
    exact .head (.say _) (listenEach_deeds _ (List.Subset.refl _))
  case hear => exact hear_deeds e
  case hearPayload => exact hear_deeds e
  case scan readings =>
    rw [surroundings]
    split
    · exact .single (.remember readings rfl [])
    split
    · exact .refl e
    · exact (report_deeds e rfl _).then (.remember readings rfl _)
  case ask => exact ask_deeds ..
  case elapse => exact pass_deeds e
  case expire => exact pass_deeds e
  case expireDepartures => exact pass_deeds e
  case updateSelf new =>
    change Deeds _ e (e.updateSelf new).2
    rw [updateSelf_eq]
    split
    next same =>
      split
      · exact .refl e
      · exact .single (.renew new true same (same ▸ rfl))
    next => exact .refl e
  case enterGhost =>
    change Deeds _ e e.enterGhost.2
    rw [enterGhost_eq]
    split
    · exact .refl e
    · exact switched_deeds rfl ..
  case leaveGhost =>
    change Deeds _ e e.leaveGhost.2
    rw [leaveGhost_eq]
    split
    · exact .refl e
    · exact switched_deeds rfl ..
  case setPolicy p => exact .single (.appear (e.visibility.set p))
  case addPois json =>
    simp only [surroundings,apply,addPois]
    split
    next pois _ => exact .single (.register json rfl pois)
    next => exact .refl e
  case refusePublish => exact .single (.rewire _ (List.Subset.refl _) rfl)
  case refuseReconnect => exact .single (.rewire _ (List.Subset.refl _) rfl)
  case disconnect => exact .single (.rewire _ (List.nil_subset _) rfl)
  case stop =>
    simp only [surroundings,apply,stop]
    split
    · exact .refl e
    · exact (((Deed.await e.timers.stop none).deeds.then
        (.rewire e.transport.disconnect (List.nil_subset _) rfl)).then (.finish rfl))
  all_goals exact .refl e

end Vicinity.Engine
