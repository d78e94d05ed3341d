import Vicinity.Proofs.Message.Parts

/-! The bodies of messages. The decoder of a kind makes a body of its members again, and a body that
it makes of other spellings has members that a text preserves. -/
namespace Vicinity.Message

open Json (Node Form Decoder Fields Field Tidy bind_eq_ok pure_eq_ok present_eq_ok tidy_obj)

variable {f g : Form} {n : Node}

namespace Body

/-- The entities that a body tells everything of. -/
def entities : Body → List Entity
  | checkIn e | checkOut e _ | propertiesUpdate e _ | beaconReport e _ | syncResponse e => [e]
  | proximityUpdate first second _ => [first,second]
  | syncRequest _ _ _ _ => []

/-- The beacons in the list of a body. -/
def beacons : Body → List Entity
  | beaconReport _ beacons | syncRequest _ beacons _ _ => beacons
  | _ => []

/-- The JSON values that travel in a body. -/
def values : Body → List Json
  | propertiesUpdate e old => [.obj e.properties,.obj old]
  | syncRequest _ _ wanted _ => (wanted.filter.map Filter.toJson).toList
  | b => b.entities.map fun e => .obj e.properties

/-- A body as it is received. -/
def arrived : Body → Body
  | beaconReport e beacons => beaconReport e (beacons.map Entity.reported)
  | syncRequest topic beacons wanted within =>
    syncRequest topic (beacons.map Entity.reported) wanted within
  | b => b

variable {b : Body}

theorem ascending_members (b : Body) : b.members.Ascending := by
  rw [Members.ascending_iff_keys]
  cases b <;> simp only [members,Members.keys,List.map_cons,List.map_nil] <;> decide

/-- The members of a body are none of the envelope. -/
theorem key_members (b : Body) :
    ∀ p ∈ b.members, p.1 ≠ "sender" ∧ p.1 ≠ "log_id" ∧ p.1 ≠ "msg_type" := by
  cases b <;> simp [members]

/-- The values in a body are all that its members depend on. -/
theorem tidy_members_iff (b : Body) :
    (∀ p ∈ b.members, Tidy .value p.2) ↔ ∀ v ∈ b.values, Tidy .value v := by
  cases b <;> simp [members,values,entities,Entity.tidy_value,Group.tidy_toJson,
    tidy_beaconsToJson]

section

attribute [local simp] Fields.readMembers Fields.and Fields.none Field.last Field.lift
  Json.toNodeMembers Json.toNode Json.present Json.require

/-- The decoder of a kind puts a body together as it arrives. -/
theorem decoder_members (b : Body) (named : ∀ e ∈ b.entities ++ b.beacons, e.id.isEmpty = false)
    (sorted : ∀ p ∈ b.members, p.2.Ordered) : ∃ d, kinds.lookup b.kind = some d ∧
      d .again (.obj (Json.toNodeMembers b.members) true) = .ok b.arrived := by
  cases b <;> simp only [entities,beacons,members,List.append_nil,List.nil_append,
    List.singleton_append,List.forall_mem_cons,List.not_mem_nil,IsEmpty.forall_iff,implies_true,
    and_true] at named sorted
  case checkIn e =>
    refine ⟨checkInDecoder,rfl,Fields.decoder_again ((),some e) ?_ rfl⟩
    simp [members,Entity.decoder_toNode named sorted]
  case checkOut e valid =>
    refine ⟨checkOutDecoder,rfl,Fields.decoder_again (((),some e),some valid) ?_ rfl⟩
    simp [members,Entity.decoder_toNode named sorted.1,Decoder.flag]
  case propertiesUpdate e old =>
    have read := members_toNode sorted.2
    rw [Json.toNode] at read
    refine ⟨propertiesUpdateDecoder,rfl,Fields.decoder_again (((),some e),some old) ?_ rfl⟩
    simp [members,Entity.decoder_toNode named sorted.1,read]
  case proximityUpdate first second distance =>
    refine ⟨proximityUpdateDecoder,rfl,
      Fields.decoder_again ((((),some first),some second),some distance) ?_ rfl⟩
    simp [members,Entity.decoder_toNode named.1 sorted.2.1,
      Entity.decoder_toNode named.2 sorted.2.2,Distance.toJson]
  case beaconReport e beacons =>
    refine ⟨beaconReportDecoder,rfl,
      Fields.decoder_again (((),some e),some (beacons.map Entity.reported)) ?_ rfl⟩
    simp [members,Entity.decoder_toNode named.1 sorted.2,beaconsDecoder_toNode named.2]
  case syncRequest topic beacons wanted within =>
    refine ⟨syncRequestDecoder,rfl,Fields.decoder_again
      (((((),some topic),some (beacons.map Entity.reported)),some wanted),some within) ?_ rfl⟩
    simp [members,beaconsDecoder_toNode named,Group.decoder_toNode sorted.2.2.1,Distance.toJson,
      Decoder.string]
  case syncResponse e =>
    refine ⟨syncResponseDecoder,rfl,Fields.decoder_again ((),some e) ?_ rfl⟩
    simp [members,Entity.decoder_toNode named sorted]

end

/-- A body that was received: its entities have ids, its beacons are what a list tells of them,
and its text preserves it. -/
structure Received (f : Form) (b : Body) : Prop where
  named : ∀ e ∈ b.entities ++ b.beacons, e.id.isEmpty = false
  settled : b.arrived = b
  tidy : ∀ p ∈ b.members, Tidy f p.2

section

variable (plain : n.Plain f) (room : f.inner.Fits 3)
include plain room

/-- A body that is made of one entity is made of one with an id that its text preserves. -/
theorem entity_of_decoder (make : Entity → Body)
    (read : (Fields.none.and "entity" Entity.decoder).decoder
      (fun parts => do return make (← Json.present parts.2)) g n = .ok b) :
    ∃ e, make e = b ∧ e.id.isEmpty = false ∧ Tidy f.inner e.toJson := by
  obtain ⟨_,⟨_,e⟩,⟨_,entity⟩,finished⟩ := Fields.parts_of_decoder read plain
    (Fields.keeps_none.and fun _ _ plain => Entity.tidy_decoder plain room)
  simp only [bind_eq_ok,present_eq_ok,pure_eq_ok] at finished
  obtain ⟨e,rfl,same⟩ := finished
  exact ⟨e,same,entity e rfl⟩

theorem received_checkIn (read : checkInDecoder g n = .ok b) : b.Received f.inner := by
  obtain ⟨e,rfl,named,tidy⟩ := entity_of_decoder plain room checkIn read
  exact ⟨by simpa [entities,beacons] using named,rfl,by simpa [members] using tidy⟩

theorem received_checkOut (read : checkOutDecoder g n = .ok b) : b.Received f.inner := by
  obtain ⟨_,⟨⟨_,e⟩,valid⟩,⟨_,entity⟩,finished⟩ := Fields.parts_of_decoder read plain
    (Fields.keeps_none.and fun _ _ plain => Entity.tidy_decoder plain room).any
  simp only [bind_eq_ok,present_eq_ok,pure_eq_ok] at finished
  obtain ⟨e,rfl,valid,rfl,rfl⟩ := finished
  obtain ⟨named,tidy⟩ := entity e rfl
  exact ⟨by simpa [entities,beacons] using named,rfl,by simpa [members] using tidy⟩

theorem received_propertiesUpdate (read : propertiesUpdateDecoder g n = .ok b) :
    b.Received f.inner := by
  obtain ⟨_,⟨⟨_,e⟩,old⟩,⟨⟨_,entity⟩,former⟩,finished⟩ := Fields.parts_of_decoder read plain
    ((Fields.keeps_none.and fun _ _ plain => Entity.tidy_decoder plain room).and
      fun _ _ => tidy_members)
  simp only [bind_eq_ok,present_eq_ok,pure_eq_ok] at finished
  obtain ⟨e,rfl,rfl⟩ := finished
  obtain ⟨named,tidy⟩ := entity e rfl
  have oldTidy : Tidy f.inner (.obj (old.getD [])) := by
    cases old with
    | none => exact Json.tidy_empty (room.mono (by decide))
    | some old => exact former old rfl
  exact ⟨by simpa [entities,beacons] using named,rfl,by simpa [members] using ⟨tidy,oldTidy⟩⟩

theorem received_proximityUpdate (read : proximityUpdateDecoder g n = .ok b) :
    b.Received f.inner := by
  obtain ⟨_,⟨⟨⟨_,first⟩,second⟩,distance⟩,⟨⟨_,fore⟩,hind⟩,finished⟩ :=
    Fields.parts_of_decoder read plain
      ((Fields.keeps_none.and fun _ _ plain => Entity.tidy_decoder plain room).and
        fun _ _ plain => Entity.tidy_decoder plain room).any
  simp only [bind_eq_ok,present_eq_ok,pure_eq_ok] at finished
  obtain ⟨first,rfl,second,rfl,distance,rfl,rfl⟩ := finished
  obtain ⟨named,tidy⟩ := fore first rfl
  obtain ⟨named',tidy'⟩ := hind second rfl
  exact ⟨by simpa [entities,beacons] using ⟨named,named'⟩,rfl,
    by simpa [members] using ⟨tidy,tidy'⟩⟩

theorem received_beaconReport (read : beaconReportDecoder g n = .ok b) : b.Received f.inner := by
  obtain ⟨_,⟨⟨_,e⟩,bs⟩,⟨⟨_,entity⟩,seen⟩,finished⟩ := Fields.parts_of_decoder read plain
    ((Fields.keeps_none.and fun _ _ plain => Entity.tidy_decoder plain room).and
      fun _ _ _ => reported_of_beaconsDecoder)
  simp only [bind_eq_ok,present_eq_ok,pure_eq_ok] at finished
  obtain ⟨e,rfl,bs,rfl,rfl⟩ := finished
  obtain ⟨named,tidy⟩ := entity e rfl
  obtain ⟨all,settled⟩ := seen bs rfl
  have listed : Tidy f.inner (beaconsToJson bs) := tidy_beaconsToJson (room.mono (by decide))
  exact ⟨by simpa [entities,beacons] using ⟨named,all⟩,congrArg (beaconReport e) settled,
    by simpa [members] using ⟨listed,tidy⟩⟩

theorem received_syncRequest (read : syncRequestDecoder g n = .ok b) : b.Received f.inner := by
  obtain ⟨_,⟨⟨⟨⟨_,topic⟩,bs⟩,wanted⟩,within⟩,⟨⟨_,seen⟩,asked⟩,finished⟩ :=
    Fields.parts_of_decoder read plain
      ((Fields.keeps_none.any.and fun _ _ _ => reported_of_beaconsDecoder).and
        fun _ _ => Group.tidy_decoder).any
  simp only [bind_eq_ok,present_eq_ok,pure_eq_ok] at finished
  obtain ⟨topic,rfl,bs,rfl,wanted,rfl,within,rfl,rfl⟩ := finished
  obtain ⟨all,settled⟩ := seen bs rfl
  have listed : Tidy f.inner (beaconsToJson bs) := tidy_beaconsToJson (room.mono (by decide))
  exact ⟨by simpa [entities,beacons] using all,congrArg (syncRequest topic · wanted within) settled,
    by simpa [members] using ⟨listed,asked wanted rfl⟩⟩

theorem received_syncResponse (read : syncResponseDecoder g n = .ok b) : b.Received f.inner := by
  obtain ⟨e,rfl,named,tidy⟩ := entity_of_decoder plain room syncResponse read
  exact ⟨by simpa [entities,beacons] using named,rfl,by simpa [members] using tidy⟩

/-- Of every kind, a decoded body is one that its text preserves. -/
theorem received_of_decoder {d : Decoder Body} (kind : d ∈ kinds.map (·.2))
    (read : d g n = .ok b) : b.Received f.inner := by
  simp only [kinds,List.map_cons,List.map_nil,List.mem_cons,List.not_mem_nil,or_false] at kind
  rcases kind with rfl | rfl | rfl | rfl | rfl | rfl | rfl
  · exact received_checkIn plain room read
  · exact received_checkOut plain room read
  · exact received_propertiesUpdate plain room read
  · exact received_proximityUpdate plain room read
  · exact received_beaconReport plain room read
  · exact received_syncRequest plain room read
  · exact received_syncResponse plain room read

end

end Body

end Vicinity.Message
