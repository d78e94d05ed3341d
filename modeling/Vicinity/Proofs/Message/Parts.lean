import Vicinity.Message
import Vicinity.Proofs.Json.Reading

/-! The parts of messages in their written form. What is written is decoded as it was, except that
a beacon in a list keeps its id and its distance only; and what is decoded from a plain tree, however
it was spelled, has a written form that its text preserves. -/
namespace Vicinity

open Json (Node Form Decoder Fields Field Tidy bind_eq_ok pure_eq_ok present_eq_ok mapError_eq_ok
  tidy_obj tidy_arr tidy_single tidy_empty tidy_str)

variable {f g : Form} {n : Node}

/-! ## Names -/

@[simp] theorem EntityId.decoder_text (id : EntityId) :
    EntityId.decoder g (.str (some id.text)) = .ok id :=
  congrArg Except.ok id.of_text

@[simp] theorem EntityType.decoder_name (t : EntityType) :
    EntityType.decoder g (.str (some t.name)) = .ok t := by
  cases t <;> rfl

@[simp] theorem Distance.decoder_name (d : Distance) :
    Distance.decoder g (.str (some d.name)) = .ok d := by
  cases d <;> rfl

@[simp] theorem Distance.tidy_toJson (d : Distance) : Tidy f d.toJson := tidy_str d.name

/-! ## Objects -/

theorem members_toNode {ms : Members} (sorted : (Json.obj ms).Ordered) :
    Decoder.members .again (Json.obj ms).toNode = .ok ms := by
  have read : (Json.obj ms).toNode.json .again = .ok (.obj ms) :=
    Json.json_toNode (.obj ms) sorted nofun
  exact bind_eq_ok.mpr ⟨.obj ms,read,rfl⟩

theorem tidy_members {ms : Members} (plain : n.Plain f) (read : Decoder.members g n = .ok ms) :
    Tidy f (.obj ms) := by
  unfold Decoder.members at read
  split at read
  · obtain ⟨j,whole,read⟩ := bind_eq_ok.mp read
    have tidy := plain.tidy whole
    split at read
    · exact pure_eq_ok.mp read ▸ tidy
    · cases read
  · cases read

theorem of_optional {α : Type} {d : Decoder α} {a : α}
    (read : Decoder.optional d g n = .ok (some a)) : d g n = .ok a := by
  unfold Decoder.optional at read
  split at read
  · cases read
  · obtain ⟨b,inner,finished⟩ := bind_eq_ok.mp read
    obtain rfl := Option.some.inj (pure_eq_ok.mp finished)
    exact inner

/-! ## Entities -/

namespace Entity

variable {e : Entity} {id : EntityId} {type : EntityType}

theorem named?_eq_ok : named? id type = .ok e ↔ id.isEmpty = false ∧ bare id type = e := by
  unfold named?
  split <;> simp_all

theorem unpack?_eq_ok {j : Json} {ms : Members} :
    unpack? j = .ok ms ↔ j = .obj [(propertiesKey,.obj ms)] := by
  unfold unpack?
  split
  · split <;> simp_all
  · simp_all
  · simp_all

theorem tidy_toJson : Tidy f e.toJson ↔ f.Fits 1 ∧ Tidy f.inner (.obj e.bag) := by
  have sorted : Members.Ascending [("distance_range",e.distance.toJson),
      ("entity_id",.str e.id.text),("entity_type",.str e.type.name),("properties",.obj e.bag)] :=
    Members.ascending_iff_keys.mpr
      (by decide : ["distance_range","entity_id","entity_type","properties"].Pairwise (· < ·))
  simp [toJson,tidy_obj,sorted]

theorem tidy_value : Tidy .value e.toJson ↔ Tidy .value (.obj e.properties) := by
  simp [tidy_toJson,bag,bagOf,tidy_single]

/-- An entity with an id is decoded as it was written. -/
theorem decoder_toNode (named : e.id.isEmpty = false) (sorted : e.toJson.Ordered) :
    Entity.decoder .again e.toJson.toNode = .ok e := by
  have bag : (Json.obj e.bag).Ordered :=
    (Json.ordered_obj.mp sorted).2 (propertiesKey,.obj e.bag) (by simp [propertiesKey])
  have read : (Json.obj e.bag).toNode.json .again = .ok (.obj e.bag) :=
    Json.json_toNode (.obj e.bag) bag nofun
  rw [Json.toNode] at read
  refine Fields.decoder_again
    (((((),some e.id),some e.type),some e.distance),some (.obj e.bag)) ?_ ?_
  · simp [Fields.readMembers,Fields.and,Fields.none,Field.lift,Field.last,Json.toNodeMembers,
      Distance.toJson,Json.toNode,Json.present,Json.require,read]
  · simp [named?,named,withBag?,unpack?,Entity.bag,bagOf,Except.mapError,Json.present,bare]

/-- The properties of a decoded entity are as tidy as the tree that it was decoded from. -/
theorem tidy_decoder (plain : n.Plain f) (room : f.Fits 3) (read : Entity.decoder g n = .ok e) :
    e.id.isEmpty = false ∧ Tidy f e.toJson := by
  have bagRead : ∀ n j, Node.Plain f.inner n → n.json g.inner = .ok j → Tidy f.inner j :=
    fun _ _ => Node.Plain.tidy
  obtain ⟨_,⟨⟨⟨⟨_,id⟩,type⟩,distance⟩,bag⟩,⟨_,tidy⟩,finished⟩ := Fields.parts_of_decoder read plain
    (Fields.keeps_none.any.any.any.and bagRead)
  simp only [bind_eq_ok,present_eq_ok,mapError_eq_ok,pure_eq_ok,withBag?,named?_eq_ok,
    unpack?_eq_ok] at finished
  obtain ⟨id,rfl,type,rfl,_,⟨named,rfl⟩,_,⟨properties,packed,rfl⟩,rfl⟩ := finished
  obtain ⟨outer,room⟩ := Form.fits_succ.mp room
  refine ⟨named,tidy_toJson.mpr ⟨outer,?_⟩⟩
  cases bag with
  | some bag =>
    obtain rfl : bag = _ := packed
    exact tidy _ rfl
  | none =>
    obtain rfl : [] = properties := by simpa [bagOf] using packed
    obtain ⟨middle,inner⟩ := Form.fits_succ.mp room
    exact tidy_single.mpr ⟨middle,tidy_empty inner⟩

end Entity

/-! ## Groups -/

theorem Filter.decoder_toNode {filter : Filter} (sorted : filter.toJson.Ordered) :
    Filter.decoder .again filter.toJson.toNode = .ok filter :=
  bind_eq_ok.mpr ⟨filter.node,members_toNode sorted,rfl⟩

theorem Filter.tidy_decoder {filter : Filter} (plain : n.Plain f)
    (read : Filter.decoder g n = .ok filter) : Tidy f filter.toJson := by
  obtain ⟨ms,node,finished⟩ := bind_eq_ok.mp read
  obtain rfl := pure_eq_ok.mp finished
  exact tidy_members plain node

namespace Group

variable {group : Group}

/-- The members that stand for the parts of a group. -/
def members (group : Group) : Members :=
  [("description",.str group.description)] ++
    (group.entityId.map fun id => ("entity_id",.str id.text)).toList ++
    (group.entityType.map fun t => ("entity_type",.str t.name)).toList ++
    (group.filter.map fun f => ("filter",f.toJson)).toList

theorem toJson_eq (group : Group) : group.toJson = .obj group.members := rfl

theorem ascending_members (group : Group) : group.members.Ascending := by
  obtain ⟨description,id,type,filter⟩ := group
  rw [Members.ascending_iff_keys]
  cases id <;> cases type <;> cases filter <;> simp only [members,Members.keys,Option.map_some,
    Option.map_none,Option.toList_some,Option.toList_none,List.append_nil,List.cons_append,
    List.nil_append,List.map_cons,List.map_nil] <;> decide

theorem tidy_toJson : Tidy f group.toJson ↔
    f.Fits 1 ∧ ∀ filter ∈ group.filter, Tidy f.inner filter.toJson := by
  rw [toJson_eq,tidy_obj,and_iff_right group.ascending_members]
  obtain ⟨description,id,type,filter⟩ := group
  cases id <;> cases type <;> cases filter <;> simp [members]

/-- A group is decoded as it was written. -/
theorem decoder_toNode (sorted : group.toJson.Ordered) :
    Group.decoder .again group.toJson.toNode = .ok group := by
  obtain ⟨description,id,type,filter⟩ := group
  have read : ∀ f, filter = some f → Filter.decoder .again (.obj (Json.toNodeMembers f.node) true) =
      .ok f := by
    rintro f rfl
    refine Filter.decoder_toNode ((Json.ordered_obj.mp sorted).2 ("filter",f.toJson) ?_)
    simp
  refine Fields.decoder_again
    (((((),some description),id.map some),type.map some),filter.map some) ?_ ?_
  · cases id <;> cases type <;> cases filter <;>
      simp [Fields.readMembers,Fields.and,Fields.none,Field.lift,Field.last,Json.toNodeMembers,
        Filter.toJson,Json.toNode,Json.present,Json.require,Decoder.string,Decoder.optional,read]
  · cases id <;> cases type <;> cases filter <;> rfl

theorem tidy_decoder (plain : n.Plain f) (read : Group.decoder g n = .ok group) :
    Tidy f group.toJson := by
  have filterRead : ∀ n o, Node.Plain f.inner n → Decoder.optional Filter.decoder g.inner n = .ok o →
      ∀ filter ∈ o, Tidy f.inner filter.toJson := by
    rintro n _ plain read filter rfl
    exact Filter.tidy_decoder plain (of_optional read)
  obtain ⟨room,⟨⟨⟨⟨_,description⟩,id⟩,type⟩,filter⟩,⟨_,tidy⟩,finished⟩ :=
    Fields.parts_of_decoder read plain (Fields.keeps_none.any.any.any.and filterRead)
  obtain rfl := pure_eq_ok.mp finished
  refine tidy_toJson.mpr ⟨room,fun filter same => ?_⟩
  obtain rfl := Option.join_eq_some_iff.mp same
  exact tidy (some filter) rfl filter rfl

end Group

/-! ## Lists of beacons -/

namespace Entity

/-- What a list of beacons tells of one of them. -/
def reported (b : Entity) : Entity := { bare b.id .beacon with distance := b.distance }

end Entity

namespace Message.Body

variable {bs : List Entity}

/-- One beacon of a list. -/
def reportToJson (b : Entity) : Json :=
  .obj [("beacon_id",.str b.id.text),("distance_range",b.distance.toJson)]

theorem tidy_reportToJson (room : f.Fits 1) (b : Entity) : Tidy f (reportToJson b) := by
  have sorted : Members.Ascending [("beacon_id",.str b.id.text),
      ("distance_range",b.distance.toJson)] :=
    Members.ascending_iff_keys.mpr (by decide : ["beacon_id","distance_range"].Pairwise (· < ·))
  simp [reportToJson,tidy_obj,room,sorted]

theorem tidy_beaconsToJson (room : f.Fits 2) : Tidy f (beaconsToJson bs) := by
  obtain ⟨outer,room⟩ := Form.fits_succ.mp room
  refine tidy_arr.mpr ⟨outer,fun v member => ?_⟩
  obtain ⟨b,_,rfl⟩ := List.mem_map.mp member
  exact tidy_reportToJson room b

theorem reportDecoder_toNode (b : Entity) :
    reportDecoder .again (reportToJson b).toNode = .ok (b.id,b.distance) := by
  refine Fields.decoder_again (((),some b.id),some b.distance) ?_ rfl
  simp [Fields.readMembers,Fields.and,Fields.none,Field.lift,Field.last,Json.toNodeMembers,
    Distance.toJson,Json.toNode,Json.present,Json.require]

theorem beaconOf_eq_ok {report : EntityId × Distance} {b : Entity} :
    beaconOf report = .ok b ↔ report.1.isEmpty = false ∧
      { Entity.bare report.1 .beacon with distance := report.2 } = b := by
  simp only [beaconOf,bind_eq_ok,mapError_eq_ok,pure_eq_ok,Entity.named?_eq_ok]
  constructor
  · rintro ⟨_,⟨named,rfl⟩,rfl⟩
    exact ⟨named,rfl⟩
  · rintro ⟨named,rfl⟩
    exact ⟨_,⟨named,rfl⟩,rfl⟩

theorem reports_toNode (bs : List Entity) :
    Decoder.list reportDecoder .again (beaconsToJson bs).toNode =
      .ok (bs.map fun b => (b.id,b.distance)) := by
  have nodes : Json.toNodes (bs.map reportToJson) = bs.map (Json.toNode ∘ reportToJson) := by
    rw [Json.toNodes_eq_map,List.map_map]
  have reports : (bs.map (Json.toNode ∘ reportToJson)).mapM (reportDecoder .again) =
      .ok (bs.map fun b => (b.id,b.distance)) :=
    Json.mapM_map_eq fun b _ => reportDecoder_toNode b
  rw [← nodes] at reports
  exact bind_eq_ok.mpr ⟨.again,rfl,bind_eq_ok.mpr ⟨_,reports,rfl⟩⟩

/-- A list of beacons is decoded as what it tells of them. -/
theorem beaconsDecoder_toNode (named : ∀ b ∈ bs, b.id.isEmpty = false) :
    beaconsDecoder .again (beaconsToJson bs).toNode = .ok (bs.map Entity.reported) :=
  bind_eq_ok.mpr ⟨_,reports_toNode bs,
    Json.mapM_map_eq fun b member => beaconOf_eq_ok.mpr ⟨named b member,rfl⟩⟩

/-- A decoded list of beacons tells all that is known of them. -/
theorem reported_of_beaconsDecoder (read : beaconsDecoder g n = .ok bs) :
    (∀ b ∈ bs, b.id.isEmpty = false) ∧ bs.map Entity.reported = bs := by
  obtain ⟨reports,_,read⟩ := bind_eq_ok.mp read
  have each : ∀ b ∈ bs, b.id.isEmpty = false ∧ b.reported = b := by
    intro b member
    obtain ⟨report,_,read⟩ := Json.mem_of_mapM read b member
    obtain ⟨named,rfl⟩ := beaconOf_eq_ok.mp read
    exact ⟨named,rfl⟩
  exact ⟨fun b member => (each b member).1,
    (List.map_congr_left fun b member => (each b member).2).trans (List.map_id _)⟩

end Message.Body

end Vicinity
