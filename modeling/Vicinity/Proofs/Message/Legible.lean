import Vicinity.Proofs.Message.Codec

/-! What can become of a message on its way. Whatever numbers it holds, its payload is decoded, if it
is decoded at all, as a message of the same sender and kind, and every participant and beacon that it
tells of has an id; an encoded message that holds integers only and is not too deep is decoded exactly
if they have. -/
namespace Vicinity

namespace Json

variable {f g : Form} {n : Node} {α β δ : Type}

theorem rereadMembers_eq_map (ms : Members) :
    rereadMembers ms = ms.map fun p => (some p.1,p.2.reread) := by
  induction ms with
  | nil => rfl
  | cons p ms ih => rw [rereadMembers,ih,List.map_cons]

theorem mem_rereadMembers {ms : Members} {k : String} {v : Json} (member : (k,v) ∈ ms) :
    (some k,v.reread) ∈ rereadMembers ms := by
  rw [rereadMembers_eq_map]
  exact List.mem_map_of_mem (f := fun p => (some p.1,p.2.reread)) member

theorem filter_rereadMembers {ms : Members} {p : Option String → Bool} :
    (rereadMembers ms).filter (fun m => p m.1) = rereadMembers (ms.filter fun m => p (some m.1)) := by
  rw [rereadMembers_eq_map,rereadMembers_eq_map,List.filter_map]
  rfl

/-! ## Records -/

namespace Fields

variable {fields : Fields δ}

/-- The member of a name is read by a decoder. -/
def Reads (fields : Fields δ) (name : String) (d : Decoder α) : Prop :=
  ∃ field, fields.list.find? (·.name == name) = some field ∧
    ∀ f n parts parts', field.read f n parts = .ok parts' → ∃ a, d f n = .ok a

theorem find?_lift (fields : Fields δ) (name : String) :
    (fields.list.map (Field.lift (α := α))).find? (·.name == name) =
      (fields.list.find? (·.name == name)).map .lift := by
  rw [List.find?_map]
  rfl

theorem Reads.and {name : String} {d : Decoder α} (reads : fields.Reads name d) (other : String)
    (d' : Decoder β) : (fields.and other d').Reads name d := by
  obtain ⟨field,found,reads⟩ := reads
  refine ⟨field.lift,?_,fun f n parts parts' read => ?_⟩
  · rw [Fields.and,List.find?_append,find?_lift,found]
    rfl
  · obtain ⟨before,read,_⟩ := bind_eq_ok.mp read
    exact reads f n parts.1 before read

theorem reads_last {name : String} (new : fields.list.find? (·.name == name) = Option.none)
    (d : Decoder α) : (fields.and name d).Reads name d := by
  refine ⟨.last name d,?_,fun f n parts parts' read => ?_⟩
  · rw [Fields.and,List.find?_append,find?_lift,new]
    simp [Field.last]
  · obtain ⟨a,read,_⟩ := bind_eq_ok.mp read
    exact ⟨a,read⟩

theorem read_of_readMembers {list : List (Field δ)} {ms : List (Option String × Node)}
    {parts parts' : δ} (read : readMembers list f ms parts = .ok parts') {name : String}
    {field : Field δ} (found : list.find? (·.name == name) = some field)
    (member : (some name,n) ∈ ms) : ∃ before after, field.read f n before = .ok after := by
  induction ms generalizing parts with
  | nil => cases member
  | cons m ms ih =>
    rw [readMembers] at read
    obtain ⟨k,key,read⟩ := bind_eq_ok.mp read
    split at read
    next field' found' =>
      obtain ⟨_,_,read⟩ := bind_eq_ok.mp read
      obtain ⟨next,first,read⟩ := bind_eq_ok.mp read
      rcases List.mem_cons.mp member with rfl | member
      · obtain rfl := Option.some.inj (present_eq_ok.mp key)
        obtain rfl := Option.some.inj (found.symm.trans found')
        exact ⟨parts,next,first⟩
      · exact ih read member
    next unknown =>
      obtain ⟨_,_,read⟩ := bind_eq_ok.mp read
      rcases List.mem_cons.mp member with rfl | member
      · obtain rfl := Option.some.inj (present_eq_ok.mp key)
        rw [found] at unknown
        cases unknown
      · exact ih read member

/-- A record that is decoded, of whatever tree, is put together of parts as its fields establish
them. -/
theorem finished_of_decoder {finish : δ → Except Defect α} {a : α} {P : δ → Prop}
    (keeps : fields.Keeps g.inner (fun _ => True) P) (read : fields.decoder finish g n = .ok a) :
    ∃ parts, P parts ∧ finish parts = .ok a := by
  cases n <;> first | cases read | skip
  all_goals
    obtain ⟨_,entered,read⟩ := bind_eq_ok.mp read
    obtain ⟨_,rfl⟩ := Form.enter_eq_ok.mp entered
    obtain ⟨parts,members,read⟩ := bind_eq_ok.mp read
    obtain ⟨_,_,read⟩ := bind_eq_ok.mp read
  case arr =>
    exact ⟨parts,readItems_keeps keeps.read (fun _ _ => trivial) keeps.empty members,read⟩
  case obj => exact ⟨parts,keeps.readMembers (fun _ _ => trivial) keeps.empty members,read⟩

/-- In an object that is decoded the members that name fields are. -/
theorem read_of_decoder {finish : δ → Except Defect α} {ms : List (Option String × Node)}
    {closed : Bool} {a : α} (read : fields.decoder finish g (.obj ms closed) = .ok a)
    {name : String} {d : Decoder β} (reads : fields.Reads name d) (member : (some name,n) ∈ ms) :
    ∃ b, d g.inner n = .ok b := by
  obtain ⟨_,entered,read⟩ := bind_eq_ok.mp read
  obtain ⟨_,rfl⟩ := Form.enter_eq_ok.mp entered
  obtain ⟨parts,members,_⟩ := bind_eq_ok.mp read
  obtain ⟨field,found,reads⟩ := reads
  obtain ⟨before,after,first⟩ := read_of_readMembers members found member
  exact reads g.inner n before after first

end Fields

end Json

open Json (Node Form Decoder Fields Field Tidy bind_eq_ok pure_eq_ok present_eq_ok mapError_eq_ok
  tidy_obj)

variable {f g : Form} {n : Node}

/-! ## Parts -/

/-- An entity that is decoded has an id. -/
theorem Entity.named_of_ok {e : Entity} (read : Entity.decoder g n = .ok e) :
    e.id.isEmpty = false := by
  obtain ⟨⟨⟨⟨⟨_,id⟩,type⟩,distance⟩,bag⟩,_,finished⟩ :=
    Fields.finished_of_decoder Fields.keeps_none.any.any.any.any read
  simp only [bind_eq_ok,present_eq_ok,mapError_eq_ok,named?_eq_ok,withBag?,pure_eq_ok] at finished
  obtain ⟨id,rfl,type,rfl,_,⟨named,rfl⟩,_,⟨properties,_,rfl⟩,rfl⟩ := finished
  exact named

/-- Where the text of an entity is decoded, the entity has an id. -/
theorem Entity.named_of_decoder {e e' : Entity}
    (read : Entity.decoder .again e.toJson.reread = .ok e') : e.id.isEmpty = false := by
  obtain ⟨_,entered,read⟩ := bind_eq_ok.mp read
  obtain ⟨_,rfl⟩ := Form.enter_eq_ok.mp entered
  obtain ⟨parts,members,read⟩ := bind_eq_ok.mp read
  obtain ⟨_,_,read⟩ := bind_eq_ok.mp read
  have id : parts.1.1.1.2 = some e.id := by
    simp [Fields.readMembers,Fields.and,Fields.none,Field.lift,Field.last,Json.rereadMembers,
      Distance.toJson,Json.reread,Json.present,Json.require] at members
    obtain ⟨_,_,same⟩ := bind_eq_ok.mp members
    rw [← Except.ok.inj same]
  simp only [id,bind_eq_ok,present_eq_ok,mapError_eq_ok,named?_eq_ok] at read
  obtain ⟨_,⟨⟩,_,_,_,⟨named,_⟩,_⟩ := read
  exact named

namespace Message

namespace Body

variable {δ : Type} {b b' : Body} {bs bs' : List Entity}

theorem reread_beaconsToJson (bs : List Entity) : (beaconsToJson bs).reread = (beaconsToJson bs).toNode :=
  have tidy : Tidy .value (beaconsToJson bs) := tidy_beaconsToJson Form.fits_value
  Json.reread_integral _ tidy.integral

/-- Where the text of a list of beacons is decoded, the beacons have ids. -/
theorem named_of_beaconsDecoder
    (read : beaconsDecoder .again (beaconsToJson bs).reread = .ok bs') :
    ∀ b ∈ bs, b.id.isEmpty = false := by
  rw [reread_beaconsToJson] at read
  obtain ⟨reports,listed,read⟩ := bind_eq_ok.mp read
  obtain rfl := Except.ok.inj ((reports_toNode bs).symm.trans listed)
  intro b member
  obtain ⟨b',found⟩ := Json.ok_of_mapM read (b.id,b.distance)
    (List.mem_map_of_mem (f := fun b : Entity => (b.id,b.distance)) member)
  exact (beaconOf_eq_ok.mp found).1

/-- The decoder of a kind makes bodies of that kind, of those only that have ids. -/
theorem of_decoder {kind : String} {d : Decoder Body} (known : (kind,d) ∈ kinds)
    (read : d g n = .ok b) :
    b.kind = kind ∧ ∀ e ∈ b.entities ++ b.beacons, e.id.isEmpty = false := by
  simp only [kinds,List.mem_cons,Prod.mk.injEq,List.not_mem_nil,or_false] at known
  have entity : ∀ n e, True → Entity.decoder g.inner n = .ok e → e.id.isEmpty = false :=
    fun _ _ _ => Entity.named_of_ok
  have listed : ∀ n bs, True → beaconsDecoder g.inner n = .ok bs →
      ∀ b ∈ bs, b.id.isEmpty = false := fun _ _ _ read => (reported_of_beaconsDecoder read).1
  rcases known with ⟨rfl,rfl⟩ | ⟨rfl,rfl⟩ | ⟨rfl,rfl⟩ | ⟨rfl,rfl⟩ | ⟨rfl,rfl⟩ | ⟨rfl,rfl⟩ | ⟨rfl,rfl⟩
  · obtain ⟨⟨_,e⟩,⟨_,named⟩,finished⟩ :=
      Fields.finished_of_decoder (Fields.keeps_none.and entity) read
    simp only [bind_eq_ok,present_eq_ok,pure_eq_ok] at finished
    obtain ⟨e,rfl,rfl⟩ := finished
    exact ⟨rfl,by simpa [entities,beacons] using named e rfl⟩
  · obtain ⟨⟨⟨_,e⟩,valid⟩,⟨_,named⟩,finished⟩ :=
      Fields.finished_of_decoder (Fields.keeps_none.and entity).any read
    simp only [bind_eq_ok,present_eq_ok,pure_eq_ok] at finished
    obtain ⟨e,rfl,valid,rfl,rfl⟩ := finished
    exact ⟨rfl,by simpa [entities,beacons] using named e rfl⟩
  · obtain ⟨⟨⟨_,e⟩,old⟩,⟨_,named⟩,finished⟩ :=
      Fields.finished_of_decoder (Fields.keeps_none.and entity).any read
    simp only [bind_eq_ok,present_eq_ok,pure_eq_ok] at finished
    obtain ⟨e,rfl,rfl⟩ := finished
    exact ⟨rfl,by simpa [entities,beacons] using named e rfl⟩
  · obtain ⟨⟨⟨⟨_,first⟩,second⟩,distance⟩,⟨⟨_,fore⟩,hind⟩,finished⟩ :=
      Fields.finished_of_decoder ((Fields.keeps_none.and entity).and entity).any read
    simp only [bind_eq_ok,present_eq_ok,pure_eq_ok] at finished
    obtain ⟨first,rfl,second,rfl,distance,rfl,rfl⟩ := finished
    exact ⟨rfl,by simpa [entities,beacons] using ⟨fore first rfl,hind second rfl⟩⟩
  · obtain ⟨⟨⟨_,e⟩,bs⟩,⟨⟨_,named⟩,seen⟩,finished⟩ :=
      Fields.finished_of_decoder ((Fields.keeps_none.and entity).and listed) read
    simp only [bind_eq_ok,present_eq_ok,pure_eq_ok] at finished
    obtain ⟨e,rfl,bs,rfl,rfl⟩ := finished
    exact ⟨rfl,by simpa [entities,beacons] using ⟨named e rfl,seen bs rfl⟩⟩
  · obtain ⟨⟨⟨⟨⟨_,topic⟩,bs⟩,wanted⟩,within⟩,⟨_,seen⟩,finished⟩ :=
      Fields.finished_of_decoder (Fields.keeps_none.any.and listed).any.any read
    simp only [bind_eq_ok,present_eq_ok,pure_eq_ok] at finished
    obtain ⟨topic,rfl,bs,rfl,wanted,rfl,within,rfl,rfl⟩ := finished
    exact ⟨rfl,by simpa [entities,beacons] using seen bs rfl⟩
  · obtain ⟨⟨_,e⟩,⟨_,named⟩,finished⟩ :=
      Fields.finished_of_decoder (Fields.keeps_none.and entity) read
    simp only [bind_eq_ok,present_eq_ok,pure_eq_ok] at finished
    obtain ⟨e,rfl,rfl⟩ := finished
    exact ⟨rfl,by simpa [entities,beacons] using named e rfl⟩

/-- A part of a body that is decoded was decoded itself. -/
theorem entity_named {fields : Fields δ} {finish : δ → Except Json.Defect Body} {ms : Members}
    (read : fields.decoder finish .again (.obj (Json.rereadMembers ms) true) = .ok b')
    {name : String} (reads : fields.Reads name Entity.decoder) {e : Entity}
    (member : (name,e.toJson) ∈ ms) : e.id.isEmpty = false := by
  obtain ⟨e',read⟩ := Fields.read_of_decoder read reads (Json.mem_rereadMembers member)
  exact Entity.named_of_decoder read

theorem beacons_named {fields : Fields δ} {finish : δ → Except Json.Defect Body} {ms : Members}
    (read : fields.decoder finish .again (.obj (Json.rereadMembers ms) true) = .ok b')
    {name : String} (reads : fields.Reads name beaconsDecoder)
    (member : (name,beaconsToJson bs) ∈ ms) : ∀ b ∈ bs, b.id.isEmpty = false := by
  obtain ⟨bs',read⟩ := Fields.read_of_decoder read reads (Json.mem_rereadMembers member)
  exact named_of_beaconsDecoder read

/-- Where the text of a body is decoded, everything that it tells of has an id. -/
theorem named_of_decoder {d : Decoder Body} (known : kinds.lookup b.kind = some d)
    (read : d .again (.obj (Json.rereadMembers b.members) true) = .ok b') :
    ∀ e ∈ b.entities ++ b.beacons, e.id.isEmpty = false := by
  cases b <;> obtain rfl := Option.some.inj known <;> simp only [entities,beacons,List.append_nil,
    List.nil_append,List.singleton_append,List.forall_mem_cons,List.not_mem_nil,IsEmpty.forall_iff,
    implies_true,and_true]
  case checkIn e => exact entity_named read (Fields.reads_last rfl _) (by simp [members])
  case checkOut e valid =>
    exact entity_named read ((Fields.reads_last rfl _).and _ _) (by simp [members])
  case propertiesUpdate e old =>
    exact entity_named read ((Fields.reads_last rfl _).and _ _) (by simp [members])
  case proximityUpdate first second distance =>
    exact ⟨entity_named read (((Fields.reads_last rfl _).and _ _).and _ _)
        (by simp [members] : ("entity1",first.toJson) ∈ _),
      entity_named read ((Fields.reads_last rfl _).and _ _)
        (by simp [members] : ("entity2",second.toJson) ∈ _)⟩
  case beaconReport e beacons =>
    exact ⟨entity_named read ((Fields.reads_last rfl _).and _ _)
        (by simp [members] : ("entity",e.toJson) ∈ _),
      beacons_named read (Fields.reads_last rfl _) (by simp [members] : ("beacons",_) ∈ _)⟩
  case syncRequest topic beacons wanted within =>
    exact beacons_named read (((Fields.reads_last rfl _).and _ _).and _ _)
      (by simp [members] : ("beacons",_) ∈ _)
  case syncResponse e => exact entity_named read (Fields.reads_last rfl _) (by simp [members])

end Body

/-! ## Messages -/

variable {m m' : Message}

/-- The sender is taken out of the members of a message, which are left as they stand otherwise. -/
theorem of_takeHead {ms rest : List (Option String × Node)} {sender sender' : Option EntityId}
    {logId logId' : Option String} (read : takeHead f ms sender logId = .ok (sender',logId',rest)) :
    rest = ms.filter (fun m => m.1 ≠ some "sender" ∧ m.1 ≠ some "log_id") ∧
      (∀ id, sender = some id → sender' = some id) ∧
      ∀ n, (some "sender",n) ∈ ms → ∃ id, sender' = some id ∧ EntityId.decoder f n = .ok id := by
  induction ms generalizing sender sender' logId logId' rest with
  | nil =>
    cases read
    exact ⟨rfl,fun id same => same,nofun⟩
  | cons m ms ih =>
    obtain ⟨key,value⟩ := m
    obtain ⟨k,named,step⟩ := bind_eq_ok.mp read
    obtain rfl : key = some k := present_eq_ok.mp named
    by_cases isSender : k = "sender"
    · subst isSender
      rw [if_pos rfl] at step
      obtain ⟨_,fresh,step⟩ := bind_eq_ok.mp step
      obtain ⟨id,first,step⟩ := bind_eq_ok.mp step
      obtain ⟨left,kept,later⟩ := ih step
      refine ⟨by simpa using left,fun id same => ?_,fun n member => ?_⟩
      · simp [same] at fresh
      · rcases List.mem_cons.mp member with same | member
        · cases same
          exact ⟨id,kept id rfl,first⟩
        · exact later n member
    rw [if_neg isSender] at step
    have passed : ∀ n, (some "sender",n) ∈ (some k,value) :: ms → (some "sender",n) ∈ ms :=
      fun n member => (List.mem_cons.mp member).resolve_left fun same =>
        isSender (Option.some.inj (Prod.mk.inj same).1).symm
    by_cases isLogId : k = "log_id"
    · subst isLogId
      rw [if_pos rfl] at step
      obtain ⟨_,_,step⟩ := bind_eq_ok.mp step
      obtain ⟨_,_,step⟩ := bind_eq_ok.mp step
      obtain ⟨left,kept,later⟩ := ih step
      exact ⟨by simpa using left,kept,fun n member => later n (passed n member)⟩
    · rw [if_neg isLogId] at step
      obtain ⟨_,_,step⟩ := bind_eq_ok.mp step
      obtain ⟨⟨_,_,_⟩,tail,step⟩ := bind_eq_ok.mp step
      cases step
      obtain ⟨left,kept,later⟩ := ih tail
      exact ⟨by simp [isSender,isLogId,left],kept,fun n member => later n (passed n member)⟩

/-- However a message was spelled, everything that it tells of has an id. -/
theorem named_of_decoder (read : decoder f n = .ok m) :
    ∀ e ∈ m.body.entities ++ m.body.beacons, e.id.isEmpty = false := by
  cases n <;> first | cases read | skip
  obtain ⟨_,_,read⟩ := bind_eq_ok.mp read
  obtain ⟨⟨sender,logId,rest⟩,_,read⟩ := bind_eq_ok.mp read
  obtain ⟨_,_,read⟩ := bind_eq_ok.mp read
  obtain ⟨id,_,read⟩ := bind_eq_ok.mp read
  obtain ⟨⟨kind,rest'⟩,split,read⟩ := bind_eq_ok.mp read
  obtain ⟨d,known,read⟩ := bind_eq_ok.mp read
  obtain ⟨body,decoded,read⟩ := bind_eq_ok.mp read
  obtain rfl := pure_eq_ok.mp read
  obtain ⟨_,_,_,source⟩ := Json.of_splitTag split
  obtain ⟨value,tag⟩ := (source d (present_eq_ok.mp known)).resolve_left nofun
  obtain ⟨⟨kind,_⟩,listed,rfl⟩ := List.mem_map.mp (Json.mem_of_kindOf tag)
  exact (Body.of_decoder listed decoded).2

theorem named_of_decode {payload : ByteArray} (read : decode payload = .ok m) :
    ∀ e ∈ m.body.entities ++ m.body.beacons, e.id.isEmpty = false := by
  obtain ⟨_,_,read⟩ := bind_eq_ok.mp read
  obtain ⟨m',enveloped,read⟩ := bind_eq_ok.mp read
  obtain ⟨_,_,read⟩ := bind_eq_ok.mp read
  obtain rfl := pure_eq_ok.mp read
  obtain ⟨_,⟨_,message⟩,finished⟩ := Fields.finished_of_decoder
    (Fields.keeps_none.and fun _ _ _ => named_of_decoder) enveloped
  exact message m' (present_eq_ok.mp finished)

/-- What a message can be taken for where it was encoded. -/
structure Legible (m m' : Message) : Prop where
  sender : m'.sender = m.sender
  kind : m'.kind = m.kind
  named : ∀ e ∈ m.body.entities ++ m.body.beacons, e.id.isEmpty = false

theorem legible_of_decoder (read : decoder f m.toJson.reread = .ok m') : Legible m m' := by
  obtain ⟨_,entered,read⟩ := bind_eq_ok.mp read
  obtain ⟨_,rfl⟩ := Form.enter_eq_ok.mp entered
  obtain ⟨⟨sender,logId,rest⟩,taken,read⟩ := bind_eq_ok.mp read
  obtain ⟨_,_,read⟩ := bind_eq_ok.mp read
  obtain ⟨id,present,read⟩ := bind_eq_ok.mp read
  obtain ⟨⟨kind,rest'⟩,split,read⟩ := bind_eq_ok.mp read
  obtain ⟨d,known,read⟩ := bind_eq_ok.mp read
  obtain ⟨body,decoded,read⟩ := bind_eq_ok.mp read
  obtain rfl := pure_eq_ok.mp read
  obtain rfl := present_eq_ok.mp present
  obtain rfl := present_eq_ok.mp known
  obtain ⟨rfl,_,sent⟩ := of_takeHead taken
  obtain ⟨rfl,_,tagged,_⟩ := Json.of_splitTag split
  have sender : id = m.sender := by
    obtain ⟨id',same,read⟩ := sent _ (Json.mem_rereadMembers (sender_mem_members.mpr rfl))
    obtain rfl := Option.some.inj same
    exact Except.ok.inj (read.symm.trans (EntityId.decoder_text m.sender))
  have known : Body.kinds.lookup m.kind = some d := by
    obtain ⟨d',same,read⟩ := tagged _ (List.mem_filter.mpr
      ⟨Json.mem_rereadMembers (tag_mem_members.mpr rfl),by simp⟩)
    obtain rfl := Option.some.inj same
    obtain ⟨kind,named,read⟩ := bind_eq_ok.mp read
    obtain rfl := Option.some.inj (present_eq_ok.mp named)
    exact present_eq_ok.mp read
  have members : (((Json.rereadMembers m.members).filter fun p =>
      p.1 ≠ some "sender" ∧ p.1 ≠ some "log_id").filter fun p => p.1 ≠ some "msg_type") =
        Json.rereadMembers m.body.members := by
    rw [Json.filter_rereadMembers (p := fun k => k ≠ some "sender" ∧ k ≠ some "log_id"),
      Json.filter_rereadMembers (p := fun k => k ≠ some "msg_type"),← m.body_members]
    simp
  replace decoded : d .again (.obj (Json.rereadMembers m.body.members) true) = .ok body := by
    rw [← members]
    exact decoded
  have listed : (m.kind,d) ∈ Body.kinds := by
    obtain ⟨before,after,same,_⟩ := List.lookup_eq_some_iff.mp known
    rw [same]
    simp
  exact ⟨sender,(Body.of_decoder listed decoded).1,Body.named_of_decoder known decoded⟩

/-- Whatever is decoded where a message was encoded is from its sender and of its kind. -/
theorem legible_of_decode (read : decode (encode m) = .ok m') : Legible m m' := by
  have document : Node.Document.ofUnits (Text.units (encode m)) = ⟨some m.inEnvelope.reread,true⟩ := by
    rw [units_encode,Json.ofUnits_compact]
  rw [decode,document] at read
  obtain ⟨root,found,read⟩ := bind_eq_ok.mp read
  obtain rfl := Option.some.inj (present_eq_ok.mp found)
  obtain ⟨_,enveloped,read⟩ := bind_eq_ok.mp read
  obtain ⟨_,_,read⟩ := bind_eq_ok.mp read
  obtain rfl := pure_eq_ok.mp read
  obtain ⟨inner,_,enveloped⟩ := bind_eq_ok.mp enveloped
  obtain ⟨parts,members,finished⟩ := bind_eq_ok.mp enveloped
  obtain ⟨_,_,finished⟩ := bind_eq_ok.mp finished
  have message : ∃ a, decoder inner m.toJson.reread = .ok a ∧ ((),some a) = parts := by
    simpa [Json.rereadMembers,Fields.readMembers,Fields.and,Fields.none,Field.last,Json.present,
      Json.require,bind_eq_ok] using members
  obtain ⟨a,message,rfl⟩ := message
  obtain rfl := Option.some.inj (present_eq_ok.mp finished)
  exact legible_of_decoder message

/-- A message that holds integers only and leaves room is decoded exactly if everything that it tells
of has an id. -/
theorem decodes_iff (values : ∀ v ∈ m.body.values, v.Ordered ∧ v.Integral)
    (shallow : m.inEnvelope.depth ≤ 127) : (∃ m', decode (encode m) = .ok m') ↔
      ∀ e ∈ m.body.entities ++ m.body.beacons, e.id.isEmpty = false := by
  have room : Form.text.Fits m.inEnvelope.depth := (Form.fits_of_room rfl).mpr shallow
  constructor
  · rintro ⟨m',read⟩
    exact (legible_of_decode read).named
  · intro named
    exact ⟨m.arrived,decode_encode_of_tidy named (tidy_of_values values room)⟩

end Message

end Vicinity
