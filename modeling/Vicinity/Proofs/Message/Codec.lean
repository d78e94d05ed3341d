import Vicinity.Proofs.Message.Bodies

/-! The codec of messages. An encoded message is decoded as it arrives, with what is told of the
beacons in its list, if there is room for it and its numbers are integers; and what was decoded,
however it was spelled, is decoded from its own encoding too. -/
namespace Vicinity.Message

open Json (Node Form Decoder Fields Field Tidy bind_eq_ok pure_eq_ok present_eq_ok tidy_obj)

variable {f g : Form} {n : Node} {m : Message}

/-! ## The envelope -/

/-- The members of a message before they are put in order. -/
def scattered (m : Message) : List (String × Json) :=
  m.body.members ++ [("log_id",.str m.logId),("msg_type",.str m.kind),("sender",.str m.sender.text)]

def members (m : Message) : Members := .ofList m.scattered

theorem toJson_eq (m : Message) : m.toJson = .obj m.members := rfl

theorem distinct_scattered (m : Message) : (m.scattered.map (·.1)).Nodup := by
  obtain ⟨sender,logId,body⟩ := m
  cases body <;> simp [scattered,Body.members]

theorem perm_members (m : Message) : m.members.Perm m.scattered :=
  Members.ofList_perm m.distinct_scattered

theorem distinct_members (m : Message) : (m.members.map (·.1)).Nodup :=
  (m.perm_members.map _).nodup_iff.mpr m.distinct_scattered

theorem mem_members {p : String × Json} : p ∈ m.members ↔ p ∈ m.body.members ∨
    p = ("log_id",.str m.logId) ∨ p = ("msg_type",.str m.kind) ∨
    p = ("sender",.str m.sender.text) := by
  simp [m.perm_members.mem_iff,scattered]

/-- The head and the tag of a message stand in its members once each. -/
theorem sender_mem_members {v : Json} :
    ("sender",v) ∈ m.members ↔ v = .str m.sender.text := by
  have apart : ("sender",v) ∉ m.body.members := fun inside => (m.body.key_members _ inside).1 rfl
  simp [mem_members,apart]

theorem logId_mem_members {v : Json} : ("log_id",v) ∈ m.members ↔ v = .str m.logId := by
  have apart : ("log_id",v) ∉ m.body.members := fun inside => (m.body.key_members _ inside).2.1 rfl
  simp [mem_members,apart]

theorem tag_mem_members {v : Json} : ("msg_type",v) ∈ m.members ↔ v = .str m.kind := by
  have apart : ("msg_type",v) ∉ m.body.members :=
    fun inside => (m.body.key_members _ inside).2.2 rfl
  simp [mem_members,apart]

/-- Without the members of the envelope, those of the body are left as they stand. -/
theorem body_members (m : Message) : (m.members.filter fun p =>
    p.1 ≠ "sender" ∧ p.1 ≠ "log_id").filter (·.1 ≠ "msg_type") = m.body.members := by
  have left : ((m.scattered.filter fun p => p.1 ≠ "sender" ∧ p.1 ≠ "log_id").filter
      (·.1 ≠ "msg_type")) = m.body.members := by
    have kept : m.body.members.filter (fun p => p.1 ≠ "msg_type" ∧ p.1 ≠ "sender" ∧
        p.1 ≠ "log_id") = m.body.members := by
      refine List.filter_eq_self.mpr fun p member => ?_
      obtain ⟨notSender,notLogId,notTag⟩ := m.body.key_members p member
      simp [notSender,notLogId,notTag]
    simpa [scattered,List.filter_filter] using kept
  have sorted := Members.ascending_ofList m.scattered
  refine Members.Ascending.eq_of_perm ((sorted.filter _).filter _) m.body.ascending_members ?_
  rw [← left]
  exact (m.perm_members.filter _).filter _

theorem tidy_members_iff (m : Message) :
    (∀ p ∈ m.members, Tidy f p.2) ↔ ∀ p ∈ m.body.members, Tidy f p.2 := by
  refine ⟨fun tidy p member => tidy p (mem_members.mpr (.inl member)),fun tidy p member => ?_⟩
  rcases mem_members.mp member with member | rfl | rfl | rfl
  · exact tidy p member
  · exact Json.tidy_str _
  · exact Json.tidy_str _
  · exact Json.tidy_str _

/-- The text of an encoding preserves it if that holds of the members of the body. -/
theorem tidy_inEnvelope : Tidy f m.inEnvelope ↔
    f.Fits 2 ∧ ∀ p ∈ m.body.members, Tidy f.inner.inner p.2 := by
  have single := Members.ascending_single "message" m.toJson
  have sorted : m.members.Ascending := Members.ascending_ofList m.scattered
  have room : f.Fits 2 ↔ f.Fits 1 ∧ f.inner.Fits 1 := Form.fits_succ
  rw [inEnvelope,tidy_obj,List.forall_mem_singleton,toJson_eq,tidy_obj,tidy_members_iff,room]
  exact ⟨fun ⟨outer,_,inner,_,tidy⟩ => ⟨⟨outer,inner⟩,tidy⟩,
    fun ⟨⟨outer,inner⟩,tidy⟩ => ⟨outer,single,inner,sorted,tidy⟩⟩

/-- Where there is room for the encoding, the values in the body decide whether its text preserves
it. -/
theorem tidy_of_values (values : ∀ v ∈ m.body.values, v.Ordered ∧ v.Integral)
    (shallow : f.Fits m.inEnvelope.depth) : Tidy f m.inEnvelope := by
  have members : ∀ p ∈ m.body.members, Tidy .value p.2 :=
    (Body.tidy_members_iff m.body).mpr fun v member =>
      ⟨(values v member).1,(values v member).2,Form.fits_value⟩
  have tidy : Tidy .value m.inEnvelope := tidy_inEnvelope.mpr ⟨Form.fits_value,members⟩
  exact ⟨tidy.sorted,tidy.integral,shallow⟩

/-- The head of a message is taken out of its members. -/
theorem takeHead_toNodeMembers {ms : Members} (distinct : (ms.map (·.1)).Nodup)
    (tidy : ∀ p ∈ ms, Tidy f p.2) {sender : Option EntityId} {logId : Option String}
    (atSender : ∀ v, ("sender",v) ∈ ms → sender = none ∧ v = .str m.sender.text)
    (atLogId : ∀ v, ("log_id",v) ∈ ms → logId = none ∧ v = .str m.logId) :
    takeHead f (Json.toNodeMembers ms) sender logId =
      .ok (if Members.contains ms "sender" then some m.sender else sender,
        if Members.contains ms "log_id" then some m.logId else logId,
        Json.toNodeMembers (ms.filter fun p => p.1 ≠ "sender" ∧ p.1 ≠ "log_id")) := by
  induction ms generalizing sender logId with
  | nil => rfl
  | cons p ms ih =>
    obtain ⟨k,v⟩ := p
    obtain ⟨new,distinct'⟩ := List.nodup_cons.mp distinct
    have gone : ∀ v, (k,v) ∉ ms := fun w member => new (List.mem_map_of_mem (f := (·.1)) member)
    have tidy' : ∀ p ∈ ms, Tidy f p.2 := fun p member => tidy p (List.mem_cons_of_mem _ member)
    have atSender' := fun v member => atSender v (List.mem_cons_of_mem (k,_) member)
    have atLogId' := fun v member => atLogId v (List.mem_cons_of_mem (k,_) member)
    by_cases isSender : k = "sender"
    · subst isSender
      obtain ⟨rfl,rfl⟩ := atSender v List.mem_cons_self
      have passed : ∀ w, ("sender",w) ∈ ms → some m.sender = none ∧ w = .str m.sender.text :=
        fun w member => absurd member (gone w)
      have later := ih distinct' tidy' passed atLogId'
      have step : takeHead f (Json.toNodeMembers (("sender",.str m.sender.text) :: ms)) none logId =
          takeHead f (Json.toNodeMembers ms) (some m.sender) logId := by
        simp [Json.toNodeMembers,takeHead,Json.toNode,Json.present,Json.require]
      rw [step,later]
      simp [Members.contains_cons]
    by_cases isLogId : k = "log_id"
    · subst isLogId
      obtain ⟨rfl,rfl⟩ := atLogId v List.mem_cons_self
      have passed : ∀ w, ("log_id",w) ∈ ms → some m.logId = none ∧ w = .str m.logId :=
        fun w member => absurd member (gone w)
      have later := ih distinct' tidy' atSender' passed
      have step : takeHead f (Json.toNodeMembers (("log_id",.str m.logId) :: ms)) sender none =
          takeHead f (Json.toNodeMembers ms) sender (some m.logId) := by
        simp [Json.toNodeMembers,takeHead,Json.toNode,Json.present,Json.require,Decoder.string]
      rw [step,later]
      simp [Members.contains_cons]
    · have later := ih distinct' tidy' atSender' atLogId'
      have held := Json.hold_toNode (tidy (k,v) List.mem_cons_self)
      rw [Json.toNodeMembers,takeHead]
      simp [Json.present,isSender,isLogId,held,later,Members.contains_cons,Ne.symm isSender,
        Ne.symm isLogId,Json.toNodeMembers]

/-- A message whose entities and beacons have ids is decoded as it arrives. -/
theorem decoder_toNode (named : ∀ e ∈ m.body.entities ++ m.body.beacons, e.id.isEmpty = false)
    (room : f.Fits 1) (tidy : ∀ p ∈ m.body.members, Tidy f.inner p.2) :
    decoder f m.toJson.toNode = .ok ⟨m.sender,m.logId,m.body.arrived⟩ := by
  have taken : takeHead f.inner (Json.toNodeMembers m.members) none none =
      .ok (some m.sender,some m.logId,Json.toNodeMembers
        (m.members.filter fun p => p.1 ≠ "sender" ∧ p.1 ≠ "log_id")) := by
    rw [takeHead_toNodeMembers m.distinct_members (m.tidy_members_iff.mpr tidy)
      (fun v member => ⟨rfl,sender_mem_members.mp member⟩)
      (fun v member => ⟨rfl,logId_mem_members.mp member⟩),
      if_pos (Members.contains_of_mem (sender_mem_members.mpr rfl)),
      if_pos (Members.contains_of_mem (logId_mem_members.mpr rfl))]
  obtain ⟨d,known,body⟩ := m.body.decoder_members named fun p member =>
    (tidy p member).sorted
  have split : Json.splitTag "msg_type" Body.kinds .again (Json.toNodeMembers
      (m.members.filter fun p => p.1 ≠ "sender" ∧ p.1 ≠ "log_id")) none =
        .ok (some d,Json.toNodeMembers m.body.members) := by
    have distinct : ((m.members.filter fun p => p.1 ≠ "sender" ∧ p.1 ≠ "log_id").map (·.1)).Nodup :=
      (List.filter_sublist.map _).nodup m.distinct_members
    have tagged : ("msg_type",.str m.kind) ∈
        m.members.filter fun p => p.1 ≠ "sender" ∧ p.1 ≠ "log_id" :=
      List.mem_filter.mpr ⟨tag_mem_members.mpr rfl,by simp⟩
    rw [Json.splitTag_toNodeMembers known distinct
      (fun p member => (m.tidy_members_iff.mpr tidy p (List.mem_of_mem_filter member)).again)
      (fun v member => ⟨rfl,tag_mem_members.mp (List.mem_of_mem_filter member)⟩),
      if_pos (Members.contains_of_mem tagged),body_members]
  refine bind_eq_ok.mpr ⟨f.inner,Form.enter_eq_ok.mpr ⟨room,rfl⟩,?_⟩
  refine bind_eq_ok.mpr ⟨_,taken,?_⟩
  refine bind_eq_ok.mpr ⟨(),rfl,?_⟩
  refine bind_eq_ok.mpr ⟨m.sender,rfl,?_⟩
  refine bind_eq_ok.mpr ⟨_,split,?_⟩
  refine bind_eq_ok.mpr ⟨d,rfl,?_⟩
  exact bind_eq_ok.mpr ⟨m.body.arrived,body,rfl⟩

theorem units_encode (m : Message) :
    Text.units (encode m) = (m.inEnvelope.write []).map some := by
  rw [encode,Text.units_toUTF8,Json.compact,String.toList_ofList]

/-- The payload of a message with an envelope that its text preserves is decoded as it arrives. -/
theorem decode_encode_of_tidy
    (named : ∀ e ∈ m.body.entities ++ m.body.beacons, e.id.isEmpty = false)
    (tidy : Tidy .text m.inEnvelope) :
    decode (encode m) = .ok ⟨m.sender,m.logId,m.body.arrived⟩ := by
  have document : Node.Document.ofUnits (Text.units (encode m)) = ⟨some m.inEnvelope.toNode,true⟩ := by
    rw [units_encode,Json.ofUnits_compact,Json.reread_integral m.inEnvelope tidy.integral]
  have room : Form.text.inner.Fits 1 := (Form.fits_of_room rfl).mpr (by decide)
  have message := decoder_toNode named room (tidy_inEnvelope.mp tidy).2
  have envelope : envelopeDecoder .text m.inEnvelope.toNode =
      .ok ⟨m.sender,m.logId,m.body.arrived⟩ := by
    refine bind_eq_ok.mpr ⟨Form.text.inner,rfl,?_⟩
    refine bind_eq_ok.mpr ⟨((),some ⟨m.sender,m.logId,m.body.arrived⟩),?_,
      bind_eq_ok.mpr ⟨(),rfl,rfl⟩⟩
    simp [Fields.readMembers,Fields.and,Fields.none,Field.last,Json.toNodeMembers,Json.present,
      Json.require,message]
  rw [decode,document]
  exact bind_eq_ok.mpr ⟨m.inEnvelope.toNode,rfl,bind_eq_ok.mpr ⟨_,envelope,rfl⟩⟩

/-! ## What is received -/

/-- The members that are left beside the head were read through. -/
theorem plain_of_takeHead {ms rest : List (Option String × Node)} {sender sender' : Option EntityId}
    {logId logId' : Option String} (plain : ∀ p ∈ ms, p.2.Plain g)
    (read : takeHead f ms sender logId = .ok (sender',logId',rest)) :
    ∀ p ∈ rest, p.2.Plain f := by
  induction ms generalizing sender logId sender' logId' rest with
  | nil =>
    cases read
    exact nofun
  | cons p ms ih =>
    have plain' : ∀ p ∈ ms, p.2.Plain g := fun p member => plain p (List.mem_cons_of_mem _ member)
    obtain ⟨_,_,read⟩ := bind_eq_ok.mp read
    split at read
    · obtain ⟨_,_,read⟩ := bind_eq_ok.mp read
      obtain ⟨_,_,read⟩ := bind_eq_ok.mp read
      exact ih plain' read
    split at read
    · obtain ⟨_,_,read⟩ := bind_eq_ok.mp read
      obtain ⟨_,_,read⟩ := bind_eq_ok.mp read
      exact ih plain' read
    · obtain ⟨_,held,read⟩ := bind_eq_ok.mp read
      obtain ⟨j,held,_⟩ := bind_eq_ok.mp held
      obtain ⟨⟨_,_,later⟩,rest,read⟩ := bind_eq_ok.mp read
      cases read
      intro q member
      rcases List.mem_cons.mp member with rfl | member
      · exact (plain p List.mem_cons_self).of_json held
      · exact ih plain' rest q member

/-- However a message was spelled, it was received with a body that its text preserves. -/
theorem received_of_decoder (plain : n.Plain g) (room : f.inner.Fits 3)
    (read : decoder f n = .ok m) : m.body.Received f.inner := by
  cases plain with
  | obj _ inside =>
    obtain ⟨_,entered,read⟩ := bind_eq_ok.mp read
    obtain ⟨outer,rfl⟩ := Form.enter_eq_ok.mp entered
    obtain ⟨⟨sender,logId,rest⟩,taken,read⟩ := bind_eq_ok.mp read
    obtain ⟨_,_,read⟩ := bind_eq_ok.mp read
    obtain ⟨sender,_,read⟩ := bind_eq_ok.mp read
    obtain ⟨⟨kind,rest'⟩,split,read⟩ := bind_eq_ok.mp read
    obtain ⟨d,same,read⟩ := bind_eq_ok.mp read
    obtain ⟨body,decoded,read⟩ := bind_eq_ok.mp read
    obtain rfl := pure_eq_ok.mp read
    obtain ⟨left,known⟩ := Json.plain_of_splitTag (plain_of_takeHead inside taken) split
    have kind : d ∈ Body.kinds.map (·.2) := (known d (present_eq_ok.mp same)).resolve_left nofun
    exact Body.received_of_decoder (.obj outer left) room kind decoded
  | _ => cases read

/-- Every number in a payload is an integer in range. -/
def IntegersOnly (payload : ByteArray) : Prop :=
  ∀ t ∈ Json.Token.ofUnits (Text.units payload), t.Integral

theorem received_of_decode {payload : ByteArray} (integral : IntegersOnly payload)
    (read : decode payload = .ok m) : m.body.Received Form.text.inner.inner := by
  obtain ⟨root,found,read⟩ := bind_eq_ok.mp read
  obtain ⟨m',enveloped,read⟩ := bind_eq_ok.mp read
  obtain ⟨_,_,read⟩ := bind_eq_ok.mp read
  obtain rfl := pure_eq_ok.mp read
  have plain := Node.Document.plain_root integral root (present_eq_ok.mp found)
  have room : Form.text.inner.inner.Fits 3 := (Form.fits_of_room rfl).mpr (by decide)
  have message : ∀ n m, Node.Plain .value n → decoder Form.text.inner n = .ok m →
      m.body.Received Form.text.inner.inner := fun _ _ plain => received_of_decoder plain room
  obtain ⟨_,⟨_,inner⟩,⟨_,received⟩,finished⟩ :=
    Fields.parts_of_decoder enveloped plain (Fields.keeps_none.and message)
  exact received m' (present_eq_ok.mp finished)

/-! ## Round trips -/

theorem integersOnly_encode (integral : m.inEnvelope.Integral) : IntegersOnly (encode m) := by
  rw [IntegersOnly,units_encode,Json.ofUnits_integral m.inEnvelope integral]
  exact Json.integral_tokens m.inEnvelope integral

/-- A message as it is received: of the beacons in a list only what the list tells. -/
def arrived (m : Message) : Message := { m with body := m.body.arrived }

/-- What is encoded arrives, and what was decoded settles in one spelling. -/
theorem codec_round_trip :
    (∀ m : Message, (∀ e ∈ m.body.entities ++ m.body.beacons, e.id.isEmpty = false) →
      (∀ v ∈ m.body.values, v.Ordered ∧ v.Integral) → m.inEnvelope.depth ≤ 127 →
      decode (encode m) = .ok m.arrived) ∧
    ∀ payload m, decode payload = .ok m → IntegersOnly payload → decode (encode m) = .ok m := by
  constructor
  · intro m named values shallow
    have room : Form.text.Fits m.inEnvelope.depth := (Form.fits_of_room rfl).mpr shallow
    exact decode_encode_of_tidy named (tidy_of_values values room)
  · intro payload m read integral
    have room : Form.text.Fits 2 := (Form.fits_of_room rfl).mpr (by decide)
    have received := received_of_decode integral read
    have again := decode_encode_of_tidy received.named (tidy_inEnvelope.mpr ⟨room,received.tidy⟩)
    rw [received.settled] at again
    exact again

theorem codec_round_trip_report :
    let report : Message := ⟨.of "Phone","log",.beaconReport
      ⟨.of "Phone",.device,.near,[("age",.int 3)]⟩
      [⟨.of "b9:10",.device,.far,[("name",.str "hall")]⟩]⟩
    decode (encode report) = .ok report.arrived ∧ report.arrived.body.beacons =
      [⟨.of "b9:10",.beacon,.far,[]⟩] ∧ decode (encode report.arrived) = .ok report.arrived := by
  intro report
  have named : ∀ e ∈ report.body.entities ++ report.body.beacons, e.id.isEmpty = false := by
    simp [report,Body.entities,Body.beacons]
    decide
  have values : ∀ v ∈ report.body.values, v.Ordered ∧ v.Integral := by
    simp [report,Body.values,Body.entities,Json.Ordered,Json.OrderedMembers,
      Json.Integral,Json.IntegralMembers,Json.int,Number.inRange]
  have shallow : report.inEnvelope.depth ≤ 127 := by
    decide
  have tidy : Tidy .value report.inEnvelope := tidy_of_values values Form.fits_value
  have integral : IntegersOnly (encode report) := integersOnly_encode tidy.integral
  have received := codec_round_trip.1 report named values shallow
  exact ⟨received,rfl,codec_round_trip.2 (encode report) report.arrived received integral⟩

end Vicinity.Message
