import Vicinity.Proofs.Exchange
import Vicinity.Proofs.Message.Legible

/-! What peers can read of what a node says. Nobody reads a message that tells of anything without an
id, and encoding it does not tell the node. A node has an id itself; what it ranges in a scan, what it
remembers of scans and who reports to it may have none. -/
namespace Vicinity

/-- What is remembered of a scan was ranged in it. -/
theorem BeaconReading.mem_keep {readings : List BeaconReading} {b : Entity}
    (kept : b ∈ keep readings) : ∃ r ∈ readings, r.entity = b := by
  rw [keep] at kept
  split at kept
  · exact List.mem_map.mp kept
  · obtain ⟨r,chosen,same⟩ := List.mem_map.mp kept
    refine ⟨r,?_,same⟩
    rcases List.mem_append.mp chosen with near | far
    · exact List.mem_mergeSort.mp (List.mem_of_mem_take near)
    · exact List.mem_mergeSort.mp (List.mem_of_getLast? (Option.mem_toList.mp far))

namespace Message

variable {m : Message}

/-- A message whose values hold integers only, and that leaves a decoder room. -/
structure Plain (m : Message) : Prop where
  values : ∀ v ∈ m.body.values, v.Ordered ∧ v.Integral
  shallow : m.inEnvelope.depth ≤ 127

/-- Whoever the encoded message reaches can decode it. -/
def Read (m : Message) : Prop := ∃ m', decode (encode m) = .ok m'

/-- The peers whose reports are answered with a message about them. -/
def Body.reporter : Body → List Entity
  | .beaconReport peer _ => [peer]
  | _ => []

end Message

namespace Engine

variable {e : Engine} {op : Operation} {c : Channel} {m : Message}

/-- Those that a node may tell of in an operation besides itself. -/
def exposed (e : Engine) : Operation → List Entity
  | .scan readings => readings.map BeaconReading.entity
  | .ask .. => e.cache
  | op => (e.heard? op).elim [] Message.Body.reporter

theorem exposed_of_heard {body : Message.Body} (heard : e.heard? op = some body) :
    e.exposed op = body.reporter := by
  cases op <;> first | cases heard | skip
  all_goals simp only [exposed,heard,Option.elim_some]

section

attribute [local simp] Message.Body.entities Message.Body.beacons Message.Body.reporter exposed heard?

/-- Everything that a node says something of has an id, exactly if all has that is not itself. -/
theorem Utterance.named_iff {s : Saying} (utterance : Utterance e op s)
    (self : e.self.id.isEmpty = false) :
    (∀ x ∈ s.body.entities ++ s.body.beacons, x.id.isEmpty = false) ↔
      ∀ x ∈ e.exposed op, x.id.isEmpty = false := by
  cases utterance with
  | arrival greets => rcases greets with rfl | rfl <;> simp [self]
  | farewell hides =>
    subst hides
    simp [self]
  | change new asked same =>
    subst asked
    simp [same,self]
  | report readings scanned =>
    subst scanned
    simp [self]
  | question token wanted within timeout asked =>
    subst asked
    simp
  | estimate peer beacons d heard =>
    rw [exposed_of_heard heard]
    simp [self]
  | answer topic beacons wanted within heard =>
    rw [exposed_of_heard heard]
    simp [self]

end

theorem Sound.news_read_iff (sound : e.Sound) (self : e.self.id.isEmpty = false)
    (news : (c,m) ∈ e.news op) (plain : m.Plain) :
    m.Read ↔ ∀ x ∈ e.exposed op, x.id.isEmpty = false := by
  obtain ⟨s,utterance,signed⟩ := sound.utterance news
  obtain ⟨rfl,rfl⟩ := Prod.mk.inj signed
  exact (Message.decodes_iff plain.values plain.shallow).trans (utterance.named_iff self)

/-! ## Runs -/

/-- An operation that tells the node of nothing without an id. What a payload tells of has an id. -/
def Operation.Names : Operation → Prop
  | .scan readings => ∀ r ∈ readings, r.id.isEmpty = false
  | .hear m => ∀ x ∈ m.body.entities, x.id.isEmpty = false
  | _ => True

theorem reporter_subset {body : Message.Body} {x : Entity} (reports : x ∈ body.reporter) :
    x ∈ body.entities := by
  cases body <;> first | exact reports | cases reports

theorem received_named (names : op.Names) (received : op.received? = some m) :
    ∀ x ∈ m.body.entities, x.id.isEmpty = false := by
  cases op <;> simp only [Operation.received?,reduceCtorEq] at received
  case hear =>
    obtain rfl := Option.some.inj received
    exact names
  case hearPayload payload =>
    split at received
    · cases received
    · cases read : Message.decode payload with
      | error defect =>
        rw [read] at received
        cases received
      | ok m' =>
        rw [read] at received
        obtain rfl := Option.some.inj received
        exact fun x member => Message.named_of_decode read x (List.mem_append_left _ member)

theorem exposed_named (remembered : ∀ x ∈ e.cache, x.id.isEmpty = false) (names : op.Names) :
    ∀ x ∈ e.exposed op, x.id.isEmpty = false := by
  intro x member
  cases heard : e.heard? op with
  | some body =>
    rw [exposed_of_heard heard] at member
    obtain ⟨m,received,rfl⟩ := received_of_heard heard
    exact received_named names received x (reporter_subset member)
  | none =>
    cases op <;> simp only [exposed,heard,Option.elim_none,List.not_mem_nil] at member
    case scan readings =>
      obtain ⟨r,ranged,rfl⟩ := List.mem_map.mp member
      exact names r ranged
    case ask => exact remembered x member

theorem recalled_named (remembered : ∀ x ∈ e.cache, x.id.isEmpty = false) (names : op.Names) :
    ∀ x ∈ (e.apply op).2.cache, x.id.isEmpty = false := by
  rw [cache_apply]
  cases op
  case scan readings =>
    rw [recalled]
    split
    · exact List.forall_mem_nil _
    split
    · exact remembered
    · intro x kept
      obtain ⟨r,ranged,rfl⟩ := BeaconReading.mem_keep kept
      exact names r ranged
  all_goals exact remembered

theorem remembered_named (remembered : ∀ x ∈ e.cache, x.id.isEmpty = false) {ops : List Operation}
    (names : ∀ op ∈ ops, op.Names) : ∀ x ∈ (e.after ops).cache, x.id.isEmpty = false := by
  induction ops generalizing e with
  | nil => exact remembered
  | cons op ops ih =>
    obtain ⟨first,names⟩ := List.forall_mem_cons.mp names
    exact ih (recalled_named remembered first) names

/-- What a node publishes at any time in a run is read exactly if all that it tells of then has an id;
and in a run in which nothing without an id is told to the node, all is read that it publishes. -/
theorem read_iff_named {self : Entity} {config : Config} (started : start self config = .ok e)
    (ops : List Operation) :
    (∀ op c m, (c,m) ∈ (e.after ops).news op → m.Plain →
      (m.Read ↔ ∀ x ∈ (e.after ops).exposed op, x.id.isEmpty = false)) ∧
    ((∀ op ∈ ops, op.Names) →
      ∀ p ∈ (e.after ops).transport.published, p.2.Plain → p.2.Read) := by
  have sound := start_sound started
  have self : ∀ ops, (e.after ops).self.id.isEmpty = false := fun ops => by
    rw [id_after]
    exact start_named started
  have empty : ∀ x ∈ e.cache, x.id.isEmpty = false := by
    rw [start_cache started]
    exact List.forall_mem_nil _
  constructor
  · intro op c m news plain
    exact (sound.after ops).news_read_iff (self ops) news plain
  · intro names p published plain
    have origin := sound.published_origin ops published
    rw [start_published started] at origin
    obtain ⟨pre,op,post,rfl,news⟩ := origin.resolve_left List.not_mem_nil
    obtain ⟨early,names⟩ := List.forall_mem_append.mp names
    have exposed := exposed_named (remembered_named empty early) (names op List.mem_cons_self)
    exact ((sound.after pre).news_read_iff (self pre) news plain).mpr exposed

/-! ## Two beacons -/

/-- A node that reports every scan. -/
def reporting : Config := { Config.standard with reportInterval := 1 }

/-- A scan that ranges two beacons. -/
def ranged (id : String) : List BeaconReading :=
  [⟨.of "b:1:1",.ofFloat 0.5⟩,⟨.of id,.ofFloat 1.0⟩]

def reportOf (e : Engine) (readings : List BeaconReading) : Message :=
  ⟨e.self.id,e.stamp,.beaconReport e.self (readings.map BeaconReading.entity)⟩

theorem plain_reportOf {readings : List BeaconReading} (bare : e.self.properties = [])
    (shallow : (e.reportOf readings).inEnvelope.depth ≤ 127) : (e.reportOf readings).Plain where
  values := by
    simp [reportOf,Message.Body.values,Message.Body.entities,bare,Json.Ordered,
      Json.OrderedMembers,Json.Integral,Json.IntegralMembers]
  shallow := shallow

theorem read_iff_named_ranged :
    ∃ e, start (.bare (.of "me") .device) reporting = .ok e ∧
      (.proximity,e.reportOf (ranged "b:1:2")) ∈ (e.after []).news (.scan (ranged "b:1:2")) ∧
      (e.reportOf (ranged "b:1:2")).Plain ∧ (e.reportOf (ranged "b:1:2")).Read ∧
      ∀ p ∈ (e.after [.scan (ranged "b:1:2")]).transport.published, p.2.Plain → p.2.Read := by
  have started : start (.bare (.of "me") .device) reporting = .ok _ := rfl
  have named : ∀ r ∈ ranged "b:1:2", r.id.isEmpty = false :=
    List.forall_mem_cons.mpr ⟨by decide,List.forall_mem_singleton.mpr (by decide)⟩
  have exposed : ∀ x ∈ (ranged "b:1:2").map BeaconReading.entity, x.id.isEmpty = false :=
    List.forall_mem_map.mpr named
  refine ⟨_,started,?said,?plain,((read_iff_named started []).1 (.scan (ranged "b:1:2")) .proximity _
    ?said ?plain).mpr exposed,(read_iff_named started [_]).2 (List.forall_mem_singleton.mpr named)⟩
  case said => exact List.mem_singleton.mpr rfl
  case plain => exact plain_reportOf rfl (by decide)

/-- One beacon without an id, and no peer reads of the other one either. -/
theorem report_unread :
    ∃ e, start (.bare (.of "me") .device) reporting = .ok e ∧
      (.proximity,e.reportOf (ranged "")) ∈ (e.apply (.scan (ranged ""))).2.transport.published ∧
      (e.reportOf (ranged "")).Plain ∧ ¬ (e.reportOf (ranged "")).Read := by
  refine ⟨_,rfl,List.mem_singleton.mpr rfl,plain_reportOf rfl (by decide),?_⟩
  rintro ⟨m',read⟩
  have named := (Message.legible_of_decode read).named ⟨.of "",.beacon,_,[]⟩
    (List.mem_cons_of_mem _ (List.mem_cons_of_mem _ List.mem_cons_self))
  cases named

end Engine

end Vicinity
