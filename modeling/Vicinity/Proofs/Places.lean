import Mathlib.Data.List.TakeWhile
import Vicinity.Proofs.Engine.Deeds
import Vicinity.Proofs.Engine.Waiting
import Vicinity.Proofs.Json.Trees

/-! Points of interest, from the text of a list to the events of the regions. A list is read as a
whole or not at all, and the first entry with a fault says why not; what has been read is registered
in order, and of several points with one name the one that came first is meant. -/
namespace Vicinity

open Text

theorem Text.trim_eq_nil {cs : List Char} : trim cs = [] ↔ ∀ c ∈ cs, isBlank c = true := by
  rw [trim,List.reverse_eq_nil_iff,List.dropWhile_eq_nil_iff]
  constructor
  · intro blank
    rw [← List.dropWhile_eq_nil_iff]
    have head := head_dropWhile isBlank cs
    cases rest : cs.dropWhile isBlank with
    | nil => rfl
    | cons c rest' =>
      rw [rest] at blank head
      have inside := blank c (by simp)
      simp [inside] at head
  · intro blank
    simp [List.dropWhile_eq_nil_iff.mpr blank]

namespace Json

theorem bind_eq_error {ε α β : Type} {x : Except ε α} {g : α → Except ε β} {cause : ε} :
    x >>= g = .error cause ↔ x = .error cause ∨ ∃ a, x = .ok a ∧ g a = .error cause := by
  cases x with
  | error other =>
    have same : (.error other : Except ε α) >>= g = .error other := rfl
    simp [same]
  | ok a =>
    constructor
    · exact fun rest => .inr ⟨a,rfl,rest⟩
    · rintro (impossible | ⟨_,same,rest⟩)
      · cases impossible
      · exact Except.ok.inj same ▸ rest

end Json

namespace Poi

open Json

variable {ms : Members} {field key s : String} {x : Float} {poi : Poi} {pois : List Poi}
  {item : Json} {items : List Json} {index : Nat} {cause : ValidationError}

/-! ## Fields -/

/-- A field that leaves its number open: there is none, or null, or nothing but white space. -/
inductive Open (ms : Members) (field : String) : Prop where
  | missing (absent : ms.get? field = none) : Open ms field
  | null (found : ms.get? field = some .null) : Open ms field
  | blank {s : String} (found : ms.get? field = some (.str s))
      (blank : ∀ c ∈ s.toList, isBlank c = true) : Open ms field

/-- A field that gives a number, as one or as a text with white space around it at most. -/
inductive Gives (ms : Members) (field : String) : Float → Prop where
  | number {n : Number} (found : ms.get? field = some (.num n)) : Gives ms field n.toFloat
  | text {s : String} {x : Decimal.Signed} (found : ms.get? field = some (.str s))
      (read : Decimal.Signed.read (trim s.toList) = some x) : Gives ms field x.toFloat

/-- A field with something else in it. -/
def Garbled (ms : Members) (field : String) : Prop := ¬ Open ms field ∧ ∀ x, ¬ Gives ms field x

def notNumeric (field : String) : ValidationError :=
  .invalidPoi ("field '" ++ field ++ "' is not numeric")

theorem read_nothing : Decimal.Signed.read [] = none := by decide

theorem numberField_eq (ms : Members) (field : String) : numberField ms field =
    match ms.get? field with
    | none | some .null => .ok none
    | some (.num n) => .ok (some n.toFloat)
    | some (.str s) =>
      if (trim s.toList).isEmpty then .ok none
      else match Decimal.Signed.read (trim s.toList) with
        | some x => .ok (some x.toFloat)
        | none => .error (notNumeric field)
    | some _ => .error (notNumeric field) := rfl

theorem numberField_ok (o : Option Float) : numberField ms field = .ok o ↔
    o.elim (Open ms field) (Gives ms field) := by
  rw [numberField_eq]
  constructor
  · intro reads
    split at reads
    next absent => cases reads; exact .missing absent
    next null => cases reads; exact .null null
    next found => cases reads; exact .number found
    next s found =>
      split at reads
      next blank =>
        cases reads
        exact .blank found (trim_eq_nil.mp (List.isEmpty_iff.mp blank))
      next =>
        split at reads
        next read => cases reads; exact .text found read
        next => cases reads
    next => cases reads
  · intro stands
    cases o with
    | none =>
      cases stands with
      | missing absent => simp [absent]
      | null found => simp [found]
      | blank found blank => simp [found,trim_eq_nil.mpr blank]
    | some x =>
      cases stands with
      | number found => simp [found]
      | @text s x found read =>
        have stated : trim s.toList ≠ [] := by
          intro blank
          rw [blank,read_nothing] at read
          cases read
        simp [found,read,stated]

theorem numberField_fails (fails : numberField ms field = .error cause) :
    cause = notNumeric field := by
  rw [numberField_eq] at fails
  repeat' split at fails
  all_goals first | cases fails; rfl | cases fails

theorem numberField_error : numberField ms field = .error cause ↔
    Garbled ms field ∧ cause = notNumeric field := by
  have fails (o : Option Float) : numberField ms field = .ok o ↔
      o.elim (Open ms field) (Gives ms field) := numberField_ok o
  constructor
  · intro refused
    refine ⟨⟨fun isOpen => ?_,fun x gives => ?_⟩,numberField_fails refused⟩
    · cases refused.symm.trans ((fails none).mpr isOpen)
    · cases refused.symm.trans ((fails (some x)).mpr gives)
  · rintro ⟨⟨notOpen,gives⟩,rfl⟩
    cases read : numberField ms field with
    | ok o =>
      cases o with
      | none => exact absurd ((fails none).mp read) notOpen
      | some x => exact absurd ((fails (some x)).mp read) (gives x)
    | error other => rw [numberField_fails read]

/-- A field that a number must be in, and is not. -/
inductive Lacks (ms : Members) (field : String) : ValidationError → Prop where
  | missing (left : Open ms field) : Lacks ms field (.missingField field)
  | garbled (garbled : Garbled ms field) : Lacks ms field (notNumeric field)

theorem requiredNumber_ok : requiredNumber ms field = .ok x ↔ Gives ms field x := by
  rw [requiredNumber,bind_eq_ok]
  constructor
  · rintro ⟨o,read,given⟩
    cases o with
    | none => cases given
    | some y =>
      obtain rfl := Except.ok.inj given
      exact (numberField_ok (some y)).mp read
  · exact fun gives => ⟨some x,(numberField_ok (some x)).mpr gives,rfl⟩

theorem requiredNumber_error : requiredNumber ms field = .error cause ↔ Lacks ms field cause := by
  rw [requiredNumber,bind_eq_error]
  constructor
  · rintro (fails | ⟨o,read,missing⟩)
    · obtain ⟨garbled,rfl⟩ := numberField_error.mp fails
      exact .garbled garbled
    · cases o with
      | none =>
        obtain rfl := Except.error.inj missing
        exact .missing ((numberField_ok none).mp read)
      | some y => cases missing
  · rintro (⟨left⟩ | ⟨garbled⟩)
    · exact .inr ⟨none,(numberField_ok none).mpr left,rfl⟩
    · exact .inl (numberField_error.mpr ⟨garbled,rfl⟩)

/-- A member that is a text, and not an empty one. -/
def Spells (ms : Members) (key s : String) : Prop := ms.get? key = some (.str s) ∧ s ≠ ""

theorem textField_some : textField ms key = some s ↔ Spells ms key s := by
  rw [textField,Option.filter_eq_some_iff,Spells]
  cases ms.get? key with
  | none => simp
  | some j => cases j <;> simp [str?]

theorem textField_none : textField ms key = none ↔ ∀ s, ¬ Spells ms key s := by
  rw [Option.eq_none_iff_forall_ne_some]
  exact forall_congr' fun s => not_congr textField_some

/-! ## Entries -/

/-- The members of an entry, and the point that it describes. -/
structure Describes (ms : Members) (poi : Poi) : Prop where
  name : Spells ms "name" poi.name
  latitude : Gives ms "latitude" poi.latitude
  longitude : Gives ms "longitude" poi.longitude
  radius : Open ms "radius" ∧ poi.radius = defaultRadius ∨
    ∃ x, Gives ms "radius" x ∧ poi.radius = x.toFloat32
  beacon : (∀ s, ¬ Spells ms "beacon_uuid" s) ∧ poi.beaconUuid = none ∨
    ∃ s, Spells ms "beacon_uuid" s ∧ poi.beaconUuid = some (String.ofList (lower s.toList))

/-- What is wrong with the members of an entry. Later fields do not count once one has a fault. -/
inductive Faulty (ms : Members) : ValidationError → Prop where
  | name (unnamed : ∀ s, ¬ Spells ms "name" s) : Faulty ms (.missingField "name")
  | latitude {s : String} {cause : ValidationError} (named : Spells ms "name" s)
      (lacks : Lacks ms "latitude" cause) : Faulty ms cause
  | longitude {s : String} {x : Float} {cause : ValidationError} (named : Spells ms "name" s)
      (latitude : Gives ms "latitude" x) (lacks : Lacks ms "longitude" cause) : Faulty ms cause
  | radius {s : String} {x y : Float} (named : Spells ms "name" s)
      (latitude : Gives ms "latitude" x) (longitude : Gives ms "longitude" y)
      (garbled : Garbled ms "radius") : Faulty ms (notNumeric "radius")

theorem ofMembers_named (named : Spells ms "name" s) : ofMembers ms = do
    let latitude ← requiredNumber ms "latitude"
    let longitude ← requiredNumber ms "longitude"
    let radius ← numberField ms "radius"
    return {
      name := s
      latitude := latitude
      longitude := longitude
      radius := (radius.map Float.toFloat32).getD defaultRadius
      beaconUuid := (textField ms "beacon_uuid").map fun s =>
        String.ofList (lower s.toList) } := by
  rw [ofMembers,textField_some.mpr named]

theorem ofMembers_unnamed (unnamed : ∀ s, ¬ Spells ms "name" s) :
    ofMembers ms = .error (.missingField "name") := by
  rw [ofMembers,textField_none.mpr unnamed]

theorem ofMembers_ok : ofMembers ms = .ok poi ↔ Describes ms poi := by
  constructor
  · intro reads
    by_cases named : ∃ s, Spells ms "name" s
    swap
    · rw [ofMembers_unnamed (not_exists.mp named)] at reads
      cases reads
    obtain ⟨s,named⟩ := named
    rw [ofMembers_named named] at reads
    obtain ⟨x,latitude,reads⟩ := bind_eq_ok.mp reads
    obtain ⟨y,longitude,reads⟩ := bind_eq_ok.mp reads
    obtain ⟨o,radius,reads⟩ := bind_eq_ok.mp reads
    obtain rfl := pure_eq_ok.mp reads
    constructor
    case name => exact named
    case latitude => exact requiredNumber_ok.mp latitude
    case longitude => exact requiredNumber_ok.mp longitude
    case radius =>
      have stands := (numberField_ok o).mp radius
      cases o with
      | none => exact .inl ⟨stands,rfl⟩
      | some r => exact .inr ⟨r,stands,rfl⟩
    case beacon =>
      cases beacon : textField ms "beacon_uuid" with
      | none => exact .inl ⟨textField_none.mp beacon,rfl⟩
      | some s => exact .inr ⟨s,textField_some.mp beacon,rfl⟩
  · rintro ⟨named,latitude,longitude,radius,beacon⟩
    have radius : ∃ o, numberField ms "radius" = .ok o ∧
        (o.map Float.toFloat32).getD defaultRadius = poi.radius := by
      rcases radius with ⟨left,same⟩ | ⟨r,gives,same⟩
      · exact ⟨none,(numberField_ok none).mpr left,same.symm⟩
      · exact ⟨some r,(numberField_ok (some r)).mpr gives,same.symm⟩
    have beacon : ((textField ms "beacon_uuid").map fun s => String.ofList (lower s.toList)) =
        poi.beaconUuid := by
      rcases beacon with ⟨unnamed,same⟩ | ⟨s,spells,same⟩
      · rw [textField_none.mpr unnamed,same,Option.map_none]
      · rw [textField_some.mpr spells,same,Option.map_some]
    obtain ⟨o,radius,same⟩ := radius
    rw [ofMembers_named named,requiredNumber_ok.mpr latitude,requiredNumber_ok.mpr longitude,
      radius,beacon]
    simp only [ok_bind,same]
    rfl

theorem ofMembers_error : ofMembers ms = .error cause ↔ Faulty ms cause := by
  constructor
  · intro fails
    by_cases named : ∃ s, Spells ms "name" s
    swap
    · rw [ofMembers_unnamed (not_exists.mp named)] at fails
      obtain rfl := Except.error.inj fails
      exact .name (not_exists.mp named)
    obtain ⟨s,named⟩ := named
    rw [ofMembers_named named] at fails
    rcases bind_eq_error.mp fails with lacks | ⟨x,latitude,fails⟩
    · exact .latitude named (requiredNumber_error.mp lacks)
    have latitude := requiredNumber_ok.mp latitude
    rcases bind_eq_error.mp fails with lacks | ⟨y,longitude,fails⟩
    · exact .longitude named latitude (requiredNumber_error.mp lacks)
    have longitude := requiredNumber_ok.mp longitude
    rcases bind_eq_error.mp fails with unread | ⟨o,radius,fails⟩
    · obtain ⟨garbled,rfl⟩ := numberField_error.mp unread
      exact .radius named latitude longitude garbled
    · cases fails
  · intro faulty
    cases faulty with
    | name unnamed => exact ofMembers_unnamed unnamed
    | latitude named lacks =>
      rw [ofMembers_named named,requiredNumber_error.mpr lacks]
      rfl
    | longitude named latitude lacks =>
      rw [ofMembers_named named,requiredNumber_ok.mpr latitude,requiredNumber_error.mpr lacks]
      rfl
    | radius named latitude longitude garbled =>
      rw [ofMembers_named named,requiredNumber_ok.mpr latitude,requiredNumber_ok.mpr longitude,
        numberField_error.mpr ⟨garbled,rfl⟩]
      rfl

/-! ## Lists -/

/-- An entry, and the point that it stands for. -/
inductive Stands : Json → Poi → Prop where
  | entry {ms : Members} {poi : Poi} (describes : Describes ms poi) : Stands (.obj ms) poi

/-- What is wrong with an entry at its place in a list. -/
inductive Refused (index : Nat) : Json → ValidationError → Prop where
  | form {item : Json} (other : ∀ ms, item ≠ .obj ms) :
      Refused index item (.invalidPoi ("entry " ++ toString index ++ " is not an object"))
  | fields {ms : Members} {cause : ValidationError} (faulty : Faulty ms cause) :
      Refused index (.obj ms) cause

/-- What is wrong with the first entry that has a fault, where the list begins at a place. -/
def FirstFault (index : Nat) (items : List Json) (cause : ValidationError) : Prop :=
  ∃ before item rest pois, items = before ++ item :: rest ∧ List.Forall₂ Stands before pois ∧
    Refused (index + before.length) item cause

theorem firstFault_cons : FirstFault index (item :: items) cause ↔
    Refused index item cause ∨ (∃ poi, Stands item poi) ∧ FirstFault (index + 1) items cause := by
  constructor
  · rintro ⟨before,other,rest,pois,split,stand,refused⟩
    cases before with
    | nil =>
      obtain ⟨rfl,rfl⟩ := List.cons.inj split
      exact .inl refused
    | cons first before =>
      obtain ⟨rfl,rfl⟩ := List.cons.inj split
      obtain ⟨poi,pois,stands,others,rfl⟩ := List.forall₂_cons_left_iff.mp stand
      refine .inr ⟨⟨poi,stands⟩,before,other,rest,pois,rfl,others,?_⟩
      rwa [Nat.add_assoc,Nat.add_comm 1]
  · rintro (refused | ⟨⟨poi,stands⟩,before,other,rest,pois,rfl,stand,refused⟩)
    · exact ⟨[],item,items,[],rfl,.nil,refused⟩
    · refine ⟨item :: before,other,rest,poi :: pois,rfl,.cons stands stand,?_⟩
      rwa [List.length_cons,Nat.add_comm before.length,← Nat.add_assoc]

theorem ofEntries_other (other : ∀ ms, item ≠ .obj ms) : ofEntries index (item :: items) =
    .error (.invalidPoi ("entry " ++ toString index ++ " is not an object")) := by
  cases item
  case obj ms => exact absurd rfl (other ms)
  all_goals rfl

theorem ofEntries_ok : ofEntries index items = .ok pois ↔ List.Forall₂ Stands items pois := by
  induction items generalizing index pois with
  | nil => simp [ofEntries,eq_comm]
  | cons item items ih =>
    rw [List.forall₂_cons_left_iff]
    by_cases object : ∃ ms, item = .obj ms
    · obtain ⟨ms,rfl⟩ := object
      rw [ofEntries,bind_eq_ok]
      constructor
      · rintro ⟨poi,first,reads⟩
        obtain ⟨rest,others,reads⟩ := bind_eq_ok.mp reads
        obtain rfl := pure_eq_ok.mp reads
        exact ⟨poi,rest,.entry (ofMembers_ok.mp first),ih.mp others,rfl⟩
      · rintro ⟨poi,rest,⟨describes⟩,others,rfl⟩
        exact ⟨poi,ofMembers_ok.mpr describes,bind_eq_ok.mpr ⟨rest,ih.mpr others,rfl⟩⟩
    · rw [ofEntries_other (not_exists.mp object)]
      refine iff_of_false (fun impossible => by cases impossible) ?_
      rintro ⟨_,_,⟨_⟩,_⟩
      exact object ⟨_,rfl⟩

theorem ofEntries_error : ofEntries index items = .error cause ↔ FirstFault index items cause := by
  induction items generalizing index with
  | nil => simp [ofEntries,FirstFault]
  | cons item items ih =>
    rw [firstFault_cons,← ih]
    by_cases object : ∃ ms, item = .obj ms
    · obtain ⟨ms,rfl⟩ := object
      rw [ofEntries,bind_eq_error]
      constructor
      · rintro (fails | ⟨poi,first,fails⟩)
        · exact .inl (.fields (ofMembers_error.mp fails))
        · rcases bind_eq_error.mp fails with later | ⟨_,_,impossible⟩
          · exact .inr ⟨⟨poi,.entry (ofMembers_ok.mp first)⟩,later⟩
          · cases impossible
      · rintro (refused | ⟨⟨poi,⟨describes⟩⟩,later⟩)
        · cases refused with
          | form other => exact absurd rfl (other ms)
          | fields faulty => exact .inl (ofMembers_error.mpr faulty)
        · exact .inr ⟨poi,ofMembers_ok.mpr describes,bind_eq_error.mpr (.inl later)⟩
    · rw [ofEntries_other (not_exists.mp object)]
      constructor
      · intro fails
        obtain rfl := Except.error.inj fails
        exact .inl (.form (not_exists.mp object))
      · rintro (refused | ⟨⟨_,⟨_⟩⟩,_⟩)
        · cases refused with
          | form => rfl
          | fields => exact absurd ⟨_,rfl⟩ object
        · exact absurd ⟨_,rfl⟩ object

/-- Why a text is no list of points. -/
inductive Rejected (json : String) : ValidationError → Prop where
  | text (unread : parse? json = none) : Rejected json .poisNotJson
  | form {j : Json} (read : parse? json = some j) (other : ∀ items, j ≠ .arr items) :
      Rejected json (.invalidPoi "expected a JSON array")
  | entry {items : List Json} {cause : ValidationError} (read : parse? json = some (.arr items))
      (fault : FirstFault 0 items cause) : Rejected json cause

/-- A list is read exactly if it is one and every entry stands for a point. -/
theorem parseList_ok {json : String} : parseList json = .ok pois ↔
    ∃ items, parse? json = some (.arr items) ∧ List.Forall₂ Stands items pois := by
  rw [parseList]
  cases read : parse? json with
  | none => simp
  | some j => cases j <;> simp [ofEntries_ok]

theorem parseList_error {json : String} : parseList json = .error cause ↔ Rejected json cause := by
  rw [parseList]
  constructor
  · intro fails
    split at fails
    next unread => cases fails; exact .text unread
    next items read => exact .entry read (ofEntries_error.mp fails)
    next other read => cases fails; exact .form read fun items same => other items same
  · rintro (unread | ⟨read,other⟩ | ⟨read,fault⟩)
    · rw [unread]
    · rw [read]
      split
      next impossible => cases impossible
      next items same => cases same; exact absurd rfl (other items)
      next => rfl
    · rw [read]
      exact ofEntries_error.mpr fault

end Poi

namespace Engine

variable {e f : Engine} {op : Operation} {place : Poi} {name : String}

/-! ## Registration -/

/-- The points that an operation registers. -/
def Operation.places : Operation → List Poi
  | .addPois json => (Poi.parseList json).toOption.getD []
  | _ => []

/-- Only lists of points are registered. -/
theorem Deed.pois (deed : Deed op e f) (other : ∀ json, op ≠ .addPois json) : f.pois = e.pois := by
  cases deed with
  | listen c =>
    obtain ⟨t,listened,_⟩ := listen_eq e c
    rw [listened]
    rfl
  | close d => cases d <;> rfl
  | register json adds => exact absurd adds (other json)
  | _ => rfl

theorem Deeds.pois (deeds : Deeds op e f) (other : ∀ json, op ≠ .addPois json) :
    f.pois = e.pois := by
  induction deeds with
  | refl => rfl
  | tail _ deed ih => exact (deed.pois other).trans ih

theorem addPois_ok {json : String} {pois : List Poi} (read : Poi.parseList json = .ok pois) :
    e.apply (.addPois json) = (.count pois.length,{ e with pois := e.pois ++ pois }) := by
  simp only [apply,addPois,read]
  rfl

theorem addPois_error {json : String} {cause : ValidationError}
    (fails : Poi.parseList json = .error cause) :
    e.apply (.addPois json) = (.failed (.validation cause),e) := by
  simp only [apply,addPois,fails]
  rfl

/-- The registry only grows, and only by lists that are read. -/
theorem pois_apply (e : Engine) (op : Operation) : (e.apply op).2.pois = e.pois ++ op.places := by
  have others : (∀ json, op ≠ .addPois json) → (e.apply op).2.pois = e.pois := fun other =>
    (congrArg Engine.pois (apply_aside e op).eq_beside).trans
      ((surroundings_deeds e op).pois other)
  cases op
  case addPois json =>
    change (e.apply (.addPois json)).2.pois = e.pois ++ (Poi.parseList json).toOption.getD []
    cases read : Poi.parseList json with
    | ok pois =>
      rw [addPois_ok read]
      rfl
    | error cause =>
      rw [addPois_error read]
      exact (List.append_nil _).symm
  all_goals exact (others fun _ => Operation.noConfusion).trans (List.append_nil _).symm

theorem pois_after (e : Engine) (ops : List Operation) :
    (e.after ops).pois = e.pois ++ ops.flatMap Operation.places := by
  induction ops generalizing e with
  | nil => exact (List.append_nil _).symm
  | cons op ops ih =>
    rw [after_cons,ih,pois_apply,List.append_assoc,List.flatMap_cons]

/-! ## Crossings -/

/-- What the application is told of a crossing: of the point once, if it takes such events. -/
def tidings (e : Engine) (place : Poi) (entered : Bool) : List Notice :=
  if e.sink.any (·.hearsPois) then [⟨none,.poi e.self place entered⟩] else []

theorem tellPoi_eq (e : Engine) (place : Poi) (entered : Bool) :
    e.tellPoi place entered = { e with told := e.tidings place entered ++ e.told } := by
  rw [tellPoi,tidings]
  split <;> rfl

theorem tellPoi_delivered (e : Engine) (place : Poi) (entered : Bool) :
    (e.tellPoi place entered).delivered = e.delivered ++ e.tidings place entered := by
  rw [tellPoi_eq,delivered,List.reverse_append,tidings,delivered]
  split <;> rfl

theorem crossRegion_known {before rest : List Poi} (registered : e.pois = before ++ place :: rest)
    (first : ∀ p ∈ before, p.name ≠ place.name) (entered : Bool) :
    e.apply (.crossRegion place.name entered) = (.flag true,e.tellPoi place entered) := by
  have found : e.pois.find? (·.name == place.name) = some place := by
    rw [registered,List.find?_append,List.find?_eq_none.mpr (by simpa using first)]
    simp
  simp only [apply,crossRegion,found]

theorem crossRegion_unknown (unknown : ∀ p ∈ e.pois, p.name ≠ name) (entered : Bool) :
    e.apply (.crossRegion name entered) = (.flag false,e) := by
  have missing : e.pois.find? (·.name == name) = none :=
    List.find?_eq_none.mpr (by simpa using unknown)
  simp only [apply,crossRegion,missing]

/-- What becomes of lists of points, and what a node knows by them. -/
structure Registers (e : Engine) (ops : List Operation) : Prop where
  /-- A text is read exactly if it is a list whose every entry stands for a point; these points are
  what it gives, one for each entry, in order. -/
  reads : ∀ json pois, Poi.parseList json = .ok pois ↔
    ∃ items, Json.parse? json = some (.arr items) ∧ List.Forall₂ Poi.Stands items pois
  /-- Any other text is rejected, a list for the first entry with a fault and the first of its
  faults. -/
  rejects : ∀ json cause, Poi.parseList json = .error cause ↔ Poi.Rejected json cause
  /-- Registered are the points of the lists that were read, in the order in which they came. -/
  registered : (e.after ops).pois = ops.flatMap Operation.places
  added : ∀ json pois, Poi.parseList json = .ok pois → (e.after ops).apply (.addPois json) =
    (.count pois.length,{ e.after ops with pois := (e.after ops).pois ++ pois })
  refused : ∀ json cause, Poi.parseList json = .error cause →
    (e.after ops).apply (.addPois json) = (.failed (.validation cause),e.after ops)
  unknown : ∀ name entered, (∀ p ∈ (e.after ops).pois, p.name ≠ name) →
    (e.after ops).apply (.crossRegion name entered) = (.flag false,e.after ops)
  /-- Of several points with one name the first is meant; nothing else changes but what is told. -/
  known : ∀ before place rest entered, (e.after ops).pois = before ++ place :: rest →
    (∀ p ∈ before, p.name ≠ place.name) → ∃ f,
    (e.after ops).apply (.crossRegion place.name entered) = (.flag true,f) ∧
    f = { e.after ops with told := f.told } ∧
    f.delivered = (e.after ops).delivered ++ (e.after ops).tidings place entered

/-- A list of points is registered as a whole or not at all, and a region is the first one that was
registered under its name. -/
theorem places_registered {self : Entity} {config : Config} (started : start self config = .ok e)
    (ops : List Operation) : Registers e ops := by
  have nothing : e.pois = [] := by
    rw [start] at started
    split at started <;> cases started
    rfl
  constructor
  case reads => exact fun json pois => Poi.parseList_ok
  case rejects => exact fun json cause => Poi.parseList_error
  case registered => rw [pois_after,nothing,List.nil_append]
  case added => exact fun json pois => addPois_ok
  case refused => exact fun json cause => addPois_error
  case unknown => exact fun name entered unknown => crossRegion_unknown unknown entered
  case known =>
    intro before place rest entered registered first
    refine ⟨_,crossRegion_known registered first entered,?_,tellPoi_delivered ..⟩
    rw [tellPoi_eq]

/-! ## Halls -/

/-- An entry for a point. -/
def site (name : String) (latitude : Nat) : Json :=
  .obj [("latitude",.int latitude),("longitude",.int 2),("name",.str name)]

/-- The point for which it stands. -/
def siteOf (name : String) (latitude : Nat) : Poi :=
  ⟨name,(Number.int latitude).toFloat,(Number.int 2).toFloat,Poi.defaultRadius,none⟩

def hall : Json := .arr [site "hall" 1]

/-- Two points under one name. -/
def halls : Json := .arr [site "hall" 1,site "hall" 3]

/-- The second entry is none. -/
def torn : Json := .arr [site "annex" 1,.null]

theorem list_read {items : List Json} (entries : ∀ item ∈ items, item.Integral ∧ item.Ordered)
    (shallow : (Json.arr items).depth ≤ 127) :
    Json.parse? (Json.arr items).compact = some (.arr items) :=
  Json.parse?_compact (Json.integral_arr.mpr fun item member => (entries item member).1)
    (Json.ordered_arr.mpr fun item member => (entries item member).2) shallow

theorem site_entry (name : String) {latitude : Nat}
    (inRange : Number.inRange latitude = true) :
    (site name latitude).Integral ∧ (site name latitude).Ordered := by
  have keys : ["latitude","longitude","name"].Pairwise (· < ·) := by decide +kernel
  refine ⟨⟨inRange,rfl,trivial,trivial⟩,?_⟩
  simp only [site,Json.Ordered,Json.OrderedMembers,Json.int,List.map,and_true]
  exact keys

theorem hall_read : Poi.parseList hall.compact = .ok [siteOf "hall" 1] := by
  rw [Poi.parseList,hall,list_read (by simp [site_entry,Number.inRange]) (by decide)]
  rfl

theorem halls_read : Poi.parseList halls.compact = .ok [siteOf "hall" 1,siteOf "hall" 3] := by
  rw [Poi.parseList,halls,list_read (by simp [site_entry,Number.inRange]) (by decide)]
  rfl

theorem torn_rejected : Poi.parseList torn.compact =
    .error (.invalidPoi "entry 1 is not an object") := by
  rw [Poi.parseList,torn,list_read (by simp [site_entry,Number.inRange,Json.Integral,Json.Ordered]) (by decide)]
  rfl

/-- An application that takes everything registers both lists. -/
def hallRun : List Operation :=
  [.setSink (some .recorder),.addPois halls.compact,.addPois torn.compact]

theorem after_hallRun (e : Engine) : e.after hallRun = { e with
    sink := some .recorder, pois := e.pois ++ [siteOf "hall" 1,siteOf "hall" 3] } := by
  simp only [hallRun,after_cons,after_nil,addPois_ok halls_read,addPois_error torn_rejected]
  rfl

theorem places_registered_hall : ∃ e, start (.bare (.of "me") .device) .standard = .ok e ∧
    Registers e hallRun ∧ (e.after hallRun).pois = [siteOf "hall" 1,siteOf "hall" 3] ∧
    (e.after hallRun).apply (.addPois torn.compact) =
      (.failed (.validation (.invalidPoi "entry 1 is not an object")),e.after hallRun) ∧
    ∃ f, (e.after hallRun).apply (.crossRegion "hall" true) = (.flag true,f) ∧
      f.delivered = [⟨none,.poi e.self (siteOf "hall" 1) true⟩] := by
  have started : start (.bare (.of "me") .device) .standard = .ok _ := rfl
  have registers := places_registered started hallRun
  obtain ⟨f,crosses,_,told⟩ := registers.known [] (siteOf "hall" 1) [siteOf "hall" 3] true
    (congrArg Engine.pois (after_hallRun _)) fun _ member => absurd member List.not_mem_nil
  refine ⟨_,started,registers,congrArg Engine.pois (after_hallRun _),
    registers.refused _ _ torn_rejected,f,crosses,told.trans ?_⟩
  rw [after_hallRun]
  rfl

/-- Nobody listens: the region is known and its crossing is told to nobody. -/
theorem crossing_unheard : ∃ e, start (.bare (.of "me") .device) .standard = .ok e ∧
    let deaf := e.after [.setSink none,.addPois hall.compact]
    (∃ place ∈ deaf.pois, place.name = "hall") ∧
    (deaf.apply (.crossRegion "hall" true)).1 = .flag true ∧
    (deaf.apply (.crossRegion "hall" true)).2.delivered = [] := by
  refine ⟨_,rfl,?_⟩
  simp only [Engine.after,List.foldl,addPois_ok hall_read]
  refine ⟨⟨_,List.mem_singleton.mpr rfl,rfl⟩,rfl,rfl⟩

end Engine

end Vicinity
