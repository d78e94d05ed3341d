import Mathlib.Data.List.Basic
import Vicinity.Group

/-! Who belongs to a group. Each part of a description is a test of its own, and a member passes all
of them. The id of a beacon is a place in a hierarchy, whose levels are the parts between its
colons; however the colons are set, an id selects the beacons at its place and below. -/
namespace Vicinity

/-! ## The parts of an id -/

namespace EntityId

/-- A text and its parts between colons, in order. Colons next to each other or at an end of the
text have no part between them. -/
inductive Parted : List Char → List (List Char) → Prop where
  | empty : Parted [] []
  | colon {cs : List Char} {parts : List (List Char)} (rest : Parted cs parts) :
    Parted (':' :: cs) parts
  | last {part : List Char} (proper : part ≠ []) (plain : ':' ∉ part) : Parted part [part]
  | part {part cs : List Char} {parts : List (List Char)} (proper : part ≠ [])
    (plain : ':' ∉ part) (rest : Parted cs parts) : Parted (part ++ ':' :: cs) (part :: parts)

variable {part cs : List Char} {parts : List (List Char)} {id : EntityId}

theorem split_plain (plain : ':' ∉ part) : Text.split ':' part = [part] := by
  induction part with
  | nil => rfl
  | cons c part ih =>
    have other : c ≠ ':' := fun same => plain (same ▸ List.mem_cons_self ..)
    rw [Text.split,if_neg other,ih fun later => plain (List.mem_cons_of_mem _ later)]

theorem split_part (plain : ':' ∉ part) (cs : List Char) :
    Text.split ':' (part ++ ':' :: cs) = part :: Text.split ':' cs := by
  induction part with
  | nil => exact if_pos rfl
  | cons c part ih =>
    have other : c ≠ ':' := fun same => plain (same ▸ List.mem_cons_self ..)
    rw [List.cons_append,Text.split,if_neg other,
      ih fun later => plain (List.mem_cons_of_mem _ later)]

theorem Parted.split (parted : Parted cs parts) :
    (Text.split ':' cs).filter (!·.isEmpty) = parts := by
  induction parted with
  | empty => rfl
  | colon rest ih => exact ih
  | last proper plain => simp [split_plain plain,proper]
  | part proper plain rest ih => simp [split_part plain,proper,ih]

/-- Every text has parts: what stands before its first colon is one, unless nothing does. -/
theorem exists_parted (cs : List Char) : ∃ parts, Parted cs parts := by
  induction size : cs.length using Nat.strongRecOn generalizing cs with
  | ind n ih =>
    subst size
    by_cases colon : ':' ∈ cs
    · obtain ⟨part,rest,rfl,plain⟩ := List.eq_append_cons_of_mem colon
      have shorter : rest.length < (part ++ ':' :: rest).length := by
        rw [List.length_append,List.length_cons]
        omega
      obtain ⟨parts,parted⟩ := ih rest.length shorter rest rfl
      by_cases proper : part = []
      · subst proper
        exact ⟨parts,.colon parted⟩
      · exact ⟨part :: parts,.part proper plain parted⟩
    · by_cases proper : cs = []
      · subst proper
        exact ⟨[],.empty⟩
      · exact ⟨[cs],.last proper colon⟩

theorem parted_iff : Parted id.text.toList parts ↔ parts = id.tokens := by
  obtain ⟨own,parted⟩ := exists_parted id.text.toList
  have tokens : id.tokens = own := parted.split
  refine ⟨fun other => other.split.symm,fun same => ?_⟩
  rw [same,tokens]
  exact parted

end EntityId

/-! ## The test of an id -/

namespace Group

open EntityId (Parted parted_iff)

variable {g : Group} {e : Entity} {id : EntityId}

/-- A device has its own id only, and a beacon stands at the place of the id or below it. -/
inductive Names (wanted : EntityId) (e : Entity) : Prop where
  | device (type : e.type = .device) (same : wanted.text = e.id.text)
  | beacon {parts below : List (List Char)} (type : e.type = .beacon)
    (place : Parted wanted.text.toList parts) (own : Parted e.id.text.toList (parts ++ below))

theorem idMatches_device (type : e.type = .device) :
    idMatches id e = true ↔ id.text = e.id.text := by
  have kind : e.isBeacon = false := by rw [Entity.isBeacon,type]; rfl
  rw [idMatches,kind,if_neg Bool.false_ne_true,beq_iff_eq]
  exact ⟨congrArg EntityId.text,EntityId.ext⟩

theorem idMatches_beacon (type : e.type = .beacon) :
    idMatches id e = true ↔ id.tokens <+: e.id.tokens := by
  have kind : e.isBeacon = true := by rw [Entity.isBeacon,type]; rfl
  rw [idMatches,kind,if_pos rfl,List.isPrefixOf_iff_prefix]

theorem idMatches_iff : idMatches id e = true ↔ Names id e := by
  cases type : e.type with
  | device =>
    rw [idMatches_device type]
    refine ⟨.device type,fun names => ?_⟩
    cases names with
    | device _ same => exact same
    | beacon kind => cases type.symm.trans kind
  | beacon =>
    rw [idMatches_beacon type]
    constructor
    · rintro ⟨below,own⟩
      exact .beacon type (parted_iff.mpr rfl) (parted_iff.mpr own)
    · intro names
      cases names with
      | device kind => cases type.symm.trans kind
      | beacon _ place own =>
        rw [← parted_iff.mp place,← parted_iff.mp own]
        exact List.prefix_append ..

example : idMatches (.of "u::10:") (.bare (.of "U:10:20") .beacon) = true := by decide

/-! ## All tests -/

/-- A participant passes each test that a group makes. -/
structure Passes (g : Group) (e : Entity) : Prop where
  id : ∀ id, g.entityId = some id → Names id e
  type : ∀ type, g.entityType = some type → e.type = type
  properties : ∀ f, g.filter = some f → f.evaluate e.properties = true

theorem contains_iff : g.contains e = true ↔ Passes g e := by
  simp only [contains,Bool.and_eq_true,Option.all_eq_true,beq_iff_eq,idMatches_iff,and_assoc]
  exact ⟨fun ⟨id,type,properties⟩ => ⟨id,fun t given => (type t given).symm,properties⟩,
    fun passes => ⟨passes.id,fun t given => (passes.type t given).symm,passes.properties⟩⟩

/-- An id that names a beacon does so after its last parts are left out. -/
theorem Names.shorten {short : EntityId} {parts rest : List (List Char)} (names : Names id e)
    (type : e.type = .beacon) (short_parts : Parted short.text.toList parts)
    (parted : Parted id.text.toList (parts ++ rest)) : Names short e := by
  cases names with
  | device kind => cases type.symm.trans kind
  | @beacon whole below _ place own =>
    rw [parted_iff.mp place,← parted_iff.mp parted,List.append_assoc] at own
    exact .beacon type short_parts own

/-- How the members of a group are told. -/
structure Selects (g : Group) : Prop where
  members : ∀ e, g.contains e = true ↔ Passes g e
  /-- With one part of its description less, a group keeps its members. -/
  anyId : ∀ e, g.contains e = true → { g with entityId := none }.contains e = true
  anyType : ∀ e, g.contains e = true → { g with entityType := none }.contains e = true
  anyProperties : ∀ e, g.contains e = true → { g with filter := none }.contains e = true
  /-- With the last parts of its id left out, a group keeps its beacons. -/
  shorter : ∀ e id short parts rest, e.type = .beacon → g.entityId = some id →
    Parted id.text.toList (parts ++ rest) → Parted short.text.toList parts →
    g.contains e = true → { g with entityId := some short }.contains e = true
  /-- A beacon above the place of the id is no member. -/
  above : ∀ e id parts own, e.type = .beacon → g.entityId = some id →
    Parted id.text.toList parts → Parted e.id.text.toList own → own.length < parts.length →
    g.contains e = false
  /-- A group that says nothing is that of everybody. -/
  everybody : g.entityId = none → g.entityType = none → g.filter = none →
    ∀ e, g.contains e = true

theorem selects (g : Group) : Selects g := by
  constructor
  case members => exact fun e => contains_iff
  case anyId =>
    intro e member
    obtain ⟨_,type,properties⟩ := contains_iff.mp member
    exact contains_iff.mpr ⟨by simp,type,properties⟩
  case anyType =>
    intro e member
    obtain ⟨id,_,properties⟩ := contains_iff.mp member
    exact contains_iff.mpr ⟨id,by simp,properties⟩
  case anyProperties =>
    intro e member
    obtain ⟨id,type,_⟩ := contains_iff.mp member
    exact contains_iff.mpr ⟨id,type,by simp⟩
  case shorter =>
    intro e id short parts rest type given parted short_parts member
    obtain ⟨names,types,properties⟩ := contains_iff.mp member
    refine contains_iff.mpr ⟨?_,types,properties⟩
    rintro _ ⟨rfl⟩
    exact (names id given).shorten type short_parts parted
  case above =>
    intro e id parts own type given parted own_parts deeper
    refine Bool.eq_false_iff.mpr fun member => ?_
    cases (contains_iff.mp member).id id given with
    | device kind => cases type.symm.trans kind
    | @beacon whole below _ place at' =>
      rw [parted_iff.mp place,← parted_iff.mp parted] at at'
      rw [parted_iff.mp own_parts,← parted_iff.mp at',List.length_append] at deeper
      omega
  case everybody =>
    intro noId noType noFilter e
    refine contains_iff.mpr ⟨?_,?_,?_⟩ <;> intro _ given
    · cases noId.symm.trans given
    · cases noType.symm.trans given
    · cases noFilter.symm.trans given

end Group

end Vicinity
