import Mathlib.Logic.Basic
import Vicinity.Distance.Fusion

/-! The estimate of a distance between its bounds. Some pair of readings of one beacon yields it,
every pair with a close reading bounds it, and further readings of the peer only bring it nearer.
The order of the pairs matters for the estimate, but for none of this. -/
namespace Vicinity.Distance

variable {peer mine : List Entity} {t o d best : Distance} {pairs : List (Distance × Distance)}

theorem ordinal_min (a b : Distance) : (min a b).ordinal = min a.ordinal b.ordinal := by
  show (if b.ordinal < a.ordinal then b else a).ordinal = _
  split <;> omega

theorem le_trans {a b c : Distance} (first : a ≤ b) (second : b ≤ c) : a ≤ c :=
  Nat.le_trans first second

/-! ## One pair of readings -/

/-- What two readings of one beacon can come to, the peer's and our own. -/
def Yields (t o d : Distance) : Prop :=
  (t ≤ nextTo ∧ d = min t o) ∨ (o ≤ nextTo ∧ nextTo < t ∧ d = t)

theorem improve_le (best t o : Distance) : improve best t o ≤ best := by
  rw [improve,le_def]
  split
  · split
    next closer =>
      rw [lt_def] at closer
      rw [ordinal_min]
      omega
    next => exact Nat.le_refl _
  · split
    next closer => exact Nat.le_of_lt closer.2
    next => exact Nat.le_refl _

theorem improve_le_ours (near : t ≤ nextTo) : improve best t o ≤ o := by
  rw [improve,if_pos near]
  split
  next => rw [le_def,ordinal_min]; omega
  next farther => exact Nat.not_lt.mp farther

theorem improve_le_theirs (near : o ≤ nextTo) (far : nextTo < t) : improve best t o ≤ t := by
  have apart : ¬t ≤ nextTo := Nat.not_le.mpr far
  rw [improve,if_neg apart]
  split
  next => exact Nat.le_refl _
  next farther => exact Nat.not_lt.mp fun closer => farther ⟨near,closer⟩

theorem improve_origin (best t o : Distance) :
    improve best t o = best ∨ Yields t o (improve best t o) := by
  rw [improve]
  split
  next near =>
    split
    next =>
      refine .inr (.inl ⟨near,ordinal_injective ?_⟩)
      rw [ordinal_min,ordinal_min,Nat.min_comm]
    next => exact .inl rfl
  next far =>
    split
    next closer => exact .inr (.inr ⟨closer.1,Nat.not_le.mp far,rfl⟩)
    next => exact .inl rfl

/-! ## All pairs in turn -/

/-- An estimate improved by pairs of readings, one after another. -/
def improveAll (best : Distance) (pairs : List (Distance × Distance)) : Distance :=
  pairs.foldl (fun best pair => improve best pair.1 pair.2) best

theorem improveAll_le (best : Distance) (pairs : List (Distance × Distance)) :
    improveAll best pairs ≤ best := by
  induction pairs generalizing best with
  | nil => exact Nat.le_refl _
  | cons pair pairs ih => exact le_trans (ih _) (improve_le ..)

/-- The bound of a pair is kept by what comes after it. -/
theorem improveAll_le_of_mem {bound : Distance} (member : (t,o) ∈ pairs)
    (bounds : ∀ best, improve best t o ≤ bound) : improveAll best pairs ≤ bound := by
  induction pairs generalizing best with
  | nil => cases member
  | cons pair pairs ih =>
    rcases List.mem_cons.mp member with rfl | later
    · exact le_trans (improveAll_le _ pairs) (bounds best)
    · exact ih later

theorem improveAll_origin (best : Distance) (pairs : List (Distance × Distance)) :
    improveAll best pairs = best ∨
      ∃ t o, (t,o) ∈ pairs ∧ Yields t o (improveAll best pairs) := by
  induction pairs generalizing best with
  | nil => exact .inl rfl
  | cons pair pairs ih =>
    rcases ih (improve best pair.1 pair.2) with same | ⟨t,o,member,yields⟩
    · have all : improveAll best (pair :: pairs) = improve best pair.1 pair.2 := same
      rw [all]
      exact (improve_origin ..).imp_right fun yields => ⟨_,_,List.mem_cons_self ..,yields⟩
    · exact .inr ⟨t,o,List.mem_cons_of_mem _ member,yields⟩

/-! ## Common beacons -/

/-- The peer reads a beacon at `t`, and we read the same one at `o`. -/
def Common (peer mine : List Entity) (t o : Distance) : Prop :=
  ∃ theirs ∈ peer, ∃ ours ∈ mine, ours.id = theirs.id ∧ theirs.distance = t ∧ ours.distance = o

theorem mem_commonReadings : (t,o) ∈ commonReadings peer mine ↔ Common peer mine t o := by
  simp only [commonReadings,Common,List.mem_flatMap,List.mem_map,List.mem_filter,decide_eq_true_eq,
    Prod.mk.injEq,and_assoc]

theorem commonReadings_eq_nil :
    commonReadings peer mine = [] ↔ ¬∃ t o, Common peer mine t o := by
  rw [List.eq_nil_iff_forall_not_mem]
  simp only [Prod.forall,mem_commonReadings,not_exists]

theorem fuse_strange (none : commonReadings peer mine = []) : fuse peer mine = sameWifi := by
  rw [fuse,none]

theorem fuse_familiar (some : commonReadings peer mine ≠ []) :
    fuse peer mine = improveAll sameBeacon (commonReadings peer mine) := by
  rw [fuse]
  split
  next none => exact absurd none some
  next => rfl

/-- Beacons of the peer that we do not see make no difference. -/
theorem fuse_filter (peer mine : List Entity) :
    fuse (peer.filter fun theirs => mine.any (·.same theirs)) mine = fuse peer mine := by
  have same : commonReadings (peer.filter fun theirs => mine.any (·.same theirs)) mine =
      commonReadings peer mine := by
    induction peer with
    | nil => rfl
    | cons theirs peer ih =>
      by_cases seen : mine.any (·.same theirs) = true
      · rw [List.filter_cons_of_pos (p := fun theirs => mine.any (·.same theirs)) seen]
        exact congrArg (_ ++ ·) ih
      · have unseen : (mine.filter fun ours => decide (ours.id = theirs.id)) = [] :=
          List.filter_eq_nil_iff.mpr fun ours member same =>
            seen (List.any_eq_true.mpr ⟨ours,member,beq_iff_eq.mpr (of_decide_eq_true same)⟩)
        rw [List.filter_cons_of_neg (p := fun theirs => mine.any (·.same theirs)) seen,ih,
          commonReadings,commonReadings,List.flatMap_cons,unseen]
        rfl
  rw [fuse,fuse,same]

/-! ## The bracket -/

/-- What the readings of common beacons make of an estimate. -/
structure Bracketed (peer mine : List Entity) (d : Distance) : Prop where
  /-- Devices without a beacon in common only share a network. -/
  strange : d = sameWifi ↔ ¬∃ t o, Common peer mine t o
  familiar : (∃ t o, Common peer mine t o) → d ≤ sameBeacon
  /-- An estimate that says more comes of a pair of readings. -/
  evidence : d < sameBeacon → ∃ t o, Common peer mine t o ∧ Yields t o d
  /-- A beacon next to the peer is an upper bound, as far as we are from it. -/
  theirs : ∀ t o, Common peer mine t o → t ≤ nextTo → d ≤ o
  /-- A beacon next to us is one, as far as the peer is from it. -/
  ours : ∀ t o, Common peer mine t o → o ≤ nextTo → nextTo < t → d ≤ t
  touching : Common peer mine immediate immediate → d = immediate

theorem bracketed_strange (none : ¬∃ t o, Common peer mine t o) : Bracketed peer mine sameWifi where
  strange := ⟨fun _ => none,fun _ => rfl⟩
  familiar some := absurd some none
  evidence closer := absurd closer (by decide)
  theirs t o common := absurd ⟨t,o,common⟩ none
  ours t o common := absurd ⟨t,o,common⟩ none
  touching common := absurd ⟨_,_,common⟩ none

theorem bracketed_familiar (some : ∃ t o, Common peer mine t o) :
    Bracketed peer mine (improveAll sameBeacon (commonReadings peer mine)) := by
  have bounded := improveAll_le sameBeacon (commonReadings peer mine)
  have theirs : ∀ t o, Common peer mine t o → t ≤ nextTo →
      improveAll sameBeacon (commonReadings peer mine) ≤ o := fun t o common near =>
    improveAll_le_of_mem (mem_commonReadings.mpr common) fun _ => improve_le_ours near
  constructor
  case strange =>
    refine iff_of_false (fun same => ?_) (not_not.mpr some)
    rw [same] at bounded
    exact absurd bounded (by decide)
  case familiar => exact fun _ => bounded
  case evidence =>
    intro closer
    rcases improveAll_origin sameBeacon (commonReadings peer mine) with same | ⟨t,o,member,yields⟩
    · rw [same] at closer
      exact absurd closer (by decide)
    · exact ⟨t,o,mem_commonReadings.mp member,yields⟩
  case theirs => exact theirs
  case ours =>
    exact fun t o common near far =>
      improveAll_le_of_mem (mem_commonReadings.mpr common) fun _ => improve_le_theirs near far
  case touching =>
    intro common
    exact ordinal_injective (Nat.le_zero.mp (theirs _ _ common (by decide)))

theorem bracketed (peer mine : List Entity) : Bracketed peer mine (fuse peer mine) := by
  by_cases none : commonReadings peer mine = []
  · rw [fuse_strange none]
    exact bracketed_strange (commonReadings_eq_nil.mp none)
  · rw [fuse_familiar none]
    exact bracketed_familiar (not_not.mp (mt commonReadings_eq_nil.mpr none))

/-- More readings of the peer continue the fold over the pairs, unless they are the first ones. -/
theorem fuse_append_le (peer more mine : List Entity) :
    fuse (peer ++ more) mine ≤ fuse peer mine := by
  have split : commonReadings (peer ++ more) mine =
      commonReadings peer mine ++ commonReadings more mine := List.flatMap_append
  by_cases none : commonReadings peer mine = []
  · rw [fuse_strange none]
    by_cases still : commonReadings (peer ++ more) mine = []
    · rw [fuse_strange still]
      exact Nat.le_refl _
    · rw [fuse_familiar still]
      exact le_trans (improveAll_le ..) (by decide)
  · have some : commonReadings (peer ++ more) mine ≠ [] := by
      rw [split]
      exact List.append_ne_nil_of_left_ne_nil none _
    have continued : improveAll sameBeacon (commonReadings (peer ++ more) mine) =
        improveAll (improveAll sameBeacon (commonReadings peer mine))
          (commonReadings more mine) := by
      rw [split]
      exact List.foldl_append
    rw [fuse_familiar none,fuse_familiar some,continued]
    exact improveAll_le ..

theorem fuse_bracketed (peer mine : List Entity) : Bracketed peer mine (fuse peer mine) ∧
    ∀ more, fuse (peer ++ more) mine ≤ fuse peer mine :=
  ⟨bracketed peer mine,fun more => fuse_append_le peer more mine⟩

end Vicinity.Distance
