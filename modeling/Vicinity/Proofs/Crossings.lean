import Mathlib.Data.List.Induction
import Vicinity.Detected
import Vicinity.Event

/-! The history of one geofence: what is seen of participants, and what the application is told of
it. Who is inside is read off the events alone. -/
namespace Vicinity.Geofence

/-! ## One observation, case by case -/

section Observe

variable {d : Detected} {id : EntityId} {seen radius : Distance}

theorem observe_enter (absent : id ∉ d.ids) (near : seen ≤ radius) (place : d.ids.length < 50) :
    d.observe id seen radius = (.entry,⟨d.ids ++ [id]⟩) := by
  have room : ¬ 50 ≤ d.ids.length := Nat.not_le.mpr place
  simp [Detected.observe,Detected.insert,Detected.contains,Detected.isFull,Detected.size,
    Detected.capacity,absent,near,room]

theorem observe_full (absent : id ∉ d.ids) (near : seen ≤ radius) (crowded : 50 ≤ d.ids.length) :
    d.observe id seen radius = (.full,d) := by
  simp [Detected.observe,Detected.insert,Detected.contains,Detected.isFull,Detected.size,
    Detected.capacity,absent,near,crowded]

theorem observe_leave (present : id ∈ d.ids) (far : radius < seen) :
    d.observe id seen radius = (.exit,⟨d.ids.erase id⟩) := by
  simp [Detected.observe,Detected.erase,Detected.contains,present,far]

theorem observe_stay (present : id ∈ d.ids) (near : seen ≤ radius) :
    d.observe id seen radius = (.unchanged,d) := by
  have inside : ¬ radius < seen := Nat.not_lt.mpr near
  simp [Detected.observe,Detected.contains,present,inside]

theorem observe_away (absent : id ∉ d.ids) (far : radius < seen) :
    d.observe id seen radius = (.unchanged,d) := by
  have outside : ¬ seen ≤ radius := Nat.not_le.mpr far
  simp [Detected.observe,Detected.contains,absent,outside]

end Observe

/-! ## The events and who is inside -/

/-- The crossing of a participant of which an event tells. -/
def crosses? (x : EntityId) : Payload → Option EntityEvent
  | .entity .geofenceEntry _ candidate _ =>
    if candidate.id = x then some .geofenceEntry else none
  | .entity .geofenceExit _ candidate _ =>
    if candidate.id = x then some .geofenceExit else none
  | _ => none

/-- The entries and exits of a participant. -/
def crossings (x : EntityId) (told : List Payload) : List EntityEvent :=
  told.filterMap (crosses? x)

/-- Entries and exits in turn, an entry first. -/
def Alternates (events : List EntityEvent) : Prop :=
  ∀ i event, events[i]? = some event →
    event = if i % 2 = 0 then .geofenceEntry else .geofenceExit

def occupy (ids : List EntityId) : Payload → List EntityId
  | .entity .geofenceEntry _ candidate _ => ids ++ [candidate.id]
  | .entity .geofenceExit _ candidate _ => ids.erase candidate.id
  | _ => ids

/-- Who is inside after some events, in the order of entry. -/
def occupants (told : List Payload) : List EntityId := told.foldl occupy []

theorem occupants_concat (told : List Payload) (p : Payload) :
    occupants (told ++ [p]) = occupy (occupants told) p := by
  simp [occupants]

theorem crossings_concat (x : EntityId) (told : List Payload) (p : Payload) :
    crossings x (told ++ [p]) = crossings x told ++ (crosses? x p).toList := by
  cases crosses : crosses? x p <;> simp [crossings,crosses]

/-- What is told as participants are seen at distances from the centre, one after another. -/
inductive Course (center : Entity) (radius : Distance) :
    List (Entity × Distance) → List Payload → Prop where
  | start : Course center radius [] []
  /-- An absent participant is seen within the radius, and there is a place for it. -/
  | enter {sights told candidate seen} (before : Course center radius sights told)
      (absent : candidate.id ∉ occupants told) (near : seen ≤ radius)
      (place : (occupants told).length < 50) :
      Course center radius (sights ++ [(candidate,seen)])
        (told ++ [.entity .geofenceEntry center candidate seen])
  /-- There is no place for it. -/
  | full {sights told candidate seen} (before : Course center radius sights told)
      (absent : candidate.id ∉ occupants told) (near : seen ≤ radius)
      (crowded : 50 ≤ (occupants told).length) :
      Course center radius (sights ++ [(candidate,seen)]) (told ++ [.error .entitySizeExceeded])
  /-- A participant that is inside is seen beyond the radius. -/
  | leave {sights told candidate seen} (before : Course center radius sights told)
      (present : candidate.id ∈ occupants told) (far : radius < seen) :
      Course center radius (sights ++ [(candidate,seen)])
        (told ++ [.entity .geofenceExit center candidate seen])
  | stay {sights told candidate seen} (before : Course center radius sights told)
      (present : candidate.id ∈ occupants told) (near : seen ≤ radius) :
      Course center radius (sights ++ [(candidate,seen)]) told
  | away {sights told candidate seen} (before : Course center radius sights told)
      (absent : candidate.id ∉ occupants told) (far : radius < seen) :
      Course center radius (sights ++ [(candidate,seen)]) told

variable {center : Entity} {radius : Distance} {sights : List (Entity × Distance)}
  {told : List Payload}

/-- Nobody is inside twice, and there are never more than fifty. -/
theorem Course.occupants_bounded (course : Course center radius sights told) :
    (occupants told).Nodup ∧ (occupants told).length ≤ 50 := by
  induction course with
  | start => exact ⟨List.nodup_nil,Nat.zero_le _⟩
  | enter before absent near place ih =>
    rw [occupants_concat,occupy]
    refine ⟨List.nodup_append.mpr ⟨ih.1,by simp,?_⟩,by rw [List.length_append]; exact place⟩
    rintro a member b last rfl
    exact absent (List.mem_singleton.mp last ▸ member)
  | full before absent near crowded ih => simpa [occupants_concat,occupy] using ih
  | leave before present far ih =>
    rw [occupants_concat,occupy]
    exact ⟨ih.1.erase _,Nat.le_trans List.length_erase_le ih.2⟩
  | stay before present near ih => exact ih
  | away before absent far ih => exact ih

theorem alternates_concat {events : List EntityEvent} {event : EntityEvent}
    (alternates : Alternates events)
    (next : event = if events.length % 2 = 0 then .geofenceEntry else .geofenceExit) :
    Alternates (events ++ [event]) := by
  intro i other found
  rcases Nat.lt_trichotomy i events.length with early | rfl | late
  · rw [List.getElem?_append_left early] at found
    exact alternates i other found
  · simp only [List.getElem?_concat_length,Option.some.injEq] at found
    rw [← found,next]
  · have beyond : (events ++ [event]).length ≤ i := by
      rw [List.length_append]
      exact late
    rw [List.getElem?_eq_none beyond] at found
    cases found

/-- The crossings of a participant alternate, and it is inside after an odd number of them. -/
theorem Course.crossings_alternate (course : Course center radius sights told) (x : EntityId) :
    Alternates (crossings x told) ∧
      (x ∈ occupants told ↔ (crossings x told).length % 2 = 1) := by
  induction course with
  | start => exact ⟨fun i event found => by simp [crossings] at found,by simp [occupants,crossings]⟩
  | @enter sights told candidate seen before absent near place ih =>
    rw [crossings_concat,occupants_concat,occupy,crosses?]
    by_cases same : candidate.id = x
    · subst same
      have even : (crossings candidate.id told).length % 2 = 0 := by
        have odd := mt ih.2.mpr absent
        omega
      simp only [if_true,Option.toList_some]
      refine ⟨alternates_concat ih.1 (by simp [even]),?_⟩
      simp only [List.mem_append,List.mem_singleton,or_true,List.length_append,
        List.length_singleton,true_iff]
      omega
    · have other : x ≠ candidate.id := fun h => same h.symm
      simpa [same,other] using ih
  | full before absent near crowded ih =>
    rw [crossings_concat,occupants_concat]
    simpa [crosses?,occupy] using ih
  | @leave sights told candidate seen before present far ih =>
    rw [crossings_concat,occupants_concat,occupy,crosses?]
    by_cases same : candidate.id = x
    · subst same
      have odd := ih.2.mp present
      have gone : candidate.id ∉ (occupants told).erase candidate.id :=
        before.occupants_bounded.1.not_mem_erase
      simp only [if_true,Option.toList_some]
      refine ⟨alternates_concat ih.1 (by simp [odd]),?_⟩
      simp only [gone,List.length_append,List.length_singleton,false_iff]
      omega
    · have other : x ≠ candidate.id := fun h => same h.symm
      simpa [same,List.mem_erase_of_ne other] using ih
  | stay before present near ih => exact ih
  | away before absent far ih => exact ih

/-- A participant is inside exactly if its last crossing is an entry. -/
theorem Course.present_iff (course : Course center radius sights told) (x : EntityId) :
    x ∈ occupants told ↔ (crossings x told).getLast? = some .geofenceEntry := by
  obtain ⟨alternates,inside⟩ := course.crossings_alternate x
  rw [inside,List.getLast?_eq_getElem?]
  constructor
  · intro odd
    have last : (crossings x told).length - 1 < (crossings x told).length := by omega
    have even : ((crossings x told).length - 1) % 2 = 0 := by omega
    have event := alternates _ _ (List.getElem?_eq_getElem last)
    rw [List.getElem?_eq_getElem last,event,if_pos even]
  · intro last
    have bound := (List.getElem?_eq_some_iff.mp last).1
    have event := alternates _ _ last
    split at event
    · omega
    · cases event

/-- Entries are seen within the radius, and exits beyond it. -/
theorem Course.distances (course : Course center radius sights told) :
    (∀ c candidate seen, .entity .geofenceEntry c candidate seen ∈ told → seen ≤ radius) ∧
      ∀ c candidate seen, .entity .geofenceExit c candidate seen ∈ told → radius < seen := by
  induction course with
  | start => exact ⟨by simp,by simp⟩
  | enter before absent near place ih =>
    refine ⟨fun c candidate seen member => ?_,fun c candidate seen member => ?_⟩
    · rcases List.mem_append.mp member with old | new
      · exact ih.1 c candidate seen old
      · cases List.mem_singleton.mp new
        exact near
    · rcases List.mem_append.mp member with old | new
      · exact ih.2 c candidate seen old
      · cases List.mem_singleton.mp new
  | full before absent near crowded ih => simpa using ih
  | leave before present far ih =>
    refine ⟨fun c candidate seen member => ?_,fun c candidate seen member => ?_⟩
    · rcases List.mem_append.mp member with old | new
      · exact ih.1 c candidate seen old
      · cases List.mem_singleton.mp new
    · rcases List.mem_append.mp member with old | new
      · exact ih.2 c candidate seen old
      · cases List.mem_singleton.mp new
        exact far
  | stay before present near ih => exact ih
  | away before absent far ih => exact ih

/-- What is told of one sighting after others: the error exactly if an absent participant is seen
within the radius of a crowded geofence, and then nobody enters or leaves. -/
structure Outcome (candidate : Entity) (radius seen : Distance) (before outcome : List Payload) :
    Prop where
  exceeded : .error .entitySizeExceeded ∈ outcome ↔
    candidate.id ∉ occupants before ∧ seen ≤ radius ∧ (occupants before).length = 50
  still : .error .entitySizeExceeded ∈ outcome →
    outcome = [.error .entitySizeExceeded] ∧ occupants (before ++ outcome) = occupants before

theorem Course.last {candidate : Entity} {seen : Distance}
    (course : Course center radius (sights ++ [(candidate,seen)]) told) :
    ∃ before outcome, told = before ++ outcome ∧ Course center radius sights before ∧
      Outcome candidate radius seen before outcome := by
  generalize all : sights ++ [(candidate,seen)] = sights' at course
  cases course with
  | start => simp at all
  | enter before absent near place =>
    obtain ⟨rfl,same⟩ := List.append_inj' all rfl
    cases same
    exact ⟨_,_,rfl,before,by simp [Nat.ne_of_lt place],by simp⟩
  | full before absent near crowded =>
    obtain ⟨rfl,same⟩ := List.append_inj' all rfl
    cases same
    have size := Nat.le_antisymm before.occupants_bounded.2 crowded
    exact ⟨_,_,rfl,before,by simp [absent,near,size],by simp [occupants_concat,occupy]⟩
  | leave before present far =>
    obtain ⟨rfl,same⟩ := List.append_inj' all rfl
    cases same
    exact ⟨_,_,rfl,before,by simp [present],by simp⟩
  | stay before present near =>
    obtain ⟨rfl,same⟩ := List.append_inj' all rfl
    cases same
    exact ⟨_,[],(List.append_nil _).symm,before,by simp [present],by simp⟩
  | away before absent far =>
    obtain ⟨rfl,same⟩ := List.append_inj' all rfl
    cases same
    exact ⟨_,[],(List.append_nil _).symm,before,by simp [Nat.not_le.mpr far,Distance.le_def],by simp⟩

theorem Course.unseen (course : Course center radius [] told) : told = [] := by
  generalize none : ([] : List (Entity × Distance)) = sights at course
  cases course with
  | start => rfl
  | _ => simp at none

/-- What is told of the first sightings comes first. -/
theorem Course.earlier {later : List (Entity × Distance)}
    (course : Course center radius (sights ++ later) told) :
    ∃ before after, told = before ++ after ∧ Course center radius sights before := by
  induction later using List.reverseRecOn generalizing told with
  | nil => exact ⟨told,[],(List.append_nil _).symm,by simpa using course⟩
  | append_singleton later last ih =>
    rw [← List.append_assoc] at course
    obtain ⟨before,outcome,rfl,course,_⟩ := course.last
    obtain ⟨first,rest,rfl,begun⟩ := ih course
    exact ⟨first,rest ++ outcome,List.append_assoc ..,begun⟩

/-- Each sighting has its outcome, in the order of the events. -/
theorem Course.outcome {later : List (Entity × Distance)} {candidate : Entity} {seen : Distance}
    (course : Course center radius (sights ++ (candidate,seen) :: later) told) :
    ∃ before outcome after, told = before ++ outcome ++ after ∧
      Course center radius sights before ∧
      Course center radius (sights ++ [(candidate,seen)]) (before ++ outcome) ∧
      Outcome candidate radius seen before outcome := by
  rw [List.append_cons] at course
  obtain ⟨told',after,rfl,until'⟩ := course.earlier
  obtain ⟨before,outcome,rfl,begun,ends⟩ := until'.last
  exact ⟨before,outcome,after,rfl,begun,until',ends⟩

/-- The history of a geofence up to a moment: what was seen, what was told of it, and who is
inside. -/
structure History (center : Entity) (radius : Distance) (sights : List (Entity × Distance))
    (told : List Payload) (inside : List EntityId) : Prop where
  course : Course center radius sights told
  alternates : ∀ x, Alternates (crossings x told)
  entered : ∀ c candidate seen, .entity .geofenceEntry c candidate seen ∈ told → seen ≤ radius
  left : ∀ c candidate seen, .entity .geofenceExit c candidate seen ∈ told → radius < seen
  present : ∀ x, x ∈ inside ↔ (crossings x told).getLast? = some .geofenceEntry
  distinct : inside.Nodup
  bounded : inside.length ≤ 50
  outcomes : ∀ earlier candidate seen later, sights = earlier ++ (candidate,seen) :: later →
    ∃ before outcome after, told = before ++ outcome ++ after ∧
      Course center radius earlier before ∧
      Course center radius (earlier ++ [(candidate,seen)]) (before ++ outcome) ∧
      Outcome candidate radius seen before outcome

theorem Course.history (course : Course center radius sights told) :
    History center radius sights told (occupants told) where
  course := course
  alternates x := (course.crossings_alternate x).1
  entered := course.distances.1
  left := course.distances.2
  present := course.present_iff
  distinct := course.occupants_bounded.1
  bounded := course.occupants_bounded.2
  outcomes := by
    rintro earlier candidate seen later rfl
    exact course.outcome

end Vicinity.Geofence
