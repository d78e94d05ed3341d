import Vicinity.Proofs.Crossings
import Vicinity.Proofs.Engine.Notices
import Vicinity.Proofs.Engine.Waiting

/-! Geofences over whole runs. With an application that only listens, every sighting of a
participant is one step of the history of the geofence, whatever it came from: a scan, a report, a
message, or a task of any of these. -/
namespace Vicinity.Engine

open Geofence

variable {e f : Engine} {op : Operation} {id : SubscriptionId} {center : Entity}
  {radius : Distance} {sights : List (Entity × Distance)}

/-! ## Sightings -/

/-- Who is seen of a geofence in an act, and how far from the centre. -/
def sighting? (id : SubscriptionId) : Act → Option (Entity × Distance)
  | .tell _ _ => none
  | .observe sub _ _ candidate seen => if sub.id = id then some (candidate,seen) else none

/-- Who is seen of a geofence in a run. -/
def sightings (e : Engine) (id : SubscriptionId) : List Operation → List (Entity × Distance)
  | [] => []
  | op :: ops =>
    ((e.facts op).flatMap e.acts).filterMap (sighting? id) ++ (e.apply op).2.sightings id ops

/-- What the application was told of a subscription. -/
def toldOf (e : Engine) (id : SubscriptionId) : List Payload :=
  (e.delivered.filter (·.subscription = some id)).map (·.payload)

/-! ## An application that only listens -/

/-- The node after an act of which the application takes note. -/
def recorded (e : Engine) : Act → Engine
  | .tell sub p => e.noted sub p
  | .observe sub center radius candidate seen =>
    let observed := (e.inside sub.id).observe candidate.id seen radius
    match crossing? center candidate seen observed.1 with
    | some p => (e.place sub.id observed.2).noted sub p
    | none => e.place sub.id observed.2

theorem tell_recorded (listens : e.sink = some .recorder) (sub : Subscription) (p : Payload) :
    e.tell sub p = (false,e.noted sub p) := by
  rw [tell_heard listens]
  simp only [react]
  cases subject? p <;> rfl

theorem perform_recorded (listens : e.sink = some .recorder) (a : Act) :
    e.perform a = (false,e.recorded a) := by
  cases a with
  | tell sub p => exact tell_recorded listens sub p
  | observe sub center radius candidate seen =>
    cases observed : (e.inside sub.id).observe candidate.id seen radius with
    | mk transition inside =>
      rw [perform_observe observed]
      simp only [recorded,observed]
      cases crossing? center candidate seen transition with
      | none => rfl
      | some p => exact tell_recorded (e := e.place sub.id inside) listens sub p

/-- Taking note adds to the records, and changes nothing else. -/
theorem recorded_eq (e : Engine) (a : Act) : ∃ told inside,
    e.recorded a = { e with told := told, inside := inside } := by
  cases a with
  | tell sub p => exact ⟨_,_,rfl⟩
  | observe sub center radius candidate seen =>
    simp only [recorded]
    split <;> exact ⟨_,_,rfl⟩

theorem foldl_recorded_eq (e : Engine) (as : List Act) : ∃ told inside,
    as.foldl recorded e = { e with told := told, inside := inside } := by
  induction as generalizing e with
  | nil => exact ⟨_,_,rfl⟩
  | cons a as ih =>
    obtain ⟨told,inside,first⟩ := recorded_eq e a
    obtain ⟨told',inside',rest⟩ := ih (e.recorded a)
    exact ⟨told',inside',by rw [List.foldl_cons,rest,first]⟩

theorem performAll_recorded (listens : e.sink = some .recorder) (as : List Act) :
    e.performAll as = as.foldl recorded e := by
  induction as generalizing e with
  | nil => rfl
  | cons a as ih =>
    obtain ⟨told,inside,eq⟩ := recorded_eq e a
    rw [performAll,perform_recorded listens,List.foldl_cons]
    exact ih (by rw [eq]; exact listens)

/-- What follows from facts is known before the first of them. -/
theorem evaluateAll_recorded (listens : e.sink = some .recorder) (facts : List Fact) :
    e.evaluateAll facts = (facts.flatMap e.acts).foldl recorded e := by
  induction facts generalizing e with
  | nil => rfl
  | cons fact facts ih =>
    obtain ⟨told,inside,eq⟩ := foldl_recorded_eq e (e.acts fact)
    have acts : (e.evaluate fact).acts = e.acts := by
      rw [evaluate,performAll_recorded listens,eq]
      funext other
      cases other <;> rfl
    have still : (e.evaluate fact).sink = some .recorder := by
      rw [evaluate,performAll_recorded listens,eq]
      exact listens
    rw [evaluateAll_cons,ih still,acts,List.flatMap_cons,List.foldl_append,evaluate,
      performAll_recorded listens]

/-! ## One sighting -/

/-- What the application was told of a geofence is the course of the sightings, and the participants
inside are those of the events. -/
structure Watched (id : SubscriptionId) (center : Entity) (radius : Distance)
    (sights : List (Entity × Distance)) (e : Engine) : Prop where
  course : Course center radius sights (e.toldOf id)
  inside : (e.inside id).ids = occupants (e.toldOf id)

/-- An act is about another subscription, or about the geofence as it was registered. -/
def Act.suits (id : SubscriptionId) (center : Entity) (radius : Distance) : Act → Prop
  | .tell sub _ => sub.id ≠ id
  | .observe sub other distance _ _ => sub.id = id → other = center ∧ distance = radius

theorem toldOf_noted_same (e : Engine) (sub : Subscription) (p : Payload) :
    (e.noted sub p).toldOf sub.id = e.toldOf sub.id ++ [p] := by
  simp [toldOf,delivered,noted]

theorem toldOf_noted_other {sub : Subscription} (other : sub.id ≠ id) (p : Payload) :
    (e.noted sub p).toldOf id = e.toldOf id := by
  simp [toldOf,delivered,noted,other]

theorem Watched.recorded_other {a : Act} (watched : Watched id center radius sights e)
    (other : sighting? id a = none) (suits : a.suits id center radius) :
    Watched id center radius sights (e.recorded a) := by
  cases a with
  | tell sub p =>
    have told := toldOf_noted_other (e := e) (show sub.id ≠ id from suits) p
    exact ⟨told ▸ watched.course,told ▸ watched.inside⟩
  | observe sub c r candidate seen =>
    have apart : sub.id ≠ id := by simpa [sighting?] using other
    cases observed : (e.inside sub.id).observe candidate.id seen r with
    | mk transition d =>
      have inside : (e.place sub.id d).inside id = e.inside id :=
        if_neg fun same => apart same.symm
      have placed : Watched id center radius sights (e.place sub.id d) :=
        ⟨watched.course,(congrArg Detected.ids inside).trans watched.inside⟩
      simp only [recorded,observed]
      cases crossing? c candidate seen transition with
      | none => exact placed
      | some p =>
        have told := toldOf_noted_other (e := e.place sub.id d) apart p
        exact ⟨told ▸ placed.course,told ▸ placed.inside⟩

section Sighting

variable {sub : Subscription} {candidate : Entity} {seen : Distance} {d : Detected}

theorem Watched.heard {transition : Detected.Transition} {p : Payload}
    (observed : (e.inside sub.id).observe candidate.id seen radius = (transition,d))
    (crosses : crossing? center candidate seen transition = some p)
    (course : Course center radius sights (e.toldOf sub.id ++ [p]))
    (inside : d.ids = occupy (occupants (e.toldOf sub.id)) p) :
    Watched sub.id center radius sights
      (e.recorded (.observe sub center radius candidate seen)) := by
  have told := toldOf_noted_same (e.place sub.id d) sub p
  have placed : ((e.place sub.id d).noted sub p).inside sub.id = d := if_pos rfl
  simp only [recorded,observed,crosses]
  refine ⟨told ▸ course,?_⟩
  rw [told,placed,inside]
  exact (occupants_concat ..).symm

theorem Watched.unheard
    (observed : (e.inside sub.id).observe candidate.id seen radius = (.unchanged,e.inside sub.id))
    (course : Course center radius sights (e.toldOf sub.id))
    (inside : (e.inside sub.id).ids = occupants (e.toldOf sub.id)) :
    Watched sub.id center radius sights
      (e.recorded (.observe sub center radius candidate seen)) := by
  have placed : (e.place sub.id (e.inside sub.id)).inside sub.id = e.inside sub.id := if_pos rfl
  simp only [recorded,observed,crossing?]
  exact ⟨course,(congrArg Detected.ids placed).trans inside⟩

theorem Watched.recorded_sighting (watched : Watched sub.id center radius sights e) :
    Watched sub.id center radius (sights ++ [(candidate,seen)])
      (e.recorded (.observe sub center radius candidate seen)) := by
  obtain ⟨course,inside⟩ := watched
  by_cases present : candidate.id ∈ occupants (e.toldOf sub.id)
  · by_cases far : radius < seen
    · exact .heard (observe_leave (inside ▸ present) far) rfl (course.leave present far)
        (by rw [inside,occupy])
    · have near : seen ≤ radius := Nat.not_lt.mp far
      exact .unheard (observe_stay (inside ▸ present) near) (course.stay present near) inside
  · by_cases far : radius < seen
    · exact .unheard (observe_away (inside ▸ present) far) (course.away present far) inside
    have near : seen ≤ radius := Nat.not_lt.mp far
    by_cases crowded : 50 ≤ (occupants (e.toldOf sub.id)).length
    · exact .heard (observe_full (inside ▸ present) near (inside ▸ crowded)) rfl
        (course.full present near crowded) inside
    · have place : (occupants (e.toldOf sub.id)).length < 50 := Nat.not_le.mp crowded
      exact .heard (observe_enter (inside ▸ present) near (inside ▸ place)) rfl
        (course.enter present near place) (by rw [inside,occupy])

end Sighting

theorem Watched.recorded {a : Act} (watched : Watched id center radius sights e)
    (suits : a.suits id center radius) :
    Watched id center radius (sights ++ (sighting? id a).toList) (e.recorded a) := by
  cases seen : sighting? id a with
  | none => simpa using watched.recorded_other seen suits
  | some sight =>
    cases a with
    | tell sub p => cases seen
    | observe sub c r candidate distance =>
      have same : sub.id = id := by
        by_contra apart
        simp [sighting?,apart] at seen
      obtain ⟨rfl,rfl⟩ := suits same
      subst same
      obtain rfl : (candidate,distance) = sight := by simpa [sighting?] using seen
      exact watched.recorded_sighting

theorem Watched.foldl {as : List Act} (watched : Watched id center radius sights e)
    (suit : ∀ a ∈ as, a.suits id center radius) :
    Watched id center radius (sights ++ as.filterMap (sighting? id)) (as.foldl Engine.recorded e) := by
  induction as generalizing e sights with
  | nil => simpa using watched
  | cons a as ih =>
    have first := watched.recorded (suit a (List.mem_cons_self ..))
    have rest := ih first fun b member => suit b (List.mem_cons_of_mem _ member)
    cases seen : sighting? id a <;> simpa [seen] using rest

/-! ## Registrations -/

/-- The subscription that an operation makes unless it is refused. -/
def Operation.subscription? : Operation → Option Subscription
  | .trackDistance id anchor others => some ⟨id,.proximity (.single anchor) others⟩
  | .trackGeofence id anchor members radius => some ⟨id,.geofence anchor members radius⟩
  | .trackGroup id members => some ⟨id,.group members⟩
  | _ => none

/-- The application only listens, and a subscription of the id can only be the one given. -/
structure Reserved (tracked : Subscription) (e : Engine) : Prop where
  listens : e.sink = some .recorder
  only : ∀ sub ∈ e.subscriptions, sub.id = tracked.id → sub = tracked

section Reserved

variable {members : Group}

theorem Reserved.acts_suit (reserved : Reserved ⟨id,.geofence center members radius⟩ e)
    {fact : Fact} {a : Act} (follows : a ∈ e.acts fact) : a.suits id center radius := by
  obtain ⟨registered,fits⟩ := acts_fit e fact a follows
  cases a with
  | tell sub p =>
    intro same
    cases reserved.only sub registered same
    exact fits _ _ _ rfl
  | observe sub c r candidate seen =>
    intro same
    cases reserved.only sub registered same
    obtain ⟨m,watch⟩ := fits
    cases watch
    exact ⟨rfl,rfl⟩

theorem apply_recorded (listens : e.sink = some .recorder) (indirect : op.direct = false) :
    Agree (((e.facts op).flatMap e.acts).foldl recorded e) (e.apply op).2 := by
  rw [← evaluateAll_recorded listens]
  exact apply_agree indirect

theorem Watched.same (watched : Watched id center radius sights e)
    (told : f.toldOf id = e.toldOf id) (inside : f.inside id = e.inside id) :
    Watched id center radius sights f :=
  ⟨told ▸ watched.course,by rw [inside,told]; exact watched.inside⟩

theorem Agree.toldOf (agree : Agree e f) (id : SubscriptionId) : f.toldOf id = e.toldOf id := by
  rw [Engine.toldOf,Engine.toldOf,delivered,delivered,agree.told]

theorem Watched.apply_indirect (watched : Watched id center radius sights e)
    (reserved : Reserved ⟨id,.geofence center members radius⟩ e) (indirect : op.direct = false) :
    Watched id center radius (sights ++ e.sightings id [op]) (e.apply op).2 := by
  have suit : ∀ a ∈ (e.facts op).flatMap e.acts, a.suits id center radius := by
    intro a member
    obtain ⟨fact,_,follows⟩ := List.mem_flatMap.mp member
    exact reserved.acts_suit follows
  have agree := apply_recorded reserved.listens indirect
  have folded := (watched.foldl suit).same (agree.toldOf id) (congrFun agree.inside id)
  simpa [sightings] using folded

end Reserved

/-! ## Calls of the application -/

/-- What a call does to the node of an application that only listens: it registers what it asks
for, and it bears on nothing that other subscriptions are told. -/
structure Called (op : Operation) (e f : Engine) : Prop where
  listens : f.sink = e.sink
  registered : ∀ sub ∈ f.subscriptions, sub ∈ e.subscriptions ∨ op.subscription? = some sub
  untold : ∀ id, (∀ sub, op.subscription? = some sub → sub.id ≠ id) → f.toldOf id = e.toldOf id
  unmoved : ∀ id, (∀ sub, op.subscription? = some sub → sub.id ≠ id) → f.inside id = e.inside id

theorem Called.refused {sub : Subscription} (listens : e.sink = some .recorder)
    (asked : op.subscription? = some sub) (why : ErrorEvent) : Called op e (e.refuse sub why) := by
  rw [refuse,tell_recorded listens]
  exact ⟨rfl,fun _ => .inl,fun id fresh => toldOf_noted_other (fresh sub asked) _,fun _ _ => rfl⟩

theorem Called.accepted {own : Subscription} (asked : op.subscription? = some own)
    (sink : f.sink = e.sink) (told : f.told = e.told)
    (inside : f.inside = (e.place own.id .empty).inside)
    (joined : f.subscriptions ⊆ own :: e.subscriptions) : Called op e f := by
  refine ⟨sink,fun sub member => ?_,fun id fresh => ?_,fun id fresh => ?_⟩
  · rcases List.mem_cons.mp (joined member) with rfl | old
    · exact .inr asked
    · exact .inl old
  · rw [toldOf,toldOf,delivered,delivered,told]
  · rw [inside]
    exact if_neg fun same => fresh own asked same.symm

theorem apply_called (listens : e.sink = some .recorder) (direct : op.direct = true)
    (kept : ∀ sink, op ≠ .setSink sink) : Called op e (e.apply op).2 := by
  cases op <;> simp only [Operation.direct,Bool.false_eq_true] at direct
  case trackDistance other anchor others =>
    simp only [apply,trackDistance]
    split
    · exact .refused listens rfl _
    · refine .accepted rfl rfl rfl rfl ?_
      intro sub member
      simp only [mem_subscriptions,List.mem_append,List.mem_cons] at member ⊢
      tauto
  case trackGeofence other anchor members radius =>
    simp only [apply,trackGeofence]
    split
    · exact .refused listens rfl _
    split
    · exact .refused listens rfl _
    · refine .accepted rfl rfl rfl rfl ?_
      intro sub member
      simp only [mem_subscriptions,List.mem_append,List.mem_cons] at member ⊢
      tauto
  case trackGroup other members =>
    refine .accepted rfl rfl rfl rfl ?_
    intro sub member
    simp only [apply,trackGroup,mem_subscriptions,List.mem_append,List.mem_cons] at member ⊢
    tauto
  case unsubscribe sub =>
    obtain ⟨group,proximity,geofence,fromGroup,fromProximity,fromGeofence,eq⟩ := unsubscribe_eq e sub
    simp only [apply,eq]
    refine ⟨rfl,fun sub member => .inl ?_,fun _ _ => rfl,fun _ _ => rfl⟩
    rw [mem_subscriptions] at member ⊢
    exact member.imp fromGroup.mem (.imp fromProximity.mem fromGeofence.mem)
  case crossRegion name entered =>
    simp only [apply,crossRegion,tellPoi]
    split
    · exact ⟨rfl,fun _ => .inl,fun _ _ => rfl,fun _ _ => rfl⟩
    split
    · exact ⟨rfl,fun _ => .inl,fun _ _ => by simp [toldOf,delivered],fun _ _ => rfl⟩
    · exact ⟨rfl,fun _ => .inl,fun _ _ => rfl,fun _ _ => rfl⟩
  case setSink sink => exact absurd rfl (kept sink)

/-! ## Runs -/

theorem facts_direct (direct : op.direct = true) : e.facts op = [] := by
  cases op <;> simp only [Operation.direct,Bool.false_eq_true] at direct <;> rfl

/-- Only calls register subscriptions, and only what they ask for. -/
theorem apply_registered (listens : e.sink = some .recorder) (kept : ∀ sink, op ≠ .setSink sink) :
    (e.apply op).2.sink = some .recorder ∧
      ∀ sub ∈ (e.apply op).2.subscriptions, sub ∈ e.subscriptions ∨ op.subscription? = some sub := by
  by_cases direct : op.direct = true
  · have called := apply_called listens direct kept
    exact ⟨called.listens.trans listens,called.registered⟩
  · have agree := apply_recorded listens (Bool.eq_false_iff.mpr direct)
    obtain ⟨told,inside,eq⟩ := foldl_recorded_eq e ((e.facts op).flatMap e.acts)
    rw [eq] at agree
    refine ⟨agree.sink.trans listens,fun sub member => .inl ?_⟩
    rw [subscriptions,agree.group,agree.proximity,agree.geofence] at member
    exact member

theorem Reserved.apply {tracked : Subscription} (reserved : Reserved tracked e)
    (fresh : ∀ sub, op.subscription? = some sub → sub.id ≠ tracked.id)
    (kept : ∀ sink, op ≠ .setSink sink) : Reserved tracked (e.apply op).2 := by
  obtain ⟨listens,registered⟩ := apply_registered reserved.listens kept
  refine ⟨listens,fun sub member same => ?_⟩
  rcases registered sub member with old | new
  · exact reserved.only sub old same
  · exact absurd same (fresh sub new)

theorem Watched.apply {members : Group} (watched : Watched id center radius sights e)
    (reserved : Reserved ⟨id,.geofence center members radius⟩ e)
    (fresh : ∀ sub, op.subscription? = some sub → sub.id ≠ id) (kept : ∀ sink, op ≠ .setSink sink) :
    Watched id center radius (sights ++ e.sightings id [op]) (e.apply op).2 := by
  by_cases direct : op.direct = true
  · have called := apply_called reserved.listens direct kept
    have unseen : e.sightings id [op] = [] := by simp [sightings,facts_direct direct]
    rw [unseen,List.append_nil]
    exact watched.same (called.untold id fresh) (called.unmoved id fresh)
  · exact watched.apply_indirect reserved (Bool.eq_false_iff.mpr direct)

theorem sightings_cons (e : Engine) (op : Operation) (ops : List Operation) :
    e.sightings id (op :: ops) = e.sightings id [op] ++ (e.apply op).2.sightings id ops := by
  simp [sightings]

theorem Watched.after {members : Group} {ops : List Operation}
    (watched : Watched id center radius sights e)
    (reserved : Reserved ⟨id,.geofence center members radius⟩ e)
    (fresh : ∀ op ∈ ops, ∀ sub, op.subscription? = some sub → sub.id ≠ id)
    (kept : ∀ op ∈ ops, ∀ sink, op ≠ .setSink sink) :
    Watched id center radius (sights ++ e.sightings id ops) (e.after ops) := by
  induction ops generalizing e sights with
  | nil => simpa [sightings,Engine.after] using watched
  | cons op ops ih =>
    have fresh' := fresh op (List.mem_cons_self ..)
    have kept' := kept op (List.mem_cons_self ..)
    have rest := ih (watched.apply reserved fresh' kept') (reserved.apply fresh' kept')
      (fun other member => fresh other (List.mem_cons_of_mem _ member))
      (fun other member => kept other (List.mem_cons_of_mem _ member))
    rw [sightings_cons,← List.append_assoc,after_cons]
    exact rest

/-! ## From the start -/

/-- The application only listens, and no subscription has the id yet. -/
structure Unused (id : SubscriptionId) (e : Engine) : Prop where
  listens : e.sink = some .recorder
  absent : ∀ sub ∈ e.subscriptions, sub.id ≠ id

theorem Unused.reserved (unused : Unused id e) (watch : Watch) : Reserved ⟨id,watch⟩ e :=
  ⟨unused.listens,fun sub member same => absurd same (unused.absent sub member)⟩

theorem Unused.apply (unused : Unused id e)
    (fresh : ∀ sub, op.subscription? = some sub → sub.id ≠ id) (kept : ∀ sink, op ≠ .setSink sink) :
    Unused id (e.apply op).2 := by
  obtain ⟨listens,registered⟩ := apply_registered unused.listens kept
  exact ⟨listens,fun sub member => (registered sub member).elim (unused.absent sub) (fresh sub)⟩

/-- Nobody is seen of a geofence that does not exist. -/
theorem Unused.unseen (unused : Unused id e) (op : Operation) : e.sightings id [op] = [] := by
  have unseen : ((e.facts op).flatMap e.acts).filterMap (sighting? id) = [] := by
    apply List.filterMap_eq_nil_iff.mpr
    intro a member
    obtain ⟨fact,_,follows⟩ := List.mem_flatMap.mp member
    have apart := unused.absent _ (acts_fit e fact a follows).1
    cases a with
    | tell sub p => rfl
    | observe sub c r candidate seen => exact if_neg apart
  simp [sightings,unseen]

theorem Unused.after {ops : List Operation} (unused : Unused id e)
    (watched : Watched id center radius [] e)
    (fresh : ∀ op ∈ ops, ∀ sub, op.subscription? = some sub → sub.id ≠ id)
    (kept : ∀ op ∈ ops, ∀ sink, op ≠ .setSink sink) :
    Unused id (e.after ops) ∧ Watched id center radius [] (e.after ops) := by
  induction ops generalizing e with
  | nil => exact ⟨unused,watched⟩
  | cons op ops ih =>
    have fresh' := fresh op (List.mem_cons_self ..)
    have kept' := kept op (List.mem_cons_self ..)
    have next := watched.apply (unused.reserved (.geofence center (.everyone "") radius)) fresh' kept'
    rw [unused.unseen,List.append_nil] at next
    exact ih (unused.apply fresh' kept') next
      (fun other member => fresh other (List.mem_cons_of_mem _ member))
      (fun other member => kept other (List.mem_cons_of_mem _ member))

theorem start_unused {self : Entity} {config : Config} (started : start self config = .ok e)
    (id : SubscriptionId) (center : Entity) (radius : Distance) :
    Unused id (e.apply (.setSink (some .recorder))).2 ∧
      Watched id center radius [] (e.apply (.setSink (some .recorder))).2 := by
  rw [start] at started
  split at started
  · cases started
  · cases started
    exact ⟨⟨rfl,by simp [apply,subscriptions]⟩,⟨.start,rfl⟩⟩

theorem trackGeofence_accepted {members : Group} {sub : Subscription}
    (accepted : (e.apply (.trackGeofence id center members radius)).1 = .subscription (some sub)) :
    sub = ⟨id,.geofence center members radius⟩ ∧
      (e.apply (.trackGeofence id center members radius)).2 =
        { e.place id .empty with geofence := e.geofence ++ [sub] } := by
  simp only [apply,trackGeofence] at accepted ⊢
  split at accepted
  · cases accepted
  split at accepted
  · cases accepted
  next anchored room =>
    cases accepted
    exact ⟨rfl,by simp [anchored,room]⟩

/-- A new geofence is reserved for its handle, and nobody is inside. -/
theorem Unused.tracked {members : Group} {sub : Subscription} (unused : Unused id e)
    (watched : Watched id center radius [] e)
    (accepted : (e.apply (.trackGeofence id center members radius)).1 = .subscription (some sub)) :
    Reserved ⟨id,.geofence center members radius⟩
        (e.apply (.trackGeofence id center members radius)).2 ∧
      Watched id center radius [] (e.apply (.trackGeofence id center members radius)).2 := by
  obtain ⟨rfl,eq⟩ := trackGeofence_accepted accepted
  rw [eq]
  refine ⟨⟨unused.listens,fun other member same => ?_⟩,watched.course,?_⟩
  · simp only [mem_subscriptions,List.mem_append,List.mem_singleton] at member
    rcases member with group | proximity | geofence | new
    · exact absurd same (unused.absent other (mem_subscriptions.mpr (.inl group)))
    · exact absurd same (unused.absent other (mem_subscriptions.mpr (.inr (.inl proximity))))
    · exact absurd same (unused.absent other (mem_subscriptions.mpr (.inr (.inr geofence))))
    · exact new
  · have untold : e.toldOf id = [] := watched.course.unseen
    have placed : (e.place id .empty).inside id = .empty := if_pos rfl
    exact (congrArg Detected.ids placed).trans (congrArg occupants untold).symm

/-- A geofence has its history in every run of an application that only listens, from the moment
when it is accepted. Ids of subscriptions are used once. -/
theorem geofence_history {self : Entity} {config : Config} (started : start self config = .ok e)
    {pre post : List Operation} {members : Group} {sub : Subscription}
    (fresh : ∀ op ∈ pre ++ post, ∀ other, op.subscription? = some other → other.id ≠ id)
    (kept : ∀ op ∈ pre ++ post, ∀ sink, op ≠ .setSink sink)
    (accepted : ((e.after (.setSink (some .recorder) :: pre)).apply
      (.trackGeofence id center members radius)).1 = .subscription (some sub)) :
    let tracked := e.after (.setSink (some .recorder) :: pre ++
      [.trackGeofence id center members radius])
    let now := tracked.after post
    History center radius (tracked.sightings id post) (now.toldOf sub.id) (now.inside sub.id).ids := by
  intro tracked now
  have begun : e.after (.setSink (some .recorder) :: pre) =
      (e.apply (.setSink (some .recorder))).2.after pre := rfl
  obtain ⟨unused,watched⟩ := start_unused started id center radius
  obtain ⟨unused,watched⟩ := unused.after watched
    (fun op member => fresh op (List.mem_append_left _ member))
    (fun op member => kept op (List.mem_append_left _ member))
  obtain ⟨reserved,watched⟩ := unused.tracked watched accepted
  rw [← begun,← after_concat] at reserved watched
  have history := watched.after reserved
    (fun op member => fresh op (List.mem_append_right _ member))
    (fun op member => kept op (List.mem_append_right _ member))
  obtain ⟨rfl,_⟩ := trackGeofence_accepted accepted
  rw [history.inside]
  exact history.course.history

def watcher : Entity := .bare (.of "me") .device

def visitor : Entity := .bare (.of "x") .device

/-- A participant is seen near the node, and then far from it. -/
def visit : List Operation := [
  .hear ⟨visitor.id,"log",.proximityUpdate watcher visitor .near⟩,
  .hear ⟨visitor.id,"log",.proximityUpdate watcher visitor .far⟩]

theorem geofence_history_visit : ∃ e sub, start watcher .standard = .ok e ∧
    (∀ op ∈ [] ++ visit, ∀ other, op.subscription? = some other → other.id ≠ .ofNat 1) ∧
    (∀ op ∈ [] ++ visit, ∀ sink, op ≠ .setSink sink) ∧
    ((e.after [.setSink (some .recorder)]).apply
      (.trackGeofence (.ofNat 1) watcher (.everyone "all") .near)).1 = .subscription (some sub) ∧
    let tracked := e.after ([.setSink (some .recorder)] ++
      [.trackGeofence (.ofNat 1) watcher (.everyone "all") .near])
    History watcher .near (tracked.sightings (.ofNat 1) visit) ((tracked.after visit).toldOf sub.id)
      ((tracked.after visit).inside sub.id).ids := by
  have started : start watcher .standard = .ok _ := rfl
  have fresh : ∀ op ∈ [] ++ visit, ∀ other, op.subscription? = some other →
      other.id ≠ .ofNat 1 := by simp [visit,Operation.subscription?]
  have kept : ∀ op ∈ [] ++ visit, ∀ sink, op ≠ .setSink sink := by simp [visit]
  exact ⟨_,_,started,fresh,kept,rfl,geofence_history started fresh kept rfl⟩

end Vicinity.Engine
