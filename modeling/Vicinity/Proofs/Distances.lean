import Vicinity.Proofs.Departure
import Vicinity.Proofs.Handles

/-! What follows from a distance between two participants: events for those who watch distances, and
crossings of the geofences around one of the two. Neither reads what the other one writes, so nodes
that agree on their geofences tell the same of them. -/
namespace Vicinity.Engine

variable {e f g : Engine} {e1 e2 : Entity} {d : Distance} {id : SubscriptionId} {as : List Act}

/-! ## Nodes that agree on who is inside -/

/-- The same application listens, and in every subscription that it did not make in reply to an
event the same participants are inside. -/
structure Akin (e f : Engine) : Prop where
  sink : f.sink = e.sink
  inside : ∀ id, ¬e.Takes id → f.inside id = e.inside id

theorem Akin.refl (e : Engine) : Akin e e := ⟨rfl,fun _ _ => rfl⟩

theorem takes_same (sink : f.sink = e.sink) : f.Takes id ↔ e.Takes id := by rw [Takes,Takes,sink]

theorem perform_takes (a : Act) : (e.perform a).2.Takes id ↔ e.Takes id :=
  takes_same (perform_kept a).2

theorem Akin.takes (akin : Akin e f) : f.Takes id ↔ e.Takes id := takes_same akin.sink

theorem Akin.symm (akin : Akin e f) : Akin f e :=
  ⟨akin.sink.symm,fun id untaken => (akin.inside id (mt akin.takes.mpr untaken)).symm⟩

theorem Akin.trans (first : Akin e f) (second : Akin f g) : Akin e g where
  sink := second.sink.trans first.sink
  inside id untaken :=
    (second.inside id (mt first.takes.mp untaken)).trans (first.inside id untaken)

theorem tell_inside (untaken : ¬e.Takes id) (sub : Subscription) (p : Payload) :
    (e.tell sub p).2.inside id = e.inside id := by
  have ensues := tell_ensues e sub p
  generalize (e.tell sub p).2 = after at ensues ⊢
  cases ensues with
  | left =>
    obtain ⟨group,proximity,geofence,_,_,_,eq⟩ := unsubscribe_eq (e.noted sub p) sub
    rw [eq]
    rfl
  | followed heard reacts =>
    exact if_neg fun same => untaken ⟨_,_,_,heard,reacts,same.symm⟩
  | _ => rfl

theorem tell_akin (e : Engine) (sub : Subscription) (p : Payload) : Akin e (e.tell sub p).2 :=
  ⟨(tell_kept sub p).2,fun _ untaken => tell_inside untaken sub p⟩

/-- Who is inside the subscription of an act after it. -/
def sighted (e : Engine) : Act → Detected
  | .tell sub _ => e.inside sub.id
  | .observe sub _ radius candidate seen => ((e.inside sub.id).observe candidate.id seen radius).2

theorem perform_inside (untaken : ¬e.Takes id) (a : Act) :
    (e.perform a).2.inside id = if id = a.sub.id then e.sighted a else e.inside id := by
  cases a with
  | tell sub p =>
    refine (tell_inside untaken sub p).trans ?_
    by_cases own : id = sub.id <;> simp [Act.sub,sighted,own]
  | observe sub center radius candidate seen =>
    cases observed : (e.inside sub.id).observe candidate.id seen radius with
    | mk transition inside =>
      have placed : (e.place sub.id inside).inside id =
          if id = sub.id then inside else e.inside id := rfl
      rw [perform_observe observed,sighted,observed]
      cases crossing? center candidate seen transition with
      | none => exact placed
      | some p => exact (tell_inside (e := e.place sub.id inside) untaken sub p).trans placed

theorem perform_broken (e : Engine) (a : Act) : (e.perform a).1 = (e.offered? a).elim false fun n =>
    e.sink.elim false fun sink => breaksOff sink.reaction n.payload := by
  have tells : ∀ (f : Engine) sub p, f.sink = e.sink → (f.tell sub p).1 =
      e.sink.elim false fun sink => breaksOff sink.reaction p := by
    intro f sub p same
    cases heard : e.sink with
    | none => rw [tell_unheard (same.trans heard)]; rfl
    | some sink => exact tell_broken (same.trans heard) sub p
  cases a with
  | tell sub p =>
    rw [perform,tells e sub p rfl,offered?]
    cases e.sink <;> rfl
  | observe sub center radius candidate seen =>
    cases observed : (e.inside sub.id).observe candidate.id seen radius with
    | mk transition inside =>
      rw [perform_observe observed,offered?,event?,observed]
      cases crossing? center candidate seen transition with
      | none => cases e.sink <;> rfl
      | some p =>
        refine (tells (e.place sub.id inside) sub p rfl).trans ?_
        cases e.sink <;> rfl

theorem Akin.offered? (akin : Akin e f) {a : Act} (untaken : ¬e.Takes a.sub.id) :
    f.offered? a = e.offered? a := by
  rw [Engine.offered?,Engine.offered?,akin.sink]
  cases a with
  | tell sub p => rfl
  | observe sub center radius candidate seen => rw [event?,event?,akin.inside sub.id untaken]

theorem Akin.perform (akin : Akin e f) {a : Act} (untaken : ¬e.Takes a.sub.id) :
    (f.perform a).1 = (e.perform a).1 ∧ Akin (e.perform a).2 (f.perform a).2 := by
  refine ⟨by rw [perform_broken,perform_broken,akin.offered? untaken,akin.sink],?_,?_⟩
  · rw [(perform_kept a).2,(perform_kept a).2,akin.sink]
  · intro id free
    rw [perform_takes] at free
    have same : f.sighted a = e.sighted a := by
      cases a with
      | tell sub p => exact akin.inside sub.id untaken
      | observe sub center radius candidate seen =>
        rw [sighted,sighted,akin.inside sub.id untaken]
    rw [perform_inside free,perform_inside (mt akin.takes.mp free),same,akin.inside id free]

/-- What is told in acts, and who is inside after them, depends on who is inside before. -/
theorem Akin.performAll (akin : Akin e f) (untaken : ∀ a ∈ as, ¬e.Takes a.sub.id)
    (begun begun' : Engine) : Akin (e.performAll as) (f.performAll as) ∧
      (begun'.tellingsIn f as).map (·.notice) = (begun.tellingsIn e as).map (·.notice) := by
  induction as generalizing e f with
  | nil => exact ⟨akin,rfl⟩
  | cons a as ih =>
    have first := untaken a (List.mem_cons_self ..)
    obtain ⟨breaks,after⟩ := akin.perform first
    have rest : ∀ b ∈ as, ¬(e.perform a).2.Takes b.sub.id := fun b member =>
      mt (perform_takes a).mp (untaken b (List.mem_cons_of_mem _ member))
    obtain ⟨akin',told⟩ := ih after rest
    simp only [Engine.performAll,tellingsIn,List.map_append,List.map_map,Function.comp_def,
      akin.offered? first,breaks]
    cases performed : e.perform a with
    | mk broken now =>
      cases performed' : f.perform a with
      | mk broken' now' =>
        rw [performed,performed'] at akin' told breaks after
        obtain rfl : broken' = broken := breaks
        cases broken' with
        | true => exact ⟨⟨after.sink,after.inside⟩,rfl⟩
        | false => exact ⟨akin',congrArg (_ ++ ·) told⟩

/-! ## Those who watch distances -/

/-- The subscriptions that pair two participants, in either order. -/
def pairing (e : Engine) (e1 e2 : Entity) : List Subscription :=
  e.proximity.filter fun sub =>
    match sub.watch with
    | .proximity a b => pairs a b e1 e2
    | _ => false

/-- The events of one distance: one for each subscription that pairs the two. -/
def distanceRound (e : Engine) (e1 e2 : Entity) (d : Distance) : List Notice :=
  (e.pairing e1 e2).map fun sub => ⟨some sub.id,.entity .proximityUpdate e1 e2 d⟩

theorem pairs_comm (a b : Group) (e1 e2 : Entity) : pairs a b e1 e2 = pairs a b e2 e1 :=
  Bool.or_comm ..

theorem pairing_comm (e : Engine) (e1 e2 : Entity) : e.pairing e1 e2 = e.pairing e2 e1 := by
  refine List.filter_congr fun sub _ => ?_
  cases sub.watch with
  | proximity a b => exact pairs_comm ..
  | _ => rfl

theorem acts_apart (other : e1.id ≠ e2.id) : e.acts (.apart e1 e2 d) =
    ((e.pairing e1 e2).map fun sub => (sub,.entity .proximityUpdate e1 e2 d)).map
      fun event => .tell event.1 event.2 := by
  have apart : e1.same e2 = false := by simp [Entity.same,other]
  simp only [acts,apart,Bool.false_eq_true,if_false,pairing,List.map_map]
  induction e.proximity with
  | nil => rfl
  | cons sub subs ih =>
    rw [List.flatMap_cons,ih]
    obtain ⟨own,watch⟩ := sub
    cases watch with
    | proximity a b => by_cases paired : pairs a b e1 e2 = true <;> simp [apartActs,paired]
    | _ => simp [apartActs]

theorem evaluate_apart_delivered (other : e1.id ≠ e2.id) : (e.evaluate (.apart e1 e2 d)).delivered =
    e.delivered ++ hearRound e.sink e2.id (e.distanceRound e1 e2 d) := by
  rw [evaluate,acts_apart other,performAll_tell,heardOf_hearRound (x := e2.id),distanceRound,
    List.map_map]
  · rfl
  · intro event member
    obtain ⟨sub,_,rfl⟩ := List.mem_map.mp member
    rfl

theorem tell_geofence {sub : Subscription} (apart : ∀ a ∈ e.geofence, a.standsFor sub = false)
    (p : Payload) : (e.tell sub p).2.geofence = e.geofence := by
  have ensues := tell_ensues e sub p
  generalize (e.tell sub p).2 = after at ensues ⊢
  cases ensues with
  | left =>
    have none : (e.noted sub p).geofence.any (·.standsFor sub) = false :=
      List.any_eq_false.mpr fun a member => by simp [apart a member]
    simp only [unsubscribe_first,none,Bool.false_eq_true,if_false]
    split
    · rfl
    split <;> rfl
  | _ => rfl

theorem Distinct.performAll_tell (distinct : Distinct e)
    (tells : ∀ a ∈ as, ∃ sub ∈ e.proximity, ∃ p, a = .tell sub p) :
    Akin e (e.performAll as) ∧ (e.performAll as).geofence = e.geofence := by
  refine performAll_keeps (P := fun f => Akin e f ∧ f.geofence = e.geofence)
    (fun _ ⟨akin,same⟩ => ⟨⟨akin.sink,akin.inside⟩,same⟩) (fun a member f ⟨akin,same⟩ => ?_)
    ⟨.refl e,rfl⟩
  obtain ⟨sub,registered,p,rfl⟩ := tells a member
  have apart : ∀ a ∈ f.geofence, a.standsFor sub = false :=
    fun a member => distinct.apart a (same ▸ member) sub registered
  exact ⟨akin.trans (tell_akin f sub p),(tell_geofence apart p).trans same⟩

/-- Those who watch distances are told, and everything about geofences stays. -/
theorem Distinct.evaluate_apart (distinct : Distinct e) (e1 e2 : Entity) (d : Distance) :
    Akin e (e.evaluate (.apart e1 e2 d)) ∧
      (e.evaluate (.apart e1 e2 d)).geofence = e.geofence := by
  refine distinct.performAll_tell fun a member => ?_
  simp only [acts] at member
  split at member
  · cases member
  · obtain ⟨sub,registered,follows⟩ := List.mem_flatMap.mp member
    obtain ⟨_,rfl⟩ := mem_apartActs follows
    exact ⟨sub,registered,_,rfl⟩

/-! ## Those who watch around a participant -/

theorem aroundActs_comm (other : e1.id ≠ e2.id) (sub : Subscription) :
    aroundActs e1 e2 d sub = aroundActs e2 e1 d sub := by
  obtain ⟨own,watch⟩ := sub
  cases watch with
  | geofence center members radius =>
    simp only [aroundActs,Entity.same]
    by_cases first : e1.id = center.id
    · have second : e2.id ≠ center.id := fun same => other (first.trans same.symm)
      simp [first,second]
    · by_cases second : e2.id = center.id <;> simp [first,second]
  | _ => rfl

theorem acts_around_comm (other : e1.id ≠ e2.id) :
    e.acts (.around e1 e2 d) = e.acts (.around e2 e1 d) :=
  congrArg e.geofence.flatMap (funext (aroundActs_comm other))

theorem acts_around_same (geofence : f.geofence = e.geofence) (e1 e2 : Entity) (d : Distance) :
    f.acts (.around e1 e2 d) = e.acts (.around e1 e2 d) := by
  rw [acts,acts,geofence]

theorem mem_acts_around {a : Act} (follows : a ∈ e.acts (.around e1 e2 d)) :
    a.sub ∈ e.geofence ∧ a ∈ aroundActs e1 e2 d a.sub ∧
      ∃ center radius candidate seen, a = .observe a.sub center radius candidate seen := by
  obtain ⟨sub,registered,acts⟩ := List.mem_flatMap.mp follows
  obtain ⟨center,_,radius,candidate,seen,_,rfl⟩ := mem_aroundActs acts
  exact ⟨registered,acts,center,radius,candidate,seen,rfl⟩

theorem Distinct.around_untaken (distinct : Distinct e) (e1 e2 : Entity) (d : Distance) :
    ∀ a ∈ e.acts (.around e1 e2 d), ¬e.Takes a.sub.id :=
  fun _ follows => distinct.untaken _ (mem_acts_around follows).1

/-- What the watchers around one of two participants are told of their distance. -/
def aroundRound (e : Engine) (e1 e2 : Entity) (d : Distance) : List Notice :=
  (e.tellings [.around e1 e2 d]).map (·.notice)

theorem aroundRound_comm (other : e1.id ≠ e2.id) :
    e.aroundRound e1 e2 d = e.aroundRound e2 e1 d := by
  simp only [aroundRound,tellings,acts_around_comm other]

theorem evaluate_around_delivered : (e.evaluate (.around e1 e2 d)).delivered =
    e.delivered ++ e.aroundRound e1 e2 d :=
  evaluateAll_delivered e [.around e1 e2 d]

/-- Nodes with the same geofences tell the same of them. -/
theorem Distinct.evaluate_around (distinct : Distinct e) (akin : Akin e f)
    (geofence : f.geofence = e.geofence) (e1 e2 : Entity) (d : Distance) :
    Akin (e.evaluate (.around e1 e2 d)) (f.evaluate (.around e1 e2 d)) ∧
      f.aroundRound e1 e2 d = e.aroundRound e1 e2 d := by
  have same := akin.performAll (distinct.around_untaken e1 e2 d) e f
  simpa only [evaluate,aroundRound,tellings,acts_around_same geofence,List.append_nil] using same

/-- Of geofences come entries, exits, and errors where there is no place. -/
def tellsGeofence (n : Notice) : Bool :=
  match n.payload with
  | .entity .geofenceEntry .. | .entity .geofenceExit .. => true
  | .error reason => reason == .entitySizeExceeded
  | _ => false

theorem aroundRound_tells {n : Notice} (member : n ∈ e.aroundRound e1 e2 d) :
    tellsGeofence n = true := by
  obtain ⟨t,tells,rfl⟩ := List.mem_map.mp member
  obtain ⟨fact,listed,_,told⟩ := mem_tellings tells
  obtain rfl := List.mem_singleton.mp listed
  obtain ⟨_,_,_,a,follows,offered⟩ := mem_tellingsIn told
  obtain ⟨_,_,center,radius,candidate,seen,sight⟩ := mem_acts_around follows
  rw [sight] at offered
  obtain ⟨p,crosses,same⟩ := Option.map_eq_some_iff.mp (event?_of_offered offered)
  rw [tellsGeofence,← same]
  generalize (Detected.observe _ _ _ _).1 = transition at crosses
  cases transition <;> cases crosses <;> rfl

end Vicinity.Engine
