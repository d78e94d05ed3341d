import Vicinity.Proofs.Distances
import Vicinity.Proofs.Exchange

/-! A distance between two participants that another node has measured. It may name them in either
order, and it may come again: who watches distances is told each time, and the geofences around one
of the two take it in once. -/
namespace Vicinity.Engine

variable {e f : Engine} {op : Operation} {e1 e2 : Entity} {d : Distance} {a : Act} {as : List Act}
  {id : SubscriptionId} {detected : Detected} {x : EntityId} {seen radius : Distance}

/-! ## Nobody is inside twice -/

theorem observe_nodup (once : detected.ids.Nodup) (x : EntityId) (seen radius : Distance) :
    (detected.observe x seen radius).2.ids.Nodup := by
  by_cases present : x ∈ detected.ids
  · by_cases near : seen ≤ radius
    · rw [Geofence.observe_stay present near]
      exact once
    · rw [Geofence.observe_leave present (Nat.not_le.mp near)]
      exact once.erase x
  · by_cases near : seen ≤ radius
    · by_cases place : detected.ids.length < 50
      · rw [Geofence.observe_enter present near place]
        refine List.nodup_append.mpr ⟨once,by simp,?_⟩
        rintro y member z last rfl
        exact present (List.mem_singleton.mp last ▸ member)
      · rw [Geofence.observe_full present near (Nat.not_lt.mp place)]
        exact once
    · rw [Geofence.observe_away present (Nat.not_le.mp near)]
      exact once

/-- In no subscription anybody is inside twice. -/
def Single (e : Engine) : Prop := ∀ id, (e.inside id).ids.Nodup

theorem Single.place (single : Single e) {own : SubscriptionId} (once : detected.ids.Nodup) :
    Single (e.place own detected) := by
  intro id
  show (if id = own then detected else e.inside id).ids.Nodup
  split
  · exact once
  · exact single id

theorem Single.tell (single : Single e) (sub : Subscription) (p : Payload) :
    Single (e.tell sub p).2 := by
  have noted : Single (e.noted sub p) := single
  have ensues := tell_ensues e sub p
  generalize (e.tell sub p).2 = after at ensues ⊢
  cases ensues with
  | left =>
    obtain ⟨group,proximity,geofence,_,_,_,eq⟩ := unsubscribe_eq (e.noted sub p) sub
    rw [eq]
    exact noted
  | followed => exact noted.place List.nodup_nil
  | _ => exact single

theorem Single.perform (single : Single e) (a : Act) : Single (e.perform a).2 := by
  cases a with
  | tell sub p => exact single.tell sub p
  | observe sub center radius candidate seen =>
    have once := observe_nodup (single sub.id) candidate.id seen radius
    cases observed : (e.inside sub.id).observe candidate.id seen radius with
    | mk transition inside =>
      rw [observed] at once
      rw [perform_observe observed]
      cases crossing? center candidate seen transition with
      | none => exact single.place once
      | some p => exact (single.place once).tell sub p

theorem Single.performAll (single : Single e) (as : List Act) : Single (e.performAll as) :=
  performAll_keeps (fun _ single => single) (fun a _ _ single => single.perform a) single

theorem Single.evaluateAll (single : Single e) (facts : List Fact) :
    Single (e.evaluateAll facts) := by
  induction facts generalizing e with
  | nil => exact single
  | cons fact facts ih => exact ih (single.performAll (e.acts fact))

theorem Single.apply (single : Single e) (op : Operation) : Single (e.apply op).2 := by
  by_cases direct : op.direct = true
  · by_cases makes : ∃ sub, op.subscription? = some sub
    · obtain ⟨sub,makes⟩ := makes
      have call := subscribing e makes
      by_cases admitted : ∀ why, ¬e.Objects op why
      · rw [call.accepted admitted,enrolled]
        cases sub.watch <;> exact single.place List.nodup_nil
      · obtain ⟨why,objects⟩ := not_forall_not.mp admitted
        rw [call.refused why objects]
        exact single
    · intro id
      rw [(apply_direct direct).2 id fun sub asked => absurd ⟨sub,asked⟩ makes]
      exact single id
  · have agree := apply_agree (e := e) (Bool.eq_false_iff.mpr direct)
    rw [Single,agree.inside]
    exact single.evaluateAll (e.facts op)

theorem single_after {self : Entity} {config : Config} (started : start self config = .ok e)
    (ops : List Operation) : Single (e.after ops) := by
  induction ops using List.reverseRecOn with
  | nil =>
    rw [start] at started
    split at started
    · cases started
    · cases started
      exact fun _ => List.nodup_nil
  | append_singleton ops op ih =>
    rw [after_concat]
    exact ih.apply op

/-! ## What is seen again -/

/-- Whether a notice tells that somebody has entered or left. -/
def tellsCrossing (n : Notice) : Bool :=
  match n.payload with
  | .entity .geofenceEntry .. | .entity .geofenceExit .. => true
  | _ => false

/-- What is seen at the same distance again lets nobody in and nobody out. -/
theorem observe_again (once : detected.ids.Nodup) (x : EntityId) (seen radius : Distance) :
    let after := (detected.observe x seen radius).2
    ∃ transition, after.observe x seen radius = (transition,after) ∧
      transition ≠ .entry ∧ transition ≠ .exit := by
  by_cases present : x ∈ detected.ids
  · by_cases near : seen ≤ radius
    · rw [Geofence.observe_stay present near]
      exact ⟨_,Geofence.observe_stay present near,by decide⟩
    · rw [Geofence.observe_leave present (Nat.not_le.mp near)]
      exact ⟨_,Geofence.observe_away once.not_mem_erase (Nat.not_le.mp near),by decide⟩
  · by_cases near : seen ≤ radius
    · by_cases place : detected.ids.length < 50
      · rw [Geofence.observe_enter present near place]
        exact ⟨_,Geofence.observe_stay (by simp) near,by decide⟩
      · rw [Geofence.observe_full present near (Nat.not_lt.mp place)]
        exact ⟨_,Geofence.observe_full present near (Nat.not_lt.mp place),by decide⟩
    · rw [Geofence.observe_away present (Nat.not_le.mp near)]
      exact ⟨_,Geofence.observe_away present (Nat.not_le.mp near),by decide⟩

/-- An act that lets nobody in and nobody out. -/
structure Rests (e : Engine) (a : Act) : Prop where
  inside : e.sighted a = e.inside a.sub.id
  untold : ∀ n, e.event? a = some n → tellsCrossing n = false

theorem Rests.same (rests : Rests e a) (inside : f.inside a.sub.id = e.inside a.sub.id) :
    Rests f a := by
  obtain ⟨kept,untold⟩ := rests
  cases a with
  | tell sub p => exact ⟨rfl,untold⟩
  | observe sub center radius candidate seen =>
    have inside : f.inside sub.id = e.inside sub.id := inside
    refine ⟨?_,fun n tells => untold n ?_⟩
    · rw [sighted,inside]
      exact kept.trans inside.symm
    · rwa [event?,← inside]

theorem rests_again {sub : Subscription} {center candidate : Entity} (single : Single e)
    (untaken : ¬e.Takes sub.id) : Rests (e.perform (.observe sub center radius candidate seen)).2
      (.observe sub center radius candidate seen) := by
  have inside : (e.perform (.observe sub center radius candidate seen)).2.inside sub.id =
      ((e.inside sub.id).observe candidate.id seen radius).2 :=
    (perform_inside untaken _).trans (if_pos rfl)
  obtain ⟨transition,again,notEntry,notExit⟩ :=
    observe_again (single sub.id) candidate.id seen radius
  constructor
  case inside =>
    show (Detected.observe _ _ _ _).2 = Engine.inside _ sub.id
    rw [inside,again]
  case untold =>
    intro n tells
    rw [event?,inside,again] at tells
    obtain ⟨p,crosses,rfl⟩ := Option.map_eq_some_iff.mp tells
    cases transition with
    | entry => exact absurd rfl notEntry
    | exit => exact absurd rfl notExit
    | full => cases crosses; rfl
    | unchanged => cases crosses

/-- An act that rests does so after other acts, and after itself. -/
theorem Rests.performAll (rests : Rests e a) (untaken : ¬e.Takes a.sub.id)
    (same : ∀ b ∈ as, b.sub.id = a.sub.id → b = a) : Rests (e.performAll as) a := by
  refine (performAll_keeps (P := fun f => Rests f a ∧ ¬f.Takes a.sub.id)
    (fun _ ⟨rests,untaken⟩ => ⟨rests.same rfl,untaken⟩) (fun b member f ⟨rests,untaken⟩ => ?_)
    ⟨rests,untaken⟩).1
  refine ⟨rests.same ?_,mt (perform_takes b).mp untaken⟩
  rw [perform_inside untaken]
  split
  next own =>
    obtain rfl := same b member own.symm
    exact rests.inside
  next => rfl

/-- Sights of different geofences, all of which are taken in. -/
structure Steady (e : Engine) (as : List Act) : Prop where
  untaken : ∀ a ∈ as, ¬e.Takes a.sub.id
  known : ∀ a ∈ as, ∀ b ∈ as, a.sub.id = b.sub.id → a = b
  sights : ∀ a ∈ as, ∃ center radius candidate seen, a = .observe a.sub center radius candidate seen
  goes : ∀ a ∈ as, ∀ f : Engine, f.sink = e.sink → (f.perform a).1 = false

theorem Steady.rest (steady : Steady e (a :: as)) : Steady (e.perform a).2 as := by
  obtain ⟨untaken,known,sights,goes⟩ := steady
  constructor
  case untaken =>
    exact fun b member =>
      mt (perform_takes a).mp (untaken b (List.mem_cons_of_mem _ member))
  case known =>
    exact fun b member c member' =>
      known b (List.mem_cons_of_mem _ member) c (List.mem_cons_of_mem _ member')
  case sights => exact fun b member => sights b (List.mem_cons_of_mem _ member)
  case goes =>
    exact fun b member f sink =>
      goes b (List.mem_cons_of_mem _ member) f (sink.trans (perform_kept a).2)

theorem Steady.performAll_rests (steady : Steady e as) (single : Single e) :
    ∀ a ∈ as, Rests (e.performAll as) a := by
  induction as generalizing e with
  | nil => simp
  | cons a as ih =>
    have goes := steady.goes a (List.mem_cons_self ..) e rfl
    have untaken := steady.untaken a (List.mem_cons_self ..)
    have rest := steady.rest
    have later := ih rest (single.perform a)
    have first : Rests ((e.perform a).2.performAll as) a := by
      obtain ⟨center,radius,candidate,seen,sight⟩ := steady.sights a (List.mem_cons_self ..)
      have begun : Rests (e.perform a).2 a := by
        rw [sight] at untaken ⊢
        exact rests_again single untaken
      have untaken' := mt (perform_takes a).mp (steady.untaken a (List.mem_cons_self ..))
      refine begun.performAll untaken' fun b member own => ?_
      exact steady.known b (List.mem_cons_of_mem _ member) a (List.mem_cons_self ..) own
    rw [Engine.performAll]
    cases performed : e.perform a with
    | mk broken after =>
      rw [performed] at goes first later
      cases goes
      exact List.forall_mem_cons.mpr ⟨first,later⟩

/-- Acts that rest let nobody in and nobody out, wherever the application breaks them off. -/
theorem performAll_resting (rests : ∀ a ∈ as, Rests e a) (untaken : ∀ a ∈ as, ¬e.Takes a.sub.id) :
    (∀ id, ¬e.Takes id → (e.performAll as).inside id = e.inside id) ∧
    ∃ more, (e.performAll as).delivered = e.delivered ++ more ∧
      ∀ n ∈ more, tellsCrossing n = false := by
  induction as generalizing e with
  | nil => exact ⟨fun _ _ => rfl,[],by simp [performAll],by simp⟩
  | cons a as ih =>
    have first := rests a (List.mem_cons_self ..)
    have still : ∀ id, ¬e.Takes id → (e.perform a).2.inside id = e.inside id := by
      intro id free
      rw [perform_inside free]
      split
      next own => rw [own,first.inside]
      next => rfl
    have told := perform_delivered (e := e) a
    have quiet : ∀ n ∈ (e.offered? a).toList, tellsCrossing n = false := fun n member =>
      first.untold n (event?_of_offered (Option.mem_toList.mp member))
    have rests' : ∀ b ∈ as, Rests (e.perform a).2 b := fun b member =>
      (rests b (List.mem_cons_of_mem _ member)).same
        (still _ (untaken b (List.mem_cons_of_mem _ member)))
    have untaken' : ∀ b ∈ as, ¬(e.perform a).2.Takes b.sub.id := fun b member =>
      mt (perform_takes a).mp (untaken b (List.mem_cons_of_mem _ member))
    obtain ⟨inside,more,later,quiet'⟩ := ih rests' untaken'
    have sink := (perform_kept (e := e) a).2
    rw [performAll]
    cases performed : e.perform a with
    | mk broken after =>
      rw [performed] at still told inside later sink
      cases broken with
      | true => exact ⟨still,_,told,quiet⟩
      | false =>
        refine ⟨fun id free => (inside id (mt (takes_same sink).mp free)).trans (still id free),
          (e.offered? a).toList ++ more,?_,?_⟩
        · rw [later,told,List.append_assoc]
        · intro n member
          rcases List.mem_append.mp member with now | rest
          · exact quiet n now
          · exact quiet' n rest

/-! ## A distance in one message -/

/-- A node that has taken in a distance. -/
def updated (e : Engine) (e1 e2 : Entity) (d : Distance) : Engine :=
  (e.evaluate (.apart e1 e2 d)).evaluate (.around e1 e2 d)

theorem updated_kept (e : Engine) (e1 e2 : Entity) (d : Distance) :
    (e.updated e1 e2 d).stopped = e.stopped ∧ (e.updated e1 e2 d).self = e.self ∧
      (e.updated e1 e2 d).sink = e.sink := by
  have aside := evaluateAll_aside e [.apart e1 e2 d,.around e1 e2 d]
  exact ⟨(congrArg Engine.stopped aside).symm,evaluateAll_kept [.apart e1 e2 d,.around e1 e2 d]⟩

theorem apply_update (heard : e.heard? op = some (.proximityUpdate e1 e2 d)) :
    (e.apply op).2 = e.updated e1 e2 d := by
  have live := heard?_live heard
  have worked : (e.apply op).2 =
      e.work [.evaluate (.apart e1 e2 d),.evaluate (.around e1 e2 d)] := apply_heard heard
  rw [worked,work_eq,live,if_neg Bool.false_ne_true,sends_evaluations (by simp),workFacts,live,
    if_neg Bool.false_ne_true]
  exact evaluateAll_aside e [.apart e1 e2 d,.around e1 e2 d]

theorem mem_pairing {sub : Subscription} : sub ∈ e.pairing e1 e2 ↔ sub ∈ e.proximity ∧
    ∃ tracked others, sub.watch = .proximity tracked others ∧
      ((tracked.contains e1 = true ∧ others.contains e2 = true) ∨
        (tracked.contains e2 = true ∧ others.contains e1 = true)) := by
  rw [pairing,List.mem_filter]
  refine and_congr_right fun _ => ?_
  cases sub.watch <;> simp [pairs]

/-- The other one of two participants, for a geofence around one of them. -/
theorem aroundActs_cases (e1 e2 : Entity) (d : Distance) (sub : Subscription) :
    aroundActs e1 e2 d sub = [] ∨ ∃ center radius candidate, (candidate = e1 ∨ candidate = e2) ∧
      aroundActs e1 e2 d sub = [.observe sub center radius candidate d] := by
  obtain ⟨own,watch⟩ := sub
  cases watch with
  | geofence center members radius =>
    simp only [aroundActs]
    split
    · split
      · exact .inr ⟨center,radius,e2,.inr rfl,rfl⟩
      · exact .inl rfl
    split
    · split
      · exact .inr ⟨center,radius,e1,.inl rfl,rfl⟩
      · exact .inl rfl
    · exact .inl rfl
  | _ => exact .inl rfl

/-- The application does not panic over a participant. -/
def Bears (e : Engine) (x : EntityId) : Prop :=
  ∀ sink, e.sink = some sink → sink.reaction ≠ .panicOver x

theorem breaksOff_bears {r : Reaction} {p : Payload}
    (bears : ∀ x, subject? p = some x → r ≠ .panicOver x) : breaksOff r p = false := by
  cases about : subject? p with
  | none => simp [breaksOff,about]
  | some x =>
    have unlike := bears x about
    cases r with
    | panicOver y =>
      have other : x ≠ y := fun same => unlike (same ▸ rfl)
      simp [breaksOff,about,other]
    | _ => simp [breaksOff,about]

theorem perform_bears {sub : Subscription} {center candidate : Entity}
    (bears : e.Bears candidate.id) :
    (e.perform (.observe sub center radius candidate seen)).1 = false := by
  rw [perform_broken]
  cases offers : e.offered? (.observe sub center radius candidate seen) with
  | none => rfl
  | some n =>
    cases heard : e.sink with
    | none => rfl
    | some sink =>
      obtain ⟨p,crosses,rfl⟩ := Option.map_eq_some_iff.mp (event?_of_offered offers)
      refine breaksOff_bears fun x about => ?_
      generalize (Detected.observe _ _ _ _).1 = transition at crosses
      cases transition <;> cases crosses <;> cases about <;> exact bears sink heard

theorem Distinct.steady (distinct : Distinct e) (bears : e.Bears e1.id) (bears' : e.Bears e2.id) :
    Steady e (e.acts (.around e1 e2 d)) := by
  constructor
  case untaken => exact distinct.around_untaken e1 e2 d
  case known =>
    intro a follows b follows' own
    obtain ⟨registered,acts,_⟩ := mem_acts_around follows
    obtain ⟨registered',acts',_⟩ := mem_acts_around follows'
    rw [← distinct.known registered registered' own] at acts'
    rcases aroundActs_cases e1 e2 d a.sub with none | ⟨_,_,_,_,one⟩
    · rw [none] at acts
      cases acts
    · rw [one] at acts acts'
      exact (List.mem_singleton.mp acts).trans (List.mem_singleton.mp acts').symm
  case sights => exact fun a follows => (mem_acts_around follows).2.2
  case goes =>
    intro a follows f sink
    obtain ⟨_,acts,_⟩ := mem_acts_around follows
    rcases aroundActs_cases e1 e2 d a.sub with none | ⟨_,_,candidate,either,one⟩
    · rw [none] at acts
      cases acts
    · rw [one] at acts
      rw [List.mem_singleton.mp acts]
      refine perform_bears fun own heard => ?_
      rw [sink] at heard
      rcases either with rfl | rfl
      · exact bears own heard
      · exact bears' own heard

/-- After a distance nothing is left to see of it. -/
theorem Distinct.updated_rests (distinct : Distinct e) (single : Single e) (bears : e.Bears e1.id)
    (bears' : e.Bears e2.id) : ∀ a ∈ (e.updated e1 e2 d).acts (.around e1 e2 d),
      Rests (e.updated e1 e2 d) a := by
  intro a follows
  have known := distinct.evaluateAll [.apart e1 e2 d]
  have sink : (e.evaluate (.apart e1 e2 d)).sink = e.sink := (performAll_kept _).2
  have fewer := (fewer_watches_last (e.evaluate (.apart e1 e2 d))).performAll (.refl _)
    ((e.evaluate (.apart e1 e2 d)).acts (.around e1 e2 d))
  rw [Bears,← sink] at bears bears'
  obtain ⟨registered,acts,_⟩ := mem_acts_around follows
  exact (known.steady bears bears').performAll_rests (single.evaluateAll [.apart e1 e2 d]) a
    (List.mem_flatMap.mpr ⟨a.sub,fewer.geofence.mem registered,acts⟩)

/-- Where nothing is left to see, a distance lets nobody in and nobody out. -/
theorem Distinct.updated_resting (distinct : Distinct e) (other : e1.id ≠ e2.id)
    (rests : ∀ a ∈ e.acts (.around e1 e2 d), Rests e a) :
    (∀ id, ¬e.Takes id → (e.updated e1 e2 d).inside id = e.inside id) ∧
    ∃ more, (e.updated e1 e2 d).delivered = e.delivered ++ more ∧
      ∀ n ∈ more, tellsCrossing n = false := by
  obtain ⟨akin,geofence⟩ := distinct.evaluate_apart e1 e2 d
  have acts := acts_around_same geofence e1 e2 d
  have untaken := distinct.around_untaken e1 e2 d
  have rests' : ∀ a ∈ e.acts (.around e1 e2 d), Rests (e.evaluate (.apart e1 e2 d)) a :=
    fun a follows => (rests a follows).same (akin.inside _ (untaken a follows))
  obtain ⟨inside,more,told,quiet⟩ := performAll_resting rests' fun a follows =>
    mt akin.takes.mp (untaken a follows)
  rw [updated,evaluate,acts]
  refine ⟨fun id free => (inside id (mt akin.takes.mp free)).trans (akin.inside id free),
    hearRound e.sink e2.id (e.distanceRound e1 e2 d) ++ more,?_,?_⟩
  · rw [told,evaluate_apart_delivered other,List.append_assoc]
  · intro n member
    rcases List.mem_append.mp member with distance | crossing
    · obtain ⟨sub,_,rfl⟩ := List.mem_map.mp (mem_hearRound distance)
      rfl
    · exact quiet n crossing

/-! ## Either order, and again -/

/-- Another node tells of a distance. -/
def Operation.Tells (op : Operation) (self : EntityId) (e1 e2 : Entity) (d : Distance) : Prop :=
  ∃ m, op.received? = some m ∧ m.sender ≠ self ∧ m.body = .proximityUpdate e1 e2 d

theorem Operation.Tells.heard {self : EntityId} (tells : op.Tells self e1 e2 d)
    (live : e.stopped = false) (own : e.self.id = self) :
    e.heard? op = some (.proximityUpdate e1 e2 d) := by
  obtain ⟨m,received,foreign,body⟩ := tells
  rw [heard?_received,received,Option.bind_some,heeds?_foreign live (own ▸ foreign),body]

/-- A distance that names two participants in either order, and once more in the first one. -/
structure EitherWay (e : Engine) (e1 e2 : Entity) (d : Distance) (there back again : Engine) :
    Prop where
  /-- Those are told who watch the two in either order, each once. -/
  pairing : ∀ sub, sub ∈ e.pairing e1 e2 ↔ sub ∈ e.proximity ∧
    ∃ tracked others, sub.watch = .proximity tracked others ∧
      ((tracked.contains e1 = true ∧ others.contains e2 = true) ∨
        (tracked.contains e2 = true ∧ others.contains e1 = true))
  once : ((e.pairing e1 e2).map (·.id)).Nodup
  turned : e.pairing e2 e1 = e.pairing e1 e2
  toldThere : there.delivered =
    e.delivered ++ hearRound e.sink e2.id (e.distanceRound e1 e2 d) ++ e.aroundRound e1 e2 d
  /-- What comes of geofences is the same. -/
  toldBack : back.delivered =
    e.delivered ++ hearRound e.sink e1.id (e.distanceRound e2 e1 d) ++ e.aroundRound e1 e2 d
  around : ∀ n ∈ e.aroundRound e1 e2 d, tellsGeofence n = true
  inside : ∀ id, ¬e.Takes id → back.inside id = there.inside id
  /-- The second time nobody enters and nobody leaves. -/
  rests : e.Bears e1.id → e.Bears e2.id →
    (∀ id, ¬e.Takes id → again.inside id = there.inside id) ∧
    ∃ more, again.delivered = there.delivered ++ more ∧ ∀ n ∈ more, tellsCrossing n = false

theorem Distinct.updated_delivered (distinct : Distinct e) (other : e1.id ≠ e2.id) :
    (e.updated e1 e2 d).delivered = e.delivered ++
      hearRound e.sink e2.id (e.distanceRound e1 e2 d) ++ e.aroundRound e1 e2 d := by
  obtain ⟨akin,geofence⟩ := distinct.evaluate_apart e1 e2 d
  rw [← (distinct.evaluate_around akin geofence e1 e2 d).2,← evaluate_apart_delivered other]
  exact evaluate_around_delivered

theorem Distinct.updated_akin (distinct : Distinct e) (e1 e2 : Entity) (d : Distance) :
    Akin (e.evaluate (.around e1 e2 d)) (e.updated e1 e2 d) := by
  obtain ⟨akin,geofence⟩ := distinct.evaluate_apart e1 e2 d
  exact (distinct.evaluate_around akin geofence e1 e2 d).1

/-- It does not matter in which order a distance names the two, and it is taken in once. -/
theorem distance_either_way {self : Entity} {config : Config} {node : Engine}
    (started : start self config = .ok node) {ops : List Operation} (given : GivenOnce ops)
    (live : (node.after ops).stopped = false) (other : e1.id ≠ e2.id) {op turned : Operation}
    (tells : op.Tells self.id e1 e2 d) (tells' : turned.Tells self.id e2 e1 d) :
    EitherWay (node.after ops) e1 e2 d ((node.after ops).apply op).2
      ((node.after ops).apply turned).2 (((node.after ops).apply op).2.apply op).2 := by
  have distinct := distinct_after started given
  have single := single_after started ops
  have own : (node.after ops).self.id = self.id := by rw [id_after,start_self started]
  generalize node.after ops = e at *
  have heard := tells.heard live own
  have first := apply_update heard
  have second := apply_update (tells'.heard live own)
  obtain ⟨stopped,same,sink⟩ := updated_kept e e1 e2 d
  have again : ((e.updated e1 e2 d).apply op).2 = (e.updated e1 e2 d).updated e1 e2 d :=
    apply_update (tells.heard (stopped.trans live) (same ▸ own))
  rw [first,second,again]
  constructor
  case pairing => exact fun sub => mem_pairing
  case once => exact distinct.proximity.sublist (List.filter_sublist.map _)
  case turned => exact pairing_comm e e2 e1
  case toldThere => exact distinct.updated_delivered other
  case toldBack => rw [distinct.updated_delivered other.symm,aroundRound_comm other]
  case around => exact fun n member => aroundRound_tells member
  case inside =>
    have same : e.evaluate (.around e1 e2 d) = e.evaluate (.around e2 e1 d) :=
      congrArg e.performAll (acts_around_comm other)
    have akin := (distinct.updated_akin e1 e2 d).symm.trans (same ▸ distinct.updated_akin e2 e1 d)
    exact fun id untaken => akin.inside id (mt (takes_same sink).mp untaken)
  case rests =>
    intro bears bears'
    have known : Distinct (e.updated e1 e2 d) :=
      distinct.evaluateAll [.apart e1 e2 d,.around e1 e2 d]
    have resting := known.updated_resting other (distinct.updated_rests single bears bears')
    simpa only [takes_same sink] using resting

/-- Two subscriptions for distances of the node, and two geofences around it. -/
def surrounds (r : Reaction) : List Operation := [
  .setSink (some ⟨true,r⟩),
  .trackDistance (.ofNat 1) watcher (.everyone "all"),
  .trackDistance (.ofNat 2) watcher (.everyone "others"),
  .trackGeofence (.ofNat 3) watcher (.everyone "all") .near,
  .trackGeofence (.ofNat 4) watcher (.everyone "others") .near]

def isNear (e1 e2 : Entity) : Operation := .hear ⟨visitor.id,"log",.proximityUpdate e1 e2 .near⟩

theorem isNear_tells (e1 e2 : Entity) : (isNear e1 e2).Tells watcher.id e1 e2 .near := by
  refine ⟨_,rfl,?_,rfl⟩
  show visitor.id ≠ watcher.id
  decide

theorem bears_pass (passes : e.sink = some ⟨true,.pass⟩) (x : EntityId) : e.Bears x := by
  intro sink heard
  cases passes.symm.trans heard
  exact Reaction.noConfusion

theorem distance_either_way_visitor : ∃ node, start watcher .standard = .ok node ∧
    let e := node.after (surrounds .pass)
    GivenOnce (surrounds .pass) ∧ e.stopped = false ∧ e.Bears watcher.id ∧ e.Bears visitor.id ∧
    watcher.id ≠ visitor.id ∧ (isNear watcher visitor).Tells watcher.id watcher visitor .near ∧
    (isNear visitor watcher).Tells watcher.id visitor watcher .near ∧
    EitherWay e watcher visitor .near (e.apply (isNear watcher visitor)).2
      (e.apply (isNear visitor watcher)).2
      ((e.apply (isNear watcher visitor)).2.apply (isNear watcher visitor)).2 := by
  have started : start watcher .standard = .ok _ := rfl
  have given : GivenOnce (surrounds .pass) := by
    refine ⟨by decide,fun sink first k set follows => ?_⟩
    obtain rfl : sink = ⟨true,.pass⟩ := by simpa [surrounds] using set
    cases follows
  have other : watcher.id ≠ visitor.id := by decide
  exact ⟨_,started,given,rfl,bears_pass rfl _,bears_pass rfl _,other,isNear_tells ..,
    isNear_tells ..,distance_either_way started given rfl other (isNear_tells ..) (isNear_tells ..)⟩

/-- An application that panics over one of the two is told less in one order than in the other, and
of an entry when the same distance comes again. A node that has ended tells nobody. -/
theorem entry_cut_short : ∃ node, start watcher .standard = .ok node ∧
    let e := node.after (surrounds (.panicOver visitor.id))
    let there := (e.apply (isNear watcher visitor)).2
    let again := (there.apply (isNear watcher visitor)).2
    let back := (e.apply (isNear visitor watcher)).2
    (there.toldOf (.ofNat 2)).length = 0 ∧ (back.toldOf (.ofNat 2)).length = 1 ∧
    (there.toldOf (.ofNat 4)).length = 0 ∧ (again.toldOf (.ofNat 4)).length = 1 ∧
    again.inside (.ofNat 4) ≠ there.inside (.ofNat 4) ∧
    (e.pairing watcher visitor).length = 2 ∧
    ∀ op ∈ [.stop,.setSink none], (e.apply op).2.pairing watcher visitor = e.pairing watcher visitor ∧
      ((e.apply op).2.apply (isNear watcher visitor)).2.delivered = e.delivered :=
  ⟨_,rfl,rfl,rfl,rfl,rfl,by decide,rfl,
    List.forall_mem_cons.mpr ⟨⟨rfl,rfl⟩,List.forall_mem_singleton.mpr ⟨rfl,rfl⟩⟩⟩

end Vicinity.Engine
