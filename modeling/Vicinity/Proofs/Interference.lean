import Vicinity.Proofs.Registry

/-! Subscriptions side by side. A node that forgets one of them does everything else as before,
one operation after another, so an extra subscription changes nothing for the others: as long as
the application does not panic over its events, or subscribes in reply to them. -/
namespace Vicinity.Engine

variable {e begun now : Engine} {op : Operation} {id : SubscriptionId} {sub s extra : Subscription}
  {p : Payload}

/-- A node that has forgotten a subscription. -/
def without (e : Engine) (id : SubscriptionId) : Engine := { e with
  proximity := e.proximity.filter (·.id != id)
  geofence := e.geofence.filter (·.id != id)
  group := e.group.filter (·.id != id)
  inside := fun other => if other = id then .empty else e.inside other
  told := e.told.filter (·.subscription != some id) }

/-! ## Other subscriptions -/

theorem place_without {own : SubscriptionId} (other : own ≠ id) (d : Detected) :
    (e.place own d).without id = (e.without id).place own d := by
  simp only [without,place,Engine.mk.injEq,true_and,and_true]
  funext x
  by_cases same : x = own
  · simp [same,other]
  · simp [same]

theorem place_own (e : Engine) (id : SubscriptionId) (d : Detected) :
    (e.place id d).without id = e.without id := by
  simp only [without,place,Engine.mk.injEq,true_and,and_true]
  funext x
  by_cases same : x = id <;> simp [same]

theorem noted_without (other : sub.id ≠ id) (p : Payload) :
    (e.noted sub p).without id = (e.without id).noted sub p := by
  simp [without,noted,other]

theorem noted_own (own : sub.id = id) (p : Payload) :
    (e.noted sub p).without id = e.without id := by
  simp [without,noted,own]

theorem subscriptions_without (e : Engine) (id : SubscriptionId) :
    (e.without id).subscriptions = e.subscriptions.filter (·.id != id) := by
  simp [without,subscriptions]

theorem removeFirst_without {subs : List Subscription}
    (apart : ∀ a ∈ subs, a.id = id → a.standsFor s = false) :
    removeFirst s (subs.filter (·.id != id)) = (removeFirst s subs).map (·.filter (·.id != id)) := by
  induction subs with
  | nil => rfl
  | cons a subs ih =>
    have rest := ih fun b member => apart b (List.mem_cons_of_mem _ member)
    by_cases own : a.id = id
    · have stands := apart a (List.mem_cons_self ..) own
      simp [removeFirst,own,stands,rest,Option.map_map,Function.comp_def]
    · by_cases stands : a.standsFor s = true
      · simp [removeFirst,own,stands]
      · simp [removeFirst,own,stands,rest,Option.map_map,Function.comp_def]

theorem removeFirst_own {subs rest : List Subscription}
    (own : ∀ a ∈ subs, a.standsFor s = true → a.id = id) (removed : removeFirst s subs = some rest) :
    rest.filter (·.id != id) = subs.filter (·.id != id) := by
  induction subs generalizing rest with
  | nil => cases removed
  | cons a subs ih =>
    rw [removeFirst] at removed
    split at removed
    next stands =>
      cases removed
      simp [own a (List.mem_cons_self ..) stands]
    next =>
      obtain ⟨others,later,rfl⟩ := Option.map_eq_some_iff.mp removed
      rw [List.filter_cons,List.filter_cons,
        ih (fun b member => own b (List.mem_cons_of_mem _ member)) later]

theorem unsubscribe_without (apart : ∀ a ∈ e.subscriptions, a.id = id → a.standsFor s = false) :
    (e.without id).unsubscribe s = ((e.unsubscribe s).1,(e.unsubscribe s).2.without id) := by
  have group : removeFirst s (e.without id).group = _ := removeFirst_without fun a member =>
    apart a (mem_subscriptions.mpr (.inl member))
  have proximity : removeFirst s (e.without id).proximity = _ := removeFirst_without fun a member =>
    apart a (mem_subscriptions.mpr (.inr (.inl member)))
  have geofence : removeFirst s (e.without id).geofence = _ := removeFirst_without fun a member =>
    apart a (mem_subscriptions.mpr (.inr (.inr member)))
  simp only [unsubscribe]
  rw [group,proximity,geofence]
  cases removeFirst s e.group
  case some => rfl
  cases removeFirst s e.proximity
  case some => rfl
  cases removeFirst s e.geofence <;> rfl

theorem unsubscribe_own (own : ∀ a ∈ e.subscriptions, a.standsFor s = true → a.id = id) :
    (e.unsubscribe s).2.without id = e.without id := by
  simp only [unsubscribe]
  cases removed : removeFirst s e.group with
  | some group =>
    have same := removeFirst_own (fun a member => own a (mem_subscriptions.mpr (.inl member))) removed
    simp only [without,same]
  | none =>
  cases removed : removeFirst s e.proximity with
  | some proximity =>
    have same := removeFirst_own (fun a member =>
      own a (mem_subscriptions.mpr (.inr (.inl member)))) removed
    simp only [without,same]
  | none =>
  cases removed : removeFirst s e.geofence with
  | some geofence =>
    have same := removeFirst_own (fun a member =>
      own a (mem_subscriptions.mpr (.inr (.inr member)))) removed
    simp only [without,same]
  | none => rfl

/-! ## One act -/

/-- The application may give an id to a subscription of its own. -/
def Takes (e : Engine) (id : SubscriptionId) : Prop := ∃ sink first k,
  e.sink = some sink ∧ sink.reaction = .follow first ∧ first.add k = id

/-- Whether the application panics over an event or subscribes in reply to it. -/
def disturbs (r : Reaction) (p : Payload) : Bool :=
  match subject? p, r with
  | some about, .panicOver id => about == id
  | some _, .follow _ => true
  | _, _ => false

theorem trackGroup_without {own : SubscriptionId} (other : own ≠ id) (members : Group) :
    (e.trackGroup own members).2.without id = ((e.without id).trackGroup own members).2 := by
  have placed := congrArg Engine.inside (place_without (e := e) other .empty)
  simp only [without,place] at placed
  simp [trackGroup,without,place,other,placed]

theorem tell_without (other : sub.id ≠ id) (takes : ¬e.Takes id)
    (apart : e.Leaves → ∀ a ∈ e.subscriptions, a.id = id → a.standsFor sub = false) :
    (e.without id).tell sub p = ((e.tell sub p).1,(e.tell sub p).2.without id) := by
  cases heard : e.sink with
  | none => rw [tell_unheard heard,tell_unheard (e := e.without id) heard]
  | some sink =>
    rw [tell_heard heard,tell_heard (e := e.without id) heard,← noted_without other]
    simp only [react]
    cases subject? p with
    | none => rfl
    | some about =>
      cases reacts : sink.reaction with
      | pass => rfl
      | panicOver x => rfl
      | leave =>
        have ended := unsubscribe_without (e := e.noted sub p) (apart ⟨sink,heard,reacts⟩)
        simp only [ended]
      | follow first =>
        have fresh : first.add e.followed ≠ id := fun same => takes ⟨sink,first,_,heard,reacts,same⟩
        have made := trackGroup_without (e := e.noted sub p) fresh sub.watch.groups.1
        exact congrArg (fun f : Engine => (false,{ f with followed := e.followed + 1 })) made.symm

theorem disturbs_panic {r : Reaction} (calm : disturbs r p = false) : breaksOff r p = false := by
  cases about : subject? p with
  | none => simp [breaksOff,about]
  | some about => cases r <;> simp_all [disturbs,breaksOff]

theorem tell_own
    (own : e.Leaves → ∀ a ∈ e.subscriptions, a.standsFor sub = true → a.id = sub.id)
    (calm : ∀ sink, e.sink = some sink → disturbs sink.reaction p = false) :
    (e.tell sub p).1 = false ∧ (e.tell sub p).2.without sub.id = e.without sub.id := by
  cases heard : e.sink with
  | none => rw [tell_unheard heard]; exact ⟨rfl,rfl⟩
  | some sink =>
    have quiet := calm sink heard
    refine ⟨(tell_broken heard sub p).trans (disturbs_panic quiet),?_⟩
    rw [tell_heard heard]
    refine Eq.trans ?_ (noted_own (e := e) rfl p)
    simp only [react]
    cases about : subject? p with
    | none => rfl
    | some about =>
      cases reacts : sink.reaction with
      | pass => rfl
      | panicOver x => rfl
      | leave => exact unsubscribe_own (e := e.noted sub p) (own ⟨sink,heard,reacts⟩)
      | follow first => simp [disturbs,reacts,about] at quiet

theorem perform_without {a : Act} (other : a.sub.id ≠ id) (takes : ¬e.Takes id)
    (apart : e.Leaves → ∀ b ∈ e.subscriptions, b.id = id → b.standsFor a.sub = false) :
    (e.without id).perform a = ((e.perform a).1,(e.perform a).2.without id) := by
  cases a with
  | tell sub p => exact tell_without other takes apart
  | observe sub center radius candidate seen =>
    have other : sub.id ≠ id := other
    have same : (e.without id).inside sub.id = e.inside sub.id := if_neg other
    cases observed : (e.inside sub.id).observe candidate.id seen radius with
    | mk transition inside =>
      rw [perform_observe observed,perform_observe (same ▸ observed),← place_without other]
      cases crossing? center candidate seen transition with
      | none => rfl
      | some p => exact tell_without (e := e.place sub.id inside) other takes apart

theorem perform_own {a : Act}
    (own : e.Leaves → ∀ b ∈ e.subscriptions, b.standsFor a.sub = true → b.id = a.sub.id)
    (calm : ∀ n, e.offered? a = some n → ∀ sink, e.sink = some sink →
      disturbs sink.reaction n.payload = false) :
    (e.perform a).1 = false ∧ (e.perform a).2.without a.sub.id = e.without a.sub.id := by
  have heard : ∀ sink, e.sink = some sink → ∀ n, e.event? a = some n →
      disturbs sink.reaction n.payload = false := fun sink hears n tells =>
    calm n (by simp [offered?,hears,tells]) sink hears
  cases a with
  | tell sub p => exact tell_own own fun sink hears => heard sink hears _ rfl
  | observe sub center radius candidate seen =>
    cases observed : (e.inside sub.id).observe candidate.id seen radius with
    | mk transition inside =>
      rw [perform_observe observed]
      simp only [event?,observed] at heard
      have placed := place_own e sub.id inside
      cases crosses : crossing? center candidate seen transition with
      | none => exact ⟨rfl,placed⟩
      | some p =>
        obtain ⟨goes,same⟩ := tell_own (e := e.place sub.id inside) (p := p) own
          fun sink hears => heard sink hears _ (by rw [crosses]; rfl)
        exact ⟨goes,same.trans placed⟩

/-! ## One evaluation after another -/

/-- Two subscriptions differ in their ids and in what they watch. -/
structure Apart (a b : Subscription) : Prop where
  id : a.id ≠ b.id
  watch : a.watch.sameKey b.watch = false
  watch' : b.watch.sameKey a.watch = false

theorem Apart.symm {a b : Subscription} (apart : Apart a b) : Apart b a :=
  ⟨apart.id.symm,apart.watch',apart.watch⟩

theorem Apart.standsFor {a b : Subscription} (apart : Apart a b) : a.standsFor b = false := by
  simp [Subscription.standsFor,apart.id,apart.watch]

/-- Every other registered subscription is apart from the extra one. -/
def Clear (extra : Subscription) (e : Engine) : Prop :=
  ∀ a ∈ e.subscriptions, a = extra ∨ Apart a extra

theorem Clear.fewer {f : Engine} (clear : Clear extra e) (fewer : f.subscriptions ⊆ e.subscriptions) :
    Clear extra f := fun a member => clear a (fewer member)

theorem Clear.own (clear : Clear extra e) : ∀ a ∈ e.subscriptions, a.standsFor extra = true →
    a.id = extra.id := by
  intro a member stands
  rcases clear a member with rfl | apart
  · rfl
  · simp [apart.standsFor] at stands

theorem Clear.other (clear : Clear extra e) (apart : Apart sub extra) :
    ∀ a ∈ e.subscriptions, a.id = extra.id → a.standsFor sub = false := by
  intro a member same
  rcases clear a member with rfl | other
  · exact apart.symm.standsFor
  · exact absurd same other.id

theorem tell_fewer (leaves : e.Leaves) (sub : Subscription) (p : Payload) :
    (e.tell sub p).2.subscriptions ⊆ e.subscriptions := by
  obtain ⟨sink,heard,reacts⟩ := leaves
  rw [tell_heard heard,reacts]
  simp only [react]
  cases subject? p with
  | none => exact List.Subset.refl _
  | some about =>
    obtain ⟨group,proximity,geofence,fromGroup,fromProximity,fromGeofence,eq⟩ :=
      unsubscribe_eq (e.noted sub p) sub
    simp only [eq]
    intro a member
    rw [mem_subscriptions] at member ⊢
    exact member.imp fromGroup.mem (.imp fromProximity.mem fromGeofence.mem)

theorem fewer_lasts (e : Engine) : Lasts fun f => f.Leaves ∧ f.subscriptions ⊆ e.subscriptions where
  tell sub p := fun ⟨leaves,fewer⟩ =>
    ⟨(tell_leaves sub p).mpr leaves,List.Subset.trans (tell_fewer leaves sub p) fewer⟩
  place _ _ holds := holds
  panic _ holds := holds

/-- Nothing of the extra subscription disturbs the application. -/
def Untroubled (extra : Subscription) (tellings : List Telling) : Prop :=
  ∀ t ∈ tellings, t.notice.subscription = some extra.id → ∀ sink, t.now.sink = some sink →
    disturbs sink.reaction t.notice.payload = false

/-- Acts for the other subscriptions do the same when those for the extra one are left out. What the
application ends must be told apart from the extra one; otherwise ids are enough. -/
theorem performAll_without {as : List Act} (takes : ¬now.Takes extra.id)
    (clear : now.Leaves → Clear extra now ∧ ∀ a ∈ as, a.sub = extra ∨ Apart a.sub extra)
    (calm : Untroubled extra (begun.tellingsIn now as)) :
    (now.without extra.id).performAll (as.filter (·.sub.id != extra.id)) =
      (now.performAll as).without extra.id := by
  induction as generalizing now with
  | nil => rfl
  | cons a as ih =>
    have takes' : ¬(now.perform a).2.Takes extra.id := by rwa [Takes,(perform_kept a).2]
    have clear' : (now.perform a).2.Leaves → Clear extra (now.perform a).2 ∧
        ∀ b ∈ as, b.sub = extra ∨ Apart b.sub extra := fun leaves =>
      have leaves : now.Leaves := by rwa [Leaves,(perform_kept a).2] at leaves
      ⟨(clear leaves).1.fewer ((fewer_lasts now).perform ⟨leaves,List.Subset.refl _⟩ a).2,
        fun b member => (clear leaves).2 b (List.mem_cons_of_mem _ member)⟩
    have rest := fun goes : (now.perform a).1 = false => ih takes' clear'
      fun t member => calm t (List.mem_append_right _ (by rw [goes]; exact member))
    by_cases own : a.sub.id = extra.id
    -- An act for the extra one goes on and changes nothing but what is forgotten.
    · have stands : now.Leaves → ∀ b ∈ now.subscriptions, b.standsFor a.sub = true →
          b.id = a.sub.id := fun leaves => by
        rcases (clear leaves).2 a (List.mem_cons_self ..) with same | apart
        · exact same ▸ (clear leaves).1.own
        · exact absurd own apart.id
      obtain ⟨goes,same⟩ := perform_own stands fun n offers sink hears =>
        calm ⟨begun,now,n⟩ (List.mem_append_left _ (by simp [offers]))
          ((event?_sub (event?_of_offered offers)).trans (congrArg some own)) sink hears
      rw [List.filter_cons_of_neg (by simp [own]),performAll,← own,← same,own]
      cases performed : now.perform a with
      | mk broken after =>
        rw [performed] at rest goes
        cases goes
        exact rest rfl
    · have stands : now.Leaves → ∀ b ∈ now.subscriptions, b.id = extra.id →
          b.standsFor a.sub = false := fun leaves => by
        rcases (clear leaves).2 a (List.mem_cons_self ..) with same | apart
        · exact absurd (congrArg Subscription.id same) own
        · exact (clear leaves).1.other apart
      rw [List.filter_cons_of_pos (by simp [own]),performAll,performAll,
        perform_without own takes stands]
      cases performed : now.perform a with
      | mk broken after =>
        rw [performed] at rest
        cases broken with
        | true => rfl
        | false => exact rest rfl

theorem flatMap_without {acts : Subscription → List Act}
    (fits : ∀ sub, ∀ a ∈ acts sub, a.sub = sub) (subs : List Subscription) :
    (subs.filter (·.id != id)).flatMap acts = (subs.flatMap acts).filter (·.sub.id != id) := by
  induction subs with
  | nil => rfl
  | cons sub subs ih =>
    rw [List.flatMap_cons,List.filter_append,← ih]
    by_cases own : sub.id = id
    · have none : (acts sub).filter (·.sub.id != id) = [] :=
        List.filter_eq_nil_iff.mpr fun a member => by simp [fits sub a member,own]
      rw [List.filter_cons_of_neg (by simp [own]),none,List.nil_append]
    · have all : (acts sub).filter (·.sub.id != id) = acts sub :=
        List.filter_eq_self.mpr fun a member => by simp [fits sub a member,own]
      rw [List.filter_cons_of_pos (by simp [own]),List.flatMap_cons,all]

/-- What follows from a fact for the other subscriptions follows without the extra one, too. -/
theorem acts_without (e : Engine) (id : SubscriptionId) (fact : Fact) :
    (e.without id).acts fact = (e.acts fact).filter (·.sub.id != id) := by
  have groups (event : Group → Option GroupEvent) (entity : Entity) :
      (e.without id).group.flatMap (groupActs event entity) =
        (e.group.flatMap (groupActs event entity)).filter (·.sub.id != id) := by
    refine flatMap_without (fun sub a member => ?_) e.group
    obtain ⟨_,_,_,_,rfl⟩ := mem_groupActs member
    rfl
  cases fact with
  | apart e1 e2 d =>
    simp only [acts]
    split
    · rfl
    · refine flatMap_without (fun sub a member => ?_) e.proximity
      obtain ⟨_,rfl⟩ := mem_apartActs member
      rfl
  | sees seer beacons =>
    refine flatMap_without (fun sub a member => ?_) e.geofence
    obtain ⟨_,_,_,_,_,_,rfl⟩ := mem_seesActs member
    rfl
  | around e1 e2 d =>
    refine flatMap_without (fun sub a member => ?_) e.geofence
    obtain ⟨_,_,_,_,_,_,rfl⟩ := mem_aroundActs member
    rfl
  | changed entity old => exact groups _ _
  | arrived entity =>
    have self : (e.without id).self = e.self := rfl
    simp only [acts,self]
    split
    · rfl
    · exact groups _ _
  | left entity => exact groups _ _

theorem evaluateAll_without {facts : List Fact} (takes : ¬e.Takes extra.id)
    (clear : e.Leaves → Clear extra e) (calm : Untroubled extra (e.tellings facts)) :
    (e.without extra.id).evaluateAll facts = (e.evaluateAll facts).without extra.id := by
  induction facts generalizing e with
  | nil => rfl
  | cons fact facts ih =>
    have kept := (performAll_kept (e := e) (e.acts fact)).2
    have registered : e.Leaves → Clear extra e ∧
        ∀ a ∈ e.acts fact, a.sub = extra ∨ Apart a.sub extra :=
      fun leaves => ⟨clear leaves,fun a follows => clear leaves _ (acts_fit e fact a follows).1⟩
    have first := performAll_without takes registered fun t member =>
      calm t (List.mem_append_left _ member)
    rw [evaluateAll_cons,evaluateAll_cons,evaluate,acts_without,first]
    refine ih (by rwa [Takes,kept]) (fun leaves => ?_) fun t member =>
      calm t (List.mem_append_right _ member)
    have leaves : e.Leaves := by rwa [Leaves,kept] at leaves
    exact (clear leaves).fewer ((fewer_lasts e).performAll ⟨leaves,List.Subset.refl _⟩ _).2

/-! ## One operation -/

theorem enrolled_without (other : sub.id ≠ id) :
    (e.enrolled sub).without id = (e.without id).enrolled sub := by
  have placed := congrArg Engine.inside (place_without (e := e) other .empty)
  simp only [without,place] at placed
  obtain ⟨own,watch⟩ := sub
  cases watch <;> simp [enrolled,without,place,other,placed]

theorem enrolled_own (e : Engine) (sub : Subscription) :
    (e.enrolled sub).without sub.id = e.without sub.id := by
  have placed := congrArg Engine.inside (place_own e sub.id .empty)
  simp only [without,place] at placed
  obtain ⟨own,watch⟩ := sub
  cases watch <;> simp [enrolled,without,place,placed]

/-- A call that is admitted beside the extra subscription is admitted without it, and one that is
refused beside it is refused without it, unless it is for the number of geofences. -/
theorem objects_without (room : ¬e.Objects op .numberLimitExceeded) (id : SubscriptionId)
    (why : ErrorEvent) : (e.without id).Objects op why ↔ e.Objects op why := by
  constructor
  · intro objects
    cases objects with
    | distance loose => exact .distance loose
    | geofence loose => exact .geofence loose
    | full anchored full => exact .full anchored (Nat.le_trans full (List.length_filter_le ..))
  · intro objects
    cases objects with
    | distance loose => exact .distance loose
    | geofence loose => exact .geofence loose
    | full anchored full => exact absurd (.full anchored full) room

/-- An operation that has nothing to do with an extra subscription, which does not disturb it. -/
structure Spares (extra : Subscription) (e : Engine) (op : Operation) : Prop where
  clear : Clear extra e
  /-- Ids of subscriptions are used once, by calls and by the application. -/
  fresh : ∀ sub, op.subscription? = some sub → sub.id ≠ extra.id
  takes : ¬e.Takes extra.id
  ends : ∀ s, op = .unsubscribe s → extra.standsFor s = false
  /-- No geofence is refused for their number. -/
  room : ¬e.Objects op .numberLimitExceeded
  calm : Untroubled extra (e.tellings (e.facts op))

theorem Spares.subscribe_without (spares : Spares extra e op) (makes : op.subscription? = some sub) :
    (e.without extra.id).apply op = ((e.apply op).1,(e.apply op).2.without extra.id) := by
  have other := spares.fresh sub makes
  have here := subscribing e makes
  have there := subscribing (e.without extra.id) makes
  have objects := objects_without spares.room extra.id
  by_cases admitted : ∀ why, ¬e.Objects op why
  · rw [here.accepted admitted,there.accepted fun why => mt (objects why).mp (admitted why),
      enrolled_without other]
  · obtain ⟨why,refused⟩ := not_forall_not.mp admitted
    rw [here.refused why refused,there.refused why ((objects why).mpr refused)]
    by_cases heard : e.sink.isSome = true <;> simp [without,heard,other]

/-- Forgetting the extra subscription before an operation or after it makes no difference. -/
theorem Spares.apply_without (spares : Spares extra e op) :
    (e.without extra.id).apply op = ((e.apply op).1,(e.apply op).2.without extra.id) := by
  by_cases direct : op.direct = true
  · cases op <;> simp only [Operation.direct,Bool.false_eq_true] at direct
    case trackDistance => exact spares.subscribe_without rfl
    case trackGeofence => exact spares.subscribe_without rfl
    case trackGroup => exact spares.subscribe_without rfl
    case unsubscribe s =>
      have apart : ∀ a ∈ e.subscriptions, a.id = extra.id → a.standsFor s = false := by
        intro a member same
        rcases spares.clear a member with rfl | other
        · exact spares.ends s rfl
        · exact absurd same other.id
      simp only [apply,unsubscribe_without apart]
    case crossRegion name entered =>
      have pois : (e.without extra.id).pois = e.pois := rfl
      have sink : (e.without extra.id).sink = e.sink := rfl
      simp only [apply,crossRegion,pois]
      cases e.pois.find? (·.name == name) with
      | none => rfl
      | some place =>
        simp only [tellPoi,sink]
        split
        · simp [without]
        · rfl
    case setSink sink => rfl
  · have indirect := Bool.eq_false_iff.mpr direct
    have evaluated := evaluateAll_without spares.takes (fun _ => spares.clear) spares.calm
    exact apply_commutes (h := (·.without extra.id)) (fun _ _ => rfl) indirect evaluated

/-! ## Runs -/

/-- A run that differs from another one by what is done about one extra subscription: at any time
it is registered, or ended by what stands for no other one. -/
inductive Extended (extra : Subscription) : Engine → List Operation → List Operation → Prop where
  | nil {e : Engine} : Extended extra e [] []
  | shared {e : Engine} {op : Operation} {ops all : List Operation} (spares : Spares extra e op)
    (rest : Extended extra (e.apply op).2 ops all) : Extended extra e (op :: ops) (op :: all)
  | registered {e : Engine} {op : Operation} {ops all : List Operation}
    (makes : op.subscription? = some extra) (rest : Extended extra (e.apply op).2 ops all) :
    Extended extra e ops (op :: all)
  | ended {e : Engine} {s : Subscription} {ops all : List Operation}
    (only : ∀ a ∈ e.subscriptions, a.standsFor s = true → a = extra)
    (rest : Extended extra (e.apply (.unsubscribe s)).2 ops all) :
    Extended extra e ops (.unsubscribe s :: all)

theorem registered_without (makes : op.subscription? = some extra) :
    (e.apply op).2.without extra.id = e.without extra.id := by
  have call := subscribing e makes
  by_cases admitted : ∀ why, ¬e.Objects op why
  · rw [call.accepted admitted]
    exact enrolled_own e extra
  · obtain ⟨why,refused⟩ := not_forall_not.mp admitted
    rw [call.refused why refused]
    by_cases heard : e.sink.isSome = true <;> simp [without,heard]

theorem Extended.after_without {ops all : List Operation} (extended : Extended extra e ops all) :
    (e.after all).without extra.id = (e.without extra.id).after ops := by
  induction extended with
  | nil => rfl
  | shared spares _ ih => rw [after_cons,after_cons,spares.apply_without,ih]
  | registered makes _ ih => rw [after_cons,ih,registered_without makes]
  | ended only _ ih =>
    have own := fun a member stands => congrArg Subscription.id (only a member stands)
    rw [after_cons,ih]
    exact congrArg (fun f : Engine => f.after _) (unsubscribe_own own)

/-- Every moment of the longer run is one of the shorter run. -/
theorem Extended.upto {ops all upto : List Operation} (extended : Extended extra e ops all)
    (earlier : upto <+: all) : ∃ sofar, sofar <+: ops ∧ Extended extra e sofar upto := by
  induction extended generalizing upto with
  | nil =>
    obtain rfl := List.prefix_nil.mp earlier
    exact ⟨[],List.prefix_rfl,.nil⟩
  | @shared e op ops all spares _ ih =>
    cases upto with
    | nil => exact ⟨[],List.nil_prefix,.nil⟩
    | cons first upto =>
      obtain ⟨rfl,sooner⟩ := List.cons_prefix_cons.mp earlier
      obtain ⟨sofar,starts,extended⟩ := ih sooner
      exact ⟨first :: sofar,List.cons_prefix_cons.mpr ⟨rfl,starts⟩,.shared spares extended⟩
  | registered makes _ ih =>
    cases upto with
    | nil => exact ⟨[],List.nil_prefix,.nil⟩
    | cons first upto =>
      obtain ⟨rfl,sooner⟩ := List.cons_prefix_cons.mp earlier
      obtain ⟨sofar,starts,extended⟩ := ih sooner
      exact ⟨sofar,starts,.registered makes extended⟩
  | ended only _ ih =>
    cases upto with
    | nil => exact ⟨[],List.nil_prefix,.nil⟩
    | cons first upto =>
      obtain ⟨rfl,sooner⟩ := List.cons_prefix_cons.mp earlier
      obtain ⟨sofar,starts,extended⟩ := ih sooner
      exact ⟨sofar,starts,.ended only extended⟩

/-- A node, and one that holds an extra subscription and is the same in all other respects. -/
structure Alike (extra : SubscriptionId) (e f : Engine) : Prop where
  told : ∀ id ≠ extra, f.toldOf id = e.toldOf id
  inside : ∀ id ≠ extra, f.inside id = e.inside id
  registered : f.subscriptions.filter (·.id != extra) = e.subscriptions
  transport : f.transport = e.transport
  timers : f.timers = e.timers
  query : f.query = e.query
  completed : f.completed = e.completed
  cache : f.cache = e.cache
  visibility : f.visibility = e.visibility
  scans : f.scans = e.scans
  self : f.self = e.self
  stopped : f.stopped = e.stopped

theorem toldOf_without {other : SubscriptionId} (apart : other ≠ id) :
    (e.without id).toldOf other = e.toldOf other := by
  have both : ∀ n : Notice, (decide (n.subscription = some other) && (n.subscription != some id)) =
      decide (n.subscription = some other) := by
    intro n
    by_cases named : n.subscription = some other <;> simp [named,apart]
  simp [toldOf,delivered,without,List.filter_reverse,List.filter_filter,both]

theorem alike_without (f : Engine) (id : SubscriptionId) : Alike id (f.without id) f := by
  constructor
  case told => exact fun other apart => (toldOf_without apart).symm
  case inside => exact fun other apart => (if_neg apart).symm
  case registered => exact (subscriptions_without f id).symm
  all_goals rfl

/-- Subscriptions do not interfere with each other. Beside an extra one, the others are told the
same and track the same participants at every moment, and the node does the same. -/
theorem subscriptions_side_by_side {self : Entity} {config : Config}
    (started : start self config = .ok e) {ops all : List Operation}
    (extended : Extended extra e ops all) : Alike extra.id (e.after ops) (e.after all) ∧
    ∀ upto, upto <+: all → ∃ sofar, sofar <+: ops ∧ Extended extra e sofar upto ∧
      Alike extra.id (e.after sofar) (e.after upto) := by
  have nothing : e.without extra.id = e := by
    rw [start] at started
    split at started
    · cases started
    · cases started
      simp [without]
  have alike : ∀ {ops all}, Extended extra e ops all →
      Alike extra.id (e.after ops) (e.after all) := by
    intro ops all extended
    rw [← nothing,← extended.after_without,nothing]
    exact alike_without (e.after all) extra.id
  refine ⟨alike extended,fun upto earlier => ?_⟩
  obtain ⟨sofar,starts,extended⟩ := extended.upto earlier
  exact ⟨sofar,starts,extended,alike extended⟩

/-- An application that only listens is not disturbed by anything. -/
theorem Spares.listening (listens : ∀ sink, e.sink = some sink → sink.reaction = .pass)
    (clear : Clear extra e) (fresh : ∀ sub, op.subscription? = some sub → sub.id ≠ extra.id)
    (ends : ∀ s, op = .unsubscribe s → extra.standsFor s = false)
    (room : ¬e.Objects op .numberLimitExceeded) : Spares extra e op := by
  refine ⟨clear,fresh,?_,ends,room,?_⟩
  · rintro ⟨sink,first,_,heard,reacts,_⟩
    cases (listens sink heard).symm.trans reacts
  · intro t member _ sink hears
    obtain ⟨_,_,begun,told⟩ := mem_tellings member
    have reacts := listens sink (begun ▸ (mem_tellingsIn told).2.1 ▸ hears)
    cases about : subject? t.notice.payload <;> simp [disturbs,about,reacts]

/-- A wide geofence around a beacon, and a narrow one. -/
def wide : Subscription := ⟨.ofNat 1,.geofence lamp (.everyone "all") .far⟩

def narrow : Subscription := ⟨.ofNat 2,.geofence lamp (.everyone "all") .near⟩

def narrowOnly : List Operation := [
  .setSink (some .recorder),.trackGeofence (.ofNat 2) lamp (.everyone "all") .near,wavering]

def narrowAndWide : List Operation := [
  .setSink (some .recorder),.trackGeofence (.ofNat 1) lamp (.everyone "all") .far,
  .trackGeofence (.ofNat 2) lamp (.everyone "all") .near,wavering,.unsubscribe wide]

theorem narrow_apart_wide : Apart narrow wide := ⟨by decide,by decide,by decide⟩

theorem subscriptions_side_by_side_wavering : ∃ e, start watcher .standard = .ok e ∧
    Extended wide e narrowOnly narrowAndWide ∧
    ((e.after narrowAndWide).toldOf narrow.id).length = 2 ∧
    ((e.after narrowAndWide).toldOf wide.id).length = 1 ∧
    Alike wide.id (e.after narrowOnly) (e.after narrowAndWide) := by
  have started : start watcher .standard = .ok _ := rfl
  have extended : ∀ {e}, start watcher .standard = .ok e →
      Extended wide e narrowOnly narrowAndWide := by
    intro e started
    cases started
    have one : ∀ a ∈ [wide], a = wide ∨ Apart a wide := by simp
    have two : ∀ a ∈ [wide,narrow], a = wide ∨ Apart a wide := by simp [narrow_apart_wide]
    refine .shared (.listening ?_ (fun a member => by cases member) ?_ ?_ ?_) (.registered rfl
      (.shared (.listening ?_ one ?_ ?_ ?_)
      (.shared (.listening ?_ two ?_ ?_ ?_) (.ended (s := wide) ?_ .nil))))
    -- that the application only listens, ids are fresh, no others end, and there is room
    · exact fun sink heard => by cases heard
    · exact fun sub makes => by cases makes
    · exact fun s same => by cases same
    · exact fun full => by cases full
    · exact fun sink heard => by cases heard; rfl
    · exact fun sub makes => by cases makes; decide
    · exact fun s same => by cases same
    · exact fun crowded => by cases crowded with | full _ full => exact absurd full (by decide)
    · exact fun sink heard => by cases heard; rfl
    · exact fun sub makes => by cases makes
    · exact fun s same => by cases same
    · exact fun full => by cases full
    · intro a member stands
      rcases two a member with same | apart
      · exact same
      · simp [apart.standsFor] at stands
  exact ⟨_,started,extended started,rfl,rfl,(subscriptions_side_by_side started (extended started)).1⟩

/-- A panic over an event of one subscription keeps the same fact from another one. -/
theorem panic_couples : ∃ e, start watcher .standard = .ok e ∧
    let panics : Operation := .setSink (some ⟨false,.panicOver visitor.id⟩)
    let arrives : Operation := .hear ⟨visitor.id,"log",.checkIn visitor⟩
    let extra : Subscription := ⟨.ofNat 1,.group (.everyone "extra")⟩
    let other : Subscription := ⟨.ofNat 2,.group (.everyone "other")⟩
    let watches : Subscription → Operation := fun sub => .trackGroup sub.id sub.watch.groups.1
    Apart other extra ∧
    ((e.after [panics,watches other,arrives]).toldOf other.id).length = 1 ∧
    ((e.after [panics,watches extra,watches other,arrives]).toldOf other.id).length = 0 :=
  ⟨_,rfl,⟨by decide,by decide,by decide⟩,rfl,rfl⟩

end Vicinity.Engine
