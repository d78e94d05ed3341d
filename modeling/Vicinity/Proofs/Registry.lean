import Vicinity.Proofs.Engine.Amid
import Vicinity.Proofs.Engine.Persona
import Vicinity.Proofs.Engine.Tellings
import Vicinity.Proofs.Geofence

/-! The registries over whole runs. They hold subscriptions of their own kinds around participants
that the node can watch, each call that subscribes adds one entry or says why not, an
unsubscription takes one out, and events of evaluations are for entries. -/
namespace Vicinity.Engine

variable {e f : Engine} {op : Operation} {sub s : Subscription} {anchor center : Entity}

/-- A participant that a node can watch around: a beacon, or the node itself. -/
def Anchored (e : Engine) (anchor : Entity) : Prop :=
  anchor.type = .beacon ∨ anchor.id = e.self.id

theorem canAnchor_iff : e.canAnchor anchor = true ↔ e.Anchored anchor := by
  simp [canAnchor,Anchored,Entity.isBeacon,Entity.same]

/-! ## What the registries hold -/

structure Ordered (e : Engine) : Prop where
  proximity : ∀ sub ∈ e.proximity, ∃ anchor others,
    sub.watch = .proximity (.single anchor) others ∧ e.Anchored anchor
  geofence : ∀ sub ∈ e.geofence, ∃ center members radius,
    sub.watch = .geofence center members radius ∧ e.Anchored center
  group : ∀ sub ∈ e.group, ∃ members, sub.watch = .group members
  limited : e.geofence.length ≤ e.config.geofenceLimit

theorem Ordered.fewer (ordered : Ordered e) (self : f.self.id = e.self.id)
    (config : f.config = e.config) (proximity : f.proximity.Sublist e.proximity)
    (geofence : f.geofence.Sublist e.geofence) (group : f.group.Sublist e.group) : Ordered f := by
  constructor
  case proximity =>
    intro sub member
    simp only [Anchored,self]
    exact ordered.proximity sub (proximity.mem member)
  case geofence =>
    intro sub member
    simp only [Anchored,self]
    exact ordered.geofence sub (geofence.mem member)
  case group => exact fun sub member => ordered.group sub (group.mem member)
  case limited =>
    rw [config]
    exact Nat.le_trans geofence.length_le ordered.limited

theorem Ordered.same (ordered : Ordered e) (self : f.self.id = e.self.id)
    (config : f.config = e.config) (proximity : f.proximity = e.proximity)
    (geofence : f.geofence = e.geofence) (group : f.group = e.group) : Ordered f :=
  ordered.fewer self config (proximity ▸ .refl _) (geofence ▸ .refl _) (group ▸ .refl _)

theorem Ordered.unsubscribe (ordered : Ordered e) (s : Subscription) :
    Ordered (e.unsubscribe s).2 := by
  obtain ⟨group,proximity,geofence,fromGroup,fromProximity,fromGeofence,eq⟩ := unsubscribe_eq e s
  rw [eq]
  exact ordered.fewer rfl rfl fromProximity fromGeofence fromGroup

theorem Ordered.trackGroup (ordered : Ordered e) (id : SubscriptionId) (members : Group) :
    Ordered (e.trackGroup id members).2 := by
  refine ⟨ordered.proximity,ordered.geofence,fun sub member => ?_,ordered.limited⟩
  rcases List.mem_append.mp member with old | new
  · exact ordered.group sub old
  · obtain rfl := List.mem_singleton.mp new
    exact ⟨members,rfl⟩

theorem Ordered.tell (ordered : Ordered e) (sub : Subscription) (p : Payload) :
    Ordered (e.tell sub p).2 := by
  have noted : Ordered (e.noted sub p) := ordered.same rfl rfl rfl rfl rfl
  have ensues := tell_ensues e sub p
  generalize (e.tell sub p).2 = after at ensues ⊢
  cases ensues with
  | unheard => exact ordered
  | noted => exact noted
  | left => exact noted.unsubscribe sub
  | @followed _ first =>
    exact (noted.trackGroup (first.add e.followed) sub.watch.groups.1).same rfl rfl rfl rfl rfl

theorem ordered_lasts : Lasts Ordered where
  tell sub p ordered := ordered.tell sub p
  place _ _ ordered := ordered.same rfl rfl rfl rfl rfl
  panic _ ordered := ordered.same rfl rfl rfl rfl rfl

/-! ## Calls that subscribe -/

/-- Why a call that subscribes is refused. -/
inductive Objects (e : Engine) : Operation → ErrorEvent → Prop where
  | distance {id : SubscriptionId} {anchor : Entity} {others : Group}
    (loose : ¬e.Anchored anchor) : Objects e (.trackDistance id anchor others) .notValid
  | geofence {id : SubscriptionId} {center : Entity} {members : Group} {radius : Distance}
    (loose : ¬e.Anchored center) : Objects e (.trackGeofence id center members radius) .notValid
  | full {id : SubscriptionId} {center : Entity} {members : Group} {radius : Distance}
    (anchored : e.Anchored center) (full : e.config.geofenceLimit ≤ e.geofence.length) :
    Objects e (.trackGeofence id center members radius) .numberLimitExceeded

/-- A node with one more subscription, the last one of its kind; nobody is inside it yet. -/
def enrolled (e : Engine) (sub : Subscription) : Engine :=
  match sub.watch with
  | .proximity .. => { e.place sub.id .empty with proximity := e.proximity ++ [sub] }
  | .geofence .. => { e.place sub.id .empty with geofence := e.geofence ++ [sub] }
  | .group .. => { e.place sub.id .empty with group := e.group ++ [sub] }

/-- A call that subscribes adds its subscription, or says why not and does nothing else. -/
structure Subscribing (e : Engine) (op : Operation) (sub : Subscription) : Prop where
  accepted : (∀ why, ¬e.Objects op why) → e.apply op = (.subscription (some sub),e.enrolled sub)
  refused : ∀ why, e.Objects op why → e.apply op = (.subscription none,
    { e with told := (if e.sink.isSome then [⟨some sub.id,.error why⟩] else []) ++ e.told })

theorem subscribing (e : Engine) (makes : op.subscription? = some sub) : Subscribing e op sub := by
  cases op <;> cases makes
  case trackDistance id anchor others =>
    constructor
    · intro admitted
      have anchored : e.canAnchor anchor = true :=
        canAnchor_iff.mpr (by by_contra loose; exact admitted _ (.distance loose))
      simp [apply,trackDistance,anchored,enrolled]
    · intro why objects
      cases objects with
      | distance loose =>
        have loose : e.canAnchor anchor = false := by simpa [← canAnchor_iff] using loose
        simp [apply,trackDistance,loose,refuse_eq]
  case trackGeofence id center members radius =>
    constructor
    · intro admitted
      have anchored : e.Anchored center := by
        by_contra loose
        exact admitted _ (.geofence loose)
      have room : ¬e.config.geofenceLimit ≤ e.geofence.length :=
        fun full => admitted _ (.full anchored full)
      simp [apply,trackGeofence,canAnchor_iff.mpr anchored,room,enrolled]
    · intro why objects
      cases objects with
      | geofence loose =>
        have loose : e.canAnchor center = false := by simpa [← canAnchor_iff] using loose
        simp [apply,trackGeofence,loose,refuse_eq]
      | full anchored full =>
        simp [apply,trackGeofence,canAnchor_iff.mpr anchored,full,refuse_eq]
  case trackGroup id members =>
    exact ⟨fun _ => rfl,fun why objects => by cases objects⟩

theorem Ordered.subscribing (ordered : Ordered e) (makes : op.subscription? = some sub) :
    Ordered (e.apply op).2 := by
  have call := Engine.subscribing e makes
  by_cases admitted : ∀ why, ¬e.Objects op why
  case neg =>
    obtain ⟨why,objects⟩ := not_forall_not.mp admitted
    rw [call.refused why objects]
    exact ordered.same rfl rfl rfl rfl rfl
  case pos =>
    rw [call.accepted admitted]
    cases op <;> simp only [Operation.subscription?,Option.some.injEq,reduceCtorEq] at makes <;>
      subst makes
    case trackDistance id anchor others =>
      refine ⟨fun sub member => ?_,ordered.geofence,ordered.group,ordered.limited⟩
      rcases List.mem_append.mp member with old | new
      · exact ordered.proximity sub old
      · obtain rfl := List.mem_singleton.mp new
        refine ⟨anchor,others,rfl,?_⟩
        by_contra loose
        exact admitted _ (.distance loose)
    case trackGeofence id center members radius =>
      have anchored : e.Anchored center := by
        by_contra loose
        exact admitted _ (.geofence loose)
      refine ⟨ordered.proximity,fun sub member => ?_,ordered.group,?_⟩
      · rcases List.mem_append.mp member with old | new
        · exact ordered.geofence sub old
        · obtain rfl := List.mem_singleton.mp new
          exact ⟨center,members,radius,rfl,anchored⟩
      · by_contra crowded
        refine admitted _ (.full anchored ?_)
        simp only [enrolled,List.length_append,List.length_singleton] at crowded
        exact Nat.lt_succ_iff.mp (Nat.not_le.mp crowded)
    case trackGroup id members => exact ordered.trackGroup id members

/-! ## Unsubscriptions -/

theorem Watch.sameKey_group {members : Group} {w : Watch}
    (same : (Watch.group members).sameKey w = true) : ∃ other, w = .group other := by
  cases w <;> simp [Watch.sameKey] at same ⊢

theorem Watch.sameKey_proximity {a b : Group} {w : Watch}
    (same : (Watch.proximity a b).sameKey w = true) : ∃ c d, w = .proximity c d := by
  cases w <;> simp [Watch.sameKey] at same ⊢

theorem Watch.sameKey_geofence {members : Group} {radius : Distance} {w : Watch}
    (same : (Watch.geofence center members radius).sameKey w = true) :
    ∃ c m r, w = .geofence c m r := by
  cases w <;> simp [Watch.sameKey] at same ⊢

/-- What bears the id of a subscription watches the same. -/
def Authentic (e : Engine) (s : Subscription) : Prop :=
  ∀ sub ∈ e.subscriptions, sub.id = s.id → sub.watch.sameKey s.watch = true

/-- An unsubscription takes out the first entry that is equal by what it watches, and tells
whether there is one. -/
structure Unsubscribing (e : Engine) (s : Subscription) : Prop where
  reply : (e.apply (.unsubscribe s)).1 = .flag (e.subscriptions.any (·.watch.sameKey s.watch))
  kinds : (e.apply (.unsubscribe s)).2 = { e with
    proximity := e.proximity.eraseP (·.watch.sameKey s.watch)
    geofence := e.geofence.eraseP (·.watch.sameKey s.watch)
    group := e.group.eraseP (·.watch.sameKey s.watch) }
  one : (e.apply (.unsubscribe s)).2.subscriptions =
    e.subscriptions.eraseP (·.watch.sameKey s.watch)

theorem unsubscribe_first (e : Engine) (s : Subscription) : e.unsubscribe s =
    if e.group.any (·.standsFor s) then
      (true,{ e with group := e.group.eraseP (·.standsFor s) })
    else if e.proximity.any (·.standsFor s) then
      (true,{ e with proximity := e.proximity.eraseP (·.standsFor s) })
    else if e.geofence.any (·.standsFor s) then
      (true,{ e with geofence := e.geofence.eraseP (·.standsFor s) })
    else (false,e) := by
  rw [unsubscribe,removeFirst_eq,removeFirst_eq,removeFirst_eq]
  by_cases inGroup : e.group.any (·.standsFor s) = true
  · rw [if_pos inGroup,if_pos inGroup]
  rw [if_neg inGroup,if_neg inGroup]
  by_cases inProximity : e.proximity.any (·.standsFor s) = true
  · rw [if_pos inProximity,if_pos inProximity]
  rw [if_neg inProximity,if_neg inProximity]
  by_cases inGeofence : e.geofence.any (·.standsFor s) = true
  · rw [if_pos inGeofence,if_pos inGeofence]
  · rw [if_neg inGeofence,if_neg inGeofence]

theorem eraseP_none {p : Subscription → Bool} {subs : List Subscription}
    (none : subs.any p = false) : subs.eraseP p = subs :=
  List.eraseP_of_forall_not fun sub member holds =>
    Bool.eq_false_iff.mp none (List.any_eq_true.mpr ⟨sub,member,holds⟩)

/-- The registries are searched in the order in which they are listed. -/
theorem unsubscribe_listed (e : Engine) (s : Subscription) :
    (e.unsubscribe s).1 = e.subscriptions.any (·.standsFor s) ∧
    (e.unsubscribe s).2.subscriptions = e.subscriptions.eraseP (·.standsFor s) := by
  simp only [unsubscribe_first,subscriptions,List.any_append,List.eraseP_append]
  cases e.group.any (·.standsFor s) <;> cases e.proximity.any (·.standsFor s) <;>
    cases inGeofence : e.geofence.any (·.standsFor s) <;> try exact ⟨rfl,rfl⟩
  exact ⟨rfl,congrArg (_ ++ ·) (eraseP_none inGeofence).symm⟩

theorem eraseP_congr {p q : Subscription → Bool} {subs : List Subscription}
    (agree : ∀ sub ∈ subs, p sub = q sub) : subs.any p = subs.any q ∧ subs.eraseP p = subs.eraseP q := by
  induction subs with
  | nil => exact ⟨rfl,rfl⟩
  | cons sub subs ih =>
    obtain ⟨any,erased⟩ := ih fun other member => agree other (List.mem_cons_of_mem _ member)
    simp only [List.any_cons,List.eraseP_cons,agree sub (List.mem_cons_self ..),any,erased,and_self]

/-- What is equal to an entry is of the kind of the entry, so one list at most has such entries. -/
theorem Ordered.any_kind (ordered : Ordered e) (w : Watch) :
    (e.group.any (·.watch.sameKey w) = true → e.proximity.any (·.watch.sameKey w) = false) ∧
    (e.group.any (·.watch.sameKey w) = true → e.geofence.any (·.watch.sameKey w) = false) ∧
    (e.proximity.any (·.watch.sameKey w) = true → e.geofence.any (·.watch.sameKey w) = false) := by
  have ofGroup : e.group.any (·.watch.sameKey w) = true → ∃ members, w = .group members := by
    intro some
    obtain ⟨sub,member,same⟩ := List.any_eq_true.mp some
    obtain ⟨members,watch⟩ := ordered.group sub member
    exact Watch.sameKey_group (watch ▸ same)
  have ofProximity : e.proximity.any (·.watch.sameKey w) = true → ∃ a b, w = .proximity a b := by
    intro some
    obtain ⟨sub,member,same⟩ := List.any_eq_true.mp some
    obtain ⟨anchor,others,watch,_⟩ := ordered.proximity sub member
    exact Watch.sameKey_proximity (watch ▸ same)
  have ofGeofence : e.geofence.any (·.watch.sameKey w) = true → ∃ c m r, w = .geofence c m r := by
    intro some
    obtain ⟨sub,member,same⟩ := List.any_eq_true.mp some
    obtain ⟨center,members,radius,watch,_⟩ := ordered.geofence sub member
    exact Watch.sameKey_geofence (watch ▸ same)
  refine ⟨fun here => ?_,fun here => ?_,fun here => ?_⟩ <;> refine Bool.eq_false_iff.mpr fun there => ?_
  · obtain ⟨_,rfl⟩ := ofGroup here
    obtain ⟨_,_,other⟩ := ofProximity there
    cases other
  · obtain ⟨_,rfl⟩ := ofGroup here
    obtain ⟨_,_,_,other⟩ := ofGeofence there
    cases other
  · obtain ⟨_,_,rfl⟩ := ofProximity here
    obtain ⟨_,_,_,other⟩ := ofGeofence there
    cases other

theorem Ordered.unsubscribing (ordered : Ordered e) (authentic : e.Authentic s) :
    Unsubscribing e s := by
  have stands : ∀ sub ∈ e.subscriptions, sub.standsFor s = sub.watch.sameKey s.watch := by
    intro sub registered
    by_cases same : sub.id = s.id
    · simp [Subscription.standsFor,authentic sub registered same]
    · simp [Subscription.standsFor,same]
  obtain ⟨found,erased⟩ := unsubscribe_listed e s
  rw [(eraseP_congr stands).1] at found
  rw [(eraseP_congr stands).2] at erased
  refine ⟨congrArg Reply.flag found,?_,erased⟩
  have group := eraseP_congr fun sub member => stands sub (mem_subscriptions.mpr (.inl member))
  have proximity := eraseP_congr fun sub member =>
    stands sub (mem_subscriptions.mpr (.inr (.inl member)))
  have geofence := eraseP_congr fun sub member =>
    stands sub (mem_subscriptions.mpr (.inr (.inr member)))
  obtain ⟨groupProximity,groupGeofence,proximityGeofence⟩ := ordered.any_kind s.watch
  simp only [apply,unsubscribe_first]
  rw [group.1,group.2,proximity.1,proximity.2,geofence.1,geofence.2]
  split
  next inGroup => rw [eraseP_none (groupProximity inGroup),eraseP_none (groupGeofence inGroup)]
  next outGroup =>
  rw [eraseP_none (Bool.eq_false_iff.mpr outGroup)]
  split
  next inProximity => rw [eraseP_none (proximityGeofence inProximity)]
  next outProximity =>
  rw [eraseP_none (Bool.eq_false_iff.mpr outProximity)]
  split
  next inGeofence => rfl
  next outGeofence => rw [eraseP_none (Bool.eq_false_iff.mpr outGeofence)]

/-! ## Calls of the application -/

theorem refuse_evaluations (e : Engine) (sub : Subscription) {why : ErrorEvent}
    (refusal : (Payload.error why).evaluated = false) :
    (e.refuse sub why).evaluations = e.evaluations := by
  rw [refuse_eq]
  split <;> simp [evaluations,delivered,refusal]

/-- By itself, a call of the application tells of no evaluation, and it lets nobody in or out of a
geofence that was there before. -/
theorem apply_direct (direct : op.direct = true) : (e.apply op).2.evaluations = e.evaluations ∧
    ∀ id, (∀ sub, op.subscription? = some sub → sub.id ≠ id) →
      (e.apply op).2.inside id = e.inside id := by
  have placed : ∀ own sub, op.subscription? = some sub → sub.id = own → ∀ id,
      (∀ sub, op.subscription? = some sub → sub.id ≠ id) →
      (e.place own .empty).inside id = e.inside id :=
    fun own sub asked same id fresh => if_neg fun other => fresh sub asked (same.trans other.symm)
  cases op <;> simp only [Operation.direct,Bool.false_eq_true] at direct
  case trackDistance own anchor others =>
    simp only [apply,trackDistance]
    split
    · exact ⟨refuse_evaluations e _ rfl,fun id _ => by rw [refuse_eq]⟩
    · exact ⟨rfl,placed own _ rfl rfl⟩
  case trackGeofence own anchor members radius =>
    simp only [apply,trackGeofence]
    split
    · exact ⟨refuse_evaluations e _ rfl,fun id _ => by rw [refuse_eq]⟩
    split
    · exact ⟨refuse_evaluations e _ rfl,fun id _ => by rw [refuse_eq]⟩
    · exact ⟨rfl,placed own _ rfl rfl⟩
  case trackGroup own members => exact ⟨rfl,placed own _ rfl rfl⟩
  case unsubscribe sub =>
    obtain ⟨group,proximity,geofence,_,_,_,eq⟩ := unsubscribe_eq e sub
    rw [show (e.apply (.unsubscribe sub)).2 = _ from eq]
    exact ⟨rfl,fun _ _ => rfl⟩
  case crossRegion name entered =>
    simp only [apply,crossRegion,tellPoi]
    split
    · exact ⟨rfl,fun _ _ => rfl⟩
    split
    · exact ⟨by simp [evaluations,delivered,Payload.evaluated],fun _ _ => rfl⟩
    · exact ⟨rfl,fun _ _ => rfl⟩
  case setSink sink => exact ⟨rfl,fun _ _ => rfl⟩

/-! ## Operations -/

theorem Ordered.apply (ordered : Ordered e) (sound : e.Sound) (op : Operation) :
    Ordered (e.apply op).2 := by
  by_cases direct : op.direct = true
  · cases op <;> simp only [Operation.direct,Bool.false_eq_true] at direct
    case trackDistance => exact ordered.subscribing rfl
    case trackGeofence => exact ordered.subscribing rfl
    case trackGroup => exact ordered.subscribing rfl
    case unsubscribe s => exact ordered.unsubscribe s
    case crossRegion name entered =>
      simp only [Engine.apply,crossRegion,tellPoi]
      split
      · exact ordered
      split
      · exact ordered.same rfl rfl rfl rfl rfl
      · exact ordered
    case setSink sink => exact ordered.same rfl rfl rfl rfl rfl
  · have agree := apply_agree (e := e) (Bool.eq_false_iff.mpr direct)
    have evaluated := ordered_lasts.evaluateAll ordered (e.facts op)
    have self : (e.evaluateAll (e.facts op)).self = e.self := (evaluateAll_kept _).1
    have config : (e.evaluateAll (e.facts op)).config = e.config :=
      (congrArg Engine.config (evaluateAll_aside e (e.facts op))).symm
    exact evaluated.same ((id_apply e op).trans (congrArg Entity.id self.symm))
      ((sound.config_apply op).trans config.symm) agree.proximity agree.geofence agree.group

theorem Ordered.after (ordered : Ordered e) (sound : e.Sound) (ops : List Operation) :
    Ordered (e.after ops) := by
  induction ops generalizing e with
  | nil => exact ordered
  | cons op ops ih => exact ih (ordered.apply sound op) (sound.apply op)

/-- What the application is told of evaluations in an operation. -/
theorem evaluations_apply (e : Engine) (op : Operation) : (e.apply op).2.evaluations =
    e.evaluations ++ (e.tellings (e.facts op)).map (·.notice) := by
  by_cases direct : op.direct = true
  · rw [(apply_direct direct).1,facts_direct direct]
    simp [tellings]
  · have told := (apply_agree (e := e) (Bool.eq_false_iff.mpr direct)).told
    have evaluated : ((e.tellings (e.facts op)).map (·.notice)).filter (·.payload.evaluated) =
        (e.tellings (e.facts op)).map (·.notice) := by
      apply List.filter_eq_self.mpr
      intro n member
      obtain ⟨t,tells,rfl⟩ := List.mem_map.mp member
      obtain ⟨_,_,_,evaluated,_⟩ := tellings_registered tells
      exact evaluated
    rw [evaluations,delivered,told,← delivered,evaluateAll_delivered,List.filter_append,evaluated]
    rfl

/-! ## Runs -/

/-- What holds of the registries of a node at any time. -/
structure Registry (e : Engine) : Prop where
  ordered : Ordered e
  subscribing : ∀ op sub, op.subscription? = some sub → Subscribing e op sub
  unsubscribing : ∀ s, e.Authentic s → Unsubscribing e s
  /-- The events of evaluations are these, and each is for an entry. -/
  evaluations : ∀ op, (e.apply op).2.evaluations =
    e.evaluations ++ (e.tellings (e.facts op)).map (·.notice)
  registered : ∀ op, ∀ t ∈ e.tellings (e.facts op), ∃ sub ∈ t.begun.subscriptions,
    t.notice.subscription = some sub.id ∧ (¬t.now.Leaves → sub ∈ t.now.subscriptions)

theorem registry_after {self : Entity} {config : Config} (started : start self config = .ok e)
    (ops : List Operation) : Registry (e.after ops) := by
  have sound := start_sound started
  have empty : Ordered e := by
    rw [start] at started
    split at started
    · cases started
    · cases started
      exact ⟨by simp,by simp,by simp,Nat.zero_le _⟩
  have ordered := empty.after sound ops
  constructor
  case ordered => exact ordered
  case subscribing => exact fun op sub makes => Engine.subscribing _ makes
  case unsubscribing => exact fun s authentic => ordered.unsubscribing authentic
  case evaluations => exact evaluations_apply _
  case registered =>
    intro op t member
    obtain ⟨sub,registered,named,_,stays⟩ := tellings_registered member
    exact ⟨sub,registered,named,stays⟩

def lamp : Entity := .bare (.of "b") .beacon

/-- An application that ends the subscription of each event watches around a beacon. -/
def fickle : List Operation :=
  [.setSink (some ⟨false,.leave⟩),.trackGeofence (.ofNat 1) lamp (.everyone "all") .near]

/-- A participant sees the beacon near, and in the same report far. -/
def wavering : Operation := .hear ⟨visitor.id,"log",
  .beaconReport visitor [{ lamp with distance := .near },{ lamp with distance := .far }]⟩

theorem registry_after_fickle : ∃ e, start watcher .standard = .ok e ∧
    (e.after fickle).subscriptions.length = 1 ∧ Registry (e.after fickle) :=
  have started : start watcher .standard = .ok _ := rfl
  ⟨_,started,rfl,registry_after started fickle⟩

/-- An evaluation goes on for a subscription that the application has ended meanwhile. -/
theorem ended_subscription_told : ∃ e, start watcher .standard = .ok e ∧
    ∃ t ∈ (e.after fickle).tellings ((e.after fickle).facts wavering),
      t.notice.payload.evaluated = true ∧ t.notice ∈ (e.after (fickle ++ [wavering])).delivered ∧
      ∀ sub ∈ t.now.subscriptions, t.notice.subscription ≠ some sub.id := by
  refine ⟨_,rfl,_,List.mem_of_getElem? (i := 1) rfl,rfl,?_,?_⟩
  · exact List.mem_of_getElem? (i := 1) rfl
  · intro sub member
    cases member

end Vicinity.Engine
