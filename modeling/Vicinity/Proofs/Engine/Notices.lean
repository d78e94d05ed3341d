import Vicinity.Proofs.Engine.Facts

/-! What the application hears. Acts add notices and take none back; which ones they can add is
read off the acts, and for acts that only tell, exactly what is heard: everything up to the first
event over which the application panics. -/
namespace Vicinity

/-- Whether an event comes of an evaluation. The others come of calls: refused subscriptions and
points of interest. -/
def Payload.evaluated : Payload → Bool
  | .entity .. | .group .. => true
  | .error reason => reason == .entitySizeExceeded
  | .poi .. => false

namespace Engine

variable {e f : Engine} {op : Operation}

/-- The events of evaluations that the application was told of, in order. -/
def evaluations (e : Engine) : List Notice := e.delivered.filter (·.payload.evaluated)

/-- A notice that an act can lead to. -/
def Act.tells : Act → Notice → Prop
  | .tell sub p, n => n = ⟨some sub.id,p⟩
  | .observe sub center _ candidate seen, n => n.subscription = some sub.id ∧
      ∃ transition, crossing? center candidate seen transition = some n.payload

theorem unsubscribe_told (sub : Subscription) : (e.unsubscribe sub).2.told = e.told := by
  obtain ⟨group,proximity,geofence,_,_,_,eq⟩ := unsubscribe_eq e sub
  rw [eq]

theorem react_told (r : Reaction) (sub : Subscription) (p : Payload) :
    (e.react r sub p).2.told = e.told := by
  simp only [react]
  cases subject? p with
  | none => rfl
  | some about => cases r <;> first | rfl | exact unsubscribe_told sub

theorem tell_told (sub : Subscription) (p : Payload) : (e.tell sub p).2.delivered =
    e.delivered ++ if e.sink.isSome then [⟨some sub.id,p⟩] else [] := by
  cases heard : e.sink with
  | none => simp [tell_unheard heard]
  | some sink => simp [tell_heard heard,delivered,react_told,noted]

/-- A refusal is told if anybody listens, and changes nothing else. -/
theorem refuse_eq (e : Engine) (sub : Subscription) (why : ErrorEvent) : e.refuse sub why =
    { e with told := (if e.sink.isSome then [⟨some sub.id,.error why⟩] else []) ++ e.told } := by
  rw [refuse]
  by_cases heard : e.sink.isSome = true
  · obtain ⟨sink,listens⟩ := Option.isSome_iff_exists.mp heard
    rw [if_pos heard,tell_heard listens]
    rfl
  · rw [if_neg heard,tell_unheard (by simpa using heard)]
    rfl

theorem perform_told (a : Act) : ∃ ns, (e.perform a).2.delivered = e.delivered ++ ns ∧
    ∀ n ∈ ns, a.tells n := by
  cases a with
  | tell sub p =>
    refine ⟨_,tell_told sub p,fun n member => ?_⟩
    split at member
    · exact List.mem_singleton.mp member
    · cases member
  | observe sub center radius candidate seen =>
    cases observed : (e.inside sub.id).observe candidate.id seen radius with
    | mk transition inside =>
      rw [perform_observe observed]
      cases crosses : crossing? center candidate seen transition with
      | none => exact ⟨[],by simp [delivered,place],by simp⟩
      | some p =>
        refine ⟨_,tell_told (e := e.place sub.id inside) sub p,fun n member => ?_⟩
        split at member
        · obtain rfl := List.mem_singleton.mp member
          exact ⟨rfl,transition,crosses⟩
        · cases member

theorem performAll_told (e : Engine) (as : List Act) :
    ∃ ns, (e.performAll as).delivered = e.delivered ++ ns ∧ ∀ n ∈ ns, ∃ a ∈ as, a.tells n := by
  induction as generalizing e with
  | nil => exact ⟨[],by simp [performAll],by simp⟩
  | cons a as ih =>
    obtain ⟨ns,told,since⟩ := perform_told (e := e) a
    rw [performAll]
    cases performed : e.perform a with
    | mk broken after =>
      rw [performed] at told
      cases broken with
      | false =>
        obtain ⟨more,later,since'⟩ := ih after
        refine ⟨ns ++ more,by simp [later,told],fun n member => ?_⟩
        rcases List.mem_append.mp member with first | rest
        · exact ⟨a,List.mem_cons_self ..,since n first⟩
        · obtain ⟨b,member,tells⟩ := since' n rest
          exact ⟨b,List.mem_cons_of_mem _ member,tells⟩
      | true => exact ⟨ns,told,fun n member => ⟨a,List.mem_cons_self ..,since n member⟩⟩

/-- The notices of a kind are as before unless one of the acts leads to one. -/
theorem performAll_untold (e : Engine) {as : List Act} {kind : Notice → Bool}
    (silent : ∀ a ∈ as, ∀ n, a.tells n → kind n = false) :
    (e.performAll as).delivered.filter kind = e.delivered.filter kind := by
  obtain ⟨ns,told,since⟩ := performAll_told e as
  have none : ns.filter kind = [] := List.filter_eq_nil_iff.mpr fun n member => by
    obtain ⟨a,member,tells⟩ := since n member
    simp [silent a member n tells]
  rw [told,List.filter_append,none,List.append_nil]

/-! ## Which acts follow from a fact -/

theorem mem_apartActs {e1 e2 : Entity} {d : Distance} {sub : Subscription} {a : Act}
    (member : a ∈ apartActs e1 e2 d sub) :
    (∃ tracked other, sub.watch = .proximity tracked other) ∧
      a = .tell sub (.entity .proximityUpdate e1 e2 d) := by
  obtain ⟨id,watch⟩ := sub
  cases watch with
  | proximity tracked other =>
    simp only [apartActs] at member
    split at member
    · exact ⟨⟨tracked,other,rfl⟩,List.mem_singleton.mp member⟩
    · cases member
  | _ => simp [apartActs] at member

theorem mem_groupActs {event : Group → Option GroupEvent} {entity : Entity} {sub : Subscription}
    {a : Act} (member : a ∈ groupActs event entity sub) :
    ∃ members happened, sub.watch = .group members ∧ event members = some happened ∧
      a = .tell sub (.group happened entity members) := by
  obtain ⟨id,watch⟩ := sub
  cases watch with
  | group members =>
    simp only [groupActs] at member
    split at member
    next happened comes => exact ⟨members,happened,rfl,comes,List.mem_singleton.mp member⟩
    next => cases member
  | _ => simp [groupActs] at member

theorem mem_seesActs {seer : Entity} {beacons : List Entity} {sub : Subscription} {a : Act}
    (member : a ∈ seesActs seer beacons sub) :
    ∃ center members radius candidate seen, sub.watch = .geofence center members radius ∧
      a = .observe sub center radius candidate seen := by
  obtain ⟨id,watch⟩ := sub
  cases watch with
  | geofence center members radius =>
    simp only [seesActs] at member
    split at member
    · obtain ⟨b,_,rfl⟩ := List.mem_map.mp member
      exact ⟨center,members,radius,b,b.distance,rfl,rfl⟩
    split at member
    · split at member
      · exact ⟨center,members,radius,seer,.sameWifi,rfl,List.mem_singleton.mp member⟩
      · obtain ⟨b,_,rfl⟩ := List.mem_map.mp member
        exact ⟨center,members,radius,seer,b.distance,rfl,rfl⟩
    · cases member
  | _ => simp [seesActs] at member

theorem mem_aroundActs {e1 e2 : Entity} {d : Distance} {sub : Subscription} {a : Act}
    (member : a ∈ aroundActs e1 e2 d sub) :
    ∃ center members radius candidate seen, sub.watch = .geofence center members radius ∧
      a = .observe sub center radius candidate seen := by
  obtain ⟨id,watch⟩ := sub
  cases watch with
  | geofence center members radius =>
    have observed : ∀ candidate : Entity, a ∈ (if members.contains candidate then
        [Act.observe ⟨id,.geofence center members radius⟩ center radius candidate d] else []) →
        a = .observe ⟨id,.geofence center members radius⟩ center radius candidate d := by
      intro candidate member
      split at member
      · exact List.mem_singleton.mp member
      · cases member
    simp only [aroundActs] at member
    split at member
    · exact ⟨center,members,radius,e2,d,rfl,observed e2 member⟩
    split at member
    · exact ⟨center,members,radius,e1,d,rfl,observed e1 member⟩
    · cases member
  | _ => simp [aroundActs] at member

theorem mem_subscriptions {sub : Subscription} : sub ∈ e.subscriptions ↔
    sub ∈ e.group ∨ sub ∈ e.proximity ∨ sub ∈ e.geofence := by
  simp [subscriptions]

/-- The subscription that an act is for. -/
def Act.sub : Act → Subscription
  | .tell sub _ => sub
  | .observe sub .. => sub

/-- Participants are seen of geofences only, at their own centre and radius. -/
def Act.fits : Act → Prop
  | .tell sub _ => ∀ center members radius, sub.watch ≠ .geofence center members radius
  | .observe sub center radius _ _ => ∃ members, sub.watch = .geofence center members radius

theorem acts_fit (e : Engine) (fact : Fact) : ∀ a ∈ e.acts fact,
    a.sub ∈ e.subscriptions ∧ a.fits := by
  have groups : ∀ (event : Group → Option GroupEvent) entity,
      ∀ a ∈ e.group.flatMap (groupActs event entity), a.sub ∈ e.subscriptions ∧ a.fits := by
    intro event entity a member
    obtain ⟨sub,registered,acts⟩ := List.mem_flatMap.mp member
    obtain ⟨_,_,watch,_,rfl⟩ := mem_groupActs acts
    exact ⟨mem_subscriptions.mpr (.inl registered),by simp [Act.fits,watch]⟩
  cases fact with
  | apart e1 e2 d =>
    intro a member
    simp only [acts] at member
    split at member
    · cases member
    · obtain ⟨sub,registered,acts⟩ := List.mem_flatMap.mp member
      obtain ⟨⟨_,_,watch⟩,rfl⟩ := mem_apartActs acts
      exact ⟨mem_subscriptions.mpr (.inr (.inl registered)),by simp [Act.fits,watch]⟩
  | sees seer beacons =>
    intro a member
    obtain ⟨sub,registered,acts⟩ := List.mem_flatMap.mp member
    obtain ⟨_,members,_,_,_,watch,rfl⟩ := mem_seesActs acts
    exact ⟨mem_subscriptions.mpr (.inr (.inr registered)),members,watch⟩
  | around e1 e2 d =>
    intro a member
    obtain ⟨sub,registered,acts⟩ := List.mem_flatMap.mp member
    obtain ⟨_,members,_,_,_,watch,rfl⟩ := mem_aroundActs acts
    exact ⟨mem_subscriptions.mpr (.inr (.inr registered)),members,watch⟩
  | changed entity old => exact groups _ _
  | arrived entity =>
    simp only [acts]
    split
    · simp
    · exact groups _ _
  | left entity => exact groups _ _

/-! ## Acts that only tell -/

/-- Whether the application panics over an event. -/
def breaksOff (r : Reaction) (p : Payload) : Bool :=
  match subject? p, r with
  | some about, .panicOver id => about == id
  | _, _ => false

/-- What is heard of events in turn. -/
def heardWith (r : Reaction) : List (Subscription × Payload) → List Notice
  | [] => []
  | (sub,p) :: events => ⟨some sub.id,p⟩ :: if breaksOff r p then [] else heardWith r events

def heardOf (sink : Option Sink) (events : List (Subscription × Payload)) : List Notice :=
  sink.elim [] fun sink => heardWith sink.reaction events

theorem react_broken (r : Reaction) (sub : Subscription) (p : Payload) :
    (e.react r sub p).1 = breaksOff r p := by
  simp only [react,breaksOff]
  cases subject? p with
  | none => rfl
  | some about => cases r <;> rfl

theorem tell_broken {sink : Sink} (heard : e.sink = some sink) (sub : Subscription)
    (p : Payload) : (e.tell sub p).1 = breaksOff sink.reaction p := by
  rw [tell_heard heard,react_broken]

theorem performAll_tell (e : Engine) (events : List (Subscription × Payload)) :
    (e.performAll (events.map fun event => .tell event.1 event.2)).delivered =
      e.delivered ++ heardOf e.sink events := by
  cases heard : e.sink with
  | none =>
    have untouched : ∀ events : List (Subscription × Payload),
        e.performAll (events.map fun event => .tell event.1 event.2) = e := by
      intro events
      induction events with
      | nil => rfl
      | cons event events ih => rw [List.map_cons,performAll,perform,tell_unheard heard]; exact ih
    simp [untouched,heardOf]
  | some sink =>
    induction events generalizing e with
    | nil => simp [performAll,heardOf,heardWith]
    | cons event events ih =>
      obtain ⟨sub,p⟩ := event
      have told := tell_told (e := e) sub p
      have broken := tell_broken heard sub p
      have kept := tell_kept (e := e) sub p
      rw [List.map_cons,performAll,perform]
      cases tells : e.tell sub p with
      | mk breaks after =>
        rw [tells] at told broken kept
        rw [heard] at told kept
        cases breaks with
        | false =>
          have rest := ih after kept.2
          simp only [rest,told]
          simp [heardOf,heardWith,← broken]
        | true =>
          simp only [delivered] at told ⊢
          simp [told,heardOf,heardWith,← broken]

end Engine

end Vicinity
