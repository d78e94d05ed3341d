import Mathlib.Data.List.Nodup
import Vicinity.Proofs.Interference

/-! Subscriptions of a whole run, told apart by their ids. Calls ask for them, and the application
makes others in reply to events; if no id is given twice, each geofence is known by its own. -/
namespace Vicinity.Engine

variable {e f : Engine} {op : Operation} {ops : List Operation} {sub : Subscription}

/-- The subscriptions that calls ask for. -/
def requests (ops : List Operation) : List Subscription := ops.filterMap Operation.subscription?

/-- No id is given twice, neither by calls nor by the application after them. -/
structure GivenOnce (ops : List Operation) : Prop where
  calls : ((requests ops).map (·.id)).Nodup
  replies : ∀ sink first k, .setSink (some sink) ∈ ops → sink.reaction = .follow first →
    ∀ sub ∈ requests ops, first.add k ≠ sub.id

/-- Distances and geofences are watched because calls asked for it, and the application listens
because it was set to. -/
structure Enlisted (ops : List Operation) (e : Engine) : Prop where
  proximity : e.proximity.Sublist (requests ops)
  geofence : e.geofence.Sublist (requests ops)
  sink : ∀ sink, e.sink = some sink → .setSink (some sink) ∈ ops

/-! ## What evaluations leave of the registries -/

/-- Distances and geofences that are watched still. -/
structure Fewer (e f : Engine) : Prop where
  proximity : f.proximity.Sublist e.proximity
  geofence : f.geofence.Sublist e.geofence

theorem Fewer.refl (e : Engine) : Fewer e e := ⟨.refl _,.refl _⟩

theorem unsubscribe_leaves (e : Engine) (sub : Subscription) : Fewer e (e.unsubscribe sub).2 := by
  obtain ⟨group,proximity,geofence,_,fewer,fewer',eq⟩ := unsubscribe_eq e sub
  rw [eq]
  exact ⟨fewer,fewer'⟩

theorem tell_fewer_watches (e : Engine) (sub : Subscription) (p : Payload) :
    Fewer e (e.tell sub p).2 := by
  have ensues := tell_ensues e sub p
  generalize (e.tell sub p).2 = after at ensues ⊢
  cases ensues with
  | left =>
    obtain ⟨proximity,geofence⟩ := unsubscribe_leaves (e.noted sub p) sub
    exact ⟨proximity,geofence⟩
  | _ => exact ⟨.refl _,.refl _⟩

theorem fewer_watches_last (e : Engine) : Lasts (Fewer e) where
  tell sub p := fun ⟨proximity,geofence⟩ =>
    ⟨(tell_fewer_watches _ sub p).proximity.trans proximity,
      (tell_fewer_watches _ sub p).geofence.trans geofence⟩
  place _ _ fewer := ⟨fewer.proximity,fewer.geofence⟩
  panic _ fewer := ⟨fewer.proximity,fewer.geofence⟩

/-! ## What is enlisted over a run -/

theorem requests_concat (ops : List Operation) (op : Operation) :
    requests (ops ++ [op]) = requests ops ++ op.subscription?.toList := by
  cases asked : op.subscription? <;> simp [requests,asked]

theorem requests_sublist (ops : List Operation) (op : Operation) :
    (requests ops).Sublist (requests (ops ++ [op])) := by
  rw [requests_concat]
  exact List.sublist_append_left ..

theorem Enlisted.fewer (enlisted : Enlisted ops e) (fewer : Fewer e f)
    (sink : ∀ sink, f.sink = some sink → .setSink (some sink) ∈ ops ++ [op]) :
    Enlisted (ops ++ [op]) f where
  proximity := (fewer.proximity.trans enlisted.proximity).trans (requests_sublist ops op)
  geofence := (fewer.geofence.trans enlisted.geofence).trans (requests_sublist ops op)
  sink := sink

theorem Enlisted.enrolled (enlisted : Enlisted ops e) (makes : op.subscription? = some sub) :
    Enlisted (ops ++ [op]) (e.enrolled sub) := by
  have longer : ∀ {subs : List Subscription}, subs.Sublist (requests ops) →
      (subs ++ [sub]).Sublist (requests (ops ++ [op])) := by
    intro subs known
    rw [requests_concat,makes]
    exact known.append (.refl _)
  have kept := enlisted.fewer (.refl e) fun sink heard =>
    List.mem_append_left [op] (enlisted.sink sink heard)
  rw [Engine.enrolled]
  cases sub.watch with
  | proximity => exact ⟨longer enlisted.proximity,kept.geofence,kept.sink⟩
  | geofence => exact ⟨kept.proximity,longer enlisted.geofence,kept.sink⟩
  | group => exact ⟨kept.proximity,kept.geofence,kept.sink⟩

theorem Enlisted.subscribing (enlisted : Enlisted ops e) (makes : op.subscription? = some sub) :
    Enlisted (ops ++ [op]) (e.apply op).2 := by
  have call := Engine.subscribing e makes
  by_cases admitted : ∀ why, ¬e.Objects op why
  · rw [call.accepted admitted]
    exact enlisted.enrolled makes
  · obtain ⟨why,objects⟩ := not_forall_not.mp admitted
    rw [call.refused why objects]
    exact enlisted.fewer ⟨.refl _,.refl _⟩ fun sink heard =>
      List.mem_append_left _ (enlisted.sink sink heard)

theorem Enlisted.apply (enlisted : Enlisted ops e) (op : Operation) :
    Enlisted (ops ++ [op]) (e.apply op).2 := by
  have sink := fun sink heard => List.mem_append_left [op] (enlisted.sink sink heard)
  by_cases direct : op.direct = true
  · cases op <;> simp only [Operation.direct,Bool.false_eq_true] at direct
    case trackDistance => exact enlisted.subscribing rfl
    case trackGeofence => exact enlisted.subscribing rfl
    case trackGroup => exact enlisted.subscribing rfl
    case unsubscribe s =>
      refine enlisted.fewer (unsubscribe_leaves e s) fun own heard => sink own ?_
      rwa [← (unsubscribe_kept s).2]
    case crossRegion name entered =>
      simp only [Engine.apply,crossRegion,tellPoi]
      split
      · exact enlisted.fewer (.refl e) sink
      · split <;> exact enlisted.fewer ⟨.refl _,.refl _⟩ sink
    case setSink set =>
      refine enlisted.fewer ⟨.refl _,.refl _⟩ fun own heard => ?_
      obtain rfl : set = some own := heard
      exact List.mem_append_right _ (List.mem_singleton_self _)
  · have agree := apply_agree (e := e) (Bool.eq_false_iff.mpr direct)
    have evaluated := (fewer_watches_last e).evaluateAll (.refl e) (e.facts op)
    refine enlisted.fewer ⟨?_,?_⟩ fun own heard => sink own ?_
    · rw [agree.proximity]
      exact evaluated.proximity
    · rw [agree.geofence]
      exact evaluated.geofence
    · rwa [agree.sink,(evaluateAll_kept _).2] at heard

theorem enlisted_after {self : Entity} {config : Config} (started : start self config = .ok e)
    (ops : List Operation) : Enlisted ops (e.after ops) := by
  induction ops using List.reverseRecOn with
  | nil =>
    rw [start] at started
    split at started
    · cases started
    · cases started
      exact ⟨by simp [after],by simp [after],by simp [after]⟩
  | append_singleton ops op ih =>
    rw [after_concat]
    exact ih.apply op

/-! ## Known by their ids -/

/-- Subscriptions for distances and geofences are known by their ids: no two of a kind have one in
common, none of one kind stands for one of the other, and the application gives the id of a geofence
to none of its own. -/
structure Distinct (e : Engine) : Prop where
  proximity : (e.proximity.map (·.id)).Nodup
  geofence : (e.geofence.map (·.id)).Nodup
  apart : ∀ a ∈ e.geofence, ∀ s ∈ e.proximity, a.standsFor s = false
  untaken : ∀ a ∈ e.geofence, ¬e.Takes a.id

theorem Distinct.known (distinct : Distinct e) {a b : Subscription} (member : a ∈ e.geofence)
    (member' : b ∈ e.geofence) (same : a.id = b.id) : a = b :=
  List.inj_on_of_nodup_map distinct.geofence member member' same

theorem Distinct.fewer (distinct : Distinct e) (fewer : Fewer e f) (sink : f.sink = e.sink) :
    Distinct f := by
  constructor
  case proximity => exact distinct.proximity.sublist (fewer.proximity.map _)
  case geofence => exact distinct.geofence.sublist (fewer.geofence.map _)
  case apart =>
    exact fun a member s member' =>
      distinct.apart a (fewer.geofence.mem member) s (fewer.proximity.mem member')
  case untaken =>
    intro a member
    rw [Takes,sink]
    exact distinct.untaken a (fewer.geofence.mem member)

theorem Distinct.evaluateAll (distinct : Distinct e) (facts : List Fact) :
    Distinct (e.evaluateAll facts) :=
  distinct.fewer ((fewer_watches_last e).evaluateAll (.refl e) facts) (evaluateAll_kept facts).2

/-- If no id is given twice, subscriptions are known by their ids at any time. -/
theorem distinct_after {self : Entity} {config : Config} (started : start self config = .ok e)
    (given : GivenOnce ops) : Distinct (e.after ops) := by
  have enlisted := enlisted_after started ops
  have ordered := (registry_after started ops).ordered
  constructor
  case proximity => exact given.calls.sublist (enlisted.proximity.map _)
  case geofence => exact given.calls.sublist (enlisted.geofence.map _)
  case apart =>
    intro a member s member'
    obtain ⟨center,members,radius,watch,_⟩ := ordered.geofence a member
    obtain ⟨anchor,others,watch',_⟩ := ordered.proximity s member'
    have other : a.id ≠ s.id := fun same => by
      rw [List.inj_on_of_nodup_map given.calls (enlisted.geofence.mem member)
        (enlisted.proximity.mem member') same,watch'] at watch
      cases watch
    simp [Subscription.standsFor,other,watch,watch',Watch.sameKey]
  case untaken =>
    rintro a member ⟨sink,first,k,heard,follows,same⟩
    exact given.replies sink first k (enlisted.sink sink heard) follows a
      (enlisted.geofence.mem member) same

end Vicinity.Engine
