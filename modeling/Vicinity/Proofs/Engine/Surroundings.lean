import Vicinity.Proofs.Engine.Step

/-! What an operation does beside its evaluations. The connection, the policy and what is remembered
of scans do not depend on what is evaluated, so `surroundings` follows them without a single fact. -/
namespace Vicinity.Engine

variable {e f g : Engine} {op : Operation}

/-- All but the registries and the records is the same. -/
structure Aside (e f : Engine) : Prop where
  aside : f.beside e = f
  self : f.self = e.self

theorem Aside.refl (e : Engine) : Aside e e := ⟨rfl,rfl⟩

theorem beside_aside (same : f.self = g.self) : Aside g (f.beside g) := ⟨rfl,same⟩

theorem Aside.eq_beside (aside : Aside e f) : f = f.beside e := aside.aside.symm

theorem Aside.transport (aside : Aside e f) : f.transport = e.transport := by
  rw [aside.eq_beside]
  rfl

theorem Aside.visibility (aside : Aside e f) : f.visibility = e.visibility := by
  rw [aside.eq_beside]
  rfl

theorem Aside.cache (aside : Aside e f) : f.cache = e.cache := by
  rw [aside.eq_beside]
  rfl

theorem tell_aside (e : Engine) (sub : Subscription) (p : Payload) :
    Aside e (e.tell sub p).2 where
  aside := (congrArg Prod.snd (tell_beside (e := e) (g := e) sub p)).symm
  self := (tell_kept sub p).1

theorem unsubscribe_aside (e : Engine) (sub : Subscription) : Aside e (e.unsubscribe sub).2 where
  aside := (congrArg Prod.snd (unsubscribe_beside (e := e) (g := e) sub)).symm
  self := (unsubscribe_kept sub).1

theorem Sent.self (sent : Sent e f) : f.self = e.self := by
  obtain ⟨more,rfl⟩ := sent
  rfl

theorem work_aside (live : e.stopped = false) (ts : List Task) :
    Aside (e.sends ts) (e.work ts) := by
  rw [work_eq,live,if_neg Bool.false_ne_true]
  exact beside_aside ((evaluateAll_kept _).1.trans (sends_sent e ts).self.symm)

/-- Only estimates and answers do anything besides. -/
theorem sends_evaluations {ts : List Task} (only : ∀ t ∈ ts, ∃ fact, t = .evaluate fact) :
    e.sends ts = e := by
  induction ts with
  | nil => rfl
  | cons t ts ih =>
    obtain ⟨fact,rfl⟩ := only t (List.mem_cons_self ..)
    exact ih fun t member => only t (List.mem_cons_of_mem _ member)

theorem scanTasks_evaluations (self : Entity) (beacons : List Entity) :
    ∀ t ∈ scanTasks self beacons, ∃ fact, t = .evaluate fact := by
  intro t member
  rcases List.mem_append.mp member with near | sight
  · obtain ⟨b,_,rfl⟩ := List.mem_map.mp near
    exact ⟨_,rfl⟩
  · exact ⟨_,List.mem_singleton.mp sight⟩

theorem countScan_beside (f g : Engine) :
    (f.beside g).countScan = (g.countScan.1,f.beside g.countScan.2) := by
  have interval : (f.beside g).reportInterval = g.reportInterval := rfl
  have scans : (f.beside g).scans = g.scans := rfl
  simp only [countScan,interval,scans]
  split <;> rfl

theorem countScan_self (e : Engine) : e.countScan.2.self = e.self := by
  rw [countScan]
  split <;> rfl

theorem report_beside (same : f.self = g.self) (beacons : List Entity) :
    (f.beside g).report beacons = f.beside (g.report beacons) := by
  have policy : (f.beside g).policy = g.policy := rfl
  simp only [report,policy,countScan_beside]
  split
  · have self := same.trans (countScan_self g).symm
    cases count : g.countScan with
    | mk isDue counted =>
      rw [count] at self
      cases isDue with
      | false => rfl
      | true =>
        have stamp : (f.beside counted).stamp = counted.stamp := congrArg (·.id.text ++ _) self
        have own : (f.beside counted).self = counted.self := self
        dsimp only
        rw [publish_beside self,stamp,own]
  · rfl

theorem report_self (e : Engine) (beacons : List Entity) : (e.report beacons).self = e.self := by
  have counted := countScan_self e
  rw [report]
  split
  · cases count : e.countScan with
    | mk isDue f =>
      rw [count] at counted
      cases isDue with
      | false => exact counted
      | true => exact (publish_sent f ..).self.trans counted
  · rfl

/-- A node after an operation, but for what it evaluated and what the application was told. -/
def surroundings (e : Engine) (op : Operation) : Engine :=
  match op with
  | .trackDistance .. | .trackGeofence .. | .trackGroup .. | .unsubscribe _ => e
  | .crossRegion .. | .setSink _ => e
  | .hear _ | .hearPayload _ =>
    (e.heard? op).elim e fun body => (e.prepared body).sends (e.tasks body)
  | .scan readings =>
    if readings.isEmpty then { e with cache := [] }
    else if e.stopped then e
    else { e.report (readings.map BeaconReading.entity) with cache := BeaconReading.keep readings }
  | .elapse _ | .expire _ | .expireDepartures =>
    (e.withTimers (e.released op).2).closeAll (e.released op).1
  | _ => (e.apply op).2

theorem hear_aside (applied : (e.apply op).2 = (e.heard? op).elim e e.hearBody) :
    Aside ((e.heard? op).elim e fun body => (e.prepared body).sends (e.tasks body))
      (e.apply op).2 := by
  rw [applied]
  cases heard : e.heard? op with
  | none => exact .refl e
  | some body =>
    have live : (e.prepared body).stopped = false := by
      obtain ⟨t,q,eq⟩ := prepared_eq e body
      rw [eq]
      exact heard?_live heard
    rw [Option.elim_some,Option.elim_some,hearBody_eq]
    exact work_aside live _

theorem scan_aside (e : Engine) (readings : List BeaconReading) :
    Aside (e.surroundings (.scan readings)) (e.scan readings) := by
  rw [surroundings,scan]
  by_cases empty : readings.isEmpty = true
  · simp only [empty,if_true]
    exact .refl _
  by_cases stopped : e.stopped = true
  · simp only [empty,stopped,if_true]
    exact .refl _
  have live := Bool.eq_false_iff.mpr stopped
  simp only [empty,live,Bool.false_eq_true,if_false]
  have worked := work_aside live (scanTasks e.self (readings.map BeaconReading.entity))
  rw [sends_evaluations (scanTasks_evaluations e.self _)] at worked
  rw [worked.eq_beside,report_beside worked.self]
  exact ⟨rfl,worked.self.trans (report_self e _).symm⟩

theorem pass_aside (passes : op.passesTime = true) :
    Aside ((e.withTimers (e.released op).2).closeAll (e.released op).1) (e.apply op).2 := by
  rw [apply_released passes,carryAll_eq]
  exact beside_aside ((evaluateAll_kept _).1.trans (closeAll_self ..).symm)

theorem apply_aside (e : Engine) (op : Operation) :
    Aside (e.surroundings op) (e.apply op).2 := by
  cases op
  case trackDistance id anchor others =>
    simp only [apply,surroundings,trackDistance]
    split
    · exact tell_aside ..
    · exact ⟨rfl,rfl⟩
  case trackGeofence id anchor members radius =>
    simp only [apply,surroundings,trackGeofence]
    split
    · exact tell_aside ..
    split
    · exact tell_aside ..
    · exact ⟨rfl,rfl⟩
  case trackGroup => exact ⟨rfl,rfl⟩
  case unsubscribe sub => exact unsubscribe_aside e sub
  case hear m => exact hear_aside (hear_eq e m)
  case hearPayload payload => exact hear_aside (hearPayload_eq e payload)
  case scan readings => exact scan_aside e readings
  case elapse => exact pass_aside rfl
  case expire => exact pass_aside rfl
  case expireDepartures => exact pass_aside rfl
  case crossRegion name entered =>
    simp only [apply,surroundings,crossRegion,tellPoi]
    split
    · exact .refl e
    · split <;> exact ⟨rfl,rfl⟩
  case setSink => exact ⟨rfl,rfl⟩
  all_goals exact .refl _

end Vicinity.Engine
