import Vicinity.Proofs.Engine.Step

/-! The facts of one operation. Everything that a message, a scan or a timer does to the registries
and to the records is to evaluate these, in order; the application changes them by its own calls
only. -/
namespace Vicinity.Engine

variable {e f g : Engine} {op : Operation}

/-- The facts that a node evaluates in an operation. -/
def facts (e : Engine) (op : Operation) : List Fact :=
  match op with
  | .hear _ | .hearPayload _ => (e.heard? op).elim [] fun body => e.workFacts (e.tasks body)
  | .scan readings =>
    if readings.isEmpty then []
    else e.workFacts (scanTasks e.self (readings.map BeaconReading.entity))
  | .elapse _ | .expire _ | .expireDepartures => e.deferredFacts (e.released op).1
  | _ => []

/-- Whether an operation is a call of the application that bears on the registries, the records or
the sink by itself. -/
def Operation.direct : Operation → Bool
  | .trackDistance .. | .trackGeofence .. | .trackGroup .. | .unsubscribe _ => true
  | .crossRegion .. | .setSink _ => true
  | _ => false

theorem facts_heard {body : Message.Body} (heard : e.heard? op = some body) :
    e.facts op = e.workFacts (e.tasks body) := by
  cases op <;> simp only [heard?,reduceCtorEq] at heard
  case hear m => simp [facts,heard?,heard]
  case hearPayload payload => simp [facts,heard?,heard]

theorem facts_pass (passes : op.passesTime = true) :
    e.facts op = e.deferredFacts (e.released op).1 := by
  cases op <;> simp only [Operation.passesTime,Bool.false_eq_true] at passes <;> rfl

theorem direct_of_heard {body : Message.Body} (heard : e.heard? op = some body) :
    op.direct = false := by
  cases op <;> simp only [heard?,reduceCtorEq] at heard <;> rfl

theorem direct_of_passesTime (passes : op.passesTime = true) : op.direct = false := by
  cases op <;> simp only [Operation.passesTime,Bool.false_eq_true] at passes <;> rfl

/-- The registries, the records and the sink are the same. -/
structure Agree (e f : Engine) : Prop where
  proximity : f.proximity = e.proximity
  geofence : f.geofence = e.geofence
  group : f.group = e.group
  sink : f.sink = e.sink
  inside : f.inside = e.inside
  told : f.told = e.told
  panicked : f.panicked = e.panicked
  followed : f.followed = e.followed

theorem Agree.refl (e : Engine) : Agree e e := ⟨rfl,rfl,rfl,rfl,rfl,rfl,rfl,rfl⟩

theorem Agree.trans (first : Agree e f) (second : Agree f g) : Agree e g :=
  ⟨second.proximity.trans first.proximity,second.geofence.trans first.geofence,
    second.group.trans first.group,second.sink.trans first.sink,second.inside.trans first.inside,
    second.told.trans first.told,second.panicked.trans first.panicked,
    second.followed.trans first.followed⟩

theorem beside_agree (f g : Engine) : Agree f (f.beside g) := ⟨rfl,rfl,rfl,rfl,rfl,rfl,rfl,rfl⟩

theorem Rewired.agree (rewired : Rewired e f) : Agree e f := by
  obtain ⟨t,self,v,rfl,_⟩ := rewired
  exact ⟨rfl,rfl,rfl,rfl,rfl,rfl,rfl,rfl⟩

theorem workFacts_prepared (e : Engine) (body : Message.Body) (ts : List Task) :
    (e.prepared body).workFacts ts = e.workFacts ts := by
  obtain ⟨t,q,eq⟩ := prepared_eq e body
  have leaves : (e.prepared body).leaves = e.leaves := by
    rw [eq]
    funext task
    cases task <;> rfl
  have stopped : (e.prepared body).stopped = e.stopped := by rw [eq]
  simp only [workFacts]
  rw [leaves,stopped]

theorem hearBody_agree (e : Engine) (body : Message.Body) :
    Agree (e.evaluateAll (e.workFacts (e.tasks body))) (e.hearBody body) := by
  have core : e.prepared body = e.beside (e.prepared body) := by
    obtain ⟨t,q,eq⟩ := prepared_eq e body
    rw [eq]
    rfl
  have evaluated : (e.prepared body).evaluateAll (e.workFacts (e.tasks body)) =
      (e.evaluateAll (e.workFacts (e.tasks body))).beside (e.prepared body) := by
    rw [core]
    exact evaluateAll_beside _
  rw [hearBody_eq,work_eq,workFacts_prepared,evaluated]
  exact beside_agree ..

theorem hear_agree (applied : (e.apply op).2 = (e.heard? op).elim e e.hearBody)
    (facts : e.facts op = (e.heard? op).elim [] fun body => e.workFacts (e.tasks body)) :
    Agree (e.evaluateAll (e.facts op)) (e.apply op).2 := by
  rw [applied,facts]
  cases e.heard? op with
  | none => exact .refl e
  | some body => exact hearBody_agree e body

theorem report_agree (e : Engine) (beacons : List Entity) : Agree e (e.report beacons) := by
  have counted : Agree e e.countScan.2 := by
    rw [countScan]
    split <;> exact ⟨rfl,rfl,rfl,rfl,rfl,rfl,rfl,rfl⟩
  rw [report]
  split
  · cases count : e.countScan with
    | mk isDue f =>
      rw [count] at counted
      cases isDue
      · exact counted
      · exact counted.trans (publish_rewired f ..).agree
  · exact .refl e

theorem scan_agree (e : Engine) (readings : List BeaconReading) :
    Agree (e.evaluateAll (e.facts (.scan readings))) (e.scan readings) := by
  rw [facts,scan]
  dsimp only
  by_cases empty : readings.isEmpty = true
  · simp only [empty,if_true]
    exact ⟨rfl,rfl,rfl,rfl,rfl,rfl,rfl,rfl⟩
  simp only [empty,Bool.false_eq_true,if_false]
  by_cases stopped : e.stopped = true
  · simp only [workFacts,stopped,if_true]
    exact .refl e
  · simp only [stopped,Bool.false_eq_true,if_false]
    have worked := beside_agree (e.evaluateAll (e.workFacts
      (scanTasks e.self (readings.map BeaconReading.entity))))
      (if e.stopped then e else e.sends (scanTasks e.self (readings.map BeaconReading.entity)))
    rw [← work_eq] at worked
    have agree := worked.trans (report_agree _ (readings.map BeaconReading.entity))
    exact ⟨agree.proximity,agree.geofence,agree.group,agree.sink,agree.inside,agree.told,
      agree.panicked,agree.followed⟩

theorem ask_agree (e : Engine) (token : String) (wanted : Group) (within : Distance)
    (timeout : Nat) : Agree e (e.ask token wanted within timeout).2 := by
  rw [ask]
  dsimp only
  split
  · exact .refl e
  split
  · exact .refl e
  next armed timers _ =>
    have opened : Agree e
        { e with query := some ⟨replyTopic token,[]⟩, timers := timers } :=
      ⟨rfl,rfl,rfl,rfl,rfl,rfl,rfl,rfl⟩
    exact opened.trans ((listen_rewired ..).agree.trans (publish_rewired ..).agree)

theorem pass_agree (passes : op.passesTime = true) :
    Agree (e.evaluateAll (e.facts op)) (e.apply op).2 := by
  have evaluated := evaluateAll_beside (e := e) (g := e.withTimers (e.released op).2)
    (e.deferredFacts (e.released op).1)
  rw [apply_released passes,carryAll_eq,facts_pass passes]
  exact evaluated ▸ beside_agree ..

theorem apply_agree (indirect : op.direct = false) :
    Agree (e.evaluateAll (e.facts op)) (e.apply op).2 := by
  cases op <;> simp only [Operation.direct,Bool.true_eq_false] at indirect
  case connected => exact (connected_rewired e).agree
  case hear m => exact hear_agree (hear_eq e m) rfl
  case hearPayload payload => exact hear_agree (hearPayload_eq e payload) rfl
  case scan readings => exact scan_agree e readings
  case ask token wanted within timeout => exact ask_agree ..
  case elapse => exact pass_agree rfl
  case expire => exact pass_agree rfl
  case expireDepartures => exact pass_agree rfl
  case updateSelf new => exact (updateSelf_rewired e new).agree
  case enterGhost => exact (enterGhost_rewired e).agree
  case leaveGhost => exact (leaveGhost_rewired e).agree
  case addPois json =>
    simp only [apply,addPois]
    split <;> exact ⟨rfl,rfl,rfl,rfl,rfl,rfl,rfl,rfl⟩
  case stop =>
    simp only [apply,stop]
    split <;> exact ⟨rfl,rfl,rfl,rfl,rfl,rfl,rfl,rfl⟩
  all_goals exact ⟨rfl,rfl,rfl,rfl,rfl,rfl,rfl,rfl⟩

end Vicinity.Engine
