import Vicinity.Proofs.Engine.Facts
import Vicinity.Proofs.Engine.Publishing

/-! One node amid another. Apart from its evaluations an operation neither sees the registries and
the records nor changes them, so it does the same amid any others. Whatever is to be shown of two
nodes that differ in these alone comes down to their evaluations, and to the calls that bear on
these by themselves. -/
namespace Vicinity.Engine

variable {e f g : Engine} {op : Operation}

/-- The registries and the records of one node, and everything else of another. -/
def amid (f e : Engine) : Engine := { f.beside e with self := e.self }

@[simp] theorem amid_self (e : Engine) : e.amid e = e := rfl

@[simp] theorem amid_amid (f g e : Engine) : f.amid (g.amid e) = f.amid e := rfl

theorem Agree.amid (agree : Agree e f) (aside : Aside g f) : f = e.amid g := by
  rw [aside.eq_beside]
  simp only [Engine.amid,beside,aside.self,agree.proximity,agree.geofence,agree.group,agree.sink,
    agree.inside,agree.told,agree.panicked,agree.followed]

theorem apply_eq (indirect : op.direct = false) :
    (e.apply op).2 = (e.evaluateAll (e.facts op)).amid (e.surroundings op) :=
  (apply_agree indirect).amid (apply_aside e op)

theorem facts_amid (f e : Engine) (op : Operation) : (f.amid e).facts op = e.facts op := by
  cases op <;> rfl

theorem listen_amid (f e : Engine) (c : Channel) :
    (f.amid e).listen c = f.amid (e.listen c) := by
  have outcome : (f.amid e).transport.listen c = e.transport.listen c := rfl
  simp only [listen,outcome]
  split <;> rfl

theorem listenEach_amid (f e : Engine) (cs : List Channel) :
    cs.foldl listen (f.amid e) = f.amid (cs.foldl listen e) := by
  induction cs generalizing e with
  | nil => rfl
  | cons c cs ih => exact (congrArg (cs.foldl listen) (listen_amid f e c)).trans (ih _)

theorem closeAll_amid (f e : Engine) (ds : List Deferred) :
    (f.amid e).closeAll ds = f.amid (e.closeAll ds) := by
  induction ds generalizing e with
  | nil => rfl
  | cons d ds ih =>
    have closed : (f.amid e).close d = f.amid (e.close d) := by cases d <;> rfl
    exact (congrArg (·.closeAll ds) closed).trans (ih _)

theorem pass_amid (f e : Engine) (op : Operation) :
    ((f.amid e).withTimers ((f.amid e).released op).2).closeAll ((f.amid e).released op).1 =
      f.amid ((e.withTimers (e.released op).2).closeAll (e.released op).1) := by
  have released : (f.amid e).released op = e.released op := by cases op <;> rfl
  rw [released]
  exact closeAll_amid f (e.withTimers (e.released op).2) (e.released op).1

theorem switched_amid (f e : Engine) (v : Visibility) (ss : List Saying) :
    (f.amid e).switched v ss = ((e.switched v ss).1,f.amid (e.switched v ss).2) := by
  have refuses : (f.amid e).transport.refusesReconnect = e.transport.refusesReconnect := rfl
  simp only [switched,refuses]
  split <;> rfl

theorem prepared_amid (f e : Engine) (body : Message.Body) :
    (f.amid e).prepared body = f.amid (e.prepared body) := by
  cases body with
  | checkOut entity valid =>
    cases valid
    · have armed : (f.amid e).timers.arm (.departure entity.id) (f.amid e).config.checkoutGrace
          (.departure entity) = e.timers.arm (.departure entity.id) e.config.checkoutGrace
          (.departure entity) := rfl
      simp only [prepared,awaitDeparture,armed]
      split <;> rfl
    · rfl
  | _ => rfl

theorem hear_amid (f e : Engine) (op : Operation) :
    (((f.amid e).heard? op).elim (f.amid e) fun body =>
      ((f.amid e).prepared body).sends ((f.amid e).tasks body)) =
    f.amid ((e.heard? op).elim e fun body => (e.prepared body).sends (e.tasks body)) := by
  have heard : (f.amid e).heard? op = e.heard? op := by cases op <;> rfl
  rw [heard]
  cases e.heard? op with
  | none => rfl
  | some body =>
    have response : (f.amid e).response body = e.response body := by cases body <;> rfl
    rw [Option.elim_some,Option.elim_some,prepared_responds,prepared_responds,prepared_amid,response]
    rfl

theorem report_amid (f e : Engine) (beacons : List Entity) :
    (f.amid e).report beacons = f.amid (e.report beacons) := by
  have policy : (f.amid e).policy = e.policy := rfl
  have counted : (f.amid e).countScan = (e.countScan.1,f.amid e.countScan.2) := by
    have interval : (f.amid e).reportInterval = e.reportInterval := rfl
    have scans : (f.amid e).scans = e.scans := rfl
    simp only [countScan,interval,scans]
    split <;> rfl
  simp only [report,policy,counted]
  split
  · cases e.countScan with
    | mk isDue g =>
      cases isDue with
      | false => rfl
      | true => simp only [publish_eq]; rfl
  · rfl

theorem ask_amid (f e : Engine) (token : String) (wanted : Group) (within : Distance)
    (timeout : Nat) : (f.amid e).ask token wanted within timeout =
      ((e.ask token wanted within timeout).1,f.amid (e.ask token wanted within timeout).2) := by
  have busy : ((f.amid e).stopped || (f.amid e).isQueryPending) =
      (e.stopped || e.isQueryPending) := rfl
  have armed : (f.amid e).timers.arm .query timeout (.query (replyTopic token) within) =
      e.timers.arm .query timeout (.query (replyTopic token) within) := rfl
  simp only [ask,busy,armed]
  split
  · rfl
  split
  · rfl
  next timers _ =>
    have listened := listen_amid f { e with query := some ⟨replyTopic token,[]⟩, timers := timers }
      (.reply (replyTopic token))
    simp only [publish_eq]
    exact congrArg (fun g : Engine =>
      (true,g.say [⟨.broadcast,g.stamp,.syncRequest (replyTopic token) g.cache wanted within⟩])) listened

/-- Apart from its evaluations, an operation does the same amid any registries and records. -/
theorem surroundings_amid (f e : Engine) (indirect : op.direct = false) :
    (f.amid e).surroundings op = f.amid (e.surroundings op) ∧
      ((f.amid e).apply op).1 = (e.apply op).1 := by
  cases op <;> simp only [Operation.direct,Bool.true_eq_false] at indirect
  case connected =>
    refine ⟨?_,rfl⟩
    simp only [surroundings,apply,connected_eq]
    exact listenEach_amid f (e.say (e.greeting e.policy)) (Channel.shared ++ [.entity e.self.id])
  case hear m => exact ⟨hear_amid f e (.hear m),rfl⟩
  case hearPayload payload =>
    refine ⟨hear_amid f e (.hearPayload payload),?_⟩
    simp only [apply,hearPayload]
    split
    · rfl
    · split <;> rfl
  case scan readings =>
    refine ⟨?_,rfl⟩
    have stopped : (f.amid e).stopped = e.stopped := rfl
    simp only [surroundings,stopped,report_amid]
    split
    · rfl
    · split <;> rfl
  case ask token wanted within timeout =>
    simp only [surroundings,apply,ask_amid,and_self]
  case elapse milliseconds => exact ⟨pass_amid f e (.elapse milliseconds),rfl⟩
  case expire key => exact ⟨pass_amid f e (.expire key),rfl⟩
  case expireDepartures => exact ⟨pass_amid f e .expireDepartures,rfl⟩
  case updateSelf new =>
    have self : (f.amid e).self = e.self := rfl
    have refuses : (f.amid e).transport.refusesReconnect = e.transport.refusesReconnect := rfl
    simp only [surroundings,apply,updateSelf_eq,self,refuses]
    split
    · split <;> exact ⟨rfl,rfl⟩
    · exact ⟨rfl,rfl⟩
  case enterGhost =>
    have ghost : (f.amid e).isGhost = e.isGhost := rfl
    have farewell : (f.amid e).farewell = e.farewell := rfl
    have policy : (f.amid e).policy = e.policy := rfl
    simp only [surroundings,apply,enterGhost_eq,ghost,farewell,policy,switched_amid]
    split <;> exact ⟨rfl,rfl⟩
  case leaveGhost =>
    have visibility : (f.amid e).visibility = e.visibility := rfl
    have greeting : (f.amid e).greeting = e.greeting := rfl
    simp only [surroundings,apply,leaveGhost_eq,visibility,greeting,switched_amid]
    split <;> exact ⟨rfl,rfl⟩
  case addPois json =>
    simp only [surroundings,apply,addPois]
    split <;> exact ⟨rfl,rfl⟩
  case stop =>
    refine ⟨?_,rfl⟩
    have stopped : (f.amid e).stopped = e.stopped := rfl
    simp only [surroundings,apply,stop,stopped]
    split <;> rfl
  all_goals exact ⟨rfl,rfl⟩

theorem apply_amid (f e : Engine) (indirect : op.direct = false) : (f.amid e).apply op =
    ((e.apply op).1,((f.amid e).evaluateAll (e.facts op)).amid (e.apply op).2) := by
  obtain ⟨surroundings,reply⟩ := surroundings_amid f e indirect
  refine Prod.ext reply ?_
  rw [apply_eq indirect,apply_eq indirect,facts_amid,surroundings]
  rfl

/-- What changes the registries and the records only, and commutes with the evaluations of an
operation, commutes with the operation. -/
theorem apply_commutes {h : Engine → Engine} (aside : ∀ f g : Engine, (h f).amid g = h (f.amid g))
    (indirect : op.direct = false)
    (evaluated : (h e).evaluateAll (e.facts op) = h (e.evaluateAll (e.facts op))) :
    (h e).apply op = ((e.apply op).1,h (e.apply op).2) := by
  have amid := apply_amid (h e) e indirect
  rw [aside,amid_self,evaluated,aside] at amid
  rw [amid,apply_eq indirect,amid_amid]

end Vicinity.Engine
