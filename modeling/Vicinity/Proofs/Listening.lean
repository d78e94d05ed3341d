import Vicinity.Network
import Vicinity.Proofs.Registry

/-! An application that only listens. What a node does and what it tells is the same whoever
listens: a recorder hears everything, and any other listener hears of it what comes while it is
bound. -/
namespace Vicinity

/-- Whether a listener takes an event. -/
def Sink.hears (sink : Sink) (n : Notice) : Bool :=
  match n.payload with
  | .poi .. => sink.hearsPois
  | _ => true

namespace Engine

variable {e f : Engine} {op : Operation} {sink : Option Sink} {sub : Subscription} {p : Payload}

/-- Nobody listens, or somebody who does nothing else. -/
def OnlyListens (sink : Option Sink) : Prop := ∀ listener, sink = some listener →
  listener.reaction = .pass

/-- What is heard of events that a recorder would hear. -/
def heardBy (sink : Option Sink) (news : List Notice) : List Notice :=
  sink.elim [] fun listener => news.filter listener.hears

/-- A node to whom somebody else listens than to a recording one, after what was told before. -/
def heardAs (f : Engine) (sink : Option Sink) (told : List Notice) : Engine :=
  { f with sink := sink, told := heardBy sink f.told ++ told }

/-! ## Acts -/

theorem react_pass (e : Engine) (sub : Subscription) (p : Payload) :
    e.react .pass sub p = (false,e) := by
  simp only [react]
  cases subject? p <;> rfl

theorem hears_event {listener : Sink} (evaluated : p.evaluated = true) :
    listener.hears ⟨some sub.id,p⟩ = true := by
  cases p <;> first | rfl | simp [Payload.evaluated] at evaluated

theorem tell_heardAs (records : f.sink = some .recorder) (listens : OnlyListens sink)
    (told : List Notice) (heard : ∀ listener : Sink, listener.hears ⟨some sub.id,p⟩ = true) :
    (f.heardAs sink told).tell sub p = ((f.tell sub p).1,(f.tell sub p).2.heardAs sink told) := by
  rw [tell_recorded records]
  cases sink with
  | none => exact tell_unheard rfl sub p
  | some listener =>
    rw [tell_heard rfl,listens listener rfl,react_pass]
    simp [heardAs,heardBy,noted,heard listener]

theorem perform_heardAs (records : f.sink = some .recorder) (listens : OnlyListens sink)
    (told : List Notice) {a : Act} (evaluated : ∀ sub p, a = .tell sub p → p.evaluated = true) :
    (f.heardAs sink told).perform a =
      ((f.perform a).1,(f.perform a).2.heardAs sink told) := by
  cases a with
  | tell sub p =>
    exact tell_heardAs records listens told fun listener => hears_event (evaluated sub p rfl)
  | observe sub center radius candidate seen =>
    cases observed : (f.inside sub.id).observe candidate.id seen radius with
    | mk transition inside =>
      rw [perform_observe observed,perform_observe (e := f.heardAs sink told) observed]
      cases crosses : crossing? center candidate seen transition with
      | none => rfl
      | some p =>
        refine tell_heardAs (f := f.place sub.id inside) records listens told fun listener => ?_
        cases transition <;> cases crosses <;> rfl

theorem performAll_heardAs (records : f.sink = some .recorder) (listens : OnlyListens sink)
    (told : List Notice) {as : List Act} (evaluated : ∀ sub p, Act.tell sub p ∈ as → p.evaluated = true) :
    (f.heardAs sink told).performAll as = (f.performAll as).heardAs sink told := by
  induction as generalizing f with
  | nil => rfl
  | cons a as ih =>
    have first := perform_heardAs records listens told fun sub p same =>
      evaluated sub p (same ▸ List.mem_cons_self ..)
    have kept := (perform_kept (e := f) a).2.trans records
    rw [performAll,performAll,first]
    cases performed : f.perform a with
    | mk broken after =>
      rw [performed] at kept
      cases broken with
      | true => rfl
      | false => exact ih kept fun sub p later => evaluated sub p (List.mem_cons_of_mem _ later)

theorem evaluateAll_heardAs (records : f.sink = some .recorder) (listens : OnlyListens sink)
    (told : List Notice) (facts : List Fact) :
    (f.heardAs sink told).evaluateAll facts = (f.evaluateAll facts).heardAs sink told := by
  induction facts generalizing f with
  | nil => rfl
  | cons fact facts ih =>
    have acts : (f.heardAs sink told).acts fact = f.acts fact := by cases fact <;> rfl
    have first := performAll_heardAs records listens told fun sub p follows =>
      acts_tell (show .tell sub p ∈ f.acts fact from follows)
    rw [evaluateAll_cons,evaluateAll_cons,evaluate,acts,first]
    exact ih ((performAll_kept _).2.trans records)

/-! ## Operations -/

/-- Whether an operation binds a listener, or none. -/
def Operation.binds : Operation → Bool
  | .setSink _ => true
  | _ => false

theorem objects_heardAs (sink : Option Sink) (told : List Notice) (why : ErrorEvent) :
    (f.heardAs sink told).Objects op why ↔ f.Objects op why := by
  constructor <;> intro objects <;> cases objects <;> constructor <;> assumption

theorem subscribe_heardAs (records : f.sink = some .recorder) (sink : Option Sink)
    (told : List Notice) (makes : op.subscription? = some sub) :
    (f.heardAs sink told).apply op = ((f.apply op).1,(f.apply op).2.heardAs sink told) := by
  have here := subscribing f makes
  have there := subscribing (f.heardAs sink told) makes
  by_cases admitted : ∀ why, ¬f.Objects op why
  · rw [here.accepted admitted,there.accepted fun why => mt (objects_heardAs sink told why).mp (admitted why)]
    refine Prod.ext rfl ?_
    obtain ⟨own,watch⟩ := sub
    cases watch <;> rfl
  · obtain ⟨why,refused⟩ := not_forall_not.mp admitted
    rw [here.refused why refused,there.refused why ((objects_heardAs sink told why).mpr refused),records]
    cases sink with
    | none => rfl
    | some listener =>
      have hears : listener.hears ⟨some sub.id,.error why⟩ = true := rfl
      simp [heardAs,heardBy,List.filter_cons,hears]

theorem apply_heardAs (records : f.sink = some .recorder) (listens : OnlyListens sink)
    (told : List Notice) (other : op.binds = false) :
    (f.heardAs sink told).apply op = ((f.apply op).1,(f.apply op).2.heardAs sink told) := by
  by_cases direct : op.direct = true
  · cases op <;> simp only [Operation.direct,Bool.false_eq_true] at direct
    case trackDistance => exact subscribe_heardAs records sink told rfl
    case trackGeofence => exact subscribe_heardAs records sink told rfl
    case trackGroup => exact subscribe_heardAs records sink told rfl
    case unsubscribe s =>
      have group : (f.heardAs sink told).group = f.group := rfl
      have proximity : (f.heardAs sink told).proximity = f.proximity := rfl
      have geofence : (f.heardAs sink told).geofence = f.geofence := rfl
      simp only [apply,unsubscribe_first,group,proximity,geofence]
      split
      · rfl
      split
      · rfl
      split <;> rfl
    case crossRegion name entered =>
      have pois : (f.heardAs sink told).pois = f.pois := rfl
      simp only [apply,crossRegion,pois]
      cases f.pois.find? (·.name == name) with
      | none => rfl
      | some place =>
        cases sink with
        | none => simp [tellPoi,records,heardAs,heardBy,Sink.recorder]
        | some listener => by_cases takes : listener.hearsPois = true <;>
            simp [tellPoi,records,heardAs,heardBy,Sink.recorder,Sink.hears,takes]
    case setSink => cases other
  · exact apply_commutes (h := (·.heardAs sink told)) (fun _ _ => rfl)
      (Bool.eq_false_iff.mpr direct) (evaluateAll_heardAs records listens told (f.facts op))

/-! ## Runs -/

/-- A node as if nobody had ever listened to it. -/
def muted (e : Engine) : Engine := { e with sink := none, told := [] }

/-- A node to which a recorder begins to listen. -/
def recording (e : Engine) : Engine := { e with sink := some .recorder, told := [] }

theorem recording_heardAs (e : Engine) : e.recording.heardAs e.sink e.told = e := by
  have nothing : heardBy e.sink [] = [] := by cases e.sink <;> rfl
  simp only [recording,heardAs,nothing,List.nil_append]

theorem recording_of_muted (same : e.muted = f.muted) : e.recording = f.recording :=
  congrArg (fun g : Engine => { g with sink := some .recorder }) same

theorem recording_sink (e : Engine) : e.recording.sink = some .recorder := rfl

/-- To bind listeners changes nothing else, and what else is done does not depend on them. -/
theorem muted_apply (same : e.muted = f.muted) (listens : OnlyListens e.sink)
    (listens' : OnlyListens f.sink) (other : op.binds = false) :
    (e.apply op).1 = (f.apply op).1 ∧ (e.apply op).2.muted = (f.apply op).2.muted ∧
      (e.apply op).2.sink = e.sink ∧ (f.apply op).2.sink = f.sink := by
  have here := apply_heardAs (recording_sink e) listens e.told other
  have there := apply_heardAs (recording_sink f) listens' f.told other
  rw [recording_heardAs] at here there
  rw [recording_of_muted same] at here
  rw [here,there]
  exact ⟨rfl,rfl,rfl,rfl⟩

theorem muted_bind (same : e.muted = f.muted) (bound : op.binds = true) :
    (e.apply op).2.muted = f.muted := by
  cases op <;> simp only [Operation.binds,Bool.false_eq_true] at bound
  exact same

/-- The operations of a run with their replies, apart from the bindings of listeners. -/
def exchanges (e : Engine) : List Operation → List (Operation × Reply)
  | [] => []
  | op :: ops => if op.binds then (e.apply op).2.exchanges ops
    else (op,(e.apply op).1) :: (e.apply op).2.exchanges ops

/-- Every listener that is bound in a run only listens. -/
def Listened (ops : List Operation) : Prop := ∀ sink, .setSink sink ∈ ops → OnlyListens sink

theorem bind_listens {ops : List Operation} (listened : Listened (op :: ops)) (bound : op.binds = true) :
    OnlyListens (e.apply op).2.sink := by
  cases op <;> simp only [Operation.binds,Bool.false_eq_true] at bound
  exact listened _ (List.mem_cons_self ..)

/-- A run is the same without its bindings. -/
theorem unbound_run {ops : List Operation} (same : e.muted = f.muted) (listens : OnlyListens e.sink)
    (listens' : OnlyListens f.sink) (listened : Listened ops) :
    e.exchanges ops = f.exchanges (ops.filter (!·.binds)) ∧
      (e.after ops).muted = (f.after (ops.filter (!·.binds))).muted := by
  induction ops generalizing e f with
  | nil => exact ⟨rfl,same⟩
  | cons op ops ih =>
    have later : Listened ops := fun sink member => listened sink (List.mem_cons_of_mem _ member)
    by_cases bound : op.binds = true
    · have rest := ih (muted_bind same bound) (bind_listens listened bound) listens' later
      rw [List.filter_cons_of_neg (by simp [bound])]
      exact ⟨(if_pos bound).trans rest.1,rest.2⟩
    · have free := Bool.eq_false_iff.mpr bound
      obtain ⟨reply,same,sink,sink'⟩ := muted_apply same listens listens' free
      have rest := ih same (sink ▸ listens) (sink' ▸ listens') later
      rw [List.filter_cons_of_pos (by simp [free]),exchanges,exchanges,if_neg bound,if_neg bound,
        reply,rest.1]
      exact ⟨rfl,rest.2⟩

/-! ## Intervals -/

theorem heardBy_recorder (news : List Notice) : heardBy (some .recorder) news = news := by
  refine List.filter_eq_self.mpr fun n _ => ?_
  simp only [Sink.hears,Sink.recorder]
  split <;> rfl

theorem delivered_heardAs (f : Engine) (sink : Option Sink) (told : List Notice) :
    (f.heardAs sink told).delivered = told.reverse ++ heardBy sink f.delivered := by
  cases sink <;> simp [delivered,heardAs,heardBy,List.filter_reverse]

theorem sink_after {ops : List Operation} (listens : OnlyListens e.sink)
    (free : ∀ op ∈ ops, op.binds = false) : (e.after ops).sink = e.sink := by
  induction ops generalizing e with
  | nil => rfl
  | cons op ops ih =>
    have kept := (muted_apply rfl listens listens (free op (List.mem_cons_self ..))).2.2.1
    exact (ih (kept ▸ listens) fun other member => free other (List.mem_cons_of_mem _ member)).trans
      kept

theorem recorder_listens : OnlyListens (some .recorder) := by
  rintro listener ⟨⟩
  rfl

theorem after_heardAs {ops : List Operation} (records : f.sink = some .recorder)
    (listens : OnlyListens sink) (told : List Notice) (free : ∀ op ∈ ops, op.binds = false) :
    (f.heardAs sink told).after ops = (f.after ops).heardAs sink told := by
  induction ops generalizing f with
  | nil => rfl
  | cons op ops ih =>
    have first := free op (List.mem_cons_self ..)
    have kept := (muted_apply rfl (records ▸ recorder_listens) (records ▸ recorder_listens) first).2.2.1
    rw [after_cons,after_cons,apply_heardAs records listens told first]
    exact ih (kept.trans records) fun other member => free other (List.mem_cons_of_mem _ member)

/-- A run beside which a recorder listens all the time. -/
def recordedRun (e : Engine) (ops : List Operation) : Engine :=
  e.after (.setSink (some .recorder) :: ops.filter (!·.binds))

/-- A node after an interval in which a listener was bound, and a recorder was beside it. -/
theorem after_interval {pre mid : List Operation} (silent : e.sink = none) (listened : Listened pre)
    (listens : OnlyListens sink) (free : ∀ op ∈ mid, op.binds = false) :
    e.after (pre ++ .setSink sink :: mid) =
      ((e.recordedRun pre).recording.after mid).heardAs sink (e.after pre).told := by
  have unheard : OnlyListens e.sink := by rw [silent]; exact fun _ same => by cases same
  have same : (e.after pre).muted = (e.recordedRun pre).muted :=
    (unbound_run (e := e) (f := (e.apply (.setSink (some .recorder))).2) rfl unheard recorder_listens
      listened).2
  rw [← after_heardAs rfl listens _ free,← recording_of_muted same,after_append,after_cons]
  exact congrArg (Engine.after · mid) (recording_heardAs { e.after pre with sink := sink }).symm

/-- What a recorder beside a run hears in an interval. -/
theorem recorded_interval (e : Engine) {pre mid : List Operation}
    (free : ∀ op ∈ mid, op.binds = false) : (e.recordedRun (pre ++ mid)).delivered =
      (e.recordedRun pre).delivered ++ ((e.recordedRun pre).recording.after mid).delivered := by
  have records : (e.recordedRun pre).sink = some .recorder := sink_after
    (e := (e.apply (.setSink (some .recorder))).2) recorder_listens fun op member => by
      simpa using (List.mem_filter.mp member).2
  have still : mid.filter (!·.binds) = mid :=
    List.filter_eq_self.mpr fun op member => by simp [free op member]
  have run : e.recordedRun (pre ++ mid) = (e.recordedRun pre).after mid := by
    rw [recordedRun,List.filter_append,still,← List.cons_append,after_append]
    rfl
  have resumed := recording_heardAs (e.recordedRun pre)
  have parted := after_heardAs (recording_sink (e.recordedRun pre)) recorder_listens
    (e.recordedRun pre).told free
  rw [← records,resumed,records] at parted
  rw [run,parted,delivered_heardAs,heardBy_recorder]
  rfl

/-! ## Streams -/

theorem delivered_subscribing (makes : op.subscription? = some sub) :
    ∃ news, (e.apply op).2.delivered = e.delivered ++ news := by
  have call := subscribing e makes
  by_cases admitted : ∀ why, ¬e.Objects op why
  · refine ⟨[],?_⟩
    rw [call.accepted admitted]
    obtain ⟨own,watch⟩ := sub
    cases watch <;> simp [enrolled,place,delivered]
  · obtain ⟨why,refused⟩ := not_forall_not.mp admitted
    rw [call.refused why refused]
    exact ⟨_,List.reverse_append⟩

/-- What was told stays told. -/
theorem delivered_apply (e : Engine) (op : Operation) :
    ∃ news, (e.apply op).2.delivered = e.delivered ++ news := by
  by_cases direct : op.direct = true
  · cases op <;> simp only [Operation.direct,Bool.false_eq_true] at direct
    case trackDistance => exact delivered_subscribing rfl
    case trackGeofence => exact delivered_subscribing rfl
    case trackGroup => exact delivered_subscribing rfl
    case unsubscribe s => exact ⟨[],by simp [apply,delivered,unsubscribe_told]⟩
    case crossRegion name entered =>
      simp only [apply,crossRegion,tellPoi]
      split
      · exact ⟨[],by simp⟩
      split
      · exact ⟨_,List.reverse_cons⟩
      · exact ⟨[],by simp⟩
    case setSink sink => exact ⟨[],by simp [apply,delivered]⟩
  · have told := (apply_agree (e := e) (Bool.eq_false_iff.mpr direct)).told
    rw [delivered,told]
    exact ⟨_,evaluateAll_delivered e (e.facts op)⟩

end Engine

namespace Node

/-- A node after operations, each of which may add to its stream. -/
def after (n : Node) (ops : List Engine.Operation) : Node :=
  ops.foldl (fun n op => (n.apply op).2) n

/-- A stream takes everything that its node tells, and the node does not depend on it. -/
theorem after_streams (n : Node) (ops : List Engine.Operation) :
    (n.after ops).engine = n.engine.after ops ∧ ∃ news,
      (n.engine.after ops).delivered = n.engine.delivered ++ news ∧
      (n.after ops).stream = news.foldl .push n.stream := by
  induction ops generalizing n with
  | nil => exact ⟨rfl,[],by simp,rfl⟩
  | cons op ops ih =>
    obtain ⟨engine,news,delivered,streamed⟩ := ih (n.apply op).2
    obtain ⟨more,first⟩ := Engine.delivered_apply n.engine op
    have told : (n.engine.apply op).2.told = more.reverse ++ n.engine.told := by
      simpa [Engine.delivered] using congrArg List.reverse first
    have taken : (n.apply op).2.stream = more.foldl .push n.stream := by simp [apply,told]
    refine ⟨engine,more ++ news,?_,streamed.trans (by rw [taken,List.foldl_append])⟩
    rw [← List.append_assoc,← first]
    exact delivered

end Node

namespace Engine

/-! ## Whoever listens -/

/-- Nothing in a run depends on who listens, as another run shows that binds other listeners or
none; and while it is bound, each listener is told the news that a recorder beside the run hears. -/
structure Unaffected (e : Engine) (ops others : List Operation) : Prop where
  exchanges : e.exchanges ops = e.exchanges others
  state : (e.after ops).muted = (e.after others).muted
  heard : ∀ pre sink mid post, ops = pre ++ .setSink sink :: (mid ++ post) →
    (∀ op ∈ mid, op.binds = false) → ∃ news,
      (e.recordedRun (pre ++ mid)).delivered = (e.recordedRun pre).delivered ++ news ∧
      (e.after (pre ++ .setSink sink :: mid)).delivered =
        (e.after pre).delivered ++ heardBy sink news ∧
      -- an event stream of any capacity in place of the listener
      ∀ n : Node, n.engine = ((e.after pre).apply (.setSink (some .recorder))).2 →
        (n.after mid).stream = news.foldl .push n.stream ∧
        (n.after mid).engine.muted = (e.after (pre ++ .setSink sink :: mid)).muted

theorem unaffected_by_listeners {e : Engine} {self : Entity} {config : Config}
    (started : start self config = .ok e) {ops others : List Operation} (listened : Listened ops)
    (listened' : Listened others) (same : ops.filter (!·.binds) = others.filter (!·.binds)) :
    Unaffected e ops others := by
  have silent : e.sink = none := by
    rw [start] at started
    split at started
    · cases started
    · cases started
      rfl
  have unheard : OnlyListens e.sink := by rw [silent]; exact fun _ same => by cases same
  have here := unbound_run (e := e) rfl unheard unheard listened
  have there := unbound_run (e := e) rfl unheard unheard listened'
  rw [← same] at there
  refine ⟨here.1.trans there.1.symm,here.2.trans there.2.symm,?_⟩
  rintro pre sink mid post rfl free
  have before : Listened pre := fun other member => listened other (List.mem_append_left _ member)
  have listens := listened sink (List.mem_append_right _ (List.mem_cons_self ..))
  have bound := after_interval silent before listens free
  refine ⟨_,recorded_interval e free,?_,fun n engine => ?_⟩
  · rw [bound,delivered_heardAs]
    rfl
  · obtain ⟨after,news,delivered,streamed⟩ := n.after_streams mid
    have recorded := after_interval silent before recorder_listens free
    rw [after_append,after_cons,← engine] at recorded
    rw [recorded,delivered_heardAs,heardBy_recorder,engine] at delivered
    have same : news = _ := (List.append_cancel_left delivered).symm
    rw [streamed,same,after,recorded,bound]
    exact ⟨rfl,rfl⟩

def unattended : List Operation :=
  [.trackGeofence (.ofNat 1) lamp (.everyone "all") .near,wavering,wavering,wavering]

/-- The same with somebody who listens at first, nobody in between, and somebody else at last. -/
def attended : List Operation := [
  .trackGeofence (.ofNat 1) lamp (.everyone "all") .near,.setSink (some .recorder),wavering,
  .setSink none,wavering,.setSink (some ⟨false,.pass⟩),wavering]

theorem unaffected_by_listeners_attended : ∃ e, start watcher .standard = .ok e ∧
    Listened attended ∧ Listened unattended ∧
    attended.filter (!·.binds) = unattended.filter (!·.binds) ∧
    (e.after attended).delivered.length = 4 ∧ Unaffected e attended unattended := by
  have started : start watcher .standard = .ok _ := rfl
  have listened : Listened attended := by
    intro sink member listener bound
    subst bound
    simp only [attended,wavering,List.mem_cons,Operation.setSink.injEq,Option.some.injEq,reduceCtorEq,
      List.not_mem_nil,false_or,or_false] at member
    rcases member with rfl | rfl <;> rfl
  have listened' : Listened unattended := by simp [Listened,unattended,wavering]
  exact ⟨_,started,listened,listened',rfl,rfl,
    unaffected_by_listeners started listened listened' rfl⟩

/-- An application that panics over an event keeps a participant out of another geofence. -/
theorem panic_keeps_out : ∃ e, start watcher .standard = .ok e ∧
    let arrival (sink : Option Sink) : List Operation := [.setSink sink,
      .trackGeofence (.ofNat 1) lamp (.everyone "one") .near,
      .trackGeofence (.ofNat 2) lamp (.everyone "two") .near,
      .hear ⟨visitor.id,"log",.beaconReport visitor [{ lamp with distance := .near }]⟩]
    ((e.after (arrival (some ⟨false,.panicOver visitor.id⟩))).inside (.ofNat 2)).ids = [] ∧
    ((e.after (arrival none)).inside (.ofNat 2)).ids = [visitor.id] :=
  ⟨_,rfl,rfl,rfl⟩

end Engine

end Vicinity
