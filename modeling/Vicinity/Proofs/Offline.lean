import Vicinity.Proofs.Ending
import Vicinity.Proofs.GhostSwitch
import Vicinity.Proofs.SelfUpdate

/-! Whether a node is on the network after its end. Its end closes the session, but a change of the
node or a switch of its mode opens another one, whether the node has stopped or not, and to stop it
again does not close that. -/
namespace Vicinity.Engine

variable {e f : Engine} {op : Operation}

/-- Whether an operation begins a new session with the network. -/
def reopens (e : Engine) : Operation → Bool
  | .updateSelf new => new.id == e.self.id && !e.transport.refusesReconnect
  | .enterGhost => !e.isGhost && !e.transport.refusesReconnect
  | .leaveGhost => e.isGhost && !e.transport.refusesReconnect
  | _ => false

/-- Whether an operation ends the session and begins no other. -/
def severs (e : Engine) : Operation → Bool
  | .disconnect => true
  | .stop => !e.stopped
  | _ => false

/-! ## A session that goes on -/

/-- The session is the one it was; whoever is cut off and listens to nothing goes on so. -/
structure Lasting (e f : Engine) : Prop where
  connected : f.transport.connected = e.transport.connected
  deaf : e.transport.connected = false → e.transport.topics = [] → f.transport.topics = []

theorem Lasting.refl (e : Engine) : Lasting e e := ⟨rfl,fun _ empty => empty⟩

theorem Lasting.trans {g : Engine} (first : Lasting e f) (second : Lasting f g) : Lasting e g :=
  ⟨second.connected.trans first.connected,
    fun off empty => second.deaf (first.connected.trans off) (first.deaf off empty)⟩

theorem lasting_of_transport (same : f.transport = e.transport) : Lasting e f :=
  ⟨congrArg (·.connected) same,fun _ empty => (congrArg (·.topics) same).trans empty⟩

theorem say_lasting (e : Engine) (ss : List Saying) : Lasting e (e.say ss) :=
  ⟨rfl,fun _ empty => empty⟩

theorem listen_lasting (e : Engine) (c : Channel) : Lasting e (e.listen c) := by
  rw [listen,Transport.listen]
  cases connected : e.transport.connected with
  | false => exact .refl e
  | true => exact ⟨connected.symm,fun off => absurd (connected.symm.trans off) Bool.true_eq_false.mp⟩

theorem listenEach_lasting (e : Engine) (cs : List Channel) : Lasting e (cs.foldl listen e) := by
  induction cs generalizing e with
  | nil => exact .refl e
  | cons c cs ih => exact (listen_lasting e c).trans (ih _)

theorem closeAll_lasting (e : Engine) (ds : List Deferred) : Lasting e (e.closeAll ds) := by
  induction ds generalizing e with
  | nil => exact .refl e
  | cons d ds ih =>
    refine .trans ?_ (ih (e.close d))
    cases d with
    | departure entity => exact .refl e
    | query topic within =>
      rw [close]
      cases e.query with
      | none => exact lasting_of_transport rfl
      | some q => exact ⟨rfl,fun _ empty => by simp [Transport.unlisten,empty]⟩

theorem hear_lasting (e : Engine) (op : Operation) : Lasting e
    ((e.heard? op).elim e fun body => (e.prepared body).sends (e.tasks body)) := by
  cases e.heard? op with
  | none => exact .refl e
  | some body =>
    obtain ⟨t,q,eq⟩ := prepared_eq e body
    rw [Option.elim_some,prepared_responds,eq]
    exact ⟨rfl,fun _ empty => empty⟩

theorem report_lasting (e : Engine) (beacons : List Entity) : Lasting e (e.report beacons) := by
  obtain ⟨n,counted⟩ := countScan_scans e
  rw [report]
  split
  · cases count : e.countScan with
    | mk isDue f =>
      rw [count] at counted
      obtain rfl : f = _ := counted
      cases isDue with
      | false => exact lasting_of_transport rfl
      | true =>
        simp only [publish_eq]
        exact ⟨rfl,fun _ empty => empty⟩
  · exact .refl e

theorem ask_lasting (e : Engine) (token : String) (wanted : Group) (within : Distance)
    (timeout : Nat) : Lasting e (e.ask token wanted within timeout).2 := by
  rw [ask]
  dsimp only
  split
  · exact .refl e
  split
  · exact .refl e
  next armed timers _ =>
    rw [publish_eq]
    have asked : Lasting e { e with query := some ⟨replyTopic token,[]⟩, timers := timers } :=
      lasting_of_transport rfl
    exact (asked.trans (listen_lasting _ _)).trans (say_lasting _ _)

theorem pass_lasting (e : Engine) (op : Operation) :
    Lasting e ((e.withTimers (e.released op).2).closeAll (e.released op).1) :=
  have untimed : Lasting e (e.withTimers (e.released op).2) := lasting_of_transport rfl
  untimed.trans (closeAll_lasting ..)

/-- A switch that begins no session says something at most. -/
theorem switch_lasting {ghost : Bool} (asks : op.mode? = some ghost)
    (fails : e.isGhost = (!ghost) → e.transport.refusesReconnect = true) :
    Lasting e (e.apply op).2 := by
  by_cases settled : e.isGhost = ghost
  · rw [apply_settled asks settled]
    exact .refl e
  · have due := Bool.eq_not_of_ne settled
    rw [apply_unconnected asks due (fails due)]
    exact ⟨rfl,fun _ empty => empty⟩

theorem surroundings_lasting (goesOn : e.reopens op = false) (lasts : e.severs op = false) :
    Lasting e (e.surroundings op) := by
  cases op
  case connected =>
    rw [show e.surroundings .connected = _ from connected_eq e]
    exact (say_lasting e (e.greeting e.policy)).trans
      (listenEach_lasting _ (Channel.shared ++ [.entity e.self.id]))
  case hear m => exact hear_lasting e (.hear m)
  case hearPayload payload => exact hear_lasting e (.hearPayload payload)
  case scan readings =>
    rw [surroundings]
    split
    · exact lasting_of_transport rfl
    split
    · exact .refl e
    · exact (report_lasting e _).trans (lasting_of_transport rfl)
  case ask => exact ask_lasting ..
  case elapse milliseconds => exact pass_lasting e (.elapse milliseconds)
  case expire key => exact pass_lasting e (.expire key)
  case expireDepartures => exact pass_lasting e .expireDepartures
  case updateSelf new =>
    change Lasting e (e.apply (.updateSelf new)).2
    rw [apply_updateSelf]
    split
    next same =>
      have refuses : e.transport.refusesReconnect = true := by simpa [reopens,same] using goesOn
      rw [if_pos refuses]
      exact .refl e
    next => exact .refl e
  case enterGhost =>
    exact switch_lasting rfl fun due => by simpa [reopens,due] using goesOn
  case leaveGhost =>
    exact switch_lasting rfl fun due => by simpa [reopens,due] using goesOn
  case addPois json =>
    simp only [surroundings,apply,addPois]
    split <;> exact lasting_of_transport rfl
  case disconnect => cases lasts
  case stop =>
    have stopped : e.stopped = true := by simpa [severs] using lasts
    change Lasting e e.stop
    rw [stop,if_pos stopped]
    exact .refl e
  all_goals exact ⟨rfl,fun _ empty => empty⟩

theorem apply_lasting (goesOn : e.reopens op = false) (lasts : e.severs op = false) :
    Lasting e (e.apply op).2 :=
  (surroundings_lasting goesOn lasts).trans
    (lasting_of_transport (apply_aside e op).transport)

/-! ## Sessions that begin and end -/

theorem apply_severed (severs : e.severs op = true) :
    (e.apply op).2.transport = e.transport.disconnect := by
  cases op <;> simp only [Engine.severs,Bool.false_eq_true] at severs
  case disconnect => rfl
  case stop =>
    have live : ¬ e.stopped = true := by simpa using severs
    rw [apply,stop,if_neg live]

theorem apply_reopened (reopens : e.reopens op = true) :
    (e.apply op).2.transport.connected = true := by
  cases op <;> simp only [Engine.reopens,Bool.false_eq_true,Bool.and_eq_true] at reopens
  case updateSelf new =>
    obtain ⟨same,connects⟩ := reopens
    rw [apply_updateSelf,if_pos (eq_of_beq same),if_neg (by simpa using connects)]
    rfl
  case enterGhost =>
    obtain ⟨due,connects⟩ := reopens
    have asks : Operation.enterGhost.mode? = some true := rfl
    rw [apply_connected asks (by simpa using due) (by simpa using connects)]
    rfl
  case leaveGhost =>
    obtain ⟨due,connects⟩ := reopens
    have asks : Operation.leaveGhost.mode? = some false := rfl
    rw [apply_connected asks (by simpa using due) (by simpa using connects)]
    rfl

/-- A session is open after an operation that opens one, and one that was open before is until an
operation severs it. -/
theorem connected_apply (e : Engine) (op : Operation) : (e.apply op).2.transport.connected =
    (e.reopens op || e.transport.connected && !e.severs op) := by
  cases reopens : e.reopens op with
  | true => exact apply_reopened reopens
  | false =>
    cases severs : e.severs op with
    | true =>
      rw [apply_severed severs,Bool.not_true,Bool.and_false]
      rfl
    | false =>
      rw [(apply_lasting reopens severs).connected,Bool.not_false,Bool.and_true]
      rfl

/-! ## Off the network -/

/-- A node that is not on the network, and has published so much. -/
structure Offline (log : List (Channel × Message)) (e : Engine) : Prop where
  connected : e.transport.connected = false
  topics : e.transport.topics = []
  published : e.transport.published = log

variable {log : List (Channel × Message)}

theorem uttered_offline (off : e.transport.connected = false) (ss : List Saying) :
    e.uttered ss = [] := by
  rw [uttered,Transport.accepts,off]
  rfl

theorem outgoing_offline (off : e.transport.connected = false) (goesOn : e.reopens op = false) :
    e.outgoing op = [] := by
  cases op
  case updateSelf new =>
    -- this would be announced over a new session
    have unsaid : e.sayings (.updateSelf new) = [] :=
      if_neg fun ⟨same,connects⟩ => by simp [reopens,same,connects] at goesOn
    rw [outgoing,unsaid,uttered_nil]
  all_goals exact uttered_offline off _

theorem Sound.offline_apply (sound : e.Sound) (off : Offline log e) (op : Operation) :
    Offline log (e.apply op).2 ↔ e.reopens op = false := by
  constructor
  · intro stays
    cases reopens : e.reopens op with
    | false => rfl
    | true => exact absurd ((apply_reopened reopens).symm.trans stays.connected) Bool.noConfusion
  · intro goesOn
    have connected := connected_apply e op
    rw [goesOn,off.connected] at connected
    have topics : (e.apply op).2.transport.topics = [] := by
      cases severs : e.severs op with
      | true => rw [apply_severed severs]; rfl
      | false => exact (apply_lasting goesOn severs).deaf off.connected off.topics
    refine ⟨connected,topics,?_⟩
    rw [sound.published_apply,outgoing_offline off.connected goesOn,List.append_nil]
    exact off.published

/-- The end of a node takes it off the network. -/
theorem stop_offline (live : e.stopped = false) :
    Offline e.transport.published (e.apply .stop).2 := by
  have severed : (e.apply .stop).2.transport = e.transport.disconnect :=
    apply_severed (by simp [severs,live])
  constructor <;> rw [severed] <;> rfl

/-! ## Runs -/

theorem Sound.offline_after (sound : e.Sound) (off : Offline log e) (ops : List Operation) :
    (∀ mid, mid <+: ops → Offline log (e.after mid)) ↔ never reopens e ops := by
  induction ops generalizing e with
  | nil =>
    refine iff_of_true (fun mid within => ?_) trivial
    rw [List.prefix_nil.mp within]
    exact off
  | cons op ops ih =>
    have first := sound.offline_apply off op
    constructor
    · intro stays
      have next : Offline log (e.apply op).2 := stays [op] ⟨ops,rfl⟩
      refine ⟨first.mp next,(ih (sound.apply op) next).mp fun mid within => ?_⟩
      exact stays (op :: mid) (List.cons_prefix_cons.mpr ⟨rfl,within⟩)
    · rintro ⟨goesOn,rest⟩ mid within
      have next := first.mpr goesOn
      cases mid with
      | nil => exact off
      | cons other mid =>
        obtain ⟨rfl,inside⟩ := List.cons_prefix_cons.mp within
        exact (ih (sound.apply other) next).mpr rest mid inside

theorem Sound.stopped_after (sound : e.Sound) (stopped : e.stopped = true)
    (ops : List Operation) : (e.after ops).stopped = true := by
  induction ops generalizing e with
  | nil => exact stopped
  | cons op ops ih => exact ih (sound.apply op) (sound.stopped_apply stopped op)

/-- Once a node has stopped, only the loss of its connection severs it. -/
theorem severs_stopped (stopped : e.stopped = true) :
    e.severs op = false ↔ op ≠ .disconnect := by
  cases op <;> simp [severs,stopped]

/-- After its end a node is on the network exactly if some operation has begun a session since that
was not lost again. -/
theorem Sound.connected_after (sound : e.Sound) (stopped : e.stopped = true)
    (off : e.transport.connected = false) (ops : List Operation) :
    (e.after ops).transport.connected = true ↔ ∃ mid op post, ops = mid ++ op :: post ∧
      (e.after mid).reopens op = true ∧ .disconnect ∉ post := by
  induction ops using List.reverseRecOn with
  | nil =>
    constructor
    · intro connected
      exact absurd (connected.symm.trans off) Bool.noConfusion
    · rintro ⟨mid,op,post,split,_⟩
      simp at split
  | append_singleton ops last ih =>
    have ended := sound.stopped_after stopped ops
    rw [after_concat,connected_apply,Bool.or_eq_true,Bool.and_eq_true,Bool.not_eq_true',
      severs_stopped ended,ih]
    constructor
    · rintro (reopens | ⟨⟨mid,op,post,rfl,reopens,kept⟩,keeps⟩)
      · exact ⟨ops,last,[],rfl,reopens,List.not_mem_nil⟩
      · refine ⟨mid,op,post ++ [last],by simp,reopens,fun lost => ?_⟩
        rcases List.mem_append.mp lost with lost | lost
        · exact kept lost
        · exact keeps (List.mem_singleton.mp lost).symm
    · rintro ⟨mid,op,post,split,reopens,kept⟩
      rcases List.eq_nil_or_concat post with rfl | ⟨post,other,rfl⟩
      · obtain ⟨rfl,same⟩ := List.append_inj' split rfl
        obtain rfl := List.head_eq_of_cons_eq same
        exact .inl reopens
      · have parts : ops ++ [last] = (mid ++ op :: post) ++ [other] := by simpa using split
        obtain ⟨rfl,same⟩ := List.append_inj' parts rfl
        obtain rfl := List.head_eq_of_cons_eq same
        refine .inr ⟨⟨mid,op,post,rfl,reopens,fun lost => ?_⟩,?_⟩
        · exact kept (by simp [lost])
        · rintro rfl
          exact kept (by simp)

/-- A node that stops stays off the network, and publishes nothing more, exactly as long as no
change of itself and no switch of its mode begins a new session; and such a session lasts, however
often the node is stopped, until the connection is lost. -/
theorem offline_unless_reopened {self : Entity} {config : Config}
    (started : start self config = .ok e) {pre : List Operation}
    (live : (e.after pre).stopped = false) (ops : List Operation) :
    let ended := e.after (pre ++ [.stop])
    ((∀ mid, mid <+: ops → Offline (e.after pre).transport.published (ended.after mid)) ↔
      never reopens ended ops) ∧
    ((ended.after ops).transport.connected = true ↔ ∃ mid op post, ops = mid ++ op :: post ∧
      (ended.after mid).reopens op = true ∧ .disconnect ∉ post) := by
  have sound := (start_sound started).after (pre ++ [.stop])
  have off := stop_offline live
  have stopped : (e.after (pre ++ [.stop])).stopped = true :=
    (stopped_for_good started pre []).stopped
  rw [after_concat] at sound stopped ⊢
  exact ⟨sound.offline_after off ops,sound.connected_after stopped off.connected ops⟩

/-- What the application may still call on a node that has stopped. -/
def lateCalls : List Operation := [.connected,.enterGhost,.stop]

theorem offline_unless_reopened_late : ∃ e, start (.bare (.of "me") .device) .standard = .ok e ∧
    (e.after [.connected]).stopped = false ∧
    let ended := e.after ([.connected] ++ [.stop])
    ((∀ mid, mid <+: lateCalls →
      Offline (e.after [.connected]).transport.published (ended.after mid)) ↔
      never reopens ended lateCalls) ∧
    ((ended.after lateCalls).transport.connected = true ↔ ∃ mid op post,
      lateCalls = mid ++ op :: post ∧ (ended.after mid).reopens op = true ∧ .disconnect ∉ post) := by
  have started : start (.bare (.of "me") .device) .standard = .ok _ := rfl
  exact ⟨_,started,rfl,offline_unless_reopened started rfl lateCalls⟩

/-- A node that has stopped and changes itself is on the network again, listens, and has said so; and
it stays there when it is stopped once more. -/
theorem reopened_after_stop : ∃ e, start (.bare (.of "me") .device) .standard = .ok e ∧
    let ended := e.after [.stop]
    let changed := ended.after [.updateSelf (.bare (.of "me") .device)]
    ended.stopped = true ∧ ended.transport.connected = false ∧ ended.transport.published = [] ∧
    changed.stopped = true ∧ changed.transport.connected = true ∧
    changed.transport.topics ≠ [] ∧ changed.transport.published.length = 1 ∧
    (changed.after [.stop]).transport.connected = true :=
  ⟨_,rfl,rfl,rfl,rfl,rfl,rfl,by decide,rfl,rfl⟩

end Vicinity.Engine
