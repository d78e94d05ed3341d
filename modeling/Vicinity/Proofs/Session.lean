import Vicinity.Proofs.Query

/-! The channel for the replies. A node listens to it from the moment it asks; but a new session
listens to nothing, and only the shared channels and the private one are listened to again, so an
operation that resets the session leaves an open question without its replies. -/
namespace Vicinity.Engine

variable {e f : Engine} {op : Operation} {token : String}

/-- Whether an operation ends the session with the network, to begin another one or not. -/
def resets (e : Engine) : Operation → Bool
  | .updateSelf new => new.id == e.self.id && !e.transport.refusesReconnect
  | .enterGhost => !e.isGhost && !e.transport.refusesReconnect
  | .leaveGhost => e.isGhost && !e.transport.refusesReconnect
  | .disconnect => true
  | .stop => !e.stopped
  | _ => false

/-- Whether the node listens to the channel for the replies to a question. -/
def Listens (e : Engine) (token : String) : Prop := replyTopic token ∈ e.transport.topics

theorem Sent.listens (sent : Sent e f) : Listens f token ↔ Listens e token := by
  obtain ⟨more,rfl⟩ := sent
  exact .rfl

theorem publish_listens (e : Engine) (c : Channel) (logId : String) (body : Message.Body) :
    Listens (e.publish c logId body) token ↔ Listens e token :=
  (publish_sent e c logId body).listens

theorem listen_listens (e : Engine) {c : Channel} (other : c.name ≠ replyTopic token) :
    Listens (e.listen c) token ↔ Listens e token := by
  rw [listen,Transport.listen]
  split
  next t listened =>
    split at listened
    · cases listened
    · cases listened
      rw [Listens,Transport.mem_insertTopic]
      exact or_iff_right fun same => other same.symm
  next => exact .rfl

theorem listenAs_listens (e : Engine) (id : EntityId) :
    Listens (e.listenAs id) token ↔ Listens e token := by
  have each : ∀ (cs : List Channel) (e : Engine), (∀ c ∈ cs, c.name ≠ replyTopic token) →
      (Listens (cs.foldl listen e) token ↔ Listens e token) := by
    intro cs
    induction cs with
    | nil => exact fun e _ => .rfl
    | cons c cs ih =>
      intro e others
      have rest := ih (e.listen c) fun c member => others c (List.mem_cons_of_mem _ member)
      exact rest.trans (listen_listens e (others c (List.mem_cons_self ..)))
  apply each _ e
  intro c member
  rcases List.mem_append.mp member with shared | own
  · exact replyTopic_ne_shared token shared
  · obtain rfl := List.mem_singleton.mp own
    exact replyTopic_ne_entity token id

/-- A new session listens to no channel for replies. -/
theorem replaceSelf_listens (token : String) {new : Entity} {announce : Bool}
    (replaced : e.replaceSelf new announce = .ok f) :
    e.transport.refusesReconnect = false ∧ ¬ Listens f token := by
  rw [replaceSelf,Transport.reconnect] at replaced
  by_cases refuses : e.transport.refusesReconnect = true
  · rw [if_pos refuses] at replaced
    cases replaced
  · rw [if_neg refuses] at replaced
    cases replaced
    refine ⟨Bool.eq_false_iff.mpr refuses,fun listens => ?_⟩
    have old := (listenAs_listens _ new.id).mp (show Listens (listenAs _ new.id) token from listens)
    split at old
    · exact absurd ((publish_listens ..).mp old) (by simp [Listens])
    · exact absurd old (by simp [Listens])

theorem replaceSelf_refused {new : Entity} {announce : Bool} {cause : TransportError}
    (refused : e.replaceSelf new announce = .error cause) :
    e.transport.refusesReconnect = true := by
  rw [replaceSelf,Transport.reconnect] at refused
  by_cases refuses : e.transport.refusesReconnect = true
  · exact refuses
  · rw [if_neg refuses] at refused
    cases refused

/-- The session is reset, and the channel lost, unless the connection refuses. -/
theorem settled_listens (e : Engine) (new : Entity) (announce : Bool) :
    Listens (e.settled (e.replaceSelf new announce)).2 token ↔
      Listens e token ∧ e.transport.refusesReconnect = true := by
  cases replaced : e.replaceSelf new announce with
  | ok f =>
    obtain ⟨accepts,deaf⟩ := replaceSelf_listens token replaced
    simp [settled,accepts,deaf]
  | error cause =>
    simp [settled,replaceSelf_refused replaced]

/-- A switch of ghost mode says goodbye or hello and resets the session. -/
theorem switch_listens (token : String) {v : Visibility}
    (said : Sent { e with visibility := v } f) :
    Listens (settledFlag (f.settled (f.replaceSelf f.self false))).2 token ↔
      Listens e token ∧ e.transport.refusesReconnect = true := by
  obtain ⟨more,rfl⟩ := said
  exact settled_listens ..

theorem updateSelf_listens (e : Engine) (new : Entity) :
    Listens (e.updateSelf new).2 token ↔
      Listens e token ∧ e.resets (.updateSelf new) = false := by
  rw [updateSelf,resets]
  by_cases same : new.id = e.self.id
  · rw [if_pos same]
    simpa [same] using settled_listens e new true
  · rw [if_neg same]
    simp [same]

theorem enterGhost_listens (e : Engine) :
    Listens e.enterGhost.2 token ↔ Listens e token ∧ e.resets .enterGhost = false := by
  rw [enterGhost,Visibility.enterGhost,resets,isGhost,Visibility.isGhost]
  cases e.visibility.saved with
  | some policy => simp
  | none =>
    have said := switch_listens token (e := e) (v := ⟨.silent,some e.visibility.current⟩)
      (f := if e.visibility.current.groupChanges then
          { e with visibility := ⟨.silent,some e.visibility.current⟩ }.publish .broadcast
            (stamp { e with visibility := ⟨.silent,some e.visibility.current⟩ })
            (.checkOut e.self true)
        else { e with visibility := ⟨.silent,some e.visibility.current⟩ })
      (by split <;> first | exact publish_sent .. | exact .refl _)
    simpa using said

theorem leaveGhost_listens (e : Engine) :
    Listens e.leaveGhost.2 token ↔ Listens e token ∧ e.resets .leaveGhost = false := by
  rw [leaveGhost,Visibility.leaveGhost,resets,isGhost,Visibility.isGhost]
  cases e.visibility.saved with
  | none => simp
  | some policy =>
    have said := switch_listens token (e := e) (v := ⟨policy,none⟩)
      (f := if policy.groupChanges then { e with visibility := ⟨policy,none⟩ }.announceArrival
        else { e with visibility := ⟨policy,none⟩ })
      (by split <;> first | exact publish_sent .. | exact .refl _)
    simpa using said

theorem tell_transport (e : Engine) (sub : Subscription) (p : Payload) :
    (e.tell sub p).2.transport = e.transport :=
  congrArg (·.2.transport) (tell_beside (e := e) (g := e) sub p)

theorem unsubscribe_transport (e : Engine) (sub : Subscription) :
    (e.unsubscribe sub).2.transport = e.transport :=
  congrArg (·.2.transport) (unsubscribe_beside (e := e) (g := e) sub)

theorem work_listens (e : Engine) (ts : List Task) :
    Listens (e.work ts) token ↔ Listens e token := by
  rw [work_eq]
  split
  · exact .rfl
  · exact (sends_sent e ts).listens

theorem hear_listens (applied : (e.apply op).2 = (e.heard? op).elim e e.hearBody) :
    Listens (e.apply op).2 token ↔ Listens e token := by
  rw [applied]
  cases e.heard? op with
  | none => exact .rfl
  | some body =>
    obtain ⟨t,q,eq⟩ := prepared_eq e body
    rw [Option.elim_some,hearBody_eq]
    refine (work_listens ..).trans ?_
    rw [eq]
    exact .rfl

theorem report_listens (e : Engine) (beacons : List Entity) :
    Listens (e.report beacons) token ↔ Listens e token := by
  have counted : e.countScan.2.transport = e.transport := by
    rw [countScan]
    split <;> rfl
  rw [report]
  split
  · cases count : e.countScan with
    | mk isDue f =>
      rw [count] at counted
      cases isDue
      · exact iff_of_eq (congrArg (replyTopic token ∈ ·.topics) counted)
      · exact (publish_listens ..).trans (iff_of_eq (congrArg (replyTopic token ∈ ·.topics) counted))
  · exact .rfl

theorem scan_listens (e : Engine) (readings : List BeaconReading) :
    Listens (e.scan readings) token ↔ Listens e token := by
  rw [scan]
  split
  · exact .rfl
  split
  · exact .rfl
  · exact (report_listens ..).trans (work_listens ..)

theorem pass_listens (sound : e.Sound) (passes : op.passesTime = true)
    (closed : e.closing? op = none) : Listens (e.apply op).2 token ↔ Listens e token := by
  rw [apply_released passes,carryAll_eq,sound.closeAll_released,closed]
  exact .rfl

/-- Only the end of the session ends listening for the replies to an open question. -/
theorem Sound.listens_apply (sound : e.Sound) {q : Query} (asked : e.query = some q)
    (lasts : e.ends .query op = false) :
    Listens (e.apply op).2 token ↔ Listens e token ∧ e.resets op = false := by
  have closed := closing?_lasts lasts
  have unreset : ∀ f : Engine, (Listens f token ↔ Listens e token) → e.resets op = false →
      (Listens f token ↔ Listens e token ∧ e.resets op = false) :=
    fun f same quiet => same.trans (and_iff_left quiet).symm
  cases op
  case trackDistance id anchor others =>
    refine unreset _ ?_ rfl
    simp only [Engine.apply,trackDistance]
    split
    · exact iff_of_eq (congrArg (replyTopic token ∈ ·.topics) (tell_transport ..))
    · exact .rfl
  case trackGeofence id anchor members radius =>
    refine unreset _ ?_ rfl
    simp only [Engine.apply,trackGeofence]
    split
    · exact iff_of_eq (congrArg (replyTopic token ∈ ·.topics) (tell_transport ..))
    split
    · exact iff_of_eq (congrArg (replyTopic token ∈ ·.topics) (tell_transport ..))
    · exact .rfl
  case unsubscribe sub =>
    refine unreset _ (iff_of_eq ?_) rfl
    exact congrArg (replyTopic token ∈ ·.topics) (unsubscribe_transport e sub)
  case connected =>
    refine unreset _ ((listenAs_listens ..).trans ?_) rfl
    split
    · exact publish_listens ..
    · exact .rfl
  case hear m => exact unreset _ (hear_listens (hear_eq e m)) rfl
  case hearPayload payload => exact unreset _ (hear_listens (hearPayload_eq e payload)) rfl
  case scan readings => exact unreset _ (scan_listens e readings) rfl
  case ask other wanted within timeout =>
    refine unreset _ ?_ rfl
    rw [ask_refused (by simp [isQueryPending,asked])]
  case elapse => exact unreset _ (pass_listens sound rfl closed) rfl
  case expire => exact unreset _ (pass_listens sound rfl closed) rfl
  case expireDepartures => exact unreset _ (pass_listens sound rfl closed) rfl
  case updateSelf new => exact updateSelf_listens e new
  case enterGhost => exact enterGhost_listens e
  case leaveGhost => exact leaveGhost_listens e
  case addPois json =>
    refine unreset _ ?_ rfl
    simp only [Engine.apply,addPois]
    split <;> exact .rfl
  case crossRegion name entered =>
    refine unreset _ ?_ rfl
    simp only [Engine.apply,crossRegion,tellPoi]
    split
    · exact .rfl
    · split <;> exact .rfl
  case disconnect => simp [Engine.apply,Listens,Transport.disconnect,resets]
  case stop => cases lasts
  all_goals exact unreset _ .rfl rfl

/-! ## Runs -/

/-- A node that is connected when it asks listens for the replies. -/
theorem Sound.opened_listens (sound : e.Sound) (free : e.Free)
    (connected : e.transport.connected = true) (token : String) (wanted : Group)
    (within : Distance) (timeout : Nat) : Listens (e.apply (.ask token wanted within timeout)).2 token := by
  have same : (e.moved (.ask token wanted within timeout)).transport = e.transport := by
    simp [Engine.moved,free.eq]
  rw [Engine.apply,sound.ask_accepted free.eq]
  refine (publish_listens ..).mpr ?_
  simp only [Listens,listen,Transport.listen,same,connected,Channel.name]
  exact (Transport.mem_insertTopic ..).mpr (.inl rfl)

theorem Sound.listens_after (sound : e.Sound) {q : Query} (asked : e.query = some q)
    {ops : List Operation} (lasts : never (·.ends .query ·) e ops) :
    Listens (e.after ops) token ↔ Listens e token ∧ never resets e ops := by
  induction ops generalizing e q with
  | nil => exact (and_iff_left trivial).symm
  | cons op ops ih =>
    have rest := ih (sound.apply op) (sound.query_lasting asked lasts.1) lasts.2
    rw [after_cons,rest,sound.listens_apply asked lasts.1]
    exact and_assoc

/-- A question that is open was asked at some time, and nothing closed it since; if the node was
connected then, it still listens for the replies exactly if nothing has reset the session. -/
theorem replies_heard_iff {self : Entity} {config : Config} (started : start self config = .ok e)
    {ops : List Operation} {q : Query} (asked : (e.after ops).query = some q) :
    ∃ pre token wanted within timeout mid,
      ops = pre ++ .ask token wanted within timeout :: mid ∧ (e.after pre).Free ∧
      q.topic = replyTopic token ∧
      never (·.ends .query ·) (e.after (pre ++ [.ask token wanted within timeout])) mid ∧
      ((e.after pre).transport.connected = true →
        (q.topic ∈ (e.after ops).transport.topics ↔
          never resets (e.after (pre ++ [.ask token wanted within timeout])) mid)) := by
  have sound := start_sound started
  obtain ⟨w,waits⟩ : ∃ w, (e.after ops).timers.waiting? .query = some w := by
    rw [← Option.ne_none_iff_exists']
    intro idle
    rw [(sound.after ops).query_none.mpr idle] at asked
    cases asked
  obtain ⟨pre,op,mid,rfl,unarmed,arms,lasts⟩ :=
    (sound.waits_iff (start_idle started .query) ops w).mp waits
  obtain ⟨token,wanted,within,timeout,rfl,live⟩ := asked_of_arms arms
  have free : (e.after pre).Free := ⟨live,(sound.after pre).query_none.mpr unarmed⟩
  have run : e.after (pre ++ .ask token wanted within timeout :: mid) =
      ((e.after pre).apply (.ask token wanted within timeout)).2.after mid := after_append ..
  rw [run] at asked ⊢
  have lasts' := lasts
  rw [after_concat] at lasts'
  obtain rfl := Option.some.inj (asked.symm.trans ((sound.after pre).collecting free lasts').1)
  refine ⟨pre,token,wanted,within,timeout,mid,rfl,free,rfl,lasts,fun connected => ?_⟩
  have heard := (sound.after pre).opened_listens free connected token wanted within
    timeout
  rw [after_concat]
  exact (((sound.after pre).apply _).listens_after ((sound.after pre).opened free ..).1 lasts').trans
    (and_iff_right heard)

/-! ## A session that is reset -/

/-- A node that asks. -/
def askingRun : List Operation := [asking]

/-- The node changes its properties. -/
def refresh : Operation := .updateSelf (.bare (.of "me") .device)

theorem replies_heard_iff_asking : ∃ e, start (.bare (.of "me") .device) .standard = .ok e ∧
    replyTopic "Q0" ∈ (e.after (askingRun ++ [.elapse 5000])).transport.topics ∧
    replyTopic "Q0" ∉ (e.after (askingRun ++ [refresh])).transport.topics ∧
    ∀ op ∈ [.elapse 5000,refresh], ∃ q, (e.after (askingRun ++ [op])).query = some q ∧
      ∃ pre token wanted within timeout mid,
        askingRun ++ [op] = pre ++ .ask token wanted within timeout :: mid ∧ (e.after pre).Free ∧
        q.topic = replyTopic token ∧
        never (·.ends .query ·) (e.after (pre ++ [.ask token wanted within timeout])) mid ∧
        ((e.after pre).transport.connected = true →
          (q.topic ∈ (e.after (askingRun ++ [op])).transport.topics ↔
            never resets (e.after (pre ++ [.ask token wanted within timeout])) mid)) := by
  have started : start (.bare (.of "me") .device) .standard = .ok _ := rfl
  refine ⟨_,started,by decide,by decide,
    List.forall_mem_cons.mpr ⟨?_,List.forall_mem_singleton.mpr ?_⟩⟩
  · exact ⟨_,rfl,replies_heard_iff started rfl⟩
  · exact ⟨_,rfl,replies_heard_iff started rfl⟩

/-- The question stays open when the node changes its properties, but nobody listens for the
replies any more. -/
theorem replies_unheard : ∃ e, start (.bare (.of "me") .device) .standard = .ok e ∧
    e.transport.connected = true ∧
    let f := e.after (askingRun ++ [.updateSelf (.bare (.of "me") .device)])
    f.stopped = false ∧ f.query = some ⟨replyTopic "Q0",[]⟩ ∧
      replyTopic "Q0" ∉ f.transport.topics :=
  ⟨_,rfl,rfl,rfl,rfl,by decide⟩

end Vicinity.Engine
