import Vicinity.Proofs.Engine.Notices

/-! Events at the moments when the application is told of them. An evaluation goes by the
registrations that it finds when it begins. What the application does after one event can change
them before the next one, and only an application that ends subscriptions then takes any away. -/
namespace Vicinity.Engine

variable {e now begun : Engine} {t : Telling} {as : List Act} {facts : List Fact}

/-- What there is to tell in an act. -/
def event? (e : Engine) : Act → Option Notice
  | .tell sub p => some ⟨some sub.id,p⟩
  | .observe sub center radius candidate seen =>
    (crossing? center candidate seen ((e.inside sub.id).observe candidate.id seen radius).1).map
      (⟨some sub.id,·⟩)

/-- What the application is told in an act. -/
def offered? (e : Engine) (a : Act) : Option Notice := if e.sink.isSome then e.event? a else none

/-- An event, the node when the evaluation began, and the node when the application is told. -/
structure Telling where
  begun : Engine
  now : Engine
  notice : Notice

/-- What the application is told in acts, up to a panic. -/
def tellingsIn (begun now : Engine) : List Act → List Telling
  | [] => []
  | a :: as => (now.offered? a).toList.map (⟨begun,now,·⟩) ++
    if (now.perform a).1 then [] else begun.tellingsIn (now.perform a).2 as

/-- What the application is told of facts. -/
def tellings (e : Engine) : List Fact → List Telling
  | [] => []
  | fact :: facts => e.tellingsIn e (e.acts fact) ++ (e.evaluate fact).tellings facts

/-! ## Nothing else is told -/

theorem acts_tell {fact : Fact} {sub : Subscription} {p : Payload}
    (follows : Act.tell sub p ∈ e.acts fact) : p.evaluated = true := by
  have groups : ∀ (event : Group → Option GroupEvent) entity,
      Act.tell sub p ∈ e.group.flatMap (groupActs event entity) → p.evaluated = true := by
    intro event entity member
    obtain ⟨other,_,acts⟩ := List.mem_flatMap.mp member
    obtain ⟨_,_,_,_,told⟩ := mem_groupActs acts
    cases told
    rfl
  cases fact with
  | apart e1 e2 d =>
    simp only [acts] at follows
    split at follows
    · cases follows
    · obtain ⟨other,_,acts⟩ := List.mem_flatMap.mp follows
      obtain ⟨_,told⟩ := mem_apartActs acts
      cases told
      rfl
  | sees seer beacons =>
    obtain ⟨other,_,acts⟩ := List.mem_flatMap.mp follows
    obtain ⟨_,_,_,_,_,_,told⟩ := mem_seesActs acts
    cases told
  | around e1 e2 d =>
    obtain ⟨other,_,acts⟩ := List.mem_flatMap.mp follows
    obtain ⟨_,_,_,_,_,_,told⟩ := mem_aroundActs acts
    cases told
  | changed entity old => exact groups _ _ follows
  | arrived entity =>
    simp only [acts] at follows
    split at follows
    · cases follows
    · exact groups _ _ follows
  | left entity => exact groups _ _ follows

theorem event?_sub {a : Act} {n : Notice} (tells : e.event? a = some n) :
    n.subscription = some a.sub.id := by
  cases a with
  | tell sub p => cases tells; rfl
  | observe sub center radius candidate seen =>
    obtain ⟨p,_,rfl⟩ := Option.map_eq_some_iff.mp tells
    rfl

theorem event?_evaluated {fact : Fact} {a : Act} {n : Notice} (follows : a ∈ begun.acts fact)
    (tells : e.event? a = some n) : n.payload.evaluated = true := by
  cases a with
  | tell sub p => cases tells; exact acts_tell follows
  | observe sub center radius candidate seen =>
    obtain ⟨p,crosses,rfl⟩ := Option.map_eq_some_iff.mp tells
    generalize (Detected.observe _ _ _ _).1 = transition at crosses
    cases transition <;> cases crosses <;> rfl

theorem event?_of_offered {a : Act} {n : Notice} (offers : e.offered? a = some n) :
    e.event? a = some n := by
  rw [offered?] at offers
  split at offers
  · exact offers
  · cases offers

theorem perform_delivered (a : Act) :
    (e.perform a).2.delivered = e.delivered ++ (e.offered? a).toList := by
  cases a with
  | tell sub p =>
    rw [offered?,perform,tell_told]
    split <;> rfl
  | observe sub center radius candidate seen =>
    cases observed : (e.inside sub.id).observe candidate.id seen radius with
    | mk transition inside =>
      rw [perform_observe observed,offered?,event?,observed]
      cases crossing? center candidate seen transition with
      | none => simp [delivered,place]
      | some p =>
        refine (tell_told (e := e.place sub.id inside) sub p).trans (congrArg (e.delivered ++ ·) ?_)
        show (if e.sink.isSome then _ else _) = _
        split <;> rfl

theorem performAll_delivered (begun now : Engine) (as : List Act) :
    (now.performAll as).delivered =
      now.delivered ++ (begun.tellingsIn now as).map (·.notice) := by
  induction as generalizing now with
  | nil => simp [performAll,tellingsIn]
  | cons a as ih =>
    have told := perform_delivered (e := now) a
    rw [performAll,tellingsIn]
    cases performed : now.perform a with
    | mk broken after =>
      rw [performed] at told
      cases broken with
      | true => simpa [delivered,Function.comp_def] using told
      | false => simp [ih after,told,Function.comp_def]

theorem evaluateAll_delivered (e : Engine) (facts : List Fact) :
    (e.evaluateAll facts).delivered = e.delivered ++ (e.tellings facts).map (·.notice) := by
  induction facts generalizing e with
  | nil => simp [tellings]
  | cons fact facts ih =>
    rw [evaluateAll_cons,ih,evaluate,performAll_delivered e e,tellings,List.map_append,
      List.append_assoc,evaluate]

/-! ## Subscriptions that stay -/

/-- The application ends subscriptions when it is told of their events. -/
def Leaves (e : Engine) : Prop := ∃ sink, e.sink = some sink ∧ sink.reaction = .leave

theorem tell_stay (stays : ¬e.Leaves) (sub : Subscription) (p : Payload) :
    e.subscriptions ⊆ (e.tell sub p).2.subscriptions := by
  have ensues := tell_ensues e sub p
  generalize (e.tell sub p).2 = after at ensues ⊢
  cases ensues with
  | left heard reacts => exact absurd ⟨_,heard,reacts⟩ stays
  | followed =>
    intro other member
    simp only [mem_subscriptions,trackGroup,List.mem_append] at member ⊢
    exact member.imp_left .inl
  | _ => exact List.Subset.refl _

theorem tell_leaves (sub : Subscription) (p : Payload) : (e.tell sub p).2.Leaves ↔ e.Leaves := by
  rw [Leaves,Leaves,(tell_kept sub p).2]

theorem stay_lasts (e : Engine) : Lasts fun f => ¬f.Leaves ∧ e.subscriptions ⊆ f.subscriptions where
  tell sub p := fun ⟨stays,kept⟩ =>
    ⟨mt (tell_leaves sub p).mp stays,List.Subset.trans kept (tell_stay stays sub p)⟩
  place _ _ holds := holds
  panic _ holds := holds

/-! ## For whom events are -/

theorem mem_tellingsIn (member : t ∈ begun.tellingsIn now as) :
    t.begun = begun ∧ t.now.sink = now.sink ∧
    (¬now.Leaves → now.subscriptions ⊆ t.now.subscriptions) ∧
    ∃ a ∈ as, t.now.offered? a = some t.notice := by
  induction as generalizing now with
  | nil => cases member
  | cons a as ih =>
    rcases List.mem_append.mp member with first | rest
    · obtain ⟨n,told,rfl⟩ := List.mem_map.mp first
      exact ⟨rfl,rfl,fun _ => List.Subset.refl _,a,List.mem_cons_self ..,Option.mem_toList.mp told⟩
    · split at rest
      · cases rest
      · obtain ⟨begins,sink,stay,b,later,told⟩ := ih rest
        refine ⟨begins,sink.trans (perform_kept a).2,fun stays => ?_,b,
          List.mem_cons_of_mem _ later,told⟩
        obtain ⟨stays',kept⟩ := (stay_lasts now).perform ⟨stays,List.Subset.refl _⟩ a
        exact List.Subset.trans kept (stay stays')

theorem mem_tellings (member : t ∈ e.tellings facts) : ∃ fact ∈ facts,
    t.begun.sink = e.sink ∧ t ∈ t.begun.tellingsIn t.begun (t.begun.acts fact) := by
  induction facts generalizing e with
  | nil => cases member
  | cons fact facts ih =>
    rcases List.mem_append.mp member with first | rest
    · obtain ⟨rfl,_⟩ := mem_tellingsIn first
      exact ⟨fact,List.mem_cons_self ..,rfl,first⟩
    · obtain ⟨other,later,sink,told⟩ := ih rest
      exact ⟨other,List.mem_cons_of_mem _ later,sink.trans (performAll_kept _).2,told⟩

/-- Every event is for a subscription that was registered when the evaluation began. It still is
when the application is told, unless the application ends subscriptions then. -/
theorem tellings_registered (member : t ∈ e.tellings facts) :
    ∃ sub ∈ t.begun.subscriptions, t.notice.subscription = some sub.id ∧
      t.notice.payload.evaluated = true ∧ (¬t.now.Leaves → sub ∈ t.now.subscriptions) := by
  obtain ⟨fact,_,_,told⟩ := mem_tellings member
  obtain ⟨_,sink,stay,a,follows,offered⟩ := mem_tellingsIn told
  have registered := acts_fit t.begun fact a follows
  have event := event?_of_offered offered
  refine ⟨a.sub,registered.1,event?_sub event,event?_evaluated follows event,
    fun stays => stay ?_ registered.1⟩
  rwa [Leaves,← sink]

end Vicinity.Engine
