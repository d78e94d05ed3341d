import Vicinity.Engine.Evaluation

/-! What an evaluation works on, and what it leaves alone. It reads and writes the registries and
the records of what the application was told; the connection, the timers and the rest stand beside
it, so an evaluation commutes with every change of them. -/
namespace Vicinity.Engine

variable {e f g : Engine}

/-- The registries and the records of one node beside everything else of another. -/
def beside (e g : Engine) : Engine := { e with
  config := g.config, pois := g.pois, cache := g.cache, query := g.query, timers := g.timers
  scans := g.scans, visibility := g.visibility, stopped := g.stopped
  transport := g.transport, completed := g.completed }

@[simp] theorem beside_self (e : Engine) : e.beside e = e := rfl

/-! ## One act after another -/

@[simp] theorem acts_beside (fact : Fact) : (e.beside g).acts fact = e.acts fact := by
  cases fact <;> rfl

theorem unsubscribe_beside (sub : Subscription) : (e.beside g).unsubscribe sub =
    ((e.unsubscribe sub).1,(e.unsubscribe sub).2.beside g) := by
  have group : (e.beside g).group = e.group := rfl
  have proximity : (e.beside g).proximity = e.proximity := rfl
  have geofence : (e.beside g).geofence = e.geofence := rfl
  simp only [unsubscribe]
  rw [group,proximity,geofence]
  cases removeFirst sub e.group
  case some => rfl
  cases removeFirst sub e.proximity
  case some => rfl
  cases removeFirst sub e.geofence <;> rfl

theorem react_beside (r : Reaction) (sub : Subscription) (p : Payload) :
    (e.beside g).react r sub p = ((e.react r sub p).1,(e.react r sub p).2.beside g) := by
  simp only [react]
  cases subject? p with
  | none => rfl
  | some about => cases r <;> first | rfl | simp only [unsubscribe_beside]

/-- A node that has told the application of one more event. -/
def noted (e : Engine) (sub : Subscription) (p : Payload) : Engine :=
  { e with told := ⟨some sub.id,p⟩ :: e.told }

theorem tell_unheard (unheard : e.sink = none) (sub : Subscription) (p : Payload) :
    e.tell sub p = (false,e) := by
  simp [tell,unheard]

theorem tell_heard {sink : Sink} (heard : e.sink = some sink) (sub : Subscription)
    (p : Payload) : e.tell sub p = (e.noted sub p).react sink.reaction sub p := by
  simp [tell,heard,noted]

/-- What becomes of a node that has an event to tell. If nobody listens it stays as it is, and else
it notes the event and does what the application asks for in reply. -/
inductive Ensues (e : Engine) (sub : Subscription) (p : Payload) : Engine → Prop where
  | unheard (unheard : e.sink = none) : Ensues e sub p e
  | noted {sink : Sink} (heard : e.sink = some sink) : Ensues e sub p (e.noted sub p)
  | left {sink : Sink} (heard : e.sink = some sink) (reacts : sink.reaction = .leave) :
    Ensues e sub p ((e.noted sub p).unsubscribe sub).2
  | followed {sink : Sink} {first : SubscriptionId} (heard : e.sink = some sink)
    (reacts : sink.reaction = .follow first) : Ensues e sub p
      { ((e.noted sub p).trackGroup (first.add e.followed) sub.watch.groups.1).2 with
        followed := e.followed + 1 }

theorem tell_ensues (e : Engine) (sub : Subscription) (p : Payload) :
    Ensues e sub p (e.tell sub p).2 := by
  cases heard : e.sink with
  | none =>
    rw [tell_unheard heard]
    exact .unheard heard
  | some sink =>
    rw [tell_heard heard]
    simp only [react]
    cases subject? p with
    | none => exact .noted heard
    | some about =>
      cases reacts : sink.reaction with
      | pass => exact .noted heard
      | panicOver x => exact .noted heard
      | leave => exact .left heard reacts
      | follow first => exact .followed heard reacts

theorem tell_beside (sub : Subscription) (p : Payload) :
    (e.beside g).tell sub p = ((e.tell sub p).1,(e.tell sub p).2.beside g) := by
  cases heard : e.sink with
  | none => rw [tell_unheard heard,tell_unheard (e := e.beside g) heard]
  | some sink =>
    rw [tell_heard heard,tell_heard (e := e.beside g) heard]
    exact react_beside (e := e.noted sub p) ..

/-- What the application is told of a candidate that is seen at a distance from a centre. -/
def crossing? (center candidate : Entity) (seen : Distance) : Detected.Transition → Option Payload
  | .entry => some (.entity .geofenceEntry center candidate seen)
  | .exit => some (.entity .geofenceExit center candidate seen)
  | .full => some (.error .entitySizeExceeded)
  | .unchanged => none

theorem perform_observe {sub : Subscription} {center candidate : Entity} {radius seen : Distance}
    {transition : Detected.Transition} {inside : Detected}
    (observed : (e.inside sub.id).observe candidate.id seen radius = (transition,inside)) :
    e.perform (.observe sub center radius candidate seen) =
      match crossing? center candidate seen transition with
      | some p => (e.place sub.id inside).tell sub p
      | none => (false,e.place sub.id inside) := by
  cases transition <;> simp [perform,observed,crossing?]

theorem perform_beside (act : Act) :
    (e.beside g).perform act = ((e.perform act).1,(e.perform act).2.beside g) := by
  cases act with
  | tell sub p => exact tell_beside ..
  | observe sub center radius candidate seen =>
    cases observed : (e.inside sub.id).observe candidate.id seen radius with
    | mk transition inside =>
      rw [perform_observe observed,perform_observe (e := e.beside g) observed]
      cases crossing? center candidate seen transition with
      | none => rfl
      | some p => exact tell_beside (e := e.place sub.id inside) ..

theorem performAll_beside (as : List Act) :
    (e.beside g).performAll as = (e.performAll as).beside g := by
  induction as generalizing e with
  | nil => rfl
  | cons a as ih =>
    rw [performAll,performAll,perform_beside]
    cases e.perform a with
    | mk broken after => cases broken <;> first | exact ih | rfl

theorem evaluate_beside (fact : Fact) :
    (e.beside g).evaluate fact = (e.evaluate fact).beside g := by
  rw [evaluate,acts_beside]
  exact performAll_beside ..

/-! ## Facts one after another -/

/-- A node after it has evaluated facts. -/
def evaluateAll (e : Engine) (facts : List Fact) : Engine := facts.foldl evaluate e

@[simp] theorem evaluateAll_nil : e.evaluateAll [] = e := rfl

@[simp] theorem evaluateAll_cons (fact : Fact) (facts : List Fact) :
    e.evaluateAll (fact :: facts) = (e.evaluate fact).evaluateAll facts := rfl

theorem evaluateAll_append (facts more : List Fact) :
    e.evaluateAll (facts ++ more) = (e.evaluateAll facts).evaluateAll more :=
  List.foldl_append

theorem evaluateAll_beside (facts : List Fact) :
    (e.beside g).evaluateAll facts = (e.evaluateAll facts).beside g := by
  induction facts generalizing e with
  | nil => rfl
  | cons fact facts ih => rw [evaluateAll_cons,evaluateAll_cons,evaluate_beside,ih]

/-- Nothing beside the registries and the records changes. -/
theorem evaluateAll_aside (e : Engine) (facts : List Fact) :
    (e.evaluateAll facts).beside e = e.evaluateAll facts :=
  (evaluateAll_beside facts).symm

/-! ## What lasts through evaluations -/

/-- A property of nodes that lasts whatever is seen and told. -/
structure Lasts (P : Engine → Prop) : Prop where
  tell : ∀ {e : Engine} (sub : Subscription) (p : Payload), P e → P (e.tell sub p).2
  place : ∀ {e : Engine} (id : SubscriptionId) (d : Detected), P e → P (e.place id d)
  panic : ∀ {e : Engine} (n : Nat), P e → P { e with panicked := n }

section Lasts

variable {P : Engine → Prop}

/-- What each of some acts keeps, they keep together, however many of them the application lets
happen. -/
theorem performAll_keeps {as : List Act} (panic : ∀ {f : Engine} (n : Nat), P f →
    P { f with panicked := n }) (each : ∀ a ∈ as, ∀ f : Engine, P f → P (f.perform a).2)
    (holds : P e) : P (e.performAll as) := by
  induction as generalizing e with
  | nil => exact holds
  | cons a as ih =>
    have next := each a (List.mem_cons_self ..) e holds
    rw [Engine.performAll]
    cases performed : e.perform a with
    | mk broken after =>
      rw [performed] at next
      cases broken with
      | true => exact panic _ next
      | false => exact ih (fun b member => each b (List.mem_cons_of_mem _ member)) next

theorem Lasts.perform (lasts : Lasts P) (holds : P e) (act : Act) : P (e.perform act).2 := by
  cases act with
  | tell sub p => exact lasts.tell sub p holds
  | observe sub center radius candidate seen =>
    cases observed : (e.inside sub.id).observe candidate.id seen radius with
    | mk transition inside =>
      have placed := lasts.place sub.id inside holds
      rw [perform_observe observed]
      cases crossing? center candidate seen transition with
      | none => exact placed
      | some p => exact lasts.tell sub p placed

theorem Lasts.performAll (lasts : Lasts P) (holds : P e) (as : List Act) :
    P (e.performAll as) :=
  performAll_keeps lasts.panic (fun a _ _ holds => lasts.perform holds a) holds

theorem Lasts.evaluateAll (lasts : Lasts P) (holds : P e) (facts : List Fact) :
    P (e.evaluateAll facts) := by
  induction facts generalizing e with
  | nil => exact holds
  | cons fact facts ih => exact ih (lasts.performAll holds (e.acts fact))

end Lasts

/-! ## Who the node is, and who listens -/

theorem removeFirst_eq (sub : Subscription) (subs : List Subscription) : removeFirst sub subs =
    if subs.any (·.standsFor sub) then some (subs.eraseP (·.standsFor sub)) else none := by
  induction subs with
  | nil => rfl
  | cons s ss ih =>
    rw [removeFirst,ih]
    by_cases stands : s.standsFor sub = true
    · simp [stands]
    · by_cases later : ss.any (·.standsFor sub) = true <;> simp_all

theorem removeFirst_sublist {sub : Subscription} {subs rest : List Subscription}
    (removed : removeFirst sub subs = some rest) : rest.Sublist subs := by
  rw [removeFirst_eq] at removed
  split at removed
  · cases removed
    exact List.eraseP_sublist
  · cases removed

/-- An unsubscription takes from the registries, and changes nothing else. -/
theorem unsubscribe_eq (e : Engine) (sub : Subscription) : ∃ group proximity geofence,
    group.Sublist e.group ∧ proximity.Sublist e.proximity ∧ geofence.Sublist e.geofence ∧
    (e.unsubscribe sub).2 =
      { e with group := group, proximity := proximity, geofence := geofence } := by
  have same (subs : List Subscription) := List.Sublist.refl subs
  rw [unsubscribe]
  cases removed : removeFirst sub e.group with
  | some group => exact ⟨group,_,_,removeFirst_sublist removed,same _,same _,rfl⟩
  | none =>
  cases removed : removeFirst sub e.proximity with
  | some proximity => exact ⟨_,proximity,_,same _,removeFirst_sublist removed,same _,rfl⟩
  | none =>
  cases removed : removeFirst sub e.geofence with
  | some geofence => exact ⟨_,_,geofence,same _,same _,removeFirst_sublist removed,rfl⟩
  | none => exact ⟨_,_,_,same _,same _,same _,rfl⟩

theorem unsubscribe_kept (sub : Subscription) :
    (e.unsubscribe sub).2.self = e.self ∧ (e.unsubscribe sub).2.sink = e.sink := by
  obtain ⟨group,proximity,geofence,_,_,_,eq⟩ := unsubscribe_eq e sub
  rw [eq]
  exact ⟨rfl,rfl⟩

theorem tell_kept (sub : Subscription) (p : Payload) :
    (e.tell sub p).2.self = e.self ∧ (e.tell sub p).2.sink = e.sink := by
  have ensues := tell_ensues e sub p
  generalize (e.tell sub p).2 = after at ensues ⊢
  cases ensues with
  | left => exact unsubscribe_kept (e := e.noted sub p) sub
  | _ => exact ⟨rfl,rfl⟩

theorem kept_lasts (e : Engine) : Lasts fun f => f.self = e.self ∧ f.sink = e.sink where
  tell sub p holds := ⟨(tell_kept sub p).1.trans holds.1,(tell_kept sub p).2.trans holds.2⟩
  place _ _ holds := holds
  panic _ holds := holds

theorem perform_kept (act : Act) :
    (e.perform act).2.self = e.self ∧ (e.perform act).2.sink = e.sink :=
  (kept_lasts e).perform ⟨rfl,rfl⟩ act

theorem performAll_kept (as : List Act) :
    (e.performAll as).self = e.self ∧ (e.performAll as).sink = e.sink :=
  (kept_lasts e).performAll ⟨rfl,rfl⟩ as

theorem evaluateAll_kept (facts : List Fact) :
    (e.evaluateAll facts).self = e.self ∧ (e.evaluateAll facts).sink = e.sink :=
  (kept_lasts e).evaluateAll ⟨rfl,rfl⟩ facts

end Vicinity.Engine
