import Vicinity.Proofs.Departure
import Vicinity.Proofs.Exchange
import Vicinity.Proofs.SelfUpdate

/-! A change of one node, as another one learns of it. The announcement carries the participant as it
is and the properties it had; from both the receiver rebuilds who it was, and whoever watches a group
that it joined or left is told, each once and in order of registration. -/
namespace Vicinity.Engine

variable {a b e : Engine} {old new : Entity} {op : Operation}

/-- What the watcher of a group is told when a participant that was `old` has become `new`. -/
def crossed? (old new : Entity) (sub : Subscription) : Option (Subscription × Payload) :=
  match sub.watch with
  | .group members =>
    match members.contains old, members.contains new with
    | false, true => some (sub,.group .groupJoin new members)
    | true, false => some (sub,.group .groupLeave new members)
    | _, _ => none
  | _ => none

/-- The notices of one change, in order of registration. -/
def changeRound (e : Engine) (old new : Entity) : List Notice :=
  (e.group.filterMap (crossed? old new)).map fun event => ⟨some event.1.id,event.2⟩

/-! ## Who the participant was -/

/-- The bag of a participant gives back its properties. -/
theorem before_bag (sameId : new.id = old.id) (sameType : new.type = old.type) :
    before new old.bag = { old with distance := .unknown } := by
  have unpacked : Entity.unpack? (.obj old.bag) = .ok old.properties := by
    simp [Entity.unpack?,Entity.bag,Entity.bagOf]
  have wrapped : Members.contains old.bag Entity.propertiesKey = true := by
    simp [Entity.bag,Entity.bagOf,Members.contains,Members.get?]
  rw [before,if_pos wrapped,sameId,sameType,Entity.withBag?,unpacked]
  rfl

/-- Groups do not look at distances. -/
theorem contains_distance (g : Group) (e : Entity) (d : Distance) :
    g.contains { e with distance := d } = g.contains e := rfl

theorem crossed?_subject {sub : Subscription} {event : Subscription × Payload}
    (crossed : crossed? old new sub = some event) :
    ∃ happened members, event.2 = .group happened new members := by
  cases watch : sub.watch with
  | group members =>
    simp only [crossed?,watch] at crossed
    split at crossed <;> cases crossed
    · exact ⟨.groupJoin,members,rfl⟩
    · exact ⟨.groupLeave,members,rfl⟩
  | _ => simp [crossed?,watch] at crossed

theorem groupActs_crossed (sub : Subscription) :
    groupActs (fun g => membership (g.contains old) (g.contains new)) new sub =
      ((crossed? old new sub).map fun event => Act.tell event.1 event.2).toList := by
  cases watch : sub.watch with
  | group members =>
    simp only [groupActs,crossed?,watch]
    cases members.contains old <;> cases members.contains new <;> rfl
  | _ => simp [groupActs,crossed?,watch]

theorem acts_changed (sameId : new.id = old.id) (sameType : new.type = old.type) :
    e.acts (.changed new old.bag) =
      (e.group.filterMap (crossed? old new)).map fun event => .tell event.1 event.2 := by
  have rebuilt : ∀ g : Group, g.contains (before new old.bag) = g.contains old := fun g => by
    rw [before_bag sameId sameType,contains_distance]
  simp only [acts,rebuilt]
  induction e.group with
  | nil => rfl
  | cons sub subs ih =>
    rw [List.flatMap_cons,ih,groupActs_crossed]
    cases crossed : crossed? old new sub <;> simp [crossed]

theorem heardOf_changed (sink : Option Sink) (subs : List Subscription) :
    heardOf sink (subs.filterMap (crossed? old new)) = hearRound sink new.id
      ((subs.filterMap (crossed? old new)).map fun event => ⟨some event.1.id,event.2⟩) := by
  refine heardOf_hearRound sink fun event member => ?_
  obtain ⟨sub,_,crossed⟩ := List.mem_filterMap.mp member
  obtain ⟨_,_,about⟩ := crossed?_subject crossed
  rw [about]
  rfl

theorem evaluate_changed (sameId : new.id = old.id) (sameType : new.type = old.type) :
    (e.evaluate (.changed new old.bag)).delivered =
      e.delivered ++ hearRound e.sink new.id (e.changeRound old new) := by
  rw [evaluate,acts_changed sameId sameType,performAll_tell,heardOf_changed]
  rfl

/-! ## What is announced -/

/-- The message in which a node announces a change to `new`. -/
def announcement (e : Engine) (new : Entity) : Message :=
  ⟨e.self.id,e.stamp,.propertiesUpdate new e.self.bag⟩

theorem connects_of_done (done : (e.apply (.updateSelf new)).1 = .done) :
    new.id = e.self.id ∧ e.transport.refusesReconnect = false := by
  rw [apply_updateSelf] at done
  split at done
  next same =>
    split at done
    · cases done
    next connects => exact ⟨same,Bool.eq_false_iff.mpr connects⟩
  next => cases done

theorem news_updateSelf (done : (e.apply (.updateSelf new)).1 = .done) :
    e.news (.updateSelf new) = if e.policy.groupChanges && !e.transport.refusesPublish then
      [(.group,e.announcement new)] else [] := by
  obtain ⟨same,connects⟩ := connects_of_done done
  rw [news,((changes e new).done same connects).2.published,List.drop_left]
  rfl

/-! ## What is detected -/

/-- What another node makes of a change of `b` to `new`. -/
structure Detects (b : Engine) (new : Entity) : Prop where
  /-- The change is announced once, to those who watch groups. -/
  announced : b.policy.groupChanges = true → b.transport.refusesPublish = false →
    b.news (.updateSelf new) = [(.group,b.announcement new)]
  /-- Nothing else is. -/
  only : ∀ c m, (c,m) ∈ b.news (.updateSelf new) → c = .group ∧ m = b.announcement new
  /-- The watchers of the groups that the participant joined or left are told, and nobody else. -/
  told : ∀ c m, (c,m) ∈ b.news (.updateSelf new) → ∀ (a : Engine) (op : Operation),
    op.received? = some m → a.stopped = false → a.self.id ≠ b.self.id →
    (a.apply op).2.delivered = a.delivered ++ hearRound a.sink new.id (a.changeRound b.self new)

theorem delivered_announcement (sameId : new.id = b.self.id) (sameType : new.type = b.self.type)
    (received : op.received? = some (b.announcement new)) (live : a.stopped = false)
    (foreign : a.self.id ≠ b.self.id) : (a.apply op).2.delivered =
      a.delivered ++ hearRound a.sink new.id (a.changeRound b.self new) := by
  have heard : a.heard? op = some (.propertiesUpdate new b.self.bag) := by
    rw [heard?_received,received,Option.bind_some]
    exact heeds?_foreign live (Ne.symm foreign)
  have facts : a.facts op = [.changed new b.self.bag] := by
    rw [facts_heard heard,workFacts,live]
    rfl
  have told := (apply_agree (e := a) (direct_of_heard heard)).told
  rw [facts,evaluateAll_cons,evaluateAll_nil] at told
  rw [delivered,told]
  exact evaluate_changed sameId sameType

/-- A change that succeeds and keeps the type of the participant is detected by whoever hears of it. -/
theorem change_detected {b : Engine} {new : Entity}
    (done : (b.apply (.updateSelf new)).1 = .done) (sameType : new.type = b.self.type) :
    Detects b new := by
  have sameId := (connects_of_done done).1
  have only : ∀ c m, (c,m) ∈ b.news (.updateSelf new) → c = .group ∧ m = b.announcement new := by
    intro c m announced
    rw [news_updateSelf done,List.mem_ite_nil_right,List.mem_singleton] at announced
    exact ⟨congrArg Prod.fst announced.2,congrArg Prod.snd announced.2⟩
  constructor
  case announced =>
    intro advertises accepts
    rw [news_updateSelf done,advertises,accepts]
    rfl
  case only => exact only
  case told =>
    intro c m announced a op received live foreign
    obtain ⟨_,rfl⟩ := only c m announced
    exact delivered_announcement sameId sameType received live foreign

/-! ## Two nodes -/

/-- A participant that says nothing of itself. -/
def newcomer : Entity := .bare (.of "b") .device

/-- The same participant with an age. -/
def adult : Entity := { newcomer with properties := [("age",.num (.int 1))] }

/-- The group of those that have an age. -/
def aged : Group := (Group.everyone "aged").withFilter (.test .present "age" (.bool true))

/-- Two watchers of one group, and what becomes of events. -/
def watches (r : Reaction) : List Operation := [
  .setSink (some ⟨true,r⟩),
  .trackGroup (.ofNat 1) aged,
  .trackGroup (.ofNat 2) aged]

theorem change_detected_newcomer : ∃ b, start newcomer .standard = .ok b ∧
    (b.apply (.updateSelf adult)).1 = .done ∧ adult.type = b.self.type ∧ Detects b adult := by
  refine ⟨_,rfl,?_⟩
  exact ⟨rfl,rfl,change_detected rfl rfl⟩

theorem change_cut_short : ∃ b a₀, start newcomer .standard = .ok b ∧ start host .standard = .ok a₀ ∧
    let a := a₀.after (watches (.panicOver newcomer.id))
    (b.apply (.updateSelf adult)).1 = .done ∧
    b.news (.updateSelf adult) = [(.group,b.announcement adult)] ∧
    a.stopped = false ∧ a.self.id ≠ b.self.id ∧ adult.type = b.self.type ∧
    (a.changeRound b.self adult).length = 2 ∧
    (a.apply (.hear (b.announcement adult))).2.delivered.length = a.delivered.length + 1 := by
  refine ⟨_,_,rfl,rfl,rfl,rfl,?_⟩
  decide

end Vicinity.Engine
