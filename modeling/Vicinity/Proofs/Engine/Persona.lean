import Vicinity.Proofs.Engine.Publishing

/-! Who a node is, what it shows of itself, and which beacons it remembers. Four calls of the
application change the first two, a scan the last, and nothing else does; its id is never changed. -/
namespace Vicinity

/-- What a call of the application makes of the visibility. -/
def Visibility.next (v : Visibility) : Engine.Operation → Visibility
  | .enterGhost => if v.isGhost then v else ⟨.silent,some v.current⟩
  | .leaveGhost => v.saved.elim v (⟨·,none⟩)
  | .setPolicy p => v.set p
  | _ => v

namespace Engine

variable {e f : Engine} {op : Operation}

/-- Whether an operation changes who the node is, what it shows of itself or what it remembers. -/
def Operation.reshapes : Operation → Bool
  | .updateSelf _ | .enterGhost | .leaveGhost | .setPolicy _ | .scan _ => true
  | _ => false

/-- The node is the same, shows the same of itself and remembers the same beacons. -/
structure Unchanged (e f : Engine) : Prop where
  self : f.self = e.self
  visibility : f.visibility = e.visibility
  cache : f.cache = e.cache

theorem Unchanged.refl (e : Engine) : Unchanged e e := ⟨rfl,rfl,rfl⟩

theorem Unchanged.trans {g : Engine} (first : Unchanged e f) (second : Unchanged f g) :
    Unchanged e g :=
  ⟨second.self.trans first.self,second.visibility.trans first.visibility,
    second.cache.trans first.cache⟩

theorem say_unchanged (e : Engine) (ss : List Saying) : Unchanged e (e.say ss) := ⟨rfl,rfl,rfl⟩

theorem listenEach_unchanged (e : Engine) (cs : List Channel) :
    Unchanged e (cs.foldl listen e) := by
  obtain ⟨t,listened,_⟩ := listenEach_eq e cs
  rw [listened]
  exact ⟨rfl,rfl,rfl⟩

theorem closeAll_unchanged (e : Engine) (ds : List Deferred) : Unchanged e (e.closeAll ds) := by
  induction ds generalizing e with
  | nil => exact .refl e
  | cons d ds ih => exact .trans (by cases d <;> exact ⟨rfl,rfl,rfl⟩) (ih (e.close d))

theorem hear_unchanged (e : Engine) (op : Operation) : Unchanged e
    ((e.heard? op).elim e fun body => (e.prepared body).sends (e.tasks body)) := by
  cases e.heard? op with
  | none => exact .refl e
  | some body =>
    obtain ⟨t,q,eq⟩ := prepared_eq e body
    rw [Option.elim_some,prepared_responds,eq]
    exact ⟨rfl,rfl,rfl⟩

theorem report_unchanged (e : Engine) (beacons : List Entity) :
    Unchanged e (e.report beacons) := by
  obtain ⟨n,counted⟩ := countScan_scans e
  rw [report]
  split
  · cases count : e.countScan with
    | mk isDue f =>
      rw [count] at counted
      obtain rfl : f = _ := counted
      cases isDue with
      | false => exact ⟨rfl,rfl,rfl⟩
      | true =>
        simp only [publish_eq]
        exact ⟨rfl,rfl,rfl⟩
  · exact .refl e

theorem ask_unchanged (e : Engine) (token : String) (wanted : Group) (within : Distance)
    (timeout : Nat) : Unchanged e (e.ask token wanted within timeout).2 := by
  rw [ask]
  dsimp only
  split
  · exact .refl e
  split
  · exact .refl e
  next armed timers _ =>
    obtain ⟨t,listened,_⟩ := listen_eq
      { e with query := some ⟨replyTopic token,[]⟩, timers := timers } (.reply (replyTopic token))
    rw [listened,publish_eq]
    exact ⟨rfl,rfl,rfl⟩

theorem pass_unchanged (e : Engine) (op : Operation) :
    Unchanged e ((e.withTimers (e.released op).2).closeAll (e.released op).1) :=
  have untimed : Unchanged e (e.withTimers (e.released op).2) := ⟨rfl,rfl,rfl⟩
  untimed.trans (closeAll_unchanged ..)

theorem surroundings_unchanged (steady : op.reshapes = false) :
    Unchanged e (e.surroundings op) := by
  cases op <;> simp only [Operation.reshapes,Bool.true_eq_false] at steady
  case connected =>
    rw [show e.surroundings .connected = _ from connected_eq e]
    exact (say_unchanged e (e.greeting e.policy)).trans
      (listenEach_unchanged _ (Channel.shared ++ [.entity e.self.id]))
  case hear m => exact hear_unchanged e (.hear m)
  case hearPayload payload => exact hear_unchanged e (.hearPayload payload)
  case ask => exact ask_unchanged ..
  case elapse milliseconds => exact pass_unchanged e (.elapse milliseconds)
  case expire key => exact pass_unchanged e (.expire key)
  case expireDepartures => exact pass_unchanged e .expireDepartures
  case addPois json =>
    simp only [surroundings,apply,addPois]
    split <;> exact ⟨rfl,rfl,rfl⟩
  case stop =>
    simp only [surroundings,apply,stop]
    split <;> exact ⟨rfl,rfl,rfl⟩
  all_goals exact ⟨rfl,rfl,rfl⟩

theorem apply_unchanged (steady : op.reshapes = false) : Unchanged e (e.apply op).2 := by
  have aside := apply_aside e op
  have kept := surroundings_unchanged (e := e) steady
  exact ⟨aside.self.trans kept.self,aside.visibility.trans kept.visibility,
    aside.cache.trans kept.cache⟩

/-- The beacons that a node remembers after an operation: of a scan those that are kept. -/
def recalled (e : Engine) : Operation → List Entity
  | .scan readings =>
    if readings.isEmpty then [] else if e.stopped then e.cache else BeaconReading.keep readings
  | _ => e.cache

/-- What an operation makes of the node: it keeps its id, whatever becomes of the rest. -/
structure Reshaped (e : Engine) (op : Operation) (f : Engine) : Prop where
  id : f.self.id = e.self.id
  visibility : f.visibility = e.visibility.next op
  cache : f.cache = e.recalled op

theorem Unchanged.reshaped (unchanged : Unchanged e f) (shown : e.visibility.next op = e.visibility)
    (recalled : e.recalled op = e.cache) : Reshaped e op f :=
  ⟨congrArg Entity.id unchanged.self,unchanged.visibility.trans shown.symm,
    unchanged.cache.trans recalled.symm⟩

theorem scan_reshaped (e : Engine) (readings : List BeaconReading) :
    Reshaped e (.scan readings) (e.apply (.scan readings)).2 := by
  have aside := apply_aside e (.scan readings)
  have remembered : ∃ f, Unchanged e f ∧
      e.surroundings (.scan readings) = { f with cache := e.recalled (.scan readings) } := by
    rw [surroundings,recalled]
    split
    · exact ⟨e,.refl e,rfl⟩
    split
    · exact ⟨e,.refl e,rfl⟩
    · exact ⟨_,report_unchanged e (readings.map BeaconReading.entity),rfl⟩
  obtain ⟨f,unchanged,remembered⟩ := remembered
  rw [remembered] at aside
  exact ⟨congrArg Entity.id (aside.self.trans unchanged.self),
    aside.visibility.trans unchanged.visibility,aside.cache⟩

theorem switched_reshaped {v : Visibility} (shown : e.visibility.next op = v)
    (recalled : e.recalled op = e.cache) (ss : List Saying) :
    Reshaped e op (e.switched v ss).2 := by
  rw [switched]
  split <;> exact ⟨rfl,shown.symm,recalled.symm⟩

theorem apply_reshaped (e : Engine) (op : Operation) : Reshaped e op (e.apply op).2 := by
  cases op
  case updateSelf new =>
    simp only [apply,updateSelf_eq]
    split
    next same =>
      split
      · exact ⟨rfl,rfl,rfl⟩
      · exact ⟨same,rfl,rfl⟩
    next => exact ⟨rfl,rfl,rfl⟩
  case enterGhost =>
    simp only [apply,enterGhost_eq]
    split
    next ghost => exact ⟨rfl,(if_pos ghost).symm,rfl⟩
    next shown =>
      have hides : e.visibility.next .enterGhost = ⟨.silent,some e.policy⟩ := if_neg shown
      exact switched_reshaped hides rfl _
  case leaveGhost =>
    simp only [apply,leaveGhost_eq]
    cases saved : e.visibility.saved with
    | none => exact ⟨rfl,by rw [Visibility.next,saved,Option.elim_none],rfl⟩
    | some p => exact switched_reshaped (by rw [Visibility.next,saved,Option.elim_some]) rfl _
  case setPolicy p => exact ⟨rfl,rfl,rfl⟩
  case scan readings => exact scan_reshaped e readings
  all_goals exact (apply_unchanged rfl).reshaped rfl rfl

theorem visibility_apply (e : Engine) (op : Operation) :
    (e.apply op).2.visibility = e.visibility.next op := (apply_reshaped e op).visibility

theorem cache_apply (e : Engine) (op : Operation) : (e.apply op).2.cache = e.recalled op :=
  (apply_reshaped e op).cache

/-- A node keeps its id. -/
theorem id_apply (e : Engine) (op : Operation) : (e.apply op).2.self.id = e.self.id :=
  (apply_reshaped e op).id

theorem id_after (e : Engine) (ops : List Operation) : (e.after ops).self.id = e.self.id := by
  induction ops generalizing e with
  | nil => rfl
  | cons op ops ih => exact (ih _).trans (id_apply e op)

/-- The mode that a call asks for: ghost mode, or not. -/
def Operation.mode? : Operation → Option Bool
  | .enterGhost => some true
  | .leaveGhost => some false
  | _ => none

theorem isGhost_next (v : Visibility) (op : Operation) :
    (v.next op).isGhost = op.mode?.getD v.isGhost := by
  obtain ⟨current,saved⟩ := v
  cases op
  case leaveGhost => cases saved <;> rfl
  case enterGhost => cases saved <;> rfl
  case setPolicy => cases saved <;> rfl
  all_goals rfl

theorem isGhost_apply (e : Engine) (op : Operation) :
    (e.apply op).2.isGhost = op.mode?.getD e.isGhost := by
  rw [isGhost,visibility_apply]
  exact isGhost_next ..

/-- A mode lasts until a call asks for the other one. -/
theorem isGhost_after {ghost : Bool} (mode : e.isGhost = ghost) {ops : List Operation}
    (lasts : ∀ op ∈ ops, op.mode? ≠ some !ghost) : (e.after ops).isGhost = ghost := by
  induction ops generalizing e with
  | nil => exact mode
  | cons op ops ih =>
    refine ih ?_ fun op member => lasts op (List.mem_cons_of_mem _ member)
    have kept := lasts op (List.mem_cons_self ..)
    rw [isGhost_apply]
    cases asked : op.mode? with
    | none => exact mode
    | some other =>
      rw [asked] at kept
      exact Bool.not_eq_not.mp fun apart => kept (congrArg some apart)

section Start

variable {self : Entity} {config : Config}

theorem start_self (started : start self config = .ok e) : e.self = self := by
  rw [start] at started
  split at started <;> cases started
  rfl

/-- A node that starts has an id. -/
theorem start_named (started : start self config = .ok e) : e.self.id.isEmpty = false := by
  rw [start] at started
  split at started
  · cases started
  next named =>
    cases started
    exact Bool.eq_false_iff.mpr named

theorem start_cache (started : start self config = .ok e) : e.cache = [] := by
  rw [start] at started
  split at started <;> cases started
  rfl

end Start

end Engine

end Vicinity
