import Vicinity.Proofs.Engine.Persona

/-! The switches between the modes of a node. A switch fails if no new session begins, but then the
mode and the policy have changed all the same, so to repeat the call does nothing: it counts as done,
and the old session goes on. -/
namespace Vicinity.Engine

variable {e : Engine} {op : Operation} {ghost : Bool}

theorem apply_enterGhost (e : Engine) :
    e.apply .enterGhost = (.ofFlag e.enterGhost.1,e.enterGhost.2) := rfl

theorem apply_leaveGhost (e : Engine) :
    e.apply .leaveGhost = (.ofFlag e.leaveGhost.1,e.leaveGhost.2) := rfl

/-- A switch that is due: the visibility is the other one first, whatever becomes of the session. -/
theorem apply_due (asks : op.mode? = some ghost) (due : e.isGhost = !ghost) : e.apply op =
    (.ofFlag (e.switched (e.visibility.next op) (e.sayings op)).1,
      (e.switched (e.visibility.next op) (e.sayings op)).2) := by
  cases op <;> simp only [Operation.mode?,Option.some.injEq,reduceCtorEq] at asks <;> subst asks
  case enterGhost =>
    have shown : ¬ e.isGhost = true := by simp [due]
    have next : e.visibility.next .enterGhost = ⟨.silent,some e.policy⟩ := if_neg shown
    rw [apply_enterGhost,enterGhost_eq,if_neg shown,next,sayings_enterGhost due]
  case leaveGhost =>
    obtain ⟨p,saved⟩ := Option.isSome_iff_exists.mp (show e.visibility.saved.isSome from due)
    have next : e.visibility.next .leaveGhost = ⟨p,none⟩ := by
      rw [Visibility.next,saved]
      rfl
    rw [apply_leaveGhost,leaveGhost_eq,next,sayings_leaveGhost saved,saved]

/-- A switch to the mode that is on already does nothing. -/
theorem apply_settled (asks : op.mode? = some ghost) (settled : e.isGhost = ghost) :
    e.apply op = (.flag false,e) := by
  cases op <;> simp only [Operation.mode?,Option.some.injEq,reduceCtorEq] at asks <;> subst asks
  case enterGhost =>
    rw [apply_enterGhost,enterGhost_eq,if_pos settled]
    rfl
  case leaveGhost =>
    have unsaved : e.visibility.saved = none :=
      Option.isNone_iff_eq_none.mp (Option.isSome_eq_false_iff.mp settled)
    rw [apply_leaveGhost,leaveGhost_eq,unsaved]
    rfl

/-- How a switch to a mode turns out. -/
structure Switches (e : Engine) (op : Operation) (ghost : Bool) : Prop where
  /-- It fails exactly if it is due and no new session can begin. -/
  fails : (∃ cause, (e.apply op).1 = .failed cause) ↔
    e.isGhost = (!ghost) ∧ e.transport.refusesReconnect = true
  /-- A failure is one of the connection. The participant stays, but the mode is the new one. -/
  failed : ∀ cause, (e.apply op).1 = .failed cause →
    cause = .transport Transport.refusal ∧
    (e.apply op).2.self = e.self ∧
    (e.apply op).2.isGhost = ghost ∧
    (e.apply op).2 = { e with
      visibility := e.visibility.next op
      transport := e.transport.sent (e.uttered (e.sayings op)) }
  /-- After a failure the same call has nothing to do, in whatever state it is made, until the
  other switch has been called. -/
  lost : ∀ cause, (e.apply op).1 = .failed cause → ∀ ops, (∀ op ∈ ops, op.mode? ≠ some !ghost) →
    ((e.apply op).2.after ops).apply op = (.flag false,(e.apply op).2.after ops)
  /-- A switch that is due and does not fail is done. -/
  done : e.isGhost = (!ghost) → e.transport.refusesReconnect = false →
    (e.apply op).1 = .flag true ∧ (e.apply op).2.self = e.self ∧ (e.apply op).2.isGhost = ghost ∧
    (e.apply op).2.transport.reconnects = e.transport.reconnects + 1

theorem apply_unconnected (asks : op.mode? = some ghost) (due : e.isGhost = !ghost)
    (refuses : e.transport.refusesReconnect = true) : e.apply op =
    (.failed (.transport Transport.refusal),{ e with
      visibility := e.visibility.next op
      transport := e.transport.sent (e.uttered (e.sayings op)) }) := by
  rw [apply_due asks due,switched,if_pos refuses]
  rfl

theorem apply_connected (asks : op.mode? = some ghost) (due : e.isGhost = !ghost)
    (connects : e.transport.refusesReconnect = false) : e.apply op =
    (.flag true,({ e with visibility := e.visibility.next op }.say (e.sayings op)).renewed
      e.self false) := by
  rw [apply_due asks due,switched,if_neg (by simp [connects])]
  rfl

theorem apply_failed (asks : op.mode? = some ghost) {cause : Error}
    (fails : (e.apply op).1 = .failed cause) :
    e.isGhost = (!ghost) ∧ e.transport.refusesReconnect = true := by
  by_cases settled : e.isGhost = ghost
  · rw [apply_settled asks settled] at fails
    cases fails
  have due := Bool.eq_not_of_ne settled
  cases refuses : e.transport.refusesReconnect with
  | true => exact ⟨due,rfl⟩
  | false =>
    rw [apply_connected asks due refuses] at fails
    cases fails

/-- Whatever becomes of the session, a switch leaves the node in the mode that it asks for. -/
theorem switches_regardless (e : Engine) (asks : op.mode? = some ghost) : Switches e op ghost := by
  have mode : (e.apply op).2.isGhost = ghost := by rw [isGhost_apply,asks,Option.getD_some]
  constructor
  case fails =>
    constructor
    · rintro ⟨cause,fails⟩
      exact apply_failed asks fails
    · rintro ⟨due,refuses⟩
      exact ⟨_,congrArg Prod.fst (apply_unconnected asks due refuses)⟩
  case failed =>
    intro cause fails
    obtain ⟨due,refuses⟩ := apply_failed asks fails
    have outcome := apply_unconnected asks due refuses
    rw [outcome] at fails
    obtain rfl := Reply.failed.inj fails
    have left := congrArg Prod.snd outcome
    exact ⟨rfl,by rw [left],mode,left⟩
  case lost =>
    intro cause fails ops lasts
    exact apply_settled asks (isGhost_after mode lasts)
  case done =>
    intro due connects
    have outcome := apply_connected asks due connects
    exact ⟨congrArg Prod.fst outcome,congrArg (·.2.self) outcome,mode,
      congrArg (·.2.transport.reconnects) outcome⟩

/-- A node that advertises distances, and cannot begin a new session. -/
def cutOff : List Operation := [.setPolicy ⟨false,true⟩,.refuseReconnect true]

theorem switches_regardless_cutOff : ∃ e, start (.bare (.of "me") .device) .standard = .ok e ∧
    Operation.enterGhost.mode? = some true ∧ Switches (e.after cutOff) .enterGhost true ∧
    Operation.leaveGhost.mode? = some false ∧
    Switches (e.after (cutOff ++ [.enterGhost])) .leaveGhost false :=
  ⟨_,rfl,rfl,switches_regardless _ rfl,rfl,switches_regardless _ rfl⟩

/-- Ghost mode is on after a call that failed, and the same call does not turn it on again once new
sessions can begin: none ever does. -/
theorem failed_switch_lost : ∃ e, start (.bare (.of "me") .device) .standard = .ok e ∧
    let failed := (e.after cutOff).apply .enterGhost
    let again := (failed.2.after [.refuseReconnect false]).apply .enterGhost
    failed.1 = .failed (.transport Transport.refusal) ∧
    (e.after cutOff).isGhost = false ∧ failed.2.isGhost = true ∧
    (e.after cutOff).policy = ⟨false,true⟩ ∧ failed.2.policy = .silent ∧
    again.1 = .flag false ∧ again.2.transport.reconnects = 0 :=
  ⟨_,rfl,rfl,rfl,rfl,rfl,rfl,rfl,rfl⟩

end Vicinity.Engine
