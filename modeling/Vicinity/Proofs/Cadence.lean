import Vicinity.Proofs.Departure
import Vicinity.Proofs.Legibility
import Vicinity.Proofs.Runs

/-! When beacon reports are due. Scans that range beacons are counted while distances are advertised,
whatever lies between them; every so many of them a report is tried, and the count starts again. -/
namespace Vicinity

/-- Whether a message is a beacon report. -/
def Message.Body.reports : Message.Body → Bool
  | .beaconReport .. => true
  | _ => false

namespace Engine

variable {e f : Engine} {op : Operation}

/-- Whether an operation is a scan that counts. -/
def counts (e : Engine) : Operation → Bool
  | .scan readings => !readings.isEmpty && !e.stopped && e.policy.proximityChanges
  | _ => false

/-- The scans of a run that count, in order. -/
def counted (node : Engine) (ops : List Operation) : List Operation :=
  along (fun e op => (e.apply op).2) (fun e op => if e.counts op then [op] else []) node ops

/-- The beacon reports that go out in an operation. -/
def reports (e : Engine) (op : Operation) : List (Channel × Message) :=
  (e.news op).filter (·.2.body.reports)

/-! ## The counter -/

theorem Rewired.scans (rewired : Rewired e f) : f.scans = e.scans := by
  obtain ⟨t,self,v,rfl,_⟩ := rewired
  rfl

theorem Sent.scans (sent : Sent e f) : f.scans = e.scans := by
  obtain ⟨more,rfl⟩ := sent
  rfl

theorem Aside.scans (aside : Aside e f) : f.scans = e.scans := by
  rw [aside.eq_beside]
  rfl

theorem closeAll_scans (e : Engine) (ds : List Deferred) : (e.closeAll ds).scans = e.scans := by
  induction ds generalizing e with
  | nil => rfl
  | cons d ds ih => exact (ih (e.close d)).trans (by cases d <;> rfl)

theorem hear_scans (e : Engine) (op : Operation) :
    ((e.heard? op).elim e fun body => (e.prepared body).sends (e.tasks body)).scans =
      e.scans := by
  cases e.heard? op with
  | none => rfl
  | some body =>
    obtain ⟨t,q,eq⟩ := prepared_eq e body
    rw [Option.elim_some,(sends_sent _ _).scans,eq]

theorem ask_scans (e : Engine) (token : String) (wanted : Group) (within : Distance)
    (timeout : Nat) : (e.ask token wanted within timeout).2.scans = e.scans := by
  rw [ask]
  dsimp only
  split
  · rfl
  split
  · rfl
  · exact ((listen_rewired ..).trans (publish_rewired ..)).scans

theorem report_scans (e : Engine) (beacons : List Entity) : (e.report beacons).scans =
    if e.policy.proximityChanges then e.countScan.2.scans else e.scans := by
  rw [report]
  split
  · cases e.countScan with
    | mk isDue f =>
      cases isDue
      · rfl
      · exact (publish_rewired f ..).scans
  · rfl

theorem surroundings_scans (e : Engine) (op : Operation) :
    (e.surroundings op).scans = if e.counts op then e.countScan.2.scans else e.scans := by
  cases op
  case scan readings =>
    rw [surroundings,counts]
    by_cases empty : readings.isEmpty = true
    · simp [empty]
    by_cases stopped : e.stopped = true
    · simp [empty,stopped]
    · simp only [empty,stopped]
      exact report_scans ..
  case hear m => exact hear_scans e (.hear m)
  case hearPayload payload => exact hear_scans e (.hearPayload payload)
  case ask => exact ask_scans ..
  case elapse => exact closeAll_scans ..
  case expire => exact closeAll_scans ..
  case expireDepartures => exact closeAll_scans ..
  case connected => exact (connected_rewired e).scans
  case updateSelf new => exact (updateSelf_rewired e new).scans
  case enterGhost => exact (enterGhost_rewired e).scans
  case leaveGhost => exact (leaveGhost_rewired e).scans
  case addPois json =>
    simp only [surroundings,apply,addPois]
    split <;> rfl
  case stop =>
    simp only [surroundings,apply,stop]
    split <;> rfl
  all_goals rfl

/-- The counter changes with a scan that counts, and with nothing else. -/
theorem scans_apply (e : Engine) (op : Operation) :
    (e.apply op).2.scans = if e.counts op then e.countScan.2.scans else e.scans :=
  (apply_aside e op).scans.trans (surroundings_scans e op)

theorem reportInterval_toNat (e : Engine) :
    e.reportInterval.toNat = max 1 e.config.reportInterval.toNat := by
  rw [reportInterval]
  split
  next zero =>
    rw [zero]
    rfl
  next some =>
    refine (Nat.max_eq_right (Nat.one_le_iff_ne_zero.mpr fun zero => some ?_)).symm
    exact UInt32.toNat_inj.mp zero

theorem reportInterval_pos (e : Engine) : 0 < e.reportInterval.toNat :=
  e.reportInterval_toNat ▸ Nat.le_max_left ..

/-- Below the interval, one more scan is counted without an overflow. -/
theorem scans_succ (below : e.scans.toNat < e.reportInterval.toNat) :
    (e.scans + 1).toNat = e.scans.toNat + 1 := by
  have bound := e.reportInterval.toNat_lt
  rw [UInt32.toNat_add]
  exact Nat.mod_eq_of_lt (Nat.lt_of_le_of_lt below bound)

/-- A scan completes the interval exactly if its number is a multiple of it. -/
theorem completes_iff (below : e.scans.toNat < e.reportInterval.toNat) :
    e.reportInterval ≤ e.scans + 1 ↔ e.reportInterval.toNat ∣ e.scans.toNat + 1 := by
  rw [UInt32.le_iff_toNat_le,scans_succ below]
  constructor
  · intro full
    exact dvd_of_eq (Nat.le_antisymm full below)
  · exact Nat.le_of_dvd (Nat.succ_pos _)

theorem countScan_due (e : Engine) : e.countScan.1 = decide (e.reportInterval ≤ e.scans + 1) := by
  rw [countScan]
  split
  next full => exact (decide_eq_true full).symm
  next room => exact (decide_eq_false room).symm

theorem countScan_next (below : e.scans.toNat < e.reportInterval.toNat) :
    e.countScan.2.scans.toNat = (e.scans.toNat + 1) % e.reportInterval.toNat := by
  rw [countScan]
  split
  next full => exact (Nat.mod_eq_zero_of_dvd ((completes_iff below).mp full)).symm
  next room =>
    have less : e.scans.toNat + 1 < e.reportInterval.toNat :=
      scans_succ below ▸ Nat.lt_of_not_le fun full => room (UInt32.le_iff_toNat_le.mpr full)
    exact (scans_succ below).trans (Nat.mod_eq_of_lt less).symm

/-! ## Reports -/

theorem Sound.reports_scan (sound : e.Sound) (readings : List BeaconReading) :
    e.reports (.scan readings) =
      if e.counts (.scan readings) && e.countScan.1 && e.transport.accepts then
        [(.proximity,e.reportOf readings)] else [] := by
  have news : e.news (.scan readings) =
      if e.counts (.scan readings) && e.countScan.1 && e.transport.accepts then
        [(.proximity,e.reportOf readings)] else [] := (sound.news_eq _).trans (uttered_if ..)
  rw [reports,news]
  split <;> rfl

/-- Nothing but a scan that counts makes a node report its beacons. -/
theorem Sound.reports_uncounted (sound : e.Sound) (uncounted : ¬ e.counts op) :
    e.reports op = [] := by
  refine List.filter_eq_nil_iff.mpr fun (c,m) news isReport => ?_
  obtain ⟨s,said,signed⟩ := sound.said news
  obtain ⟨rfl,rfl⟩ := Prod.mk.inj signed
  cases utterance_of_sayings said with
  | report readings scanned =>
    subst scanned
    obtain ⟨due,_⟩ := List.mem_ite_nil_right.mp said
    exact uncounted (Bool.and_eq_true_iff.mp due).1
  | _ => cases isReport

theorem Sound.withTransport (sound : e.Sound) (t : Transport) : (e.withTransport t).Sound :=
  sound.still ⟨rfl,rfl,rfl,rfl,rfl,rfl⟩

/-- Whatever the connection is, it decides nothing but whether a report that is due goes out. -/
theorem Sound.reports_over (sound : e.Sound) {readings : List BeaconReading}
    (counts : e.counts (.scan readings)) (t : Transport) :
    (e.withTransport t).reports (.scan readings) =
      if e.reportInterval ≤ e.scans + 1 ∧ t.accepts then [(.proximity,e.reportOf readings)]
      else [] := by
  have counts : (e.withTransport t).counts (.scan readings) = true := counts
  have due : (e.withTransport t).countScan.1 = decide (e.reportInterval ≤ e.scans + 1) :=
    countScan_due _
  rw [(sound.withTransport t).reports_scan,counts,due,Bool.true_and]
  simp only [Bool.and_eq_true,decide_eq_true_eq]
  rfl

/-! ## Runs -/

theorem counted_concat (node : Engine) (ops : List Operation) (op : Operation) :
    counted node (ops ++ [op]) =
      counted node ops ++ if (node.after ops).counts op then [op] else [] :=
  along_concat _ node ops op

theorem Sound.reportInterval_after (sound : e.Sound) (ops : List Operation) :
    (e.after ops).reportInterval = e.reportInterval := by
  rw [reportInterval,config_after sound,reportInterval]

theorem Sound.scans_below (sound : e.Sound) {ops : List Operation} {n : Nat}
    (counter : (e.after ops).scans.toNat = n % e.reportInterval.toNat) :
    (e.after ops).scans.toNat < (e.after ops).reportInterval.toNat := by
  rw [sound.reportInterval_after,counter]
  exact Nat.mod_lt _ (reportInterval_pos e)

theorem Sound.scans_after (sound : e.Sound) (fresh : e.scans = 0) (ops : List Operation) :
    (e.after ops).scans.toNat = (counted e ops).length % e.reportInterval.toNat := by
  induction ops using List.reverseRecOn with
  | nil =>
    rw [after_nil,fresh]
    exact (Nat.zero_mod _).symm
  | append_singleton ops op ih =>
    rw [after_concat,scans_apply,counted_concat]
    split
    · rw [countScan_next (sound.scans_below ih),ih,sound.reportInterval_after,
        List.length_append,List.length_singleton,Nat.mod_add_mod]
    · rw [ih,List.append_nil]

theorem start_scans {self : Entity} {config : Config} (started : start self config = .ok e) :
    e.config = config ∧ e.scans = 0 := by
  rw [start] at started
  split at started <;> cases started
  exact ⟨rfl,rfl⟩

/-- A node that reports its beacons with every `k` of the scans that count, in a run. A report that
is due goes out over whatever connection the node has then, if that takes messages. -/
structure Cadence (node : Engine) (k : Nat) (ops : List Operation) : Prop where
  /-- The node counts up to `k` and begins again. -/
  counter : (node.after ops).scans.toNat = (counted node ops).length % k
  /-- One more scan can always be counted. -/
  room : (node.after ops).scans.toNat < k ∧ (node.after ops).scans.toNat + 1 < 2 ^ 32
  due : ∀ readings t, (node.after ops).counts (.scan readings) →
    ((node.after ops).withTransport t).reports (.scan readings) =
      if k ∣ (counted node (ops ++ [.scan readings])).length ∧ t.accepts then
        [(.proximity,(node.after ops).reportOf readings)] else []
  otherwise : ∀ op t, ¬ (node.after ops).counts op →
    ((node.after ops).withTransport t).reports op = [] ∧
      (node.after (ops ++ [op])).scans = (node.after ops).scans

/-- A node reports its beacons as its settings say, where none stands for one. -/
theorem reports_in_cadence {self : Entity} {config : Config} {node : Engine}
    (started : start self config = .ok node) (ops : List Operation) :
    Cadence node (max 1 config.reportInterval.toNat) ops := by
  have sound := start_sound started
  obtain ⟨rfl,fresh⟩ := start_scans started
  rw [← reportInterval_toNat]
  have counter := sound.scans_after fresh ops
  have below := sound.scans_below counter
  constructor
  case counter => exact counter
  case room =>
    rw [sound.reportInterval_after] at below
    exact ⟨below,Nat.lt_of_le_of_lt below node.reportInterval.toNat_lt⟩
  case due =>
    intro readings t counts
    have number : (node.after ops).reportInterval ≤ (node.after ops).scans + 1 ↔
        node.reportInterval.toNat ∣ (counted node (ops ++ [.scan readings])).length := by
      rw [completes_iff below,sound.reportInterval_after,counter,counted_concat,if_pos counts,
        List.length_append,List.length_singleton,Nat.dvd_iff_mod_eq_zero,Nat.mod_add_mod,
        ← Nat.dvd_iff_mod_eq_zero]
    rw [(sound.after ops).reports_over counts]
    simp only [number]
  case otherwise =>
    intro op t uncounted
    have same : ¬ ((node.after ops).withTransport t).counts op := by cases op <;> exact uncounted
    refine ⟨((sound.after ops).withTransport t).reports_uncounted same,?_⟩
    rw [after_concat,scans_apply,if_neg uncounted]

/-- A scan that counts, and much that does not. -/
def interrupted : List Operation :=
  [.scan (ranged "b:1:2"),.setPolicy .silent,.scan (ranged "b:1:3"),.setPolicy .shown,.scan [],
    .enterGhost,.scan (ranged "b:1:3"),.leaveGhost,.refusePublish true]

theorem reports_in_cadence_interrupted :
    ∃ node, start (.bare (.of "me") .device) { reporting with reportInterval := 2 } = .ok node ∧
      Cadence node 2 interrupted ∧ (node.after interrupted).counts (.scan (ranged "b:1:2")) ∧
      (counted node (interrupted ++ [.scan (ranged "b:1:2")])).length = 2 := by
  have started : start (.bare (.of "me") .device) { reporting with reportInterval := 2 } = .ok _ :=
    rfl
  exact ⟨_,started,reports_in_cadence started interrupted,rfl,rfl⟩

end Engine

end Vicinity
