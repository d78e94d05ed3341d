import Mathlib.Data.List.Sort
import Vicinity.Proofs.Runs
import Vicinity.Proofs.Timers

/-! The timers are no more than a plain table: one row for every task that waits, and all that is due
runs in the order of the deadlines. What the timers keep besides, the second map and the deadlines of
cancelled tasks, cannot be seen. -/
namespace Vicinity.Timers

/-- What is done with timers. -/
inductive Operation (κ τ : Type) where
  | arm (key : κ) (delay : Nat) (task : τ)
  | cancel (key : κ)
  | elapse (milliseconds : Nat)
  | stop

inductive Reply (τ : Type) where
  | armed (outcome : Except ExecutionError Bool)
  | cancelled (pending : Bool)
  /-- The tasks that ran, in order. -/
  | ran (tasks : List τ)
  | done

/-- A task that waits for its deadline under a key. -/
structure Row (κ τ : Type) where
  key : κ
  deadline : Nat
  /-- The number of its arming. -/
  number : Nat
  task : τ

/-- The earlier deadline comes first, and then the earlier arming. -/
def Row.before {κ τ : Type} (a b : Row κ τ) : Bool :=
  a.deadline < b.deadline || a.deadline == b.deadline && a.number ≤ b.number

structure Table (κ τ : Type) where
  name : String
  now : Nat
  /-- What waits, in the order of arming. -/
  rows : List (Row κ τ)
  next : Nat
  stopped : Bool

variable {κ τ : Type} {t : Timers κ τ} {T : Table κ τ}

/-! ## A plain table -/

namespace Table

def start (name : String) : Table κ τ := ⟨name,0,[],0,false⟩

/-- What is due when some time has passed, in the order in which it runs. -/
def due (T : Table κ τ) (milliseconds : Nat) : List (Row κ τ) :=
  (T.rows.filter (·.deadline ≤ T.now + milliseconds)).mergeSort Row.before

section Keys

variable [BEq κ]

def pends (T : Table κ τ) (key : κ) : Bool := T.rows.any (·.key == key)

def apply (T : Table κ τ) : Operation κ τ → Reply τ × Table κ τ
  | .arm key delay task =>
    if T.stopped then (.armed (.error (.stopped T.name)),T)
    else if T.pends key then (.armed (.ok false),T)
    else (.armed (.ok true),{ T with
      rows := T.rows ++ [⟨key,T.now + delay,T.next,task⟩]
      next := T.next + 1 })
  | .cancel key => (.cancelled (T.pends key),{ T with rows := T.rows.filter (!·.key == key) })
  | .elapse milliseconds => (.ran ((T.due milliseconds).map (·.task)),{ T with
      now := T.now + milliseconds
      rows := T.rows.filter (T.now + milliseconds < ·.deadline) })
  | .stop => (.done,{ T with rows := [], stopped := true })

def step (T : Table κ τ) (op : Operation κ τ) : Table κ τ := (T.apply op).2

/-- The rows that an operation adds. -/
def armed (T : Table κ τ) : Operation κ τ → List (Row κ τ)
  | .arm key delay task =>
    if T.stopped || T.pends key then [] else [⟨key,T.now + delay,T.next,task⟩]
  | _ => []

/-- The rows whose tasks run with an operation, in order. -/
def fired (T : Table κ τ) : Operation κ τ → List (Row κ τ)
  | .elapse milliseconds => T.due milliseconds
  | _ => []

/-- The rows that an operation takes away. -/
def dropped (T : Table κ τ) : Operation κ τ → List (Row κ τ)
  | .cancel key => T.rows.filter (·.key == key)
  | .stop => T.rows
  | _ => []

end Keys

end Table

/-! ## The timers as a table -/

def deadline? (t : Timers κ τ) (number : Nat) : Option Nat :=
  (t.deadlines.find? (·.2 == number)).map (·.1)

def row? (t : Timers κ τ) (e : κ × Armed τ) : Option (Row κ τ) :=
  (t.deadline? e.2.number).map fun d => ⟨e.1,d,e.2.number,e.2.task⟩

def rows (t : Timers κ τ) : List (Row κ τ) := t.entries.filterMap t.row?

def table (t : Timers κ τ) : Table κ τ := ⟨t.name,t.now,t.rows,t.next,t.stopped⟩

theorem Sound.deadline?_eq_some (sound : t.Sound) {number d : Nat} :
    t.deadline? number = some d ↔ (d,number) ∈ t.deadlines := by
  rw [deadline?,Option.map_eq_some_iff]
  constructor
  · rintro ⟨⟨d,n⟩,found,rfl⟩
    have same : n = number := by simpa using List.find?_some found
    exact same ▸ List.mem_of_find?_eq_some found
  · intro stored
    obtain ⟨⟨e,n⟩,found⟩ := Option.isSome_iff_exists.mp
      (List.find?_isSome (p := (·.2 == number)).mpr ⟨_,stored,beq_self_eq_true _⟩)
    obtain rfl : n = number := by simpa using List.find?_some found
    exact ⟨_,found,sound.deadline_unique (List.mem_of_find?_eq_some found) stored⟩

theorem Sound.row?_entry (sound : t.Sound) {e : κ × Armed τ} (member : e ∈ t.entries) :
    ∃ d, (d,e.2.number) ∈ t.deadlines ∧ t.row? e = some ⟨e.1,d,e.2.number,e.2.task⟩ := by
  obtain ⟨d,stored⟩ := sound.armed e member
  exact ⟨d,stored,by rw [row?,sound.deadline?_eq_some.mpr stored]; rfl⟩

theorem Sound.mem_rows (sound : t.Sound) {row : Row κ τ} :
    row ∈ t.rows ↔ (row.key,⟨row.number,row.task⟩) ∈ t.entries ∧
      (row.deadline,row.number) ∈ t.deadlines := by
  rw [rows,List.mem_filterMap]
  constructor
  · rintro ⟨e,member,made⟩
    obtain ⟨d,stored,row⟩ := sound.row?_entry member
    obtain rfl := Option.some.inj (row.symm.trans made)
    exact ⟨member,stored⟩
  · rintro ⟨member,stored⟩
    refine ⟨_,member,?_⟩
    rw [row?,sound.deadline?_eq_some.mpr stored]
    rfl

/-- The rows are the entries, one by one. -/
theorem Sound.rows_map {α : Type} (sound : t.Sound) (f : Row κ τ → α) (g : κ × Armed τ → α)
    (same : ∀ e d, f ⟨e.1,d,e.2.number,e.2.task⟩ = g e) : t.rows.map f = t.entries.map g := by
  rw [rows,List.map_filterMap,← List.filterMap_eq_map]
  apply List.filterMap_congr
  intro e member
  obtain ⟨d,_,row⟩ := sound.row?_entry member
  rw [row]
  exact congrArg some (same e d)

theorem Sound.rows_keys (sound : t.Sound) : t.rows.map (·.key) = t.entries.map (·.1) :=
  sound.rows_map _ _ fun _ _ => rfl

theorem Sound.rows_numbers (sound : t.Sound) :
    t.rows.map (·.number) = t.entries.map (·.2.number) :=
  sound.rows_map _ _ fun _ _ => rfl

/-! ## What is due -/

/-- Whether a deadline comes before another one: the earlier, or of equal ones that of the earlier
arming. -/
def Earlier (a b : Nat × Nat) : Prop := a.1 < b.1 ∨ a.1 = b.1 ∧ a.2 < b.2

/-- The deadlines stand in the order in which they are reached. -/
def Ordered (t : Timers κ τ) : Prop := t.deadlines.Pairwise Earlier

theorem insertDeadline_ordered (deadline number : Nat) {ds : List (Nat × Nat)}
    (ordered : ds.Pairwise Earlier) (latest : ∀ d ∈ ds, d.2 < number) :
    (insertDeadline deadline number ds).Pairwise Earlier := by
  induction ds with
  | nil => exact List.pairwise_singleton ..
  | cons first ds ih =>
    obtain ⟨d,n⟩ := first
    obtain ⟨before,rest⟩ := List.pairwise_cons.mp ordered
    rw [insertDeadline]
    split
    next sooner =>
      refine List.pairwise_cons.mpr ⟨?_,ordered⟩
      intro other member
      rcases List.mem_cons.mp member with rfl | member
      · exact .inl sooner
      · have := before other member
        simp only [Earlier] at *
        omega
    next later =>
      refine List.pairwise_cons.mpr ⟨?_,ih rest fun e member =>
        latest e (List.mem_cons_of_mem _ member)⟩
      intro other member
      rcases List.mem_cons.mp ((insertDeadline_perm ..).mem_iff.mp member) with rfl | member
      · have issued := latest (d,n) (List.mem_cons_self ..)
        simp only [Earlier] at *
        omega
      · exact before other member

/-- The rows of the deadlines that are reached when some time has passed, in their order. -/
def dueRows (t : Timers κ τ) (milliseconds : Nat) : List (Row κ τ) :=
  (t.deadlines.filter (·.1 ≤ t.now + milliseconds)).filterMap fun d =>
    (t.numbered? d.2).map fun e => ⟨e.1,d.1,d.2,e.2⟩

theorem dueRows_tasks (t : Timers κ τ) (milliseconds : Nat) :
    (t.dueRows milliseconds).map (·.task) = (t.due milliseconds).map (·.2) := by
  simp only [dueRows,due,dueNumbers,List.map_filterMap,List.filterMap_map,Option.map_map]
  rfl

theorem Sound.mem_dueRows (sound : t.Sound) {milliseconds : Nat} {row : Row κ τ} :
    row ∈ t.dueRows milliseconds ↔ row ∈ t.rows ∧ row.deadline ≤ t.now + milliseconds := by
  rw [sound.mem_rows,dueRows,List.mem_filterMap]
  constructor
  · rintro ⟨⟨d,n⟩,reached,made⟩
    obtain ⟨stored,passed⟩ := List.mem_filter.mp reached
    obtain ⟨⟨key,task⟩,numbered,rfl⟩ := Option.map_eq_some_iff.mp made
    exact ⟨⟨sound.numbered?_eq_some.mp numbered,stored⟩,of_decide_eq_true passed⟩
  · rintro ⟨⟨member,stored⟩,passed⟩
    refine ⟨_,List.mem_filter.mpr ⟨stored,decide_eq_true passed⟩,?_⟩
    rw [sound.numbered?_eq_some.mpr member]
    rfl

theorem Ordered.dueRows (ordered : t.Ordered) (milliseconds : Nat) :
    (t.dueRows milliseconds).Pairwise fun a b =>
      Earlier (a.deadline,a.number) (b.deadline,b.number) := by
  refine (ordered.sublist List.filter_sublist).filterMap _ ?_
  rintro a b earlier row first other second
  obtain ⟨_,_,rfl⟩ := Option.map_eq_some_iff.mp first
  obtain ⟨_,_,rfl⟩ := Option.map_eq_some_iff.mp second
  exact earlier

theorem Row.before_iff {a b : Row κ τ} : a.before b = true ↔
    a.deadline < b.deadline ∨ a.deadline = b.deadline ∧ a.number ≤ b.number := by
  simp [Row.before]

theorem Sound.row_unique (sound : t.Sound) {a b : Row κ τ} (ha : a ∈ t.rows) (hb : b ∈ t.rows)
    (same : a.number = b.number) : a = b := by
  have distinct : (t.rows.map (·.number)).Nodup := sound.rows_numbers ▸ sound.numbers
  exact List.inj_on_of_nodup_map distinct ha hb same

/-- Going through the deadlines in their order is sorting the rows that are due. -/
theorem Sound.due_eq (sound : t.Sound) (ordered : t.Ordered) (milliseconds : Nat) :
    t.table.due milliseconds = t.dueRows milliseconds := by
  have sorted : (t.table.due milliseconds).Pairwise (Row.before · ·) :=
    List.pairwise_mergeSort
      (fun a b c => by simp only [Row.before_iff]; omega)
      (fun a b => by simp only [Bool.or_eq_true,Row.before_iff]; omega) _
  have strict := ordered.dueRows milliseconds
  have distinct : (t.dueRows milliseconds).Nodup := strict.imp fun earlier same => by
    subst same
    simp [Earlier] at earlier
  have distinct' : (t.rows.filter (·.deadline ≤ t.now + milliseconds)).Nodup :=
    ((List.Nodup.of_map _ (sound.rows_numbers ▸ sound.numbers)).sublist List.filter_sublist)
  have same : (t.table.due milliseconds).Perm (t.dueRows milliseconds) := by
    refine (List.mergeSort_perm ..).trans ((List.perm_ext_iff_of_nodup distinct' distinct).mpr ?_)
    intro row
    rw [List.mem_filter,sound.mem_dueRows,decide_eq_true_iff]
  refine same.eq_of_pairwise ?_ sorted ?_
  · intro a b ha hb first second
    have ha := (sound.mem_dueRows.mp (same.mem_iff.mp ha)).1
    refine sound.row_unique ha (sound.mem_dueRows.mp hb).1 ?_
    simp only [Row.before_iff] at first second
    omega
  · refine strict.imp fun earlier => ?_
    simp only [Row.before_iff,Earlier] at *
    omega

/-! ## The table after an operation -/

theorem rows_keeping (t : Timers κ τ) (kept : Nat → Bool) :
    (t.keeping kept).rows = t.rows.filter (kept ·.number) := by
  have same : (t.keeping kept).row? = t.row? := rfl
  rw [rows,rows,same,keeping,List.filterMap_filter,List.filter_filterMap]
  apply List.filterMap_congr
  intro e _
  rw [row?]
  cases t.deadline? e.2.number with
  | none => cases kept e.2.number <;> rfl
  | some d => cases keeps : kept e.2.number <;> simp [Option.filter_some,keeps]

/-- Tasks that wait keep their rows when there are more deadlines. -/
theorem Sound.rows_more (sound : t.Sound) {u : Timers κ τ} (sound' : u.Sound)
    (more : ∀ d ∈ t.deadlines, d ∈ u.deadlines) : t.rows = t.entries.filterMap u.row? := by
  apply List.filterMap_congr
  intro e member
  obtain ⟨d,stored,row⟩ := sound.row?_entry member
  rw [row,row?,sound'.deadline?_eq_some.mpr (more _ stored)]
  rfl

theorem Sound.rows_later (sound : t.Sound) (milliseconds : Nat) :
    (t.later milliseconds).rows = t.rows.filter (t.now + milliseconds < ·.deadline) := by
  have fewer : ∀ d ∈ (t.later milliseconds).deadlines, d ∈ t.deadlines :=
    fun d member => (List.mem_filter.mp member).1
  have kept : (t.later milliseconds).rows = (t.keeping (· ∉ t.dueNumbers milliseconds)).rows :=
    (sound.later milliseconds).rows_more (u := t) sound fewer
  rw [kept,rows_keeping]
  apply List.filter_congr
  intro row member
  obtain ⟨_,stored⟩ := sound.mem_rows.mp member
  rw [decide_eq_decide,dueNumbers,List.mem_map]
  constructor
  · intro unreached
    by_contra passed
    exact unreached ⟨_,List.mem_filter.mpr ⟨stored,decide_eq_true (Nat.le_of_not_lt passed)⟩,rfl⟩
  · rintro waits ⟨⟨d,n⟩,reached,rfl⟩
    obtain ⟨stored',passed⟩ := List.mem_filter.mp reached
    obtain rfl := sound.deadline_unique stored stored'
    exact absurd (of_decide_eq_true passed) (Nat.not_le_of_lt waits)

section Keys

variable [BEq κ] [LawfulBEq κ]

theorem Sound.table_pends (sound : t.Sound) (key : κ) : t.table.pends key = t.isPending key := by
  rw [Bool.eq_iff_iff,Table.pends,isPending,List.any_eq_true,Option.isSome_iff_exists]
  constructor
  · rintro ⟨row,member,same⟩
    have stored := (sound.mem_rows.mp member).1
    exact ⟨_,sound.lookup_eq_some.mpr (eq_of_beq same ▸ stored)⟩
  · rintro ⟨a,found⟩
    have member := sound.lookup_eq_some.mp found
    obtain ⟨d,stored⟩ := sound.armed _ member
    exact ⟨⟨key,d,a.number,a.task⟩,sound.mem_rows.mpr ⟨member,stored⟩,beq_self_eq_true key⟩

theorem Sound.rows_withTask (sound : t.Sound) {key : κ} (idle : t.isPending key = false)
    (delay : Nat) (task : τ) :
    (t.withTask key delay task).rows = t.rows ++ [⟨key,t.now + delay,t.next,task⟩] := by
  have sound' := sound.withTask idle delay task
  have perm := insertDeadline_perm (t.now + delay) t.next t.deadlines
  have more : ∀ d ∈ t.deadlines, d ∈ (t.withTask key delay task).deadlines :=
    fun d stored => perm.mem_iff.mpr (List.mem_cons_of_mem _ stored)
  have new : (t.withTask key delay task).row? (key,⟨t.next,task⟩) =
      some ⟨key,t.now + delay,t.next,task⟩ := by
    rw [row?,sound'.deadline?_eq_some.mpr (perm.mem_iff.mpr (List.mem_cons_self ..))]
    rfl
  have entries : (t.withTask key delay task).entries = t.entries ++ [(key,⟨t.next,task⟩)] := rfl
  rw [sound.rows_more sound' more,rows,entries,List.filterMap_append,List.filterMap_cons,new]
  rfl

theorem Sound.rows_cancel (sound : t.Sound) (key : κ) :
    (t.cancel key).2.rows = t.rows.filter (!·.key == key) := by
  rw [sound.cancel_eq,rows_keeping]
  apply List.filter_congr
  intro row member
  obtain ⟨stored,_⟩ := sound.mem_rows.mp member
  rw [Bool.eq_iff_iff,Option.all_eq_true,Bool.not_eq_true',beq_eq_false_iff_ne]
  constructor
  · rintro apart rfl
    exact of_decide_eq_true (apart _ (sound.lookup_eq_some.mpr stored)) rfl
  · intro other a found
    refine decide_eq_true fun same => other ?_
    exact congrArg Prod.fst (sound.entry_unique stored (sound.lookup_eq_some.mp found) same)

/-! ## One operation -/

def apply (t : Timers κ τ) : Operation κ τ → Reply τ × Timers κ τ
  | .arm key delay task =>
    match t.arm key delay task with
    | .ok (armed,t) => (.armed (.ok armed),t)
    | .error cause => (.armed (.error cause),t)
  | .cancel key =>
    let (pending,t) := t.cancel key
    (.cancelled pending,t)
  | .elapse milliseconds =>
    let (tasks,t) := t.elapse milliseconds
    (.ran tasks,t)
  | .stop => (.done,t.stop)

/-- Nothing but a plain table shows, and the order of the deadlines lasts. -/
structure Tabular (t : Timers κ τ) (op : Operation κ τ) : Prop where
  reply : (t.apply op).1 = (t.table.apply op).1
  table : (t.apply op).2.table = (t.table.apply op).2
  sound : (t.apply op).2.Sound
  ordered : (t.apply op).2.Ordered

theorem Sound.arm_tabular (sound : t.Sound) (ordered : t.Ordered) (key : κ) (delay : Nat)
    (task : τ) : Tabular t (.arm key delay task) := by
  have pends := sound.table_pends key
  by_cases stopped : t.stopped = true
  · have applied : t.apply (.arm key delay task) = (.armed (.error (.stopped t.name)),t) := by
      rw [apply,arm_stopped stopped]
    have tabular : t.table.apply (.arm key delay task) =
        (.armed (.error (.stopped t.name)),t.table) := if_pos stopped
    constructor <;> simp [applied,tabular,sound,ordered]
  have live := Bool.eq_false_iff.mpr stopped
  by_cases pending : t.isPending key = true
  · have applied : t.apply (.arm key delay task) = (.armed (.ok false),t) := by
      rw [apply,arm_pending live pending]
    have tabular : t.table.apply (.arm key delay task) = (.armed (.ok false),t.table) :=
      (if_neg stopped).trans (if_pos (pends.trans pending))
    constructor <;> simp [applied,tabular,sound,ordered]
  have idle := Bool.eq_false_iff.mpr pending
  have applied : t.apply (.arm key delay task) =
      (.armed (.ok true),t.withTask key delay task) := by
    rw [apply,arm_idle live idle]
  have tabular : t.table.apply (.arm key delay task) = (.armed (.ok true),{ t.table with
      rows := t.rows ++ [⟨key,t.now + delay,t.next,task⟩]
      next := t.next + 1 }) :=
    (if_neg stopped).trans (if_neg (by rw [pends,idle]; exact Bool.false_ne_true))
  constructor
  case reply => rw [applied,tabular]
  case table =>
    rw [applied,tabular]
    dsimp only [Timers.table]
    rw [sound.rows_withTask idle]
    rfl
  case sound =>
    rw [applied]
    exact sound.withTask idle delay task
  case ordered =>
    rw [applied]
    exact insertDeadline_ordered _ _ ordered sound.issued

theorem Sound.cancel_tabular (sound : t.Sound) (ordered : t.Ordered) (key : κ) :
    Tabular t (.cancel key) := by
  have cancelled := sound.cancel_eq key
  constructor
  case reply =>
    change Reply.cancelled (t.cancel key).1 = .cancelled (t.table.pends key)
    rw [sound.table_pends,cancelled]
  case table =>
    change (t.cancel key).2.table = { t.table with rows := t.rows.filter (!·.key == key) }
    rw [← sound.rows_cancel,cancelled]
    rfl
  case sound => exact sound.cancel key
  case ordered =>
    change (t.cancel key).2.Ordered
    rw [cancelled]
    exact ordered

theorem Sound.elapse_tabular (sound : t.Sound) (ordered : t.Ordered) (milliseconds : Nat) :
    Tabular t (.elapse milliseconds) := by
  have elapsed := sound.elapse_eq milliseconds
  have applied : t.apply (.elapse milliseconds) =
      (.ran ((t.due milliseconds).map (·.2)),t.later milliseconds) := by
    rw [apply,elapsed]
  constructor
  case reply =>
    rw [applied,← dueRows_tasks,← sound.due_eq ordered]
    rfl
  case table =>
    rw [applied]
    dsimp only [Timers.table]
    rw [sound.rows_later]
    rfl
  case sound =>
    rw [applied]
    exact sound.later milliseconds
  case ordered =>
    rw [applied]
    exact ordered.sublist List.filter_sublist

theorem Sound.tabular (sound : t.Sound) (ordered : t.Ordered) (op : Operation κ τ) :
    Tabular t op := by
  cases op with
  | arm key delay task => exact sound.arm_tabular ordered key delay task
  | cancel key => exact sound.cancel_tabular ordered key
  | elapse milliseconds => exact sound.elapse_tabular ordered milliseconds
  | stop => exact ⟨rfl,rfl,stop_sound t,List.Pairwise.nil⟩

/-! ## Runs -/

def step (t : Timers κ τ) (op : Operation κ τ) : Timers κ τ := (t.apply op).2

def after (t : Timers κ τ) (ops : List (Operation κ τ)) : Timers κ τ := ops.foldl step t

def replies (t : Timers κ τ) (ops : List (Operation κ τ)) : List (Reply τ) :=
  along step (fun t op => [(t.apply op).1]) t ops

namespace Table

omit [LawfulBEq κ]

def after (T : Table κ τ) (ops : List (Operation κ τ)) : Table κ τ := ops.foldl step T

def replies (T : Table κ τ) (ops : List (Operation κ τ)) : List (Reply τ) :=
  along step (fun T op => [(T.apply op).1]) T ops

/-- A row that waits or comes in runs, or is dropped, or waits on. -/
theorem apply_fates (T : Table κ τ) (op : Operation κ τ) :
    ((T.fired op ++ T.dropped op) ++ (T.step op).rows).Perm (T.rows ++ T.armed op) := by
  cases op with
  | arm key delay task =>
    simp only [fired,dropped,armed,step,apply,List.nil_append]
    by_cases stopped : T.stopped = true
    · simp [stopped]
    by_cases pending : T.pends key = true <;> simp [stopped,pending]
  | cancel key =>
    exact (List.filter_append_perm ..).trans (.of_eq (List.append_nil _).symm)
  | elapse milliseconds =>
    have waits : (T.step (.elapse milliseconds)).rows =
        T.rows.filter fun row => !decide (row.deadline ≤ T.now + milliseconds) := by
      apply List.filter_congr
      intro row _
      rw [Bool.eq_iff_iff,Bool.not_eq_true',decide_eq_true_iff,decide_eq_false_iff_not]
      omega
    change ((T.due milliseconds ++ []) ++ _).Perm (T.rows ++ [])
    rw [waits,List.append_nil,List.append_nil,due]
    exact ((List.mergeSort_perm ..).append_right _).trans (List.filter_append_perm ..)
  | stop => exact .refl _

theorem after_fates (T : Table κ τ) (ops : List (Operation κ τ)) :
    (along step (fun T op => T.fired op ++ T.dropped op) T ops ++ (T.after ops).rows).Perm
      (T.rows ++ along step armed T ops) :=
  along_store apply_fates T ops

/-- The numbers are given out one after another. -/
theorem after_numbers (T : Table κ τ) (ops : List (Operation κ τ)) :
    List.range T.next ++ (along step armed T ops).map (·.number) =
      List.range (T.after ops).next := by
  induction ops generalizing T with
  | nil => exact List.append_nil _
  | cons op ops ih =>
    have first : List.range T.next ++ (T.armed op).map (·.number) =
        List.range (T.step op).next := by
      cases op with
      | arm key delay task =>
        simp only [armed,step,apply]
        by_cases stopped : T.stopped = true
        · simp [stopped]
        by_cases pending : T.pends key = true <;> simp [stopped,pending,List.range_succ]
      | cancel key => exact List.append_nil _
      | elapse milliseconds => exact List.append_nil _
      | stop => exact List.append_nil _
    rw [along,List.map_append,← List.append_assoc,first]
    exact ih (T.step op)

/-- No deadline is missed. -/
theorem step_ahead {T : Table κ τ} (ahead : ∀ row ∈ T.rows, T.now ≤ row.deadline)
    (op : Operation κ τ) : ∀ row ∈ (T.step op).rows, (T.step op).now ≤ row.deadline := by
  intro row member
  cases op with
  | arm key delay task =>
    simp only [step,apply] at member ⊢
    split at member
    next stopped => simpa [stopped] using ahead row member
    next live =>
      split at member
      next pending => simpa [live,pending] using ahead row member
      next idle =>
        simp only [live,idle,if_false,Bool.false_eq_true]
        rcases List.mem_append.mp member with old | new
        · exact ahead row old
        · obtain rfl := List.mem_singleton.mp new
          exact Nat.le_add_right ..
  | cancel key => exact ahead row (List.mem_filter.mp member).1
  | elapse milliseconds =>
    exact Nat.le_of_lt (of_decide_eq_true (List.mem_filter.mp member).2)
  | stop => exact absurd member List.not_mem_nil

theorem after_ahead {T : Table κ τ} (ahead : ∀ row ∈ T.rows, T.now ≤ row.deadline)
    (ops : List (Operation κ τ)) : ∀ row ∈ (T.after ops).rows, (T.after ops).now ≤ row.deadline := by
  induction ops generalizing T with
  | nil => exact ahead
  | cons op ops ih => exact ih (step_ahead ahead op)

/-- A stopped table is empty. -/
theorem step_stopped {T : Table κ τ} (ended : T.stopped = true ∧ T.rows = []) (op : Operation κ τ) :
    (T.step op).stopped = true ∧ (T.step op).rows = [] := by
  obtain ⟨stopped,empty⟩ := ended
  cases op with
  | arm key delay task => simp [step,apply,stopped,empty]
  | cancel key => exact ⟨stopped,by simp [step,apply,empty]⟩
  | elapse milliseconds => exact ⟨stopped,by simp [step,apply,empty]⟩
  | stop => exact ⟨rfl,rfl⟩

theorem after_stopped {T : Table κ τ} (ended : T.stopped = true ∧ T.rows = [])
    (ops : List (Operation κ τ)) : (T.after ops).stopped = true ∧ (T.after ops).rows = [] := by
  induction ops generalizing T with
  | nil => exact ended
  | cons op ops ih => exact ih (step_stopped ended op)

theorem stopped_of_stop (T : Table κ τ) {ops : List (Operation κ τ)} (stop : .stop ∈ ops) :
    (T.after ops).stopped = true ∧ (T.after ops).rows = [] := by
  obtain ⟨before,later,rfl⟩ := List.append_of_mem stop
  rw [after,List.foldl_append]
  exact after_stopped ⟨rfl,rfl⟩ later

theorem after_name (T : Table κ τ) (ops : List (Operation κ τ)) :
    (T.after ops).name = T.name := by
  induction ops generalizing T with
  | nil => rfl
  | cons op ops ih =>
    refine (ih (T.step op)).trans ?_
    cases op with
    | arm key delay task =>
      simp only [step,apply]
      split
      · rfl
      · split <;> rfl
    | cancel key => rfl
    | elapse milliseconds => rfl
    | stop => rfl

end Table

/-- Sound timers whose deadlines are in order, seen as a table. -/
structure Shows (t : Timers κ τ) (T : Table κ τ) : Prop extends Sound t where
  table : t.table = T
  ordered : t.Ordered

omit [BEq κ] [LawfulBEq κ] in
theorem start_shows (name : String) : Shows (start name : Timers κ τ) (Table.start name) :=
  ⟨start_sound name,rfl,List.Pairwise.nil⟩

theorem Shows.apply (shows : Shows t T) (op : Operation κ τ) :
    (t.apply op).1 = (T.apply op).1 ∧ Shows (t.step op) (T.step op) := by
  obtain rfl := shows.table
  have first := shows.toSound.tabular shows.ordered op
  exact ⟨first.reply,first.sound,first.table,first.ordered⟩

theorem Shows.after (shows : Shows t T) (ops : List (Operation κ τ)) :
    t.replies ops = T.replies ops ∧ Shows (t.after ops) (T.after ops) := by
  refine along_simulation ?_ shows ops
  intro t T op shows
  obtain ⟨reply,next⟩ := shows.apply op
  exact ⟨congrArg ([·]) reply,next⟩

/-- Timers of a name after operations. -/
structure Refines (name : String) (ops : List (Operation κ τ)) (t : Timers κ τ) : Prop where
  /-- Everything that was answered, and every task that ran, is as a plain table has it. -/
  replies : (start name).replies ops = (Table.start name).replies ops
  table : t.table = (Table.start name).after ops
  pends : ∀ key, t.isPending key = t.table.pends key
  pending : t.pending = t.table.rows.length
  /-- The two maps are inverse to each other. -/
  inverse : ∀ number key, (number,key) ∈ t.keys ↔ ∃ task, (key,⟨number,task⟩) ∈ t.entries
  keys : (t.entries.map (·.1)).Nodup
  numbers : (t.keys.map (·.1)).Nodup
  deadline : ∀ e ∈ t.entries, ∃! d, (d,e.2.number) ∈ t.deadlines
  /-- Every task that was armed has run, or was dropped, or waits, and only one of these. -/
  fates : (along Table.step (fun T op => T.fired op ++ T.dropped op) (Table.start name) ops ++
    t.table.rows).Perm (along Table.step Table.armed (Table.start name) ops)
  numbered : (along Table.step Table.armed (Table.start name) ops).map (·.number) =
    List.range t.next
  ahead : ∀ row ∈ t.table.rows, t.now ≤ row.deadline
  stopped : .stop ∈ ops → t.pending = 0 ∧ (∀ milliseconds, (t.elapse milliseconds).1 = []) ∧
    ∀ key delay task, t.arm key delay task = .error (.stopped name)

end Keys

/-- Whatever is done with timers, nobody can tell them from a plain table. -/
theorem timers_are_table [DecidableEq κ] (name : String) (ops : List (Operation κ τ)) :
    Refines name ops ((start name : Timers κ τ).after ops) := by
  have first : Shows (start name : Timers κ τ) (.start name) := start_shows name
  obtain ⟨replies,shows⟩ := first.after ops
  generalize (start name : Timers κ τ).after ops = t at shows
  have sound := shows.toSound
  have table := shows.table
  have size : t.pending = t.table.rows.length := by
    have := congrArg List.length sound.rows_keys
    simpa [pending,Timers.table] using this.symm
  constructor
  case replies => exact replies
  case table => exact table
  case pends => exact fun key => (sound.table_pends key).symm
  case pending => exact size
  case inverse =>
    intro number key
    rw [sound.inverse,List.mem_map]
    constructor
    · rintro ⟨⟨k,n,task⟩,member,same⟩
      obtain ⟨rfl,rfl⟩ := Prod.mk.inj same
      exact ⟨task,member⟩
    · rintro ⟨task,member⟩
      exact ⟨_,member,rfl⟩
  case keys => exact sound.keys
  case numbers =>
    rw [sound.inverse,List.map_map]
    exact sound.numbers
  case deadline =>
    intro e member
    obtain ⟨d,stored⟩ := sound.armed e member
    exact ⟨d,stored,fun _ other => sound.deadline_unique other stored⟩
  case fates => exact table ▸ (Table.start name).after_fates ops
  case numbered =>
    have next : t.next = ((Table.start name).after ops).next := congrArg (·.next) table
    rw [next]
    exact (Table.start name).after_numbers ops
  case ahead =>
    have now : t.now = ((Table.start name).after ops).now := congrArg (·.now) table
    rw [table,now]
    exact Table.after_ahead (fun _ member => absurd member List.not_mem_nil) ops
  case stopped =>
    intro stop
    obtain ⟨stopped,empty⟩ := (Table.start name).stopped_of_stop stop
    rw [← table] at stopped empty
    have named : t.name = name :=
      (congrArg (·.name) table).trans ((Table.start name).after_name ops)
    refine ⟨by rw [size,empty]; rfl,fun milliseconds => ?_,fun key delay task => ?_⟩
    · have none : t.entries = [] := List.map_eq_nil_iff.mp (sound.rows_keys.symm.trans
        (congrArg (List.map (·.key)) empty))
      rw [sound.elapse_eq,due]
      simp [numbered?,none]
    · rw [arm_stopped stopped,named]

-- the deadline that a cancelled task left behind finds nothing to run
example : (start "" : Timers Nat Nat).replies [.arm 1 10 0,.cancel 1,.arm 1 30 1,.elapse 20,
    .elapse 10] = [.armed (.ok true),.cancelled true,.armed (.ok true),.ran [],.ran [1]] := rfl

end Vicinity.Timers
