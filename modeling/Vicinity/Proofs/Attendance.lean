import Mathlib.Data.Finset.Card
import Mathlib.Data.List.Induction
import Vicinity.Detected
import Vicinity.Proofs.Runs

/-! Who is inside a geofence, as a list and as a set. The set has no order, but it knows for everybody
inside the time of arrival; the list is that set from the earliest arrival to the latest, and whatever
is done with the two, they answer alike. -/
namespace Vicinity

namespace Detected

variable {d : Detected} {id : EntityId}

/-- What is done with the participants inside. -/
inductive Operation where
  | insert (id : EntityId)
  | erase (id : EntityId)
  | contains (id : EntityId)

/-- The answer to an operation, and who is inside after it. -/
def apply (d : Detected) : Operation → Bool × Detected
  | .insert id => d.insert id
  | .erase id => d.erase id
  | .contains id => (d.contains id,d)

def step (d : Detected) (op : Operation) : Detected := (d.apply op).2

def after (d : Detected) (ops : List Operation) : Detected := ops.foldl step d

def answers (d : Detected) (ops : List Operation) : List Bool :=
  along step (fun d op => [(d.apply op).1]) d ops

theorem contains_eq (d : Detected) (id : EntityId) : d.contains id = decide (id ∈ d.ids) :=
  List.contains_eq_mem ..

theorem insert_present (present : id ∈ d.ids) : d.insert id = (true,d) := by
  rw [insert,contains_eq,if_pos (decide_eq_true present)]

theorem insert_full (absent : id ∉ d.ids) (full : 50 ≤ d.ids.length) :
    d.insert id = (false,d) := by
  have closed : d.isFull = true := decide_eq_true full
  rw [insert,contains_eq,if_neg (by simpa using absent),if_pos closed]

theorem insert_absent (absent : id ∉ d.ids) (room : d.ids.length < 50) :
    d.insert id = (true,⟨d.ids ++ [id]⟩) := by
  have free : ¬ d.isFull = true := fun full => Nat.not_le.mpr room (of_decide_eq_true full)
  rw [insert,contains_eq,if_neg (by simpa using absent),if_neg free]

/-- Nobody is inside twice, so whoever goes is gone. -/
theorem erase_eq (distinct : d.ids.Nodup) (id : EntityId) :
    d.erase id = (decide (id ∈ d.ids),⟨d.ids.filter (· ≠ id)⟩) := by
  rw [erase,contains_eq,distinct.erase_eq_filter]
  simp only [ne_eq,decide_not]
  rfl

end Detected

/-- A set of participants with their times of arrival. Time is counted in operations. -/
structure Attendance where
  inside : Finset EntityId
  /-- When somebody was let in last. -/
  since : EntityId → Nat
  now : Nat

namespace Attendance

open Detected (Operation)

variable {a : Attendance} {op : Operation} {id : EntityId} {ops : List Operation}

def nobody : Attendance := ⟨∅,fun _ => 0,0⟩

/-- Whether somebody is outside and there is a place for one more. -/
def Admits (a : Attendance) (id : EntityId) : Prop := id ∉ a.inside ∧ a.inside.card < 50

instance (a : Attendance) (id : EntityId) : Decidable (a.Admits id) :=
  inferInstanceAs (Decidable (_ ∧ _))

/-- Somebody comes in now. -/
def entered (a : Attendance) (id : EntityId) : Attendance :=
  ⟨insert id a.inside,Function.update a.since id a.now,a.now + 1⟩

theorem since_entered (a : Attendance) (id : EntityId) : (a.entered id).since id = a.now :=
  Function.update_self ..

theorem since_entered_of_ne {other : EntityId} (apart : other ≠ id) :
    (a.entered id).since other = a.since other :=
  Function.update_of_ne apart ..

def apply (a : Attendance) : Operation → Bool × Attendance
  | .insert id => if a.Admits id then (true,a.entered id)
    else (decide (id ∈ a.inside),{ a with now := a.now + 1 })
  | .erase id => (decide (id ∈ a.inside),⟨a.inside.erase id,a.since,a.now + 1⟩)
  | .contains id => (decide (id ∈ a.inside),{ a with now := a.now + 1 })

def step (a : Attendance) (op : Operation) : Attendance := (a.apply op).2

def after (a : Attendance) (ops : List Operation) : Attendance := ops.foldl step a

def answers (a : Attendance) (ops : List Operation) : List Bool :=
  along step (fun a op => [(a.apply op).1]) a ops

/-! ## Arrivals -/

theorem apply_admits (admits : a.Admits id) : a.apply (.insert id) = (true,a.entered id) :=
  if_pos admits

theorem apply_refuses (refuses : ¬ a.Admits id) :
    a.apply (.insert id) = (decide (id ∈ a.inside),{ a with now := a.now + 1 }) :=
  if_neg refuses

theorem now_step (a : Attendance) (op : Operation) : (a.step op).now = a.now + 1 := by
  cases op with
  | insert id =>
    by_cases admits : a.Admits id
    · rw [step,apply_admits admits]
      rfl
    · rw [step,apply_refuses admits]
  | erase id => rfl
  | contains id => rfl

theorem after_concat (a : Attendance) (ops : List Operation) (op : Operation) :
    a.after (ops ++ [op]) = (a.after ops).step op := by
  rw [after,List.foldl_append]
  rfl

theorem now_after (ops : List Operation) : (nobody.after ops).now = ops.length := by
  induction ops using List.reverseRecOn with
  | nil => rfl
  | append_singleton ops op ih => rw [after_concat,now_step,ih,List.length_append]; rfl

/-- Somebody is inside after an operation who came in with it just now, or was inside before and does
not leave. -/
theorem inside_step {n : Nat} : id ∈ (a.step op).inside ∧ (a.step op).since id = n ↔
    (op = .insert id ∧ a.Admits id ∧ a.now = n) ∨
      (op ≠ .erase id ∧ id ∈ a.inside ∧ a.since id = n) := by
  cases op with
  | insert other =>
    by_cases admits : a.Admits other
    · rw [step,apply_admits admits]
      by_cases same : id = other
      · subst same
        simp [entered,admits,admits.1]
      · have apart : ¬ other = id := fun eq => same eq.symm
        simp [entered,same,apart]
    · rw [step,apply_refuses admits]
      by_cases same : other = id
      · subst same
        simp [admits]
      · simp [same]
  | erase other =>
    by_cases same : other = id
    · subst same
      simp [step,apply]
    · have apart : ¬ id = other := fun eq => same eq.symm
      simp [step,apply,same,apart]
  | contains other => simp [step,apply]

/-- Somebody was let in with the operation of a number, and has not left since. -/
def Arrival (ops : List Operation) (id : EntityId) (n : Nat) : Prop :=
  ∃ before later, ops = before ++ .insert id :: later ∧ before.length = n ∧
    (nobody.after before).Admits id ∧ .erase id ∉ later

theorem arrival_concat {n : Nat} : Arrival (ops ++ [op]) id n ↔
    (op = .insert id ∧ (nobody.after ops).Admits id ∧ ops.length = n) ∨
      (op ≠ .erase id ∧ Arrival ops id n) := by
  constructor
  · rintro ⟨before,later,eq,length,admits,stays⟩
    rcases List.eq_nil_or_concat later with rfl | ⟨later,last,rfl⟩
    · obtain ⟨rfl,rfl⟩ := List.concat_inj.mp (by simpa using eq)
      exact .inl ⟨rfl,admits,length⟩
    · rw [List.concat_eq_append,← List.cons_append,← List.append_assoc] at eq
      obtain ⟨rfl,same⟩ := List.append_inj' eq rfl
      obtain rfl := List.singleton_inj.mp same
      simp only [List.concat_eq_append,List.mem_append,List.mem_singleton,not_or] at stays
      exact .inr ⟨fun leaves => stays.2 leaves.symm,before,later,rfl,length,admits,stays.1⟩
  · rintro (⟨rfl,admits,length⟩ | ⟨stays,before,later,rfl,length,admits,kept⟩)
    · exact ⟨ops,[],rfl,length,admits,List.not_mem_nil⟩
    · refine ⟨before,later ++ [op],by simp,length,admits,?_⟩
      simp only [List.mem_append,List.mem_singleton,not_or]
      exact ⟨kept,fun leaves => stays leaves.symm⟩

/-- Whoever is inside has been so since the last arrival. -/
theorem inside_iff (ops : List Operation) (id : EntityId) (n : Nat) :
    id ∈ (nobody.after ops).inside ∧ (nobody.after ops).since id = n ↔ Arrival ops id n := by
  induction ops using List.reverseRecOn with
  | nil => simp [nobody,after,Arrival]
  | append_singleton ops op ih => rw [after_concat,inside_step,ih,arrival_concat,now_after]

end Attendance

/-! ## The list and the set -/

namespace Detected

open Attendance (Arrival nobody)

variable {d : Detected} {a : Attendance} {id : EntityId}

/-- The list is the set in the order of arrival, and everybody in it came in before now. -/
structure Lists (d : Detected) (a : Attendance) : Prop where
  inside : ∀ id, id ∈ d.ids ↔ id ∈ a.inside
  ordered : d.ids.Pairwise fun x y => a.since x < a.since y
  past : ∀ id ∈ d.ids, a.since id < a.now
  bounded : d.ids.length ≤ 50

theorem Lists.distinct (lists : Lists d a) : d.ids.Nodup :=
  lists.ordered.imp fun earlier same => Nat.ne_of_lt earlier (congrArg a.since same)

theorem Lists.card (lists : Lists d a) : d.ids.length = a.inside.card := by
  have same : d.ids.toFinset = a.inside := by
    ext id
    rw [List.mem_toFinset,lists.inside]
  rw [← same,List.toFinset_card_of_nodup lists.distinct]

theorem Lists.admits (lists : Lists d a) :
    a.Admits id ↔ id ∉ d.ids ∧ d.ids.length < 50 := by
  rw [Attendance.Admits,lists.inside,lists.card]

theorem Lists.later (lists : Lists d a) : Lists d { a with now := a.now + 1 } :=
  ⟨lists.inside,lists.ordered,fun id member => Nat.lt_succ_of_lt (lists.past id member),
    lists.bounded⟩

theorem Lists.insert (lists : Lists d a) (absent : id ∉ d.ids) (room : d.ids.length < 50) :
    Lists ⟨d.ids ++ [id]⟩ (a.entered id) := by
  have others : ∀ x ∈ d.ids, (a.entered id).since x = a.since x := fun x member =>
    Attendance.since_entered_of_ne (ne_of_mem_of_not_mem member absent)
  constructor
  case inside =>
    intro x
    simp only [Attendance.entered,List.mem_append,List.mem_singleton,Finset.mem_insert,
      lists.inside]
    exact or_comm
  case ordered =>
    refine List.pairwise_append.mpr ⟨?_,List.pairwise_singleton ..,?_⟩
    · refine lists.ordered.imp_of_mem fun first second earlier => ?_
      rwa [others _ first,others _ second]
    · intro x member y last
      obtain rfl := List.mem_singleton.mp last
      rw [others x member,Attendance.since_entered]
      exact lists.past x member
  case past =>
    intro x member
    rcases List.mem_append.mp member with old | new
    · rw [others x old]
      exact Nat.lt_succ_of_lt (lists.past x old)
    · obtain rfl := List.mem_singleton.mp new
      rw [Attendance.since_entered]
      exact Nat.lt_succ_self _
  case bounded =>
    rw [List.length_append]
    exact room

theorem Lists.erase (lists : Lists d a) (id : EntityId) :
    Lists ⟨d.ids.filter (· ≠ id)⟩ ⟨a.inside.erase id,a.since,a.now + 1⟩ := by
  constructor
  case inside =>
    intro x
    simp only [List.mem_filter,decide_eq_true_eq,Finset.mem_erase,lists.inside]
    exact and_comm
  case ordered => exact lists.ordered.filter _
  case past =>
    exact fun x member => Nat.lt_succ_of_lt (lists.past x (List.mem_filter.mp member).1)
  case bounded => exact (List.length_filter_le ..).trans lists.bounded

/-- The list and the set answer alike, and stay one another's image. -/
theorem Lists.apply (lists : Lists d a) (op : Operation) :
    (d.apply op).1 = (a.apply op).1 ∧ Lists (d.step op) (a.step op) := by
  have known (id : EntityId) : decide (id ∈ d.ids) = decide (id ∈ a.inside) :=
    decide_eq_decide.mpr (lists.inside id)
  cases op with
  | insert id =>
    by_cases present : id ∈ d.ids
    · have refuses : ¬ a.Admits id := fun admits => (lists.admits.mp admits).1 present
      rw [step,Attendance.step,Detected.apply,insert_present present,
        Attendance.apply_refuses refuses,← known,decide_eq_true present]
      exact ⟨rfl,lists.later⟩
    · by_cases room : d.ids.length < 50
      · rw [step,Attendance.step,Detected.apply,insert_absent present room,
          Attendance.apply_admits (lists.admits.mpr ⟨present,room⟩)]
        exact ⟨rfl,lists.insert present room⟩
      · have refuses : ¬ a.Admits id := fun admits => room (lists.admits.mp admits).2
        rw [step,Attendance.step,Detected.apply,insert_full present (Nat.le_of_not_lt room),
          Attendance.apply_refuses refuses,← known,decide_eq_false present]
        exact ⟨rfl,lists.later⟩
  | erase id =>
    rw [step,Attendance.step,Detected.apply,erase_eq lists.distinct]
    exact ⟨known id,lists.erase id⟩
  | contains id => exact ⟨(contains_eq d id).trans (known id),lists.later⟩

theorem nobody_lists : Lists empty nobody :=
  ⟨fun _ => by simp [empty,nobody],.nil,fun _ member => absurd member List.not_mem_nil,
    Nat.zero_le _⟩

/-- Who is inside after some operations, as the list and as the set have it. -/
structure Attends (ops : List Operation) (d : Detected) (a : Attendance) : Prop where
  distinct : d.ids.Nodup
  bounded : d.ids.length ≤ 50
  inside : ∀ id, id ∈ d.ids ↔ id ∈ a.inside
  /-- Those inside stand in the order of arrival, which is when they were let in last. -/
  ordered : d.ids.Pairwise fun x y => a.since x < a.since y
  arrived : ∀ id n, id ∈ a.inside ∧ a.since id = n ↔ Arrival ops id n
  /-- What can be asked of the list is true of the set. -/
  contains : ∀ id, d.contains id = decide (id ∈ a.inside)
  size : d.size = a.inside.card
  isEmpty : d.isEmpty = true ↔ a.inside = ∅
  isFull : d.isFull = true ↔ a.inside.card = 50
  /-- One who is outside is refused exactly if fifty are inside, and then nothing changes. -/
  refused : ∀ id, (d.insert id).1 = false ↔ id ∉ a.inside ∧ a.inside.card = 50
  unchanged : ∀ id, (d.insert id).1 = false → (d.insert id).2 = d
  present : ∀ id ∈ a.inside, d.insert id = (true,d)
  admitted : ∀ id, id ∉ a.inside → a.inside.card < 50 → d.insert id = (true,⟨d.ids ++ [id]⟩)
  erased : ∀ id, d.erase id = (decide (id ∈ a.inside),⟨d.ids.filter (· ≠ id)⟩)

/-- Whatever is done with the participants inside, they are a set with room for fifty, in the order
of arrival. -/
theorem bounded_set_in_order (ops : List Operation) :
    empty.answers ops = nobody.answers ops ∧
      Attends ops (empty.after ops) (nobody.after ops) := by
  obtain ⟨answers,lists⟩ := along_simulation (fun d a op (lists : Lists d a) =>
    (lists.apply op).imp_left (congrArg ([·]))) nobody_lists ops
  refine ⟨answers,?_⟩
  have arrived := Attendance.inside_iff ops
  change Lists (empty.after ops) (nobody.after ops) at lists
  generalize empty.after ops = d at lists
  generalize nobody.after ops = a at lists arrived
  have full : d.ids.length < 50 ∨ d.ids.length = 50 := Nat.lt_or_eq_of_le lists.bounded
  have refused (id : EntityId) (absent : id ∉ d.ids) :
      d.insert id = if d.ids.length = 50 then (false,d) else (true,⟨d.ids ++ [id]⟩) := by
    rcases full with room | full
    · rw [if_neg (Nat.ne_of_lt room),insert_absent absent room]
    · rw [if_pos full,insert_full absent (Nat.le_of_eq full.symm)]
  constructor
  case distinct => exact lists.distinct
  case bounded => exact lists.bounded
  case inside => exact lists.inside
  case ordered => exact lists.ordered
  case arrived => exact arrived
  case contains =>
    intro id
    rw [contains_eq]
    exact decide_eq_decide.mpr (lists.inside id)
  case size => exact lists.card
  case isEmpty =>
    rw [← Finset.card_eq_zero,← lists.card,isEmpty,List.isEmpty_iff_length_eq_zero]
  case isFull =>
    rw [← lists.card,isFull,decide_eq_true_iff]
    exact ⟨fun reached => Nat.le_antisymm lists.bounded reached,fun reached => reached.ge⟩
  case refused =>
    intro id
    rw [← lists.inside,← lists.card]
    by_cases present : id ∈ d.ids
    · simp [insert_present present,present]
    · rw [refused id present]
      split <;> simp [*]
  case unchanged =>
    intro id
    by_cases present : id ∈ d.ids
    · simp [insert_present present]
    · rw [refused id present]
      split <;> simp
  case present => exact fun id member => insert_present ((lists.inside id).mpr member)
  case admitted =>
    intro id absent room
    rw [← lists.inside] at absent
    rw [← lists.card] at room
    exact insert_absent absent room
  case erased =>
    intro id
    rw [erase_eq lists.distinct]
    exact congrArg (·,_) (decide_eq_decide.mpr (lists.inside id))

end Detected

end Vicinity
