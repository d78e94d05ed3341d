import Mathlib.Data.List.Nodup
import Vicinity.Timers

/-! A table of timers seen from outside: what waits under a key, and until when. The two maps of
the table are inverse to each other and every armed task has one deadline; a deadline that a
cancelled task left behind has a number of its own, so it finds no task. -/
namespace Vicinity.Timers

variable {κ τ : Type} {t : Timers κ τ}

/-- The two maps agree, and neither names a task twice. -/
structure Paired (t : Timers κ τ) : Prop where
  inverse : t.keys = t.entries.map fun e => (e.2.number,e.1)
  keys : (t.entries.map (·.1)).Nodup
  numbers : (t.entries.map (·.2.number)).Nodup

/-- Deadlines of cancelled tasks may be left over; no armed task is without one. -/
structure Sound (t : Timers κ τ) : Prop extends Paired t where
  deadlines : (t.deadlines.map (·.2)).Nodup
  issued : ∀ d ∈ t.deadlines, d.2 < t.next
  armed : ∀ e ∈ t.entries, ∃ d, (d,e.2.number) ∈ t.deadlines

theorem start_sound (name : String) : (Timers.start name : Timers κ τ).Sound := by
  constructor
  · constructor <;> simp [start]
  all_goals simp [start]

theorem Paired.entry_unique (paired : t.Paired) {e f : κ × Armed τ} (he : e ∈ t.entries)
    (hf : f ∈ t.entries) (same : e.2.number = f.2.number) : e = f :=
  List.inj_on_of_nodup_map paired.numbers he hf same

/-- The two maps do not depend on the time. -/
theorem Paired.atTime (paired : t.Paired) (now : Nat) (deadlines : List (Nat × Nat)) :
    ({ t with now := now, deadlines := deadlines } : Timers κ τ).Paired :=
  ⟨paired.inverse,paired.keys,paired.numbers⟩

theorem Sound.deadline_unique (sound : t.Sound) {d e n : Nat} (hd : (d,n) ∈ t.deadlines)
    (he : (e,n) ∈ t.deadlines) : d = e :=
  congrArg Prod.fst (List.inj_on_of_nodup_map sound.deadlines hd he rfl)

theorem insertDeadline_perm (deadline number : Nat) (ds : List (Nat × Nat)) :
    (insertDeadline deadline number ds).Perm ((deadline,number) :: ds) := by
  induction ds with
  | nil => exact .refl _
  | cons d ds ih =>
    simp only [insertDeadline]
    split
    · exact .refl _
    · exact (ih.cons _).trans (.swap ..)

/-- The table with one more task. -/
def withTask (t : Timers κ τ) (key : κ) (delay : Nat) (task : τ) : Timers κ τ := { t with
  entries := t.entries ++ [(key,⟨t.next,task⟩)]
  keys := t.keys ++ [(t.next,key)]
  deadlines := insertDeadline (t.now + delay) t.next t.deadlines
  next := t.next + 1 }

/-- The table with the tasks of some numbers only. -/
def keeping (t : Timers κ τ) (kept : Nat → Bool) : Timers κ τ := { t with
  entries := t.entries.filter fun e => kept e.2.number
  keys := t.keys.filter fun k => kept k.1 }

/-- The key and the task of a number. -/
def numbered? (t : Timers κ τ) (number : Nat) : Option (κ × τ) :=
  (t.entries.find? (·.2.number == number)).map fun e => (e.1,e.2.task)

theorem keeping_keeping (p q : Nat → Bool) :
    (t.keeping p).keeping q = t.keeping fun n => p n && q n := by
  simp [keeping,List.filter_filter,Bool.and_comm]

theorem Paired.numbered?_eq_some (paired : t.Paired) {number : Nat} {key : κ} {task : τ} :
    t.numbered? number = some (key,task) ↔ (key,⟨number,task⟩) ∈ t.entries := by
  simp only [numbered?,Option.map_eq_some_iff,Prod.mk.injEq]
  constructor
  · rintro ⟨⟨k,n,task⟩,found,rfl,rfl⟩
    have same : n = number := by simpa using List.find?_some found
    exact same ▸ List.mem_of_find?_eq_some found
  · intro member
    cases h : t.entries.find? (·.2.number == number) with
    | none => exact absurd (List.find?_eq_none.mp h _ member) (by simp)
    | some e =>
      have same : e.2.number = number := by simpa using List.find?_some h
      rw [paired.entry_unique (List.mem_of_find?_eq_some h) member same]
      exact ⟨_,rfl,rfl,rfl⟩

/-- The numbers whose deadlines are reached when some time has passed. -/
def dueNumbers (t : Timers κ τ) (milliseconds : Nat) : List Nat :=
  (t.deadlines.filter (·.1 ≤ t.now + milliseconds)).map (·.2)

/-- The tasks of these numbers, with their keys. -/
def due (t : Timers κ τ) (milliseconds : Nat) : List (κ × τ) :=
  (t.dueNumbers milliseconds).filterMap t.numbered?

/-- The table when some time has passed. -/
def later (t : Timers κ τ) (milliseconds : Nat) : Timers κ τ :=
  { t with
    now := t.now + milliseconds
    deadlines := t.deadlines.filter (t.now + milliseconds < ·.1) }.keeping
    (· ∉ t.dueNumbers milliseconds)

variable [BEq κ]

/-- The tasks of several keys run one after another as if their times had come. -/
def expireAll (t : Timers κ τ) : List κ → List τ × Timers κ τ
  | [] => ([],t)
  | key :: keys =>
    let (task,t) := t.expire key
    let (tasks,t) := t.expireAll keys
    (task.toList ++ tasks,t)

/-- The deadline and the task that wait under a key. -/
def waiting? (t : Timers κ τ) (key : κ) : Option (Nat × τ) :=
  (t.entries.lookup key).bind fun a =>
    (t.deadlines.find? (·.2 == a.number)).map fun d => (d.1,a.task)

/-- The table when the time of one key has come. -/
def expired (t : Timers κ τ) (key : κ) : Timers κ τ :=
  match t.entries.lookup key with
  | none => t
  | some a => { t with deadlines := t.deadlines.filter (·.2 ≠ a.number) }.keeping (· ≠ a.number)

@[simp] theorem waiting?_start (name : String) (key : κ) :
    (Timers.start name : Timers κ τ).waiting? key = none := rfl

@[simp] theorem waiting?_stop (key : κ) : t.stop.waiting? key = none := rfl

theorem arm_stopped (stopped : t.stopped = true) (key : κ) (delay : Nat) (task : τ) :
    t.arm key delay task = .error (.stopped t.name) := by
  simp [arm,stopped]

theorem arm_pending (live : t.stopped = false) {key : κ} (pending : t.isPending key = true)
    (delay : Nat) (task : τ) : t.arm key delay task = .ok (false,t) := by
  simp [arm,live,pending]

theorem arm_idle (live : t.stopped = false) {key : κ} (idle : t.isPending key = false)
    (delay : Nat) (task : τ) : t.arm key delay task = .ok (true,t.withTask key delay task) := by
  simp [arm,live,idle,withTask]

variable [LawfulBEq κ]

theorem Paired.lookup_eq_some (paired : t.Paired) {key : κ} {a : Armed τ} :
    t.entries.lookup key = some a ↔ (key,a) ∈ t.entries := by
  rw [List.lookup_eq_some_iff]
  constructor
  · rintro ⟨before,after,split,_⟩
    simp [split]
  · intro member
    obtain ⟨before,after,split⟩ := List.append_of_mem member
    refine ⟨before,after,split,fun e earlier => ?_⟩
    have keys := paired.keys
    simp only [split,List.map_append,List.nodup_append] at keys
    have apart := keys.2.2 e.1 (List.mem_map_of_mem earlier) key (by simp)
    simpa using apart.symm

theorem Sound.waiting?_eq_some (sound : t.Sound) {key : κ} {d : Nat} {task : τ} :
    t.waiting? key = some (d,task) ↔
      ∃ n, (key,⟨n,task⟩) ∈ t.entries ∧ (d,n) ∈ t.deadlines := by
  simp only [waiting?,Option.bind_eq_some_iff,Option.map_eq_some_iff,Prod.mk.injEq,
    sound.lookup_eq_some]
  constructor
  · rintro ⟨⟨n,task⟩,member,⟨e,m⟩,found,rfl,rfl⟩
    have numbered : m = n := by simpa using List.find?_some found
    exact ⟨n,member,numbered ▸ List.mem_of_find?_eq_some found⟩
  · rintro ⟨n,member,deadline⟩
    refine ⟨⟨n,task⟩,member,?_⟩
    cases found : t.deadlines.find? (·.2 == n) with
    | none => exact absurd (List.find?_eq_none.mp found _ deadline) (by simp)
    | some e =>
      have numbered : e.2 = n := by simpa using List.find?_some found
      have stored : (e.1,n) ∈ t.deadlines := numbered ▸ List.mem_of_find?_eq_some found
      exact ⟨e,rfl,sound.deadline_unique stored deadline,rfl⟩

theorem Sound.isPending_eq (sound : t.Sound) (key : κ) :
    t.isPending key = (t.waiting? key).isSome := by
  rw [Bool.eq_iff_iff,isPending,Option.isSome_iff_exists,Option.isSome_iff_exists]
  constructor
  · rintro ⟨a,found⟩
    have member := sound.lookup_eq_some.mp found
    obtain ⟨d,deadline⟩ := sound.armed _ member
    exact ⟨_,sound.waiting?_eq_some.mpr ⟨a.number,member,deadline⟩⟩
  · rintro ⟨⟨d,task⟩,waits⟩
    obtain ⟨n,member,_⟩ := sound.waiting?_eq_some.mp waits
    exact ⟨_,sound.lookup_eq_some.mpr member⟩

/-! ## Arming -/

theorem Sound.withTask (sound : t.Sound) {key : κ} (idle : t.isPending key = false) (delay : Nat)
    (task : τ) : (t.withTask key delay task).Sound := by
  have perm := insertDeadline_perm (t.now + delay) t.next t.deadlines
  have fresh : ∀ e ∈ t.entries, e.2.number ≠ t.next := fun e member =>
    (sound.armed e member).elim fun _ deadline => Nat.ne_of_lt (sound.issued _ deadline)
  have absent : ∀ e ∈ t.entries, e.1 ≠ key := by
    rintro ⟨k,a⟩ member rfl
    simp [isPending,sound.lookup_eq_some.mpr member] at idle
  constructor
  · constructor
    · simp [Timers.withTask,sound.inverse]
    · simp only [Timers.withTask,List.map_append,List.nodup_append]
      refine ⟨sound.keys,by simp,?_⟩
      simpa using fun k a member => absent (k,a) member
    · simp only [Timers.withTask,List.map_append,List.nodup_append]
      refine ⟨sound.numbers,by simp,?_⟩
      simpa using fun n k (a : Armed τ) member (same : a.number = n) => same ▸ fresh (k,a) member
  · rw [Timers.withTask,(perm.map _).nodup_iff,List.map_cons,List.nodup_cons]
    refine ⟨fun member => ?_,sound.deadlines⟩
    obtain ⟨d,stored,same⟩ := List.mem_map.mp member
    exact absurd (sound.issued d stored) (by simp [same])
  · intro d member
    rcases List.mem_cons.mp (perm.mem_iff.mp member) with rfl | stored
    · exact Nat.lt_succ_self _
    · exact Nat.lt_succ_of_lt (sound.issued d stored)
  · intro e member
    rcases List.mem_append.mp member with old | new
    · obtain ⟨d,deadline⟩ := sound.armed e old
      exact ⟨d,perm.mem_iff.mpr (List.mem_cons_of_mem _ deadline)⟩
    · obtain rfl := List.mem_singleton.mp new
      exact ⟨_,perm.mem_iff.mpr (List.mem_cons_self ..)⟩

theorem Sound.waiting?_withTask (sound : t.Sound) {key : κ} (idle : t.isPending key = false)
    (delay : Nat) (task : τ) (k : κ) : (t.withTask key delay task).waiting? k =
      if k == key then some (t.now + delay,task) else t.waiting? k := by
  have sound' := sound.withTask idle delay task
  have perm := insertDeadline_perm (t.now + delay) t.next t.deadlines
  split
  next same =>
    obtain rfl := eq_of_beq same
    refine sound'.waiting?_eq_some.mpr ⟨t.next,by simp [Timers.withTask],?_⟩
    exact perm.mem_iff.mpr (List.mem_cons_self ..)
  next other =>
    have apart : k ≠ key := by simpa using other
    ext ⟨d,task'⟩
    rw [sound'.waiting?_eq_some,sound.waiting?_eq_some]
    constructor
    · rintro ⟨n,member,deadline⟩
      have old : (k,⟨n,task'⟩) ∈ t.entries := by simpa [Timers.withTask,apart] using member
      obtain ⟨e,stored⟩ := sound.armed _ old
      rcases List.mem_cons.mp (perm.mem_iff.mp deadline) with new | deadline
      · obtain ⟨rfl,rfl⟩ := Prod.mk.inj new
        exact absurd (sound.issued _ stored) (Nat.lt_irrefl _)
      · exact ⟨n,old,deadline⟩
    · rintro ⟨n,member,deadline⟩
      refine ⟨n,List.mem_append_left _ member,?_⟩
      exact perm.mem_iff.mpr (List.mem_cons_of_mem _ deadline)

/-! ## Taking tasks out -/

omit [BEq κ] [LawfulBEq κ] in
theorem Paired.keeping (paired : t.Paired) (kept : Nat → Bool) : (t.keeping kept).Paired where
  inverse := by
    rw [Timers.keeping,paired.inverse,List.filter_map]
    rfl
  keys := paired.keys.sublist (List.filter_sublist.map _)
  numbers := paired.numbers.sublist (List.filter_sublist.map _)

omit [BEq κ] [LawfulBEq κ] in
theorem Sound.keeping (sound : t.Sound) (kept : Nat → Bool) : (t.keeping kept).Sound where
  toPaired := sound.toPaired.keeping kept
  deadlines := sound.deadlines
  issued := sound.issued
  armed e member := sound.armed e (List.mem_filter.mp member).1

theorem Sound.waiting?_keeping (sound : t.Sound) (kept : Nat → Bool) {key : κ} {d : Nat}
    {task : τ} : (t.keeping kept).waiting? key = some (d,task) ↔
      ∃ n, (key,⟨n,task⟩) ∈ t.entries ∧ (d,n) ∈ t.deadlines ∧ kept n = true := by
  rw [(sound.keeping kept).waiting?_eq_some]
  simp only [Timers.keeping,List.mem_filter]
  exact exists_congr fun n => by rw [and_right_comm,and_assoc]

theorem Paired.dropEntry_eq (paired : t.Paired) {key : κ} {a : Armed τ}
    (member : (key,a) ∈ t.entries) :
    dropEntry key t.entries = t.entries.filter fun e => e.2.number ≠ a.number := by
  apply List.filter_congr
  intro e stored
  rw [Bool.eq_iff_iff,Bool.not_eq_true',beq_eq_false_iff_ne,decide_eq_true_iff]
  refine not_congr ⟨fun same => ?_,fun same => ?_⟩
  · exact congrArg (·.2.number) (List.inj_on_of_nodup_map paired.keys stored member same)
  · exact congrArg (·.1) (paired.entry_unique stored member same)

theorem Sound.cancel_eq (sound : t.Sound) (key : κ) :
    t.cancel key = (t.isPending key,t.keeping fun n =>
      (t.entries.lookup key).all fun a => n ≠ a.number) := by
  rw [Timers.cancel,isPending]
  split
  next absent => simp [absent,Timers.keeping]
  next a found =>
    rw [sound.dropEntry_eq (sound.lookup_eq_some.mp found)]
    simp [found,Timers.keeping]

theorem Sound.cancel_stopped (sound : t.Sound) (key : κ) :
    (t.cancel key).2.stopped = t.stopped := by
  rw [sound.cancel_eq]
  rfl

theorem Sound.cancel (sound : t.Sound) (key : κ) : (t.cancel key).2.Sound := by
  rw [sound.cancel_eq]
  dsimp only
  exact sound.keeping _

theorem Sound.waiting?_cancel (sound : t.Sound) (key k : κ) :
    (t.cancel key).2.waiting? k = if k == key then none else t.waiting? k := by
  ext ⟨d,task⟩
  rw [sound.cancel_eq,sound.waiting?_keeping]
  split
  next same =>
    obtain rfl := eq_of_beq same
    simp only [reduceCtorEq,iff_false]
    rintro ⟨n,member,_,kept⟩
    simp [sound.lookup_eq_some.mpr member] at kept
  next other =>
    have apart : k ≠ key := by simpa using other
    rw [sound.waiting?_eq_some]
    refine exists_congr fun n => and_congr_right fun member => and_iff_left ?_
    rw [Option.all_eq_true]
    intro a found
    refine decide_eq_true fun same => apart ?_
    exact congrArg Prod.fst (sound.entry_unique member (sound.lookup_eq_some.mp found) same)

/-! ## Time -/

theorem Paired.release_eq (paired : t.Paired) (number : Nat) :
    t.release number = ((t.numbered? number).map (·.2),t.keeping (· ≠ number)) := by
  have names : ∀ key, (number,key) ∈ t.keys ↔ ∃ task, (key,⟨number,task⟩) ∈ t.entries := by
    intro key
    simp only [paired.inverse,List.mem_map,Prod.mk.injEq]
    constructor
    · rintro ⟨⟨k,n,task⟩,member,rfl,rfl⟩
      exact ⟨task,member⟩
    · rintro ⟨task,member⟩
      exact ⟨_,member,rfl,rfl⟩
  rw [release]
  split
  next absent =>
    have unlisted : ∀ k ∈ t.keys, k.1 ≠ number := fun k member same => by
      simpa [same] using List.lookup_eq_none_iff.mp absent k member
    have unnumbered : ∀ e ∈ t.entries, e.2.number ≠ number := by
      rintro ⟨key,n,task⟩ member rfl
      exact unlisted _ ((names key).mpr ⟨task,member⟩) rfl
    have entries : t.entries.filter (·.2.number ≠ number) = t.entries :=
      List.filter_eq_self.mpr (by simpa using fun k a member => unnumbered (k,a) member)
    have keys : t.keys.filter (·.1 ≠ number) = t.keys :=
      List.filter_eq_self.mpr (by simpa using fun n key member => unlisted (n,key) member)
    have unfound : t.entries.find? (·.2.number == number) = none :=
      List.find?_eq_none.mpr fun e member => by simpa using unnumbered e member
    simp only [numbered?,Timers.keeping,unfound,entries,keys,Option.map_none]
  next key found =>
    obtain ⟨before,after,split,_⟩ := List.lookup_eq_some_iff.mp found
    obtain ⟨task,member⟩ := (names key).mp (by simp [split])
    rw [paired.dropEntry_eq member,paired.numbered?_eq_some.mpr member]
    simp [Timers.keeping,paired.lookup_eq_some.mpr member]

omit [BEq κ] [LawfulBEq κ] in
theorem numbered?_keeping (paired : t.Paired) (kept : Nat → Bool) (number : Nat) :
    (t.keeping kept).numbered? number = if kept number then t.numbered? number else none := by
  ext ⟨key,task⟩
  rw [(paired.keeping kept).numbered?_eq_some]
  split
  next h => simp [paired.numbered?_eq_some,Timers.keeping,h]
  next h => simp [Timers.keeping,h]

/-- Releasing numbers one by one takes out the task of each. -/
theorem Paired.releaseAll_eq (paired : t.Paired) {numbers : List Nat} (distinct : numbers.Nodup) :
    t.releaseAll numbers =
      ((numbers.filterMap t.numbered?).map (·.2),t.keeping (· ∉ numbers)) := by
  induction numbers generalizing t with
  | nil => simp [releaseAll,Timers.keeping]
  | cons n ns ih =>
    obtain ⟨absent,distinct⟩ := List.nodup_cons.mp distinct
    have later : ns.filterMap (t.keeping (· ≠ n)).numbered? = ns.filterMap t.numbered? := by
      apply List.filterMap_congr
      intro m member
      have apart : m ≠ n := fun same => absent (same ▸ member)
      rw [numbered?_keeping paired]
      simp [apart]
    rw [releaseAll,paired.release_eq]
    dsimp only
    rw [ih (paired.keeping _) distinct,later,keeping_keeping]
    cases found : t.numbered? n <;> simp [found,not_or]

theorem Sound.elapse_eq (sound : t.Sound) (milliseconds : Nat) :
    t.elapse milliseconds = ((t.due milliseconds).map (·.2),t.later milliseconds) := by
  have distinct : (t.dueNumbers milliseconds).Nodup :=
    sound.deadlines.sublist (List.filter_sublist.map _)
  rw [elapse]
  exact (sound.toPaired.atTime ..).releaseAll_eq distinct

theorem Sound.mem_due (sound : t.Sound) {milliseconds : Nat} {key : κ} {task : τ} :
    (key,task) ∈ t.due milliseconds ↔
      ∃ d, t.waiting? key = some (d,task) ∧ d ≤ t.now + milliseconds := by
  simp only [due,dueNumbers,List.mem_filterMap,List.mem_map,List.mem_filter,
    sound.numbered?_eq_some,sound.waiting?_eq_some,decide_eq_true_iff]
  constructor
  · rintro ⟨n,⟨⟨d,m⟩,⟨deadline,passed⟩,rfl⟩,member⟩
    exact ⟨d,⟨_,member,deadline⟩,passed⟩
  · rintro ⟨d,⟨n,member,deadline⟩,passed⟩
    exact ⟨n,⟨_,⟨deadline,passed⟩,rfl⟩,member⟩

omit [BEq κ] [LawfulBEq κ] in
/-- No key is due twice. -/
theorem Sound.due_nodup (sound : t.Sound) (milliseconds : Nat) :
    ((t.due milliseconds).map (·.1)).Nodup := by
  have distinct : (t.dueNumbers milliseconds).Nodup :=
    sound.deadlines.sublist (List.filter_sublist.map _)
  rw [due,List.map_filterMap]
  apply distinct.filterMap
  intro m n key hm hn
  obtain ⟨⟨_,task⟩,first,rfl⟩ := Option.map_eq_some_iff.mp hm
  obtain ⟨⟨_,task'⟩,second,rfl⟩ := Option.map_eq_some_iff.mp hn
  have entries := List.inj_on_of_nodup_map sound.keys (sound.numbered?_eq_some.mp first)
    (sound.numbered?_eq_some.mp second) rfl
  exact congrArg (·.2.number) entries

omit [BEq κ] [LawfulBEq κ] in
theorem Sound.later (sound : t.Sound) (milliseconds : Nat) : (t.later milliseconds).Sound where
  toPaired := (sound.toPaired.atTime ..).keeping _
  deadlines := sound.deadlines.sublist (List.filter_sublist.map _)
  issued d member := sound.issued d (List.mem_filter.mp member).1
  armed e member := by
    obtain ⟨member,waits⟩ := List.mem_filter.mp member
    obtain ⟨d,deadline⟩ := sound.armed e member
    refine ⟨d,List.mem_filter.mpr ⟨deadline,decide_eq_true ?_⟩⟩
    by_contra passed
    refine of_decide_eq_true waits (List.mem_map.mpr ⟨_,List.mem_filter.mpr ⟨deadline,?_⟩,rfl⟩)
    exact decide_eq_true (Nat.le_of_not_lt passed)

theorem Sound.waiting?_later (sound : t.Sound) (milliseconds : Nat) (key : κ) :
    (t.later milliseconds).waiting? key =
      (t.waiting? key).filter (t.now + milliseconds < ·.1) := by
  ext ⟨d,task⟩
  rw [(sound.later milliseconds).waiting?_eq_some,Option.filter_eq_some_iff,
    sound.waiting?_eq_some]
  constructor
  · rintro ⟨n,member,deadline⟩
    obtain ⟨deadline,waits⟩ := List.mem_filter.mp deadline
    exact ⟨⟨n,(List.mem_filter.mp member).1,deadline⟩,waits⟩
  · rintro ⟨⟨n,member,deadline⟩,waits⟩
    refine ⟨n,List.mem_filter.mpr ⟨member,decide_eq_true fun reached => ?_⟩,
      List.mem_filter.mpr ⟨deadline,waits⟩⟩
    obtain ⟨⟨e,_⟩,stored,rfl⟩ := List.mem_map.mp reached
    obtain ⟨stored,passed⟩ := List.mem_filter.mp stored
    obtain rfl := sound.deadline_unique deadline stored
    exact absurd (of_decide_eq_true waits) (Nat.not_lt.mpr (of_decide_eq_true passed))

theorem Sound.expire_eq (sound : t.Sound) (key : κ) :
    t.expire key = ((t.waiting? key).map (·.2),t.expired key) := by
  rw [expire,expired]
  cases found : t.entries.lookup key with
  | none => simp [waiting?,found]
  | some a =>
    have member := sound.lookup_eq_some.mp found
    obtain ⟨d,deadline⟩ := sound.armed _ member
    have waits := sound.waiting?_eq_some.mpr ⟨a.number,member,deadline⟩
    have paired := sound.toPaired.atTime t.now (t.deadlines.filter (·.2 ≠ a.number))
    dsimp only
    rw [paired.release_eq,paired.numbered?_eq_some.mpr member,waits]
    rfl

omit [LawfulBEq κ] in
theorem Sound.expired (sound : t.Sound) (key : κ) : (t.expired key).Sound := by
  rw [Timers.expired]
  split
  next => exact sound
  next a _ =>
    exact {
      toPaired := (sound.toPaired.atTime ..).keeping _
      deadlines := sound.deadlines.sublist (List.filter_sublist.map _)
      issued := fun d member => sound.issued d (List.mem_filter.mp member).1
      armed := fun e member => by
        obtain ⟨member,kept⟩ := List.mem_filter.mp member
        obtain ⟨d,deadline⟩ := sound.armed e member
        exact ⟨d,List.mem_filter.mpr ⟨deadline,kept⟩⟩ }

theorem Sound.waiting?_expired (sound : t.Sound) (key k : κ) :
    (t.expired key).waiting? k = if k == key then none else t.waiting? k := by
  have sound' := sound.expired key
  cases found : t.entries.lookup key with
  | none =>
    have same : t.expired key = t := by simp [Timers.expired,found]
    rw [same]
    split
    next h => rw [eq_of_beq h]; simp [waiting?,found]
    next => rfl
  | some a =>
    have expired : t.expired key =
        { t with deadlines := t.deadlines.filter (·.2 ≠ a.number) }.keeping (· ≠ a.number) := by
      simp [Timers.expired,found]
    have member := sound.lookup_eq_some.mp found
    rw [expired] at sound' ⊢
    ext ⟨d,task⟩
    rw [sound'.waiting?_eq_some]
    simp only [Timers.keeping,List.mem_filter,decide_eq_true_iff]
    split
    next same =>
      obtain rfl := eq_of_beq same
      simp only [reduceCtorEq,iff_false]
      rintro ⟨n,⟨stored,apart⟩,_⟩
      have entry := List.inj_on_of_nodup_map sound.keys stored member rfl
      exact apart (congrArg (·.2.number) entry)
    next other =>
      have apart : k ≠ key := by simpa using other
      rw [sound.waiting?_eq_some]
      refine exists_congr fun n => ⟨fun h => ⟨h.1.1,h.2.1⟩,fun ⟨stored,deadline⟩ => ?_⟩
      have unequal : n ≠ a.number := fun same =>
        apart (congrArg Prod.fst (sound.entry_unique stored member same))
      exact ⟨⟨stored,unequal⟩,deadline,unequal⟩

omit [LawfulBEq κ] in
theorem expired_stopped (key : κ) : (t.expired key).stopped = t.stopped := by
  rw [Timers.expired]
  split <;> rfl

theorem Sound.expireAll_stopped (sound : t.Sound) (keys : List κ) :
    (t.expireAll keys).2.stopped = t.stopped := by
  induction keys generalizing t with
  | nil => rfl
  | cons key keys ih =>
    rw [Timers.expireAll,sound.expire_eq]
    exact (ih (sound.expired key)).trans (expired_stopped key)

theorem Sound.expireAll (sound : t.Sound) (keys : List κ) : (t.expireAll keys).2.Sound := by
  induction keys generalizing t with
  | nil => exact sound
  | cons key keys ih =>
    rw [Timers.expireAll,sound.expire_eq]
    exact ih (sound.expired key)

theorem Sound.waiting?_expireAll (sound : t.Sound) (keys : List κ) (k : κ) :
    (t.expireAll keys).2.waiting? k = if keys.contains k then none else t.waiting? k := by
  induction keys generalizing t with
  | nil => rfl
  | cons key keys ih =>
    rw [Timers.expireAll,sound.expire_eq,List.contains_cons]
    dsimp only
    rw [ih (sound.expired key),sound.waiting?_expired]
    by_cases same : k == key <;> simp [same]

theorem Sound.expireAll_eq (sound : t.Sound) {keys : List κ} (distinct : keys.Nodup) :
    (t.expireAll keys).1 = keys.filterMap fun key => (t.waiting? key).map (·.2) := by
  induction keys generalizing t with
  | nil => rfl
  | cons key keys ih =>
    obtain ⟨absent,distinct⟩ := List.nodup_cons.mp distinct
    have later : keys.filterMap (fun k => ((t.expired key).waiting? k).map (·.2)) =
        keys.filterMap fun k => (t.waiting? k).map (·.2) := by
      apply List.filterMap_congr
      intro k member
      have apart : k ≠ key := fun same => absent (same ▸ member)
      simp [sound.waiting?_expired,apart]
    rw [Timers.expireAll,sound.expire_eq]
    dsimp only
    rw [ih (sound.expired key) distinct,later]
    cases found : t.waiting? key <;> simp [found]

omit [BEq κ] [LawfulBEq κ] in
theorem stop_sound (t : Timers κ τ) : t.stop.Sound := by
  constructor
  · constructor <;> simp [stop]
  all_goals simp [stop]

end Vicinity.Timers
