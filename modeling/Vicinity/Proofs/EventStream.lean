import Vicinity.EventStream
import Vicinity.Proofs.Runs

/-! What becomes of the events that are pushed into a stream. Each was handed out, is in the buffer
or was dropped, and those that were not dropped keep their order through all ways of receiving. -/
namespace Vicinity.EventStream

variable {s : EventStream}

/-- What is done with a stream: an event of any kind is pushed, or the application receives. -/
inductive Operation where
  | push (n : Notice)
  /-- Takes the oldest event if there is one. -/
  | poll
  /-- Waits for an event; on an empty buffer the caller waits on. -/
  | wait
  /-- Waits for an event for some time. -/
  | waitFor (milliseconds : Nat)
  | drain

def Operation.notice? : Operation → Option Notice
  | .push n => some n
  | _ => none

/-- The events that an operation hands out, and the stream after it. -/
def apply (s : EventStream) : Operation → List Notice × EventStream
  | .push n => ([],s.push n)
  | .poll | .wait => (s.pop?).elim ([],s) fun (n,s) => ([n],s)
  | .waitFor milliseconds =>
    match s.popWithin milliseconds with
    | .ok (n,s) => ([n],s)
    | .error _ => ([],s)
  | .drain => s.drain

def step (s : EventStream) (op : Operation) : EventStream := (s.apply op).2

/-- The stream after operations. -/
def after (s : EventStream) (ops : List Operation) : EventStream := ops.foldl step s

/-! ## One operation -/

def isFull (s : EventStream) : Bool := s.capacity ≤ s.size

/-- The event that an operation finds room for. -/
def taken (s : EventStream) (op : Operation) : List Notice :=
  if s.isFull then [] else op.notice?.toList

/-- The event that an operation finds no room for. -/
def lost (s : EventStream) (op : Operation) : List Notice :=
  if s.isFull then op.notice?.toList else []

/-- How many events an operation takes out of a buffer of some size, if there are so many. -/
def Operation.reach (op : Operation) (size : Nat) : Nat :=
  match op with
  | .push _ => 0
  | .drain => size
  | _ => 1

theorem push_full (full : s.isFull = true) (n : Notice) :
    s.push n = { s with dropped := s.dropped + 1 } := by
  have noRoom : ¬ s.buffer.length < s.capacity := Nat.not_lt.mpr (of_decide_eq_true full)
  rw [push,if_neg noRoom]

theorem push_room (room : s.isFull = false) (n : Notice) :
    s.push n = { s with buffer := s.buffer ++ [n] } := by
  have fits : s.buffer.length < s.capacity := Nat.lt_of_not_le (of_decide_eq_false room)
  rw [push,if_pos fits]

theorem pop_first (s : EventStream) : (s.pop?).elim ([],s) (fun (n,s) => ([n],s)) =
    (s.buffer.take 1,{ s with buffer := s.buffer.drop 1 }) := by
  obtain ⟨capacity,buffer,dropped⟩ := s
  cases buffer <;> rfl

theorem popWithin_empty (s : EventStream) (milliseconds : Nat) (cause : ExecutionError) :
    s.popWithin milliseconds = .error cause ↔ s.buffer = [] ∧ cause = .timeout milliseconds := by
  obtain ⟨capacity,buffer,dropped⟩ := s
  cases buffer with
  | nil =>
    simp only [popWithin,pop?,Except.error.injEq,true_and]
    exact eq_comm
  | cons n ns => simp [popWithin,pop?]

/-- Every way of receiving takes events from the front of the buffer and leaves the others. -/
theorem apply_receives {op : Operation} (receives : op.notice? = none) :
    s.apply op = (s.buffer.take (op.reach s.size),
      { s with buffer := s.buffer.drop (op.reach s.size) }) := by
  cases op with
  | push n => cases receives
  | poll => exact pop_first s
  | wait => exact pop_first s
  | waitFor milliseconds =>
    obtain ⟨capacity,buffer,dropped⟩ := s
    cases buffer <;> rfl
  | drain =>
    have all : s.buffer.take s.size = s.buffer := List.take_length
    have rest : s.buffer.drop s.size = [] := List.drop_length
    rw [Operation.reach,all,rest]
    rfl

/-- An event that is pushed is taken in or lost. -/
theorem taken_or_lost (s : EventStream) (op : Operation) :
    s.taken op ++ s.lost op = op.notice?.toList := by
  rw [taken,lost]
  split
  · exact List.nil_append _
  · exact List.append_nil _

/-- What one operation does to the buffer and the count. -/
structure Balance (s : EventStream) (op : Operation) : Prop where
  capacity : (s.apply op).2.capacity = s.capacity
  /-- What is handed out comes before what stays, and what is taken in comes last. -/
  buffer : (s.apply op).1 ++ (s.apply op).2.buffer = s.buffer ++ s.taken op
  dropped : (s.apply op).2.dropped = s.dropped + (s.lost op).length

theorem push_balance (s : EventStream) (n : Notice) : Balance s (.push n) := by
  have applied : s.apply (.push n) = ([],s.push n) := rfl
  by_cases full : s.isFull = true
  · rw [push_full full] at applied
    constructor <;> simp [applied,taken,lost,full,Operation.notice?]
  · rw [push_room (Bool.eq_false_iff.mpr full)] at applied
    constructor <;> simp [applied,taken,lost,full,Operation.notice?]

theorem apply_balance (s : EventStream) (op : Operation) : Balance s op := by
  cases arrives : op.notice? with
  | some n =>
    cases op <;> simp only [Operation.notice?,reduceCtorEq] at arrives
    exact push_balance ..
  | none =>
    have applied := apply_receives (s := s) arrives
    constructor <;> simp [applied,taken,lost,arrives]

theorem Balance.bounded {op : Operation} (balance : Balance s op) (room : s.size ≤ s.capacity) :
    (s.apply op).2.size ≤ (s.apply op).2.capacity := by
  have lengths := congrArg List.length balance.buffer
  have fits : s.size + (s.taken op).length ≤ s.capacity := by
    by_cases full : s.isFull = true
    · simp [taken,full,room]
    · have less : s.size < s.capacity := Nat.lt_of_not_le (by simpa [isFull] using full)
      have one : op.notice?.toList.length ≤ 1 := by cases op.notice? <;> simp
      rw [taken,if_neg full]
      omega
  simp only [List.length_append] at lengths
  rw [balance.capacity]
  simp only [size] at *
  omega

/-! ## Runs -/

/-- What is pushed in a run. -/
def pushed (ops : List Operation) : List Notice := ops.filterMap Operation.notice?

/-- What a run hands out. -/
def received (s : EventStream) (ops : List Operation) : List Notice :=
  along step (fun s op => (s.apply op).1) s ops

/-- What a run takes in. -/
def accepted (s : EventStream) (ops : List Operation) : List Notice := along step taken s ops

/-- What a run drops. -/
def refused (s : EventStream) (ops : List Operation) : List Notice := along step lost s ops

theorem along_pushed (s : EventStream) (ops : List Operation) :
    along step (fun _ op => op.notice?.toList) s ops = pushed ops :=
  (along_flatMap _ s ops).trans (List.filterMap_eq_flatMap_toList ..).symm

theorem accepted_sublist (s : EventStream) (ops : List Operation) :
    (s.accepted ops).Sublist (pushed ops) := by
  rw [← along_pushed s ops]
  exact along_sublist (fun s op => taken_or_lost s op ▸ List.sublist_append_left ..) s ops

theorem accepted_refused (s : EventStream) (ops : List Operation) :
    (s.accepted ops ++ s.refused ops).Perm (pushed ops) := by
  rw [← along_pushed s ops]
  exact along_split (fun s op => .of_eq (taken_or_lost s op)) s ops

theorem received_append (s : EventStream) (ops : List Operation) :
    s.received ops ++ (s.after ops).buffer = s.buffer ++ s.accepted ops :=
  along_queue (fun s op => (apply_balance s op).buffer) s ops

theorem after_dropped (s : EventStream) (ops : List Operation) :
    (s.after ops).dropped = s.dropped + (s.refused ops).length := by
  induction ops generalizing s with
  | nil => rfl
  | cons op ops ih =>
    have first := (apply_balance s op).dropped
    have rest := ih (s.step op)
    simp only [refused,along,List.length_append,step] at *
    change ((s.apply op).2.after ops).dropped = _
    omega

theorem after_capacity (s : EventStream) (ops : List Operation) :
    (s.after ops).capacity = s.capacity := by
  induction ops generalizing s with
  | nil => rfl
  | cons op ops ih => exact (ih _).trans (apply_balance s op).capacity

theorem after_bounded (room : s.size ≤ s.capacity) (ops : List Operation) :
    (s.after ops).size ≤ (s.after ops).capacity := by
  induction ops generalizing s with
  | nil => exact room
  | cons op ops ih => exact ih ((apply_balance s op).bounded room)

/-- A stream that was made for so many events, after operations. -/
structure Flows (capacity : Nat) (ops : List Operation) (s : EventStream) : Prop where
  bounded : s.size ≤ max capacity 1
  full : s.isFull = true ↔ s.size = max capacity 1
  /-- A push into a full buffer is counted and does nothing else; any other event goes to the end. -/
  pushes : ∀ n, s.apply (.push n) = if s.size = max capacity 1
    then ([],{ s with dropped := s.dropped + 1 })
    else ([],{ s with buffer := s.buffer ++ [n] })
  /-- What is handed out is the front of the buffer: all of it, or one event if there is one. -/
  receives : ∀ op, op.notice? = none → s.apply op = (s.buffer.take (op.reach s.size),
    { s with buffer := s.buffer.drop (op.reach s.size) })
  /-- Waiting for some time fails exactly on an empty buffer, and then changes nothing. -/
  timeout : ∀ milliseconds cause, s.popWithin milliseconds = .error cause ↔
    s.buffer = [] ∧ cause = .timeout milliseconds
  untouched : ∀ milliseconds cause, s.popWithin milliseconds = .error cause →
    s.apply (.waitFor milliseconds) = ([],s)
  /-- What was pushed was either taken in, in order, or lost. -/
  divided : ((start capacity).accepted ops ++ (start capacity).refused ops).Perm (pushed ops)
  inOrder : ((start capacity).accepted ops).Sublist (pushed ops)
  counted : s.dropped = ((start capacity).refused ops).length
  /-- What was taken in was handed out or is in the buffer. -/
  kept : (start capacity).received ops ++ s.buffer = (start capacity).accepted ops
  balance : (pushed ops).length =
    ((start capacity).received ops).length + s.size + s.dropped

/-- Whatever is done with a stream, it loses an event exactly if its buffer is full, and hands out
all others once and in their order. -/
theorem bounded_fifo (capacity : Nat) (ops : List Operation) :
    Flows capacity ops ((start capacity).after ops) := by
  have kept : (start capacity).received ops ++ ((start capacity).after ops).buffer =
      (start capacity).accepted ops := received_append (start capacity) ops
  have counted : ((start capacity).after ops).dropped =
      ((start capacity).refused ops).length :=
    (after_dropped (start capacity) ops).trans (Nat.zero_add _)
  have divided := accepted_refused (start capacity) ops
  have room : ((start capacity).after ops).capacity = max capacity 1 := after_capacity ..
  have bounded := after_bounded (s := start capacity) (Nat.zero_le _) ops
  rw [room] at bounded
  have full : ((start capacity).after ops).isFull = true ↔
      ((start capacity).after ops).size = max capacity 1 := by
    rw [isFull,decide_eq_true_iff,room]
    omega
  constructor
  case bounded => exact bounded
  case full => exact full
  case pushes =>
    intro n
    generalize (start capacity).after ops = s at full
    have applied : s.apply (.push n) = ([],s.push n) := rfl
    rw [applied]
    by_cases now : s.size = max capacity 1
    · rw [if_pos now,push_full (full.mpr now)]
    · rw [if_neg now,push_room (Bool.eq_false_iff.mpr (mt full.mp now))]
  case receives => exact fun op => apply_receives
  case timeout => exact popWithin_empty _
  case untouched =>
    intro milliseconds cause fails
    obtain ⟨empty,_⟩ := (popWithin_empty ..).mp fails
    generalize (start capacity).after ops = s at empty
    obtain ⟨capacity,buffer,dropped⟩ := s
    obtain rfl : buffer = [] := empty
    rfl
  case divided => exact divided
  case inOrder => exact accepted_sublist ..
  case counted => exact counted
  case kept => exact kept
  case balance =>
    have pushes := divided.length_eq
    have handed := congrArg List.length kept
    simp only [List.length_append] at pushes handed
    simp only [size]
    omega

end Vicinity.EventStream
