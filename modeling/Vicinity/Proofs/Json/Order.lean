import Mathlib.Data.List.Perm.Subperm
import Vicinity.Json.Basic

/-! The members of an object in the order of their keys. An object in order is determined by what
its keys lead to, and gathering members puts them in order whatever order they come in. -/
namespace Vicinity

variable {ms ns : Members} {key : String} {value : Json}

namespace Members

/-- The keys ascend, each standing once. -/
def Ascending (ms : Members) : Prop := ms.Pairwise (·.1 < ·.1)

theorem ascending_iff_keys : ms.Ascending ↔ (keys ms).Pairwise (· < ·) := by
  rw [keys,List.pairwise_map,Ascending]

theorem ascending_single (key : String) (value : Json) : Ascending [(key,value)] :=
  List.pairwise_singleton ..

theorem mem_of_get? (found : ms.get? key = some value) : (key,value) ∈ ms := by
  obtain ⟨before,after,rfl,_⟩ := List.lookup_eq_some_iff.mp found
  simp

theorem contains_of_mem (member : (key,value) ∈ ms) : ms.contains key = true := by
  rw [contains,get?,List.lookup_isSome_iff]
  exact ⟨(key,value),member,beq_self_eq_true key⟩

theorem contains_cons {k : String} :
    contains ((k,value) :: ms) key = (key == k || ms.contains key) := by
  rw [contains,get?,List.lookup_cons]
  cases key == k <;> rfl

theorem Ascending.nodup (sorted : ms.Ascending) : ms.Nodup := by
  refine sorted.imp fun {a b} less same => ?_
  rw [same] at less
  exact String.lt_irrefl _ less

/-- Objects in order with the same members are equal. -/
theorem Ascending.eq_of_perm (sorted : ms.Ascending) (sorted' : ns.Ascending)
    (perm : ms.Perm ns) : ms = ns :=
  perm.eq_of_pairwise (fun _ _ _ _ less more => absurd more (String.lt_asymm less)) sorted sorted'

/-- An object in order that has the members of another, and no more of them, is that one. -/
theorem Ascending.eq_of_subset (sorted : ms.Ascending) (sorted' : ns.Ascending)
    (subset : ns ⊆ ms) (length : ms.length ≤ ns.length) : ms = ns :=
  sorted.eq_of_perm sorted'
    ((List.subperm_of_subset sorted'.nodup subset).perm_of_length_le length).symm

/-! ## Gathering members -/

theorem mem_insert {m : String × Json} (member : m ∈ insert key value ms) :
    m = (key,value) ∨ m ∈ ms := by
  induction ms with
  | nil => simpa [insert] using member
  | cons n ms ih =>
    simp only [insert] at member
    split at member
    · simpa using member
    split at member
    · rcases List.mem_cons.mp member with same | member
      · exact .inl same
      · exact .inr (List.mem_cons_of_mem _ member)
    · rcases List.mem_cons.mp member with same | member
      · exact .inr (same ▸ List.mem_cons_self)
      · exact (ih member).imp_right (List.mem_cons_of_mem _)

theorem mem_foldl_insert {m : String × Json} {acc : Members}
    (member : m ∈ ms.foldl (fun acc m => acc.insert m.1 m.2) acc) : m ∈ acc ∨ m ∈ ms := by
  induction ms generalizing acc with
  | nil => exact .inl member
  | cons n ms ih =>
    rcases ih member with earlier | later
    · rcases mem_insert earlier with rfl | earlier
      · exact .inr List.mem_cons_self
      · exact .inl earlier
    · exact .inr (List.mem_cons_of_mem _ later)

theorem mem_ofList {m : String × Json} (member : m ∈ ofList ms) : m ∈ ms :=
  (mem_foldl_insert member).resolve_left (List.not_mem_nil)

theorem Ascending.insert (sorted : ms.Ascending) (key : String) (value : Json) :
    (Members.insert key value ms).Ascending := by
  induction ms with
  | nil => exact List.pairwise_singleton ..
  | cons n ms ih =>
    obtain ⟨first,rest⟩ := List.pairwise_cons.mp sorted
    simp only [Members.insert]
    split
    next less =>
      refine List.pairwise_cons.mpr ⟨fun m member => ?_,sorted⟩
      rcases List.mem_cons.mp member with rfl | member
      · exact less
      · exact String.lt_trans less (first m member)
    split
    next same => exact List.pairwise_cons.mpr ⟨fun m member => same ▸ first m member,rest⟩
    next notLess different =>
      refine List.pairwise_cons.mpr ⟨fun m member => ?_,ih rest⟩
      rcases mem_insert member with rfl | member
      · by_contra notMore
        exact different (String.le_antisymm (String.not_lt.mp notMore) (String.not_lt.mp notLess))
      · exact first m member

theorem ascending_foldl_insert {acc : Members} (sorted : acc.Ascending) :
    (ms.foldl (fun acc m => acc.insert m.1 m.2) acc).Ascending := by
  induction ms generalizing acc with
  | nil => exact sorted
  | cons n ms ih => exact ih (sorted.insert n.1 n.2)

theorem ascending_ofList (ms : List (String × Json)) : (ofList ms).Ascending :=
  ascending_foldl_insert List.Pairwise.nil

theorem insert_perm (fresh : ∀ m ∈ ms, m.1 ≠ key) :
    (insert key value ms).Perm ((key,value) :: ms) := by
  induction ms with
  | nil => exact List.Perm.refl _
  | cons n ms ih =>
    have different : key ≠ n.1 := (fresh n List.mem_cons_self).symm
    simp only [insert,if_neg different]
    split
    · exact List.Perm.refl _
    · exact ((ih fun m member => fresh m (List.mem_cons_of_mem _ member)).cons n).trans
        (List.Perm.swap ..)

theorem foldl_insert_perm {acc : Members} (distinct : ((acc ++ ms).map (·.1)).Nodup) :
    (ms.foldl (fun acc m => acc.insert m.1 m.2) acc).Perm (acc ++ ms) := by
  induction ms generalizing acc with
  | nil => simp
  | cons n ms ih =>
    have fresh : ∀ m ∈ acc, m.1 ≠ n.1 := by
      rw [List.map_append,List.map_cons,List.nodup_append] at distinct
      exact fun m member => distinct.2.2 m.1 (List.mem_map_of_mem member) n.1 List.mem_cons_self
    have front : (acc.insert n.1 n.2 ++ ms).Perm (acc ++ n :: ms) :=
      ((insert_perm fresh).append_right ms).trans List.perm_middle.symm
    rw [List.foldl_cons]
    exact (ih ((front.map _).nodup_iff.mpr distinct)).trans front

/-- Members with different keys are all kept. -/
theorem ofList_perm (distinct : (ms.map (·.1)).Nodup) : (ofList ms).Perm ms :=
  foldl_insert_perm distinct

/-- A key beyond all others goes to the end. -/
theorem insert_last (beyond : ∀ m ∈ ms, m.1 < key) : insert key value ms = ms ++ [(key,value)] := by
  induction ms with
  | nil => rfl
  | cons n ms ih =>
    have less : n.1 < key := beyond n List.mem_cons_self
    have different : key ≠ n.1 := fun same => String.lt_irrefl key (same ▸ less)
    simp only [insert,if_neg (String.lt_asymm less),if_neg different]
    rw [ih fun m member => beyond m (List.mem_cons_of_mem _ member)]
    rfl

theorem foldl_insert_of_ascending {acc : Members} (sorted : Ascending (acc ++ ms)) :
    ms.foldl (fun acc m => acc.insert m.1 m.2) acc = acc ++ ms := by
  induction ms generalizing acc with
  | nil => simp
  | cons n ms ih =>
    have beyond : ∀ m ∈ acc, m.1 < n.1 := fun m member =>
      (List.pairwise_append.mp sorted).2.2 m member n List.mem_cons_self
    rw [List.foldl_cons,insert_last beyond,ih (by simpa using sorted)]
    simp

/-- Members in order are gathered as they stand. -/
theorem Ascending.ofList_eq (sorted : ms.Ascending) : ofList ms = ms :=
  foldl_insert_of_ascending sorted

end Members

namespace Json

theorem orderedItems_iff {xs : List Json} : OrderedItems xs ↔ ∀ x ∈ xs, x.Ordered := by
  induction xs with
  | nil => simp [OrderedItems]
  | cons x xs ih => simp [OrderedItems,ih]

theorem orderedMembers_iff : OrderedMembers ms ↔ ∀ m ∈ ms, m.2.Ordered := by
  induction ms with
  | nil => simp [OrderedMembers]
  | cons m ms ih => simp [OrderedMembers,ih]

@[simp] theorem ordered_arr {xs : List Json} : (arr xs).Ordered ↔ ∀ x ∈ xs, x.Ordered := by
  rw [Ordered,orderedItems_iff]

@[simp] theorem ordered_obj : (obj ms).Ordered ↔ ms.Ascending ∧ ∀ m ∈ ms, m.2.Ordered := by
  rw [Ordered,orderedMembers_iff,Members.Ascending,List.pairwise_map]

theorem Ordered.get? (sorted : (obj ms).Ordered) (found : ms.get? key = some value) :
    value.Ordered :=
  (ordered_obj.mp sorted).2 _ (Members.mem_of_get? found)

theorem integralItems_iff {xs : List Json} : IntegralItems xs ↔ ∀ x ∈ xs, x.Integral := by
  induction xs with
  | nil => simp [IntegralItems]
  | cons x xs ih => simp [IntegralItems,ih]

theorem integralMembers_iff : IntegralMembers ms ↔ ∀ m ∈ ms, m.2.Integral := by
  induction ms with
  | nil => simp [IntegralMembers]
  | cons m ms ih => simp [IntegralMembers,ih]

@[simp] theorem integral_arr {xs : List Json} : (arr xs).Integral ↔ ∀ x ∈ xs, x.Integral := by
  rw [Integral,integralItems_iff]

@[simp] theorem integral_obj : (obj ms).Integral ↔ ∀ m ∈ ms, m.2.Integral := by
  rw [Integral,integralMembers_iff]

/-! ## Depth -/

theorem depthItems_le {xs : List Json} {d : Nat} : depthItems xs ≤ d ↔ ∀ x ∈ xs, x.depth ≤ d := by
  induction xs with
  | nil => simp [depthItems]
  | cons x xs ih => rw [depthItems,Nat.max_le,ih,List.forall_mem_cons]

theorem depthMembers_le {d : Nat} : depthMembers ms ≤ d ↔ ∀ m ∈ ms, m.2.depth ≤ d := by
  induction ms with
  | nil => simp [depthMembers]
  | cons m ms ih => rw [depthMembers,Nat.max_le,ih,List.forall_mem_cons]

/-! ## Recursion -/

theorem sizeOf_get? (found : ms.get? key = some value) : sizeOf value < sizeOf (obj ms) := by
  have inside := List.sizeOf_lt_of_mem (Members.mem_of_get? found)
  simp only [Prod.mk.sizeOf_spec,obj.sizeOf_spec] at inside ⊢
  omega

/-- What holds of an object if it holds of every value that a key leads to holds of all objects
in a value. -/
theorem objectInduction {P : Members → Prop}
    (step : ∀ ms, (∀ key ns, Members.get? ms key = some (obj ns) → P ns) → P ms) (ms : Members) :
    P ms :=
  step ms fun _ ns found =>
    have : sizeOf ns < sizeOf ms := by
      have := sizeOf_get? found
      simp only [obj.sizeOf_spec] at this
      omega
    objectInduction step ns
termination_by sizeOf ms

end Json

end Vicinity
