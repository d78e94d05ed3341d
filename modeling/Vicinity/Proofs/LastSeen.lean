import Mathlib.Data.List.Induction
import Mathlib.Data.Set.List
import Vicinity.Proofs.Engine.Persona
import Vicinity.Proofs.Legibility
import Vicinity.Proofs.Runs

/-! What a node remembers of scans: all of a small one; of a larger one the two readings that are
nearest and the one that is farthest, where of readings at one distance the earlier one is nearer. -/
namespace Vicinity

namespace Decimal.Signed

/-- The bits of a double: minus turns the bit of the sign. -/
def pattern (x : Signed) : BitVec 64 :=
  if x.negative then x.magnitude.toBits.toBitVec ^^^ 0x8000000000000000#64
  else x.magnitude.toBits.toBitVec

/-- The integer by which doubles are ordered totally: the bits as a number with a sign, those after
the sign turned if it is minus. -/
def key (x : Signed) : Int := (x.pattern ^^^ (x.pattern.sshiftRight 63 >>> 1)).toInt

/-- The bit of the sign, everywhere. -/
theorem sshiftRight_sign (b : BitVec 64) :
    b.sshiftRight 63 = if b.msb then BitVec.allOnes 64 else 0#64 := by
  ext i hi
  rw [BitVec.getElem_sshiftRight]
  split
  next first =>
    obtain rfl : i = 0 := by omega
    cases sign : b.msb <;> simpa [BitVec.msb_eq_getLsbD_last] using sign
  next =>
    split
    next sign => exact sign.trans (BitVec.getElem_allOnes i hi).symm
    next sign => exact (Bool.eq_false_iff.mpr sign).trans (BitVec.getElem_zero ..).symm

/-- The rank of a double is its place in the total order. -/
theorem rank_eq_key (x : Signed) : x.rank = x.key := by
  have unsigned := x.unsigned
  rw [rank,key,pattern]
  generalize bits : x.magnitude.toBits.toBitVec = b at unsigned
  have value : x.magnitude.toBits.toNat = b.toNat := congrArg BitVec.toNat bits
  have plain : b.toInt = b.toNat := BitVec.toInt_eq_toNat_of_msb unsigned
  cases x.negative with
  | false => simp [sshiftRight_sign,unsigned,plain,value]
  | true =>
    have sign : (b ^^^ 0x8000000000000000#64).msb = true := by
      rw [BitVec.msb_xor,unsigned]
      rfl
    have inverted : b ^^^ 0x8000000000000000#64 ^^^ (BitVec.allOnes 64 >>> 1) = ~~~b := by
      rw [BitVec.xor_assoc,← BitVec.xor_allOnes]
      rfl
    have small := BitVec.msb_eq_false_iff_two_mul_lt.mp unsigned
    simp only [sshiftRight_sign,sign,if_true,inverted,value]
    rw [BitVec.toInt_eq_toNat_cond,BitVec.toNat_not]
    split <;> omega

end Decimal.Signed

namespace BeaconReading

variable {readings : List BeaconReading}

/-- The beacon of a reading: its id, and the range of its meters. -/
def beacon (r : BeaconReading) : Entity := ⟨r.id,.beacon,.ofMeters r.meters.toFloat,[]⟩

/-- At one place of a scan a beacon is nearer than at another, or as near and earlier. -/
def Nearer (readings : List BeaconReading) (i j : Fin readings.length) : Prop :=
  readings[i].meters.key < readings[j].meters.key ∨
    readings[i].meters.key = readings[j].meters.key ∧ i < j

/-- What is remembered of a scan. -/
structure Remembered (readings : List BeaconReading) (cache : List Entity) : Prop where
  few : readings.length ≤ 3 → cache = readings.map beacon
  many : 3 < readings.length → ∃ i j k : Fin readings.length,
    cache = [readings[i].beacon,readings[j].beacon,readings[k].beacon] ∧
    (i ≠ j ∧ i ≠ k ∧ j ≠ k) ∧ Nearer readings i j ∧ Nearer readings j k ∧
    ∀ l, l ≠ i → l ≠ j → l ≠ k → Nearer readings j l ∧ Nearer readings l k

/-! ## The order of a scan -/

/-- Whether the first of two readings may stand before the second. -/
def ahead (a b : BeaconReading) : Bool := a.meters.rank ≤ b.meters.rank

theorem ahead_iff {a b : BeaconReading} : ahead a b = true ↔ a.meters.key ≤ b.meters.key := by
  rw [ahead,decide_eq_true_iff,Decimal.Signed.rank_eq_key,Decimal.Signed.rank_eq_key]

/-- A reading with its place. -/
def placed (readings : List BeaconReading) (i : Fin readings.length) : BeaconReading × Nat :=
  (readings[i],i)

theorem Nearer.ne {i j : Fin readings.length} (nearer : Nearer readings i j) : i ≠ j := by
  rintro rfl
  rcases nearer with less | ⟨_,less⟩
  · exact Int.lt_irrefl _ less
  · exact Nat.lt_irrefl _ less

theorem mem_zipIdx_iff {p : BeaconReading × Nat} :
    p ∈ readings.zipIdx ↔ p ∈ Set.range (placed readings) := by
  rw [List.mem_zipIdx_iff_getElem?,List.getElem?_eq_some_iff]
  constructor
  · rintro ⟨bound,same⟩
    exact ⟨⟨p.2,bound⟩,Prod.ext same rfl⟩
  · rintro ⟨i,rfl⟩
    exact ⟨i.isLt,rfl⟩

/-- A stable sort orders readings with their places. -/
theorem nearer_of_le {i j : Fin readings.length} (apart : i ≠ j)
    (le : List.zipIdxLE ahead (placed readings i) (placed readings j)) : Nearer readings i j := by
  rw [List.zipIdxLE] at le
  split at le
  next first =>
    split at le
    next second =>
      have early : i.val ≤ j.val := of_decide_eq_true le
      have same := Int.le_antisymm (ahead_iff.mp first) (ahead_iff.mp second)
      exact .inr ⟨same,Nat.lt_of_le_of_ne early fun same => apart (Fin.ext same)⟩
    next second => exact .inl (Int.lt_of_not_ge (mt ahead_iff.mpr second))
  next => cases le

/-- The places of a scan, the nearest first. -/
theorem exists_ranking (readings : List BeaconReading) : ∃ order : List (Fin readings.length),
    order.Pairwise (Nearer readings) ∧ (∀ i, i ∈ order) ∧
      readings.mergeSort ahead = order.map fun i => readings[i] := by
  have sorted : (readings.zipIdx.mergeSort (List.zipIdxLE ahead)).Pairwise
      fun p q => List.zipIdxLE ahead p q := List.pairwise_mergeSort
    (List.zipIdxLE_trans fun a b c => by simpa [ahead] using Int.le_trans)
    (List.zipIdxLE_total fun a b => by simpa [ahead] using Int.le_total ..) readings.zipIdx
  have perm := List.mergeSort_perm readings.zipIdx (List.zipIdxLE ahead)
  have unplaced : (readings.zipIdx.mergeSort (List.zipIdxLE ahead)).map (·.1) =
      readings.mergeSort ahead := List.mergeSort_zipIdx
  -- the sorted pairs are places of the scan
  have places : readings.zipIdx.mergeSort (List.zipIdxLE ahead) ∈
      Set.range (List.map (placed readings)) := by
    rw [Set.range_list_map]
    exact fun p member => mem_zipIdx_iff.mp (perm.mem_iff.mp member)
  obtain ⟨order,eq⟩ := places
  rw [← eq] at sorted perm unplaced
  have distinct : order.Nodup := by
    have nodup := (perm.map Prod.snd).nodup_iff.mpr (by
      rw [List.zipIdx_map_snd]
      exact List.nodup_range' ..)
    rw [List.map_map] at nodup
    exact nodup.of_map _
  refine ⟨order,?_,fun i => ?_,?_⟩
  · exact (distinct.and (List.pairwise_map.mp sorted)).imp fun h => nearer_of_le h.1 h.2
  · obtain ⟨j,member,same⟩ := List.mem_map.mp (perm.mem_iff.mpr (mem_zipIdx_iff.mpr ⟨i,rfl⟩))
    obtain rfl : j = i := Fin.ext (congrArg Prod.snd same)
    exact member
  · rw [← unplaced,List.map_map]
    rfl

/-- Two places at the start of a ranking, others, and one at its end. -/
theorem exists_first_last {order : List (Fin readings.length)} (many : 3 < order.length) :
    ∃ i j others k, order = i :: j :: (others ++ [k]) := by
  match order, many with
  | i :: j :: rest, many =>
    rcases List.eq_nil_or_concat rest with rfl | ⟨others,k,rfl⟩
    · simp at many
    · exact ⟨i,j,others,k,by rw [List.concat_eq_append]⟩

theorem remembered_keep (readings : List BeaconReading) :
    Remembered readings (keep readings) := by
  constructor
  case few => exact fun few => if_pos few
  case many =>
    intro many
    obtain ⟨order,ranked,all,sorted⟩ := exists_ranking readings
    have length : order.length = readings.length := by
      rw [← List.length_map (fun i => readings[i]),← sorted,List.length_mergeSort]
    obtain ⟨i,j,others,k,rfl⟩ := exists_first_last (length ▸ many)
    simp only [List.pairwise_cons,List.pairwise_append,List.mem_cons,List.mem_append,
      List.not_mem_nil,or_false] at ranked all
    obtain ⟨first,second,_,_,last⟩ := ranked
    have ij := first j (.inl rfl)
    have jk := second k (.inr rfl)
    refine ⟨i,j,k,?_,⟨ij.ne,(first k (.inr (.inr rfl))).ne,jk.ne⟩,ij,jk,fun l li lj lk => ?_⟩
    · have chosen : keep readings = ((readings.mergeSort ahead).take 2 ++
          (readings.mergeSort ahead).getLast?.toList).map entity := if_neg (Nat.not_le_of_lt many)
      have far : ((i :: j :: (others ++ [k])).map fun l => readings[l]).getLast? = some readings[k] :=
        by rw [List.getLast?_map,← List.cons_append,← List.cons_append,List.getLast?_concat]; rfl
      rw [chosen,sorted,far]
      rfl
    · have between := ((all l).resolve_left li).resolve_left lj
      exact ⟨second l between,last l (between.resolve_right lk) k rfl⟩

end BeaconReading

namespace Engine

variable {e : Engine} {op : Operation}

/-- The scan that a node takes in with an operation: after its end only an empty one. -/
def takesIn (e : Engine) : Operation → List (List BeaconReading)
  | .scan readings => if readings.isEmpty || !e.stopped then [readings] else []
  | _ => []

/-- The scans that a node takes in during a run, in order. -/
def takenIn (node : Engine) (ops : List Operation) : List (List BeaconReading) :=
  along (fun e op => (e.apply op).2) takesIn node ops

theorem recalled_eq (e : Engine) (op : Operation) :
    e.recalled op = (e.takesIn op).getLast?.elim e.cache BeaconReading.keep := by
  cases op
  case scan readings =>
    rw [recalled,takesIn]
    cases readings with
    | nil => rfl
    | cons r readings =>
      cases stopped : e.stopped with
      | true => rfl
      | false => rfl
  all_goals rfl

/-- The cache of a node after a run depends on the last scan only that it took in. -/
theorem cache_after (node : Engine) (ops : List Operation) : (node.after ops).cache =
    (node.takenIn ops).getLast?.elim node.cache BeaconReading.keep := by
  induction ops using List.reverseRecOn with
  | nil => rfl
  | append_singleton ops op ih =>
    have more : node.takenIn (ops ++ [op]) = node.takenIn ops ++ (node.after ops).takesIn op :=
      along_concat ..
    rw [after_concat,cache_apply,recalled_eq,ih,more,List.getLast?_append]
    cases ((node.after ops).takesIn op).getLast? <;> rfl

/-- What a node remembers is of the last scan that it took in, and nothing before the first one. -/
theorem last_scan_remembered {self : Entity} {config : Config} {node : Engine}
    (started : start self config = .ok node) (ops : List Operation) :
    (node.after ops).cache = (node.takenIn ops).getLast?.elim [] BeaconReading.keep ∧
      ∀ readings ∈ (node.takenIn ops).getLast?,
        BeaconReading.Remembered readings (node.after ops).cache := by
  have cache := cache_after node ops
  rw [start_cache started] at cache
  refine ⟨cache,fun readings last => ?_⟩
  rw [cache,last,Option.elim_some]
  exact BeaconReading.remembered_keep readings

/-- Five beacons, of which two are ranged at one distance. -/
def crowd : List BeaconReading :=
  [⟨.of "b:1:1",.ofFloat 3.0⟩,⟨.of "b:1:2",.ofFloat 0.5⟩,⟨.of "b:1:3",.ofFloat 9.0⟩,
    ⟨.of "b:1:4",.ofFloat 0.5⟩,⟨.of "b:1:5",.ofFloat 4.0⟩]

theorem last_scan_remembered_crowd :
    ∃ node, start (.bare (.of "me") .device) reporting = .ok node ∧
      let ops := [.scan (ranged "b:1:2"),.scan crowd,.stop,.scan (ranged "b:1:2")]
      crowd ∈ (node.takenIn ops).getLast? ∧
        BeaconReading.Remembered crowd (node.after ops).cache := by
  have started : start (.bare (.of "me") .device) reporting = .ok _ := rfl
  exact ⟨_,started,rfl,(last_scan_remembered started _).2 crowd rfl⟩

end Engine

end Vicinity
