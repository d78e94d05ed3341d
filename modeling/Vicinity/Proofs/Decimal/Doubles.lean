import Mathlib
import Vicinity.Json.Basic
import Vicinity.Proofs.Decimal.Rounding

/-! The doubles of integers. A double in parts is a sign, 53 digits and a power of two, and in this
form it is compared as the integer that it is. -/
namespace Vicinity.Decimal

open Float.Model Float.Model.UnpackedFloat

variable {x y : UnpackedFloat} {i j : Int}

/-- A double in parts, and the integer that it is. The first of the digits is not zero. -/
inductive Stands : UnpackedFloat → Int → Prop
  | zero (s : Sign) : Stands (.zero s) 0
  | finite {s : Sign} {m k : Nat} {positive : 0 < m} {i : Int} (least : 2 ^ 52 ≤ m)
      (most : m < 2 ^ 53) (finite : k < 1024) (value : i * 2 ^ 52 = s.apply (m * 2 ^ k : Nat)) :
      Stands (.finite s m (k - 52) positive) i

/-! ## Comparison -/

theorem compare_congr {α β : Type} [LinearOrder α] [LinearOrder β] {a b : α} {c d : β}
    (less : a < b ↔ c < d) (more : b < a ↔ d < c) : compare a b = compare c d := by
  rcases lt_trichotomy a b with lt | rfl | gt
  · rw [compare_lt_iff_lt.mpr lt,compare_lt_iff_lt.mpr (less.mp lt)]
  · have same : c = d := le_antisymm (not_lt.mp (mt more.mpr (lt_irrefl a)))
      (not_lt.mp (mt less.mpr (lt_irrefl a)))
    rw [compare_eq_iff_eq.mpr rfl,compare_eq_iff_eq.mpr same]
  · rw [compare_gt_iff_gt.mpr gt,compare_gt_iff_gt.mpr (more.mp gt)]

theorem lt_scaled {m n k l : Nat} (most : m < 2 ^ 53) (least : 2 ^ 52 ≤ n) (less : k < l) :
    m * 2 ^ k < n * 2 ^ l := by
  calc m * 2 ^ k < 2 ^ 53 * 2 ^ k := Nat.mul_lt_mul_of_pos_right most (Nat.two_pow_pos k)
    _ = 2 ^ 52 * 2 ^ (k + 1) := by rw [Nat.pow_succ]; omega
    _ ≤ n * 2 ^ l := Nat.mul_le_mul least (Nat.pow_le_pow_right Nat.two_pos less)

/-- Numbers with equally many digits before powers of two are ordered by the powers first. -/
theorem compare_scaled {m n k l : Nat} (least : 2 ^ 52 ≤ m) (most : m < 2 ^ 53)
    (least' : 2 ^ 52 ≤ n) (most' : n < 2 ^ 53) :
    (compare (k - 52 : Int) (l - 52)).then (compare m n) = compare (m * 2 ^ k) (n * 2 ^ l) := by
  rcases Nat.lt_trichotomy k l with less | rfl | more
  · have first : compare (k - 52 : Int) (l - 52) = .lt := compare_lt_iff_lt.mpr (by omega)
    rw [first,compare_lt_iff_lt.mpr (lt_scaled most least' less)]
    rfl
  · have positive := Nat.two_pow_pos k
    rw [compare_eq_iff_eq.mpr (rfl : (k - 52 : Int) = k - 52),Ordering.eq_then]
    exact compare_congr (Nat.mul_lt_mul_right positive).symm (Nat.mul_lt_mul_right positive).symm
  · have first : compare (k - 52 : Int) (l - 52) = .gt := compare_gt_iff_gt.mpr (by omega)
    rw [first,compare_gt_iff_gt.mpr (lt_scaled most' least more)]
    rfl

theorem apply_pos {s : Sign} {m k : Nat} (least : 2 ^ 52 ≤ m)
    (value : i * 2 ^ 52 = s.apply (m * 2 ^ k : Nat)) : 0 < s.apply i := by
  have power := Nat.mul_pos (Nat.lt_of_lt_of_le (Nat.two_pow_pos 52) least) (Nat.two_pow_pos k)
  cases s <;> simp only [Sign.apply] at value ⊢ <;> omega

/-- Doubles in parts are compared as integers. -/
theorem Stands.compare (stands : Stands x i) (stands' : Stands y j) :
    x.compare y = some (compare i j) := by
  cases stands with
  | zero s =>
    cases stands' with
    | zero t => rfl
    | @finite t n l positive j least most finite value =>
      have sign := apply_pos least value
      cases t with
      | negative => exact congrArg some (compare_gt_iff_gt.mpr (Int.neg_pos.mp sign)).symm
      | positive => exact congrArg some (compare_lt_iff_lt.mpr sign).symm
  | @finite s m k positive i least most finite value =>
    have sign := apply_pos least value
    cases stands' with
    | zero t =>
      cases s with
      | negative => exact congrArg some (compare_lt_iff_lt.mpr (Int.neg_pos.mp sign)).symm
      | positive => exact congrArg some (compare_gt_iff_gt.mpr sign).symm
    | @finite t n l positive' j least' most' finite' value' =>
      have sign' := apply_pos least' value'
      cases s with
      | negative =>
        cases t with
        | negative =>
          -- below zero the integer with the larger digits is the smaller one
          refine congrArg some ?_
          rw [compare_scaled least most least' most',← Std.OrientedOrd.eq_swap]
          simp only [Sign.apply] at value value'
          exact compare_congr (by omega) (by omega)
        | positive =>
          have less := (Int.neg_pos.mp sign).trans sign'
          exact congrArg some (compare_lt_iff_lt.mpr less).symm
      | positive =>
        cases t with
        | negative =>
          have more := (Int.neg_pos.mp sign').trans sign
          exact congrArg some (compare_gt_iff_gt.mpr more).symm
        | positive =>
          refine congrArg some ?_
          rw [compare_scaled least most least' most']
          simp only [Sign.apply] at value value'
          exact compare_congr (by omega) (by omega)

/-! ## Negation -/

theorem Stands.neg (stands : Stands x i) : Stands x.neg (-i) := by
  cases stands with
  | zero s => exact .zero _
  | @finite s m k positive i least most finite value =>
    refine .finite least most finite ?_
    rw [Int.neg_mul,value]
    cases s with
    | negative => exact Int.neg_neg _
    | positive => rfl

/-! ## Packing -/

theorem ofBitVec_toBitVec (s : Sign) : Sign.ofBitVec s.toBitVec = s := by
  cases s <;> rfl

theorem unpackSign_packComponents {f : Format} {s : Sign} {e : BitVec f.exponentBits}
    {m : BitVec f.mantissaBitsWithoutImplicit} :
    unpackSign (packComponents f s e m) = s.toBitVec := by
  ext i within
  have first : i = 0 := by omega
  subst first
  simp [unpackSign,packComponents,BitVec.getLsbD_append,BitVec.getElem_append]

theorem bias : Format.binary64.exponentBias = 1023 := by decide

/-- The first digit is not stored, since it is never zero. -/
theorem first_digit {m : Nat} (least : 2 ^ 52 ≤ m) (most : m < 2 ^ 53) :
    (1#1 ++ BitVec.ofNat 52 m).toNat = m := by
  have rest := Nat.mod_lt m (Nat.two_pow_pos 52)
  rw [BitVec.toNat_append,BitVec.toNat_ofNat,BitVec.toNat_ofNat,
    ← Nat.shiftLeft_add_eq_or_of_lt rest,Nat.shiftLeft_eq]
  omega

section

variable {s : Sign} {m k : Nat} {positive : 0 < m} (least : 2 ^ 52 ≤ m) (most : m < 2 ^ 53)
  (finite : k < 1024)

include least most finite

theorem pack_finite : UnpackedFloat.pack .binary64 (.finite s m (k - 52) positive) =
    packComponents .binary64 s (BitVec.ofNat 11 (k + 1023)) (BitVec.ofNat 52 m) := by
  have digits : m.log2 = 52 := (Nat.log2_eq_iff positive.ne').mpr ⟨least,most⟩
  have biased : ((k - 52 : Int) + Format.binary64.exponentBias +
      Format.binary64.mantissaBitsWithoutImplicit).toNat = k + 1023 := by
    rw [bias]
    simp only
    omega
  rw [UnpackedFloat.pack]
  simp only [biased]
  rw [if_neg (by omega),if_pos (by rw [digits]; decide)]

/-- The exponent is neither that of the infinities nor that of zero. -/
theorem unpack_components : UnpackedFloat.unpack .binary64
    (packComponents .binary64 s (BitVec.ofNat 11 (k + 1023)) (BitVec.ofNat 52 m)) =
      .finite s m (k - 52) positive := by
  have exponent : (BitVec.ofNat 11 (k + 1023)).toNat = k + 1023 := by
    rw [BitVec.toNat_ofNat]
    omega
  have apart (v : BitVec 11) (other : v.toNat ≠ k + 1023) : BitVec.ofNat 11 (k + 1023) ≠ v :=
    fun same => other (same ▸ exponent)
  have regular := apart (-1#11) (show 2047 ≠ k + 1023 by omega)
  have nonzero := apart 0#11 (show 0 ≠ k + 1023 by omega)
  have back : ((k + 1023 : Nat) : Int) - (Format.binary64.exponentBias +
      Format.binary64.mantissaBitsWithoutImplicit) = k - 52 := by
    rw [bias]
    simp only
    omega
  rw [UnpackedFloat.unpack]
  simp only [unpackExponent_packComponents,unpackMantissa_packComponents,
    unpackSign_packComponents,ofBitVec_toBitVec,if_neg regular,if_neg nonzero,exponent,
    first_digit least most,back]

end

theorem Stands.unpack_pack (stands : Stands x i) :
    UnpackedFloat.unpack .binary64 (UnpackedFloat.pack .binary64 x) = x := by
  cases stands with
  | zero s => cases s <;> rfl
  | finite least most finite =>
    rw [pack_finite least most finite,unpack_components least most finite]

/-! ## Rounding -/

/-- After `s` shifts the two bits say how the digits that are lost compare to half a unit: the first
whether they come to half of it, the second whether they are neither nothing nor the half. -/
structure Shifted (m s : Nat) (e : ExtendedMantissa) : Prop where
  mantissa : e.mantissa = m / 2 ^ s
  roundBit : e.roundBit = true ↔ 2 ^ s ≤ 2 * (m % 2 ^ s)
  stickyBit : e.stickyBit = true ↔ 2 * (m % 2 ^ s) ≠ 0 ∧ 2 * (m % 2 ^ s) ≠ 2 ^ s

theorem Shifted.one {m s : Nat} {e : ExtendedMantissa} (shifted : Shifted m s e) :
    Shifted m (s + 1) e.shiftRightOne := by
  have rest : m % 2 ^ (s + 1) = m % 2 ^ s + 2 ^ s * (m / 2 ^ s % 2) := by
    rw [Nat.pow_succ,Nat.mod_mul]
  have less := Nat.mod_lt m (Nat.two_pow_pos s)
  have power : 2 ^ (s + 1) = 2 * 2 ^ s := Nat.pow_succ'
  constructor
  case mantissa =>
    rw [ExtendedMantissa.shiftRightOne,shifted.mantissa,Nat.div_div_eq_div_mul,Nat.pow_succ]
  case roundBit =>
    rw [ExtendedMantissa.shiftRightOne,shifted.mantissa,bne_iff_ne,rest,power]
    rcases Nat.mod_two_eq_zero_or_one (m / 2 ^ s) with digit | digit <;> rw [digit] <;> omega
  case stickyBit =>
    rw [ExtendedMantissa.shiftRightOne,Bool.or_eq_true,shifted.roundBit,shifted.stickyBit,rest,
      power]
    rcases Nat.mod_two_eq_zero_or_one (m / 2 ^ s) with digit | digit <;> rw [digit] <;> omega

theorem shifted (m s : Nat) :
    Shifted m s (ExtendedMantissa.ofMantissaAndAccuracy m .exact >>> s) := by
  induction s with
  | zero =>
    constructor
    case mantissa => exact (Nat.div_one m).symm
    case roundBit =>
      rw [Nat.pow_zero,Nat.mod_one]
      exact ⟨nofun,nofun⟩
    case stickyBit =>
      rw [Nat.pow_zero,Nat.mod_one]
      exact ⟨nofun,fun rest => absurd rfl rest.1⟩
  | succ s shifted => exact shifted.one

/-- Shifting goes to the nearer number. -/
theorem Shifted.rounds {m s : Nat} {e : ExtendedMantissa} (shifted : Shifted m s e) :
    e.roundedMantissa = nearer (m / 2 ^ s) (m % 2 ^ s) (2 ^ s) := by
  obtain ⟨whole,round,sticky⟩ := e
  obtain ⟨rfl,half,other⟩ := shifted
  have power := Nat.two_pow_pos s
  rw [nearer]
  cases round with
  | false =>
    have less : 2 * (m % 2 ^ s) < 2 ^ s := Nat.lt_of_not_le fun le => Bool.noConfusion (half.mpr le)
    rw [if_pos less]
    cases sticky <;> rfl
  | true =>
    have le := half.mp rfl
    rw [if_neg (Nat.not_lt.mpr le)]
    cases sticky with
    | false =>
      have same : 2 * (m % 2 ^ s) = 2 ^ s := by
        by_contra different
        exact Bool.noConfusion (other.mpr ⟨by omega,different⟩)
      rw [if_pos same]
      rfl
    | true =>
      rw [if_neg (other.mp rfl).2]
      rfl

theorem targetExponent_eq {m : Nat} {e : Int} (range : -1022 ≤ m.log2 + e) :
    Format.binary64.targetExponent (totalExponent m e) = m.log2 + e - 52 := by
  have digits : Format.binary64.mantissaBits = 53 := by decide
  have lowest : Format.binary64.minExponent = -1074 := by decide
  rw [Format.targetExponent,totalExponent,digits,lowest]
  omega

/-- Numbers with more than 53 digits are shifted until 53 are left. -/
theorem shiftToTargetExponent_eq {m : Nat} {e : Int} (large : 2 ^ 52 ≤ m) (range : -1074 ≤ e) :
    shiftToTargetExponent .binary64 m e .exact =
      (ExtendedMantissa.ofMantissaAndAccuracy m .exact >>> (m.log2 - 52),
        e + (m.log2 - 52 : Nat)) := by
  have digits : 52 ≤ m.log2 := (Nat.le_log2 (large_ne_zero large)).mpr large
  have amount : ((m.log2 : Int) + e - 52 - e).toNat = m.log2 - 52 := by omega
  rw [shiftToTargetExponent,targetExponent_eq (by omega),shiftToExponent,amount]

/-- Rounding can leave a digit too many, but then the last one is zero. -/
theorem one_more_digit {q : Nat} (least : 2 ^ 52 ≤ q) (most : q ≤ 2 ^ 53) :
    q.log2 ≤ 53 ∧ q / 2 ^ (q.log2 - 52) * 2 ^ (q.log2 - 52) = q ∧
      2 ^ 52 ≤ q / 2 ^ (q.log2 - 52) ∧ q / 2 ^ (q.log2 - 52) < 2 ^ 53 := by
  rcases Nat.lt_or_eq_of_le most with less | rfl
  · have log : q.log2 = 52 := (Nat.log2_eq_iff (large_ne_zero least)).mpr ⟨least,less⟩
    rw [log]
    omega
  · rw [Nat.log2_two_pow]
    decide

theorem stands_roundWithAccuracy {m k : Nat} (large : 2 ^ 52 ≤ m) (range : m.log2 + k < 1074)
    (value : i * 2 ^ 52 = (rounded m * 2 ^ k : Nat)) :
    Stands (roundWithAccuracy .binary64 .positive m (k - 52) .exact) i := by
  obtain ⟨least,most⟩ := div_unit large
  have digits : 52 ≤ m.log2 := (Nat.le_log2 (large_ne_zero large)).mpr large
  have first := (shifted m (m.log2 - 52)).rounds
  rw [rounded] at value
  change _ = nearer (m / unit m) (m % unit m) (unit m) at first
  generalize nearness : nearer (m / unit m) (m % unit m) (unit m) = q at first value
  have least' : 2 ^ 52 ≤ q := nearness ▸ least.trans (le_nearer ..)
  have most' : q ≤ 2 ^ 53 := nearness ▸ (nearer_le ..).trans most
  obtain ⟨log,whole,least'',most''⟩ := one_more_digit least' most'
  have second := (shifted q (q.log2 - 52)).mantissa
  have exponent : (k - 52 : Int) + (m.log2 - 52 : Nat) + (q.log2 - 52 : Nat) =
      (k + (m.log2 - 52) + (q.log2 - 52) : Nat) - 52 := by
    omega
  have range' : -1074 ≤ (k - 52 : Int) + (m.log2 - 52 : Nat) := by omega
  rw [roundWithAccuracy,shiftToTargetExponent_eq large (by omega)]
  simp only [first,shiftToTargetExponent_eq least' range',exponent]
  rw [dif_neg (by rw [second]; omega)]
  refine .finite (second ▸ least'') (second ▸ most'') (by omega) ?_
  rw [value,second]
  refine congrArg Nat.cast ?_
  calc q * unit m * 2 ^ k
      = q / 2 ^ (q.log2 - 52) * 2 ^ (q.log2 - 52) * unit m * 2 ^ k := by rw [whole]
    _ = q / 2 ^ (q.log2 - 52) * 2 ^ (k + (m.log2 - 52) + (q.log2 - 52)) := by
      rw [unit,Nat.pow_add,Nat.pow_add]
      ac_rfl

/-- A number gets 53 digits by as many zeros as it lacks. -/
theorem append_digits {n t : Nat} (nonzero : n ≠ 0) (lacks : n.log2 + t = 52) :
    2 ^ 52 ≤ n * 2 ^ t ∧ n * 2 ^ t < 2 ^ 53 := by
  constructor
  · rw [← lacks,Nat.pow_add]
    exact Nat.mul_le_mul_right _ (Nat.log2_self_le nonzero)
  · rw [show 53 = n.log2 + 1 + t by omega,Nat.pow_add]
    exact Nat.mul_lt_mul_of_pos_right Nat.lt_log2_self (Nat.two_pow_pos _)

theorem stands_ofNat {n : Nat} (word : n < 2 ^ 64) :
    Stands (UnpackedFloat.ofNat .binary64 n) (rounded n) := by
  by_cases zero : n = 0
  · subst zero
    exact .zero _
  have positive : 0 < n := Nat.pos_of_ne_zero zero
  have compared : Ord.compare (n : Int) 0 = .gt := compare_gt_iff_gt.mpr (by omega)
  have log : n.log2 < 64 := (Nat.log2_lt zero).mpr word
  rw [UnpackedFloat.ofNat,UnpackedFloat.ofInt,UnpackedFloat.normalize,compared]
  simp only [Int.toNat_natCast]
  rw [UnpackedFloat.round,targetExponent_eq (by omega),decreaseExponent,Nat.shiftLeft_eq]
  simp only
  rcases Nat.lt_or_ge n (2 ^ 52) with small | large
  · obtain ⟨appended,few⟩ : ∃ t, n.log2 + t = 52 :=
      ⟨52 - n.log2,by have := (Nat.log2_lt zero).mpr small; omega⟩
    have amount : (0 - ((n.log2 : Int) + 0 - 52)).toNat = appended := by omega
    have exponent : (0 - appended : Int) = n.log2 - 52 := by omega
    obtain ⟨least,most⟩ := append_digits zero few
    have log : (n * 2 ^ appended).log2 = 52 :=
      (Nat.log2_eq_iff (large_ne_zero least)).mpr ⟨least,most⟩
    rw [amount,exponent]
    refine stands_roundWithAccuracy least (by omega) ?_
    rw [rounded_small most,rounded_small (by omega),Nat.mul_assoc,← Nat.pow_add,
      Nat.add_comm appended,few,Nat.cast_mul]
    rfl
  · have digits : 52 ≤ n.log2 := (Nat.le_log2 zero).mpr large
    have amount : (0 - ((n.log2 : Int) + 0 - 52)).toNat = 0 := by omega
    have exponent : (0 - (0 : Nat) : Int) = (52 : Nat) - 52 := by omega
    rw [amount,Nat.pow_zero,Nat.mul_one,exponent]
    exact stands_roundWithAccuracy large (by omega) (Nat.cast_mul ..).symm

/-! ## Doubles -/

/-- The double is this integer. -/
def Is (x : Float) (i : Int) : Prop := Stands x.toModel.unpack i

section

variable {x y : Float}

theorem is_ofModel {u : UnpackedFloat} (stands : Stands u i) :
    Is (.ofModel (Float.Model.pack u)) i := by
  show Stands (UnpackedFloat.unpack .binary64 (UnpackedFloat.pack .binary64 u)) i
  rwa [stands.unpack_pack]

theorem Is.lt_iff (is : Is x i) (is' : Is y j) : x < y ↔ i < j := by
  show decide ((x.toModel.unpack.compare y.toModel.unpack == some .lt) = true) = true ↔ i < j
  rw [decide_eq_true_iff,Stands.compare is is',beq_iff_eq,Option.some_inj,compare_lt_iff_lt]

theorem Is.beq_iff (is : Is x i) (is' : Is y j) : (x == y) = true ↔ i = j := by
  show (x.toModel.unpack.compare y.toModel.unpack == some .eq) = true ↔ i = j
  rw [Stands.compare is is',beq_iff_eq,Option.some_inj,compare_eq_iff_eq]

theorem Is.neg (is : Is x i) : Is (-x) (-i) := is_ofModel (Stands.neg is)

theorem is_doubleOfWord {n : Nat} (word : n < 2 ^ 64) : Is (doubleOfWord n) (kept n) := by
  have stands := stands_ofNat (n := (UInt64.ofNat n).toNat) (UInt64.toNat_lt _)
  rw [UInt64.toNat_ofNat_of_lt' word,← kept_ofNat] at stands
  refine is_ofModel (u := UnpackedFloat.ofNat .binary64 (UInt64.ofNat n).toNat) ?_
  rwa [UInt64.toNat_ofNat_of_lt' word]

theorem is_toFloat (fits : Number.inRange i = true) : Is (Number.int i).toFloat (kept i) := by
  obtain ⟨low,high⟩ : -0x8000000000000000 ≤ i ∧ i < 0x10000000000000000 := by
    simpa [Number.inRange] using fits
  cases i with
  | ofNat n =>
    rw [Int.ofNat_eq_natCast] at high
    exact is_doubleOfWord (by omega)
  | negSucc n =>
    rw [Int.negSucc_eq,kept_neg]
    exact Is.neg (is_doubleOfWord (n := n + 1) (by omega))

end

end Vicinity.Decimal
