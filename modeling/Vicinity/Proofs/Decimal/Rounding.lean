import Mathlib.Algebra.Order.Ring.Int
import Mathlib.Data.Nat.Log
import Vicinity.Decimal.Numeral

/-! Integers as doubles. A double has 53 binary digits, so integers below 2^53 are kept as they are;
a larger one goes to the nearest that has no more digits, and of two to the even one. Order is never
turned round, but integers that are apart may meet. -/
namespace Vicinity.Decimal

variable {m n q r u : Nat} {i j : Int}

/-- Of `q` units and one more that to which `q` units and a rest `r` are nearer; if it is halfway,
the even one. -/
def nearer (q r u : Nat) : Nat := if 2 * r < u then q else if 2 * r = u then q + q % 2 else q + 1

/-- How far apart doubles are in the binade of a natural number, which 53 digits are left of. -/
def unit (n : Nat) : Nat := 2 ^ (n.log2 - 52)

/-- What is left of a natural number as a double. -/
def rounded (n : Nat) : Nat := nearer (n / unit n) (n % unit n) (unit n) * unit n

/-- What is left of an integer as a double. -/
def kept (i : Int) : Int := i.sign * rounded i.natAbs

/-! ## One unit -/

theorem le_nearer (q r u : Nat) : q ≤ nearer q r u := by
  rw [nearer]
  split_ifs <;> omega

theorem nearer_le (q r u : Nat) : nearer q r u ≤ q + 1 := by
  rw [nearer]
  split_ifs <;> omega

theorem nearer_zero (positive : 0 < u) (q : Nat) : nearer q 0 u = q := if_pos positive

theorem nearer_mono {r s : Nat} (le : r ≤ s) (q u : Nat) : nearer q r u ≤ nearer q s u := by
  rw [nearer,nearer]
  split_ifs <;> omega

theorem nearer_div_mono (le : m ≤ n) (u : Nat) :
    nearer (m / u) (m % u) u ≤ nearer (n / u) (n % u) u := by
  rcases Nat.lt_or_eq_of_le (Nat.div_le_div_right (c := u) le) with less | same
  · exact (nearer_le ..).trans (less.trans_le (le_nearer ..))
  · have rest : m % u ≤ n % u := by
      have whole := Nat.div_add_mod m u
      have whole' := Nat.div_add_mod n u
      rw [same] at whole
      omega
    rw [same]
    exact nearer_mono rest ..

/-! ## Natural numbers -/

theorem unit_pos (n : Nat) : 0 < unit n := Nat.two_pow_pos _

theorem unit_small (small : n < 2 ^ 53) : unit n = 1 := by
  by_cases zero : n = 0
  · rw [zero]
    rfl
  · have digits := (Nat.log2_lt zero).mpr small
    rw [unit,Nat.sub_eq_zero_of_le (Nat.le_of_lt_succ digits),Nat.pow_zero]

/-- Integers with at most 53 digits are kept. -/
theorem rounded_small (small : n < 2 ^ 53) : rounded n = n := by
  rw [rounded,unit_small small,Nat.mod_one,nearer_zero Nat.one_pos,Nat.div_one,Nat.mul_one]

theorem large_ne_zero {k : Nat} (large : 2 ^ k ≤ n) : n ≠ 0 :=
  Nat.ne_of_gt ((Nat.two_pow_pos k).trans_le large)

theorem unit_mul (large : 2 ^ 52 ≤ n) : 2 ^ 52 * unit n = 2 ^ n.log2 := by
  have digits : 52 ≤ n.log2 := (Nat.le_log2 (large_ne_zero large)).mpr large
  rw [unit,← Nat.pow_add,Nat.add_sub_cancel' digits]

theorem unit_mul_succ (large : 2 ^ 52 ≤ n) : 2 ^ 53 * unit n = 2 ^ (n.log2 + 1) := by
  rw [Nat.pow_succ _ n.log2,← unit_mul large]
  omega

/-- A large number has 53 digits before the unit of its binade. -/
theorem div_unit (large : 2 ^ 52 ≤ n) : 2 ^ 52 ≤ n / unit n ∧ n / unit n < 2 ^ 53 := by
  rw [Nat.le_div_iff_mul_le (unit_pos n),Nat.div_lt_iff_lt_mul (unit_pos n),unit_mul large,
    unit_mul_succ large]
  exact ⟨Nat.log2_self_le (large_ne_zero large),Nat.lt_log2_self⟩

/-- A large number stays between the first double of its binade and that of the next one. -/
theorem rounded_binade (large : 2 ^ 52 ≤ n) :
    2 ^ n.log2 ≤ rounded n ∧ rounded n ≤ 2 ^ (n.log2 + 1) := by
  obtain ⟨least,most⟩ := div_unit large
  rw [← unit_mul large,← unit_mul_succ large]
  exact ⟨Nat.mul_le_mul_right _ (least.trans (le_nearer ..)),
    Nat.mul_le_mul_right _ ((nearer_le ..).trans most)⟩

theorem rounded_large {k : Nat} (digits : 52 ≤ k) (large : 2 ^ k ≤ n) : 2 ^ k ≤ rounded n := by
  have log := (Nat.le_log2 (large_ne_zero large)).mpr large
  have power := Nat.pow_le_pow_right (Nat.two_pos) digits
  exact (Nat.pow_le_pow_right Nat.two_pos log).trans (rounded_binade (power.trans large)).1

theorem rounded_mono (le : m ≤ n) : rounded m ≤ rounded n := by
  by_cases small : n < 2 ^ 53
  · rw [rounded_small small,rounded_small (le.trans_lt small)]
    exact le
  have large : 2 ^ 53 ≤ n := Nat.le_of_not_lt small
  by_cases small' : m < 2 ^ 53
  · rw [rounded_small small']
    exact small'.le.trans (rounded_large (by decide) large)
  have large' : 2 ^ 53 ≤ m := Nat.le_of_not_lt small'
  have log : m.log2 ≤ n.log2 :=
    (Nat.le_log2 (large_ne_zero large)).mpr
      ((Nat.log2_self_le (large_ne_zero large')).trans le)
  rcases Nat.lt_or_eq_of_le log with less | same
  · -- the next binade begins no later than that of the larger number
    calc rounded m ≤ 2 ^ (m.log2 + 1) := (rounded_binade (by omega)).2
      _ ≤ 2 ^ n.log2 := Nat.pow_le_pow_right Nat.two_pos less
      _ ≤ rounded n := (rounded_binade (by omega)).1
  · have unit : unit m = unit n := congrArg (fun digits => 2 ^ (digits - 52)) same
    rw [rounded,rounded,unit]
    exact Nat.mul_le_mul_right _ (nearer_div_mono le _)

/-! ## Integers -/

theorem kept_ofNat (n : Nat) : kept n = rounded n := by
  rw [kept,Int.natAbs_natCast]
  by_cases zero : n = 0
  · subst zero
    rfl
  · rw [Int.sign_natCast_of_ne_zero zero,Int.one_mul]

theorem kept_neg (i : Int) : kept (-i) = -kept i := by
  rw [kept,kept,Int.sign_neg,Int.natAbs_neg,Int.neg_mul]

theorem kept_nonneg (positive : 0 ≤ i) : 0 ≤ kept i := by
  obtain ⟨n,rfl⟩ := Int.eq_ofNat_of_zero_le positive
  exact kept_ofNat n ▸ Int.natCast_nonneg _

/-- Order is never turned round. -/
theorem kept_mono (le : i ≤ j) : kept i ≤ kept j := by
  have natural : ∀ {i j : Int}, 0 ≤ i → i ≤ j → kept i ≤ kept j := by
    intro i j positive le
    obtain ⟨m,rfl⟩ := Int.eq_ofNat_of_zero_le positive
    obtain ⟨n,rfl⟩ := Int.eq_ofNat_of_zero_le (positive.trans le)
    rw [kept_ofNat,kept_ofNat]
    exact Int.ofNat_le.mpr (rounded_mono (Int.ofNat_le.mp le))
  rcases Int.le_total 0 i with positive | negative
  · exact natural positive le
  rcases Int.le_total 0 j with positive | negative'
  · have opposite := kept_nonneg (Int.neg_nonneg.mpr negative)
    rw [kept_neg] at opposite
    exact (Int.neg_nonneg.mp opposite).trans (kept_nonneg positive)
  · have opposite := natural (Int.neg_nonneg.mpr negative') (Int.neg_le_neg le)
    rw [kept_neg,kept_neg] at opposite
    exact Int.neg_le_neg_iff.mp opposite

theorem lt_of_kept_lt (less : kept i < kept j) : i < j :=
  Int.lt_of_not_ge fun le => Int.not_lt.mpr (kept_mono le) less

theorem kept_small (small : i.natAbs ≤ 2 ^ 53) : kept i = i := by
  have same : rounded i.natAbs = i.natAbs := by
    rcases Nat.lt_or_eq_of_le small with less | equal
    · exact rounded_small less
    · rw [equal]
      decide
  rw [kept,same,Int.sign_mul_natAbs]

/-- An integer of at most 53 digits is below all that are larger. -/
theorem lt_kept (small : i.natAbs < 2 ^ 53) (less : i < j) : kept i < kept j := by
  rw [kept_small small.le]
  by_cases small' : j ≤ 2 ^ 53
  · rw [kept_small (by omega)]
    exact less
  · have bound : kept (2 ^ 53) ≤ kept j := kept_mono (Int.le_of_not_le small')
    rw [kept_small (by decide)] at bound
    omega

/-- Integers are told apart by value if one of them has at most 53 digits. -/
theorem kept_lt_iff (small : i.natAbs < 2 ^ 53 ∨ j.natAbs < 2 ^ 53) : kept i < kept j ↔ i < j := by
  refine ⟨lt_of_kept_lt,fun less => ?_⟩
  rcases small with small | small
  · exact lt_kept small less
  · have opposite := lt_kept (i := -j) (by rwa [Int.natAbs_neg]) (Int.neg_lt_neg less)
    rw [kept_neg,kept_neg] at opposite
    exact Int.neg_lt_neg_iff.mp opposite

theorem kept_eq_iff (small : i.natAbs < 2 ^ 53 ∨ j.natAbs < 2 ^ 53) : kept i = kept j ↔ i = j := by
  refine ⟨fun same => ?_,congrArg kept⟩
  have notLess := mt (kept_lt_iff small).mpr (Int.not_lt.mpr same.ge)
  have notMore := mt (kept_lt_iff small.symm).mpr (Int.not_lt.mpr same.le)
  omega

end Vicinity.Decimal
