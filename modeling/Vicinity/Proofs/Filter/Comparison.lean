import Vicinity.Proofs.Decimal.Doubles
import Vicinity.Proofs.Filter.Meaning

/-! How filters compare integers. The integer at the end of a path and that in a filter are compared
by what is left of them as doubles: exactly one of the three comparisons passes, and none of them
turns the order round, but large integers that are apart may pass for equal. -/
namespace Vicinity.Filter

open Decimal

variable {f g h : Filter} {t : Test} {p : Members} {path : String} {literal : Json} {a b : Int}

/-- An accepted filter that is one test. -/
structure Leaf (f : Filter) (t : Test) (path : String) (literal : Json) : Prop where
  accepted : ∃ v, ofJson v = .ok f
  operator : f.rootOperator? = some (.test t)
  key : f.node.get? pathKey = some (.str path)
  value : f.node.get? literalKey = some literal

theorem Leaf.writes (leaf : Leaf f t path literal) : Writes f.toJson (.test t path literal) := by
  obtain ⟨⟨v,accepted⟩,operator,key,value⟩ := leaf
  obtain ⟨e,writes⟩ := writes_of_accepted accepted
  have operator := operator?_eq.mp operator
  obtain ⟨ms⟩ := f
  cases writes with
  | test three => exact .test three operator key value
  | join _ operator' =>
    have same := Operator.name_injective
      (Json.str.inj (Option.some.inj (operator.symm.trans operator')))
    cases same

theorem Leaf.evaluate_iff (leaf : Leaf f t path literal) (p : Members) :
    f.evaluate p = true ↔ t.Asks literal (At p path) := by
  rw [leaf.writes.evaluate,Expr.holds_iff,Expr.Demands]

theorem leaf_test (t : Test) (path : String) (literal : Json) :
    Leaf (test t path literal) t path literal where
  accepted := ⟨_,ofJson_toJson (faultless_iff.mpr ⟨_,writes_toJson (.test t path literal)⟩)⟩
  operator := operator?_eq.mpr rfl
  key := rfl
  value := rfl

/-! ## Two integers -/

theorem At.unique {v w : Json} (leads : At p path v) (leads' : At p path w) : v = w :=
  Option.some.inj ((resolve_iff.mpr leads).symm.trans (resolve_iff.mpr leads'))

theorem numbers_iff {related : Number → Number → Prop} (leads : At p path (Json.int a)) :
    (∃ m n, At p path (.num m) ∧ Json.int b = .num n ∧ related m n) ↔ related (.int a) (.int b) := by
  constructor
  · rintro ⟨m,n,found,written,holds⟩
    obtain rfl := Json.num.inj (leads.unique found)
    obtain rfl := Json.num.inj written
    exact holds
  · exact fun holds => ⟨_,_,leads,rfl,holds⟩

theorem equal_int_iff (fits : Number.inRange a = true) (fits' : Number.inRange b = true) :
    Equal (Json.int a) (Json.int b) ↔ kept a = kept b := by
  rw [← (is_toFloat fits).beq_iff (is_toFloat fits')]
  constructor
  · intro equal
    cases equal with
    | number equal => exact equal
    | other different => simp [Json.int,Json.num?] at different
  · exact .number

section

variable (fits : Number.inRange a = true) (fits' : Number.inRange b = true)
  (leads : At p path (Json.int a))

include fits fits' leads

theorem Leaf.below_iff (leaf : Leaf f .below path (Json.int b)) :
    f.evaluate p = true ↔ kept a < kept b := by
  rw [leaf.evaluate_iff,← (is_toFloat fits).lt_iff (is_toFloat fits')]
  exact numbers_iff leads

theorem Leaf.equals_iff (leaf : Leaf f .equals path (Json.int b)) :
    f.evaluate p = true ↔ kept a = kept b := by
  rw [leaf.evaluate_iff,← equal_int_iff fits fits']
  constructor
  · rintro ⟨v,found,equal⟩
    exact leads.unique found ▸ equal
  · exact fun equal => ⟨_,leads,equal⟩

theorem Leaf.above_iff (leaf : Leaf f .above path (Json.int b)) :
    f.evaluate p = true ↔ kept b < kept a := by
  rw [leaf.evaluate_iff,← (is_toFloat fits').lt_iff (is_toFloat fits)]
  exact numbers_iff leads

end

/-- An array of integers contains another if one of them is equal to it. -/
theorem Leaf.contains_iff {items : List Int} (fits : ∀ v ∈ items, Number.inRange v = true)
    (fits' : Number.inRange b = true) (leads : At p path (.arr (items.map Json.int)))
    (leaf : Leaf f .contains path (Json.int b)) :
    f.evaluate p = true ↔ ∃ v ∈ items, kept v = kept b := by
  rw [leaf.evaluate_iff]
  constructor
  · rintro (⟨s,needle,found,-,-⟩ | ⟨values,found,v,mem,equal⟩)
    · cases leads.unique found
    · obtain rfl := Json.arr.inj (leads.unique found)
      obtain ⟨i,inside,rfl⟩ := List.mem_map.mp mem
      exact ⟨i,inside,(equal_int_iff (fits i inside) fits').mp equal⟩
  · rintro ⟨i,mem,same⟩
    exact .inr ⟨_,leads,_,List.mem_map_of_mem mem,(equal_int_iff (fits i mem) fits').mpr same⟩

/-- The three comparisons are those of the values. -/
structure ByValue (a b : Int) (less same more : Bool) : Prop where
  below : less = true ↔ a < b
  equal : same = true ↔ a = b
  above : more = true ↔ b < a

/-- How two integers come out in the three comparisons. -/
structure Ranked (a b : Int) (less same more : Bool) : Prop where
  below : less = true ↔ kept a < kept b
  equal : same = true ↔ kept a = kept b
  above : more = true ↔ kept b < kept a
  /-- Exactly one comparison passes. -/
  one : [less,same,more].count true = 1
  order : (less = true → a < b) ∧ (more = true → b < a) ∧ (a = b → same = true)
  value : ByValue a b less same more ↔ (kept a = kept b → a = b)
  small : a.natAbs < 2 ^ 53 ∨ b.natAbs < 2 ^ 53 → ByValue a b less same more

/-- How an integer comes out that is looked for among others. -/
structure Sought (items : List Int) (b : Int) (found : Bool) : Prop where
  among : found = true ↔ ∃ v ∈ items, kept v = kept b
  member : b ∈ items → found = true
  value : (found = true ↔ b ∈ items) ↔ ((∃ v ∈ items, kept v = kept b) → b ∈ items)
  small : (∀ v ∈ items, v.natAbs < 2 ^ 53 ∨ b.natAbs < 2 ^ 53) → (found = true ↔ b ∈ items)

theorem ranked {less same more : Bool} (below : less = true ↔ kept a < kept b)
    (equal : same = true ↔ kept a = kept b) (above : more = true ↔ kept b < kept a) :
    Ranked a b less same more := by
  have value (apart : kept a = kept b → a = b) : ByValue a b less same more := by
    have up : a < b → kept a < kept b := fun less =>
      lt_of_le_of_ne (kept_mono less.le) (mt apart less.ne)
    have down : b < a → kept b < kept a := fun less =>
      lt_of_le_of_ne (kept_mono less.le) (mt (apart ∘ Eq.symm) less.ne')
    exact ⟨below.trans ⟨lt_of_kept_lt,up⟩,equal.trans ⟨apart,congrArg kept⟩,
      above.trans ⟨lt_of_kept_lt,down⟩⟩
  constructor
  case below => exact below
  case equal => exact equal
  case above => exact above
  case one =>
    rcases Int.lt_trichotomy (kept a) (kept b) with lt | eq | gt
    · rw [below.mpr lt,Bool.eq_false_iff.mpr (mt equal.mp lt.ne),
        Bool.eq_false_iff.mpr (mt above.mp lt.asymm)]
      rfl
    · rw [equal.mpr eq,Bool.eq_false_iff.mpr (mt below.mp eq.not_lt),
        Bool.eq_false_iff.mpr (mt above.mp eq.not_gt)]
      rfl
    · rw [above.mpr gt,Bool.eq_false_iff.mpr (mt below.mp gt.asymm),
        Bool.eq_false_iff.mpr (mt equal.mp gt.ne')]
      rfl
  case order =>
    exact ⟨fun less => lt_of_kept_lt (below.mp less),fun more => lt_of_kept_lt (above.mp more),
      fun eq => equal.mpr (congrArg kept eq)⟩
  case value => exact ⟨fun values meet => values.equal.mp (equal.mpr meet),value⟩
  case small => exact fun small => value (kept_eq_iff small).mp

theorem sought {items : List Int} {found : Bool}
    (among : found = true ↔ ∃ v ∈ items, kept v = kept b) : Sought items b found := by
  have member : b ∈ items → ∃ v ∈ items, kept v = kept b := fun inside => ⟨b,inside,rfl⟩
  constructor
  case among => exact among
  case member => exact fun inside => among.mpr (member inside)
  case value =>
    rw [among]
    exact ⟨Iff.mp,fun back => ⟨back,member⟩⟩
  case small =>
    intro small
    refine among.trans ⟨?_,member⟩
    rintro ⟨v,inside,meet⟩
    exact (kept_eq_iff (small v inside)).mp meet ▸ inside

/-- Filters with an integer in them compare it by what is left of it as a double. -/
theorem integers_compared {p : Members} {b : Int} (fits : Number.inRange b = true) :
    (∀ (f g h : Filter) (path : String) (a : Int), Leaf f .below path (Json.int b) →
      Leaf g .equals path (Json.int b) → Leaf h .above path (Json.int b) →
      Number.inRange a = true → At p path (Json.int a) →
      Ranked a b (f.evaluate p) (g.evaluate p) (h.evaluate p)) ∧
    ∀ (f : Filter) (path : String) (items : List Int), Leaf f .contains path (Json.int b) →
      (∀ v ∈ items, Number.inRange v = true) → At p path (.arr (items.map Json.int)) →
      Sought items b (f.evaluate p) := by
  refine ⟨fun f g h path a below equals above fits' leads => ?_,
    fun f path items leaf fits' leads => ?_⟩
  · exact ranked (below.below_iff fits' fits leads) (equals.equals_iff fits' fits leads)
      (above.above_iff fits' fits leads)
  · exact sought (leaf.contains_iff fits' fits leads)

/-- An integer of few digits is told apart from one of many. -/
theorem integers_compared_counter :
    let p : Members := [("ids",.arr ([9007199254740993,3].map Json.int)),("seen",Json.int 3)]
    let b := 9007199254740993
    Number.inRange b = true ∧
      ByValue 3 b ((below "seen" (Json.int b)).evaluate p)
        ((equals "seen" (Json.int b)).evaluate p) ((above "seen" (Json.int b)).evaluate p) ∧
      (contains "$.ids" (Json.int b)).evaluate p = true := by
  intro p b
  have fits : Number.inRange b = true := by decide
  have seen : At p "seen" (Json.int 3) := resolve_iff.mp rfl
  have ids : At p "$.ids" (.arr ([b,3].map Json.int)) := resolve_iff.mp rfl
  have compared := integers_compared (p := p) fits
  have ranked := compared.1 (below "seen" (Json.int b)) (equals "seen" (Json.int b))
    (above "seen" (Json.int b)) "seen" 3 (leaf_test ..) (leaf_test ..) (leaf_test ..) (by decide)
    seen
  have sought := compared.2 (contains "$.ids" (Json.int b)) "$.ids" [b,3] (leaf_test ..)
    (by decide) ids
  exact ⟨fits,ranked.small (.inl (by decide)),sought.member (by decide)⟩

/-- Neighbours beyond 53 digits pass for equal; part by part they are told apart. -/
theorem neighbours_pass_for_equal :
    let a := 9007199254740993
    let b := 9007199254740992
    let p : Members := [("ids",.arr [Json.int a]),("seen",Json.int a)]
    Number.inRange a = true ∧ Number.inRange b = true ∧ b < a ∧
      Leaf (equals "seen" (Json.int b)) .equals "seen" (Json.int b) ∧
      Leaf (above "seen" (Json.int b)) .above "seen" (Json.int b) ∧
      Leaf (contains "ids" (Json.int b)) .contains "ids" (Json.int b) ∧
      At p "seen" (Json.int a) ∧ At p "ids" (.arr [Json.int a]) ∧
      (equals "seen" (Json.int b)).evaluate p = true ∧
      (above "seen" (Json.int b)).evaluate p = false ∧
      (contains "ids" (Json.int b)).evaluate p = true ∧
      (equals "ids" (.arr [Json.int b])).evaluate p = false := by
  intro a b p
  have fits : Number.inRange a = true := by decide
  have fits' : Number.inRange b = true := by decide
  have meet : kept a = kept b := by decide
  have seen : At p "seen" (Json.int a) := resolve_iff.mp rfl
  have ids : At p "ids" (.arr [Json.int a]) := resolve_iff.mp rfl
  have equal := (leaf_test .equals "seen" (Json.int b)).equals_iff fits fits' seen
  have above' := (leaf_test .above "seen" (Json.int b)).above_iff fits fits' seen
  have contained : (contains "ids" (Json.int b)).evaluate p = true ↔
      ∃ v ∈ [a], kept v = kept b :=
    (leaf_test ..).contains_iff (by simpa using fits) fits' ids
  have apart : (equals "ids" (.arr [Json.int b])).evaluate p ≠ true := by
    intro passes
    obtain ⟨v,found,equal⟩ := ((leaf_test ..).evaluate_iff p).mp passes
    obtain rfl := ids.unique found
    cases equal with
    | other _ alike => exact absurd alike.beq (by decide)
  exact ⟨fits,fits',by decide,leaf_test ..,leaf_test ..,leaf_test ..,seen,ids,equal.mpr meet,
    Bool.eq_false_iff.mpr (mt above'.mp meet.not_gt),contained.mpr ⟨a,.head _,meet⟩,
    Bool.eq_false_iff.mpr apart⟩

end Vicinity.Filter
