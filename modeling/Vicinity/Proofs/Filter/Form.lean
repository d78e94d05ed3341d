import Vicinity.Filter.Expr
import Vicinity.Proofs.Json.Order

/-! What a well-formed filter looks like. A value writes an expression if every object in it has
the three members that its operator asks for; exactly those values are accepted, each writes one
expression only, and the members in order make it the canonical form. -/
namespace Vicinity.Filter

variable {v : Json} {ms : Members} {f : Filter} {e e' : Expr}

/-- An object of three members writes a test by its operator, a path and a literal, and a
combination by its operator and two operands that are written in turn. -/
inductive Writes : Json → Expr → Prop
  | test {ms : Members} {t : Test} {path : String} {literal : Json} (three : ms.length = 3)
      (operator : ms.get? opKey = some (.str (Operator.test t).name))
      (key : ms.get? pathKey = some (.str path)) (value : ms.get? literalKey = some literal) :
      Writes (.obj ms) (.test t path literal)
  | join {ms : Members} {j : Join} {a b : Json} {left right : Expr} (three : ms.length = 3)
      (operator : ms.get? opKey = some (.str (Operator.join j).name))
      (first : ms.get? leftKey = some a) (second : ms.get? rightKey = some b)
      (fore : Writes a left) (hind : Writes b right) : Writes (.obj ms) (.join j left right)

/-- The filters that the building functions make. -/
inductive Built : Filter → Prop
  | contains (path : String) (literal : Json) : Built (contains path literal)
  | equals (path : String) (literal : Json) : Built (equals path literal)
  | lower (path : String) (literal : Json) : Built (below path literal)
  | higher (path : String) (literal : Json) : Built (above path literal)
  | present (path : String) : Built (present path)
  | absent (path : String) : Built (absent path)
  | both {left right : Filter} : Built left → Built right → Built (both left right)
  | either {left right : Filter} : Built left → Built right → Built (either left right)

namespace Operator

@[simp] theorem named?_name (o : Operator) : named? o.name = some o := by
  cases o with
  | join j => cases j <;> rfl
  | test t => cases t <;> rfl

theorem name_of_named? {name : String} {o : Operator} (named : named? name = some o) :
    name = o.name := by
  have matches' := List.find?_some (p := fun o => Operator.name o == name) named
  exact (beq_iff_eq.mp matches').symm

theorem name_injective {o o' : Operator} (same : o.name = o'.name) : o = o' := by
  have := named?_name o
  rw [same,named?_name] at this
  exact (Option.some.inj this).symm

end Operator

/-! ## One node -/

theorem str?_eq_some {s : String} : v.str? = some s ↔ v = .str s := by
  cases v <;> simp [Json.str?]

theorem named_member {key s : String} :
    (ms.get? key).bind Json.str? = some s ↔ ms.get? key = some (.str s) := by
  simp [Option.bind_eq_some_iff,str?_eq_some]

section

variable {operand : String → Option (Option String)}

/-- A node that passes the check has three members and a known operator. -/
theorem operator_of_fault (faultless : fault ms operand = none) :
    ms.length = 3 ∧ ∃ o : Operator, ms.get? opKey = some (.str o.name) := by
  simp only [fault] at faultless
  split at faultless
  · cases faultless
  next three =>
  refine ⟨not_not.mp three,?_⟩
  split at faultless
  · cases faultless
  next name operator =>
  have operator := named_member.mp operator
  cases named : Operator.named? name with
  | none => simp [named] at faultless
  | some o => exact ⟨o,Operator.name_of_named? named ▸ operator⟩

theorem fault_test {t : Test} (three : ms.length = 3)
    (operator : ms.get? opKey = some (.str (Operator.test t).name)) :
    fault ms operand = none ↔ (∃ path, ms.get? pathKey = some (.str path)) ∧
      ∃ literal, ms.get? literalKey = some literal := by
  have path : (∃ path, ms.get? pathKey = some (.str path)) ↔
      ((ms.get? pathKey).bind Json.str?).isSome := by
    simp only [Option.isSome_iff_exists,named_member]
  rw [path,← Option.isSome_iff_exists,fault,if_neg (not_not.mpr three),named_member.mpr operator]
  cases (ms.get? pathKey).bind Json.str? <;> cases ms.get? literalKey <;> simp

theorem fault_join {j : Join} (three : ms.length = 3)
    (operator : ms.get? opKey = some (.str (Operator.join j).name)) :
    fault ms operand = none ↔ operand leftKey = some none ∧ operand rightKey = some none := by
  rw [fault,if_neg (not_not.mpr three),named_member.mpr operator]
  rcases left : operand leftKey with _ | _ | _ <;> rcases right : operand rightKey with _ | _ | _ <;>
    simp [left,right]

/-- Of a node that passes the check, everything that its operator asks for is known. -/
theorem fault_eq_none : fault ms operand = none ↔ ms.length = 3 ∧
    ((∃ t path literal, ms.get? opKey = some (.str (Operator.test t).name) ∧
      ms.get? pathKey = some (.str path) ∧ ms.get? literalKey = some literal) ∨
    ∃ j, ms.get? opKey = some (.str (Operator.join j).name) ∧
      operand leftKey = some none ∧ operand rightKey = some none) := by
  constructor
  · intro faultless
    obtain ⟨three,o,operator⟩ := operator_of_fault faultless
    refine ⟨three,?_⟩
    cases o with
    | test t =>
      obtain ⟨⟨path,key⟩,literal,value⟩ := (fault_test three operator).mp faultless
      exact .inl ⟨t,path,literal,operator,key,value⟩
    | join j => exact .inr ⟨j,operator,(fault_join three operator).mp faultless⟩
  · rintro ⟨three,⟨t,path,literal,operator,key,value⟩ | ⟨j,operator,operands⟩⟩
    · exact (fault_test three operator).mpr ⟨⟨path,key⟩,literal,value⟩
    · exact (fault_join three operator).mpr operands

end

/-! ## Acceptance -/

/-- Whether no object that a check comes to has a fault. -/
def Faultless (v : Json) : Prop := Json.foldObjects fault v = some none

theorem ofJson_eq_ok : ofJson v = .ok f ↔ f.toJson = v ∧ Faultless v := by
  cases v with
  | obj ms =>
    obtain ⟨node⟩ := f
    simp only [ofJson,Faultless,toJson,Json.foldObjects_obj,Option.join_some,Json.obj.injEq,
      Option.some.injEq]
    split
    next faultless => simp [faultless,eq_comm]
    next reason faulty => simp [faulty]
  | _ => simp [ofJson,Faultless,Json.foldObjects]

theorem ofJson_toJson (faultless : Faultless f.toJson) : ofJson f.toJson = .ok f :=
  ofJson_eq_ok.mpr ⟨rfl,faultless⟩

theorem faultless_obj : Faultless (.obj ms) ↔
    fault ms (fun key => (ms.get? key).bind (Json.foldObjects fault)) = none := by
  rw [Faultless,Json.foldObjects_obj,Option.some.injEq]

/-- Exactly the values that write an expression have no fault. -/
theorem faultless_iff : Faultless v ↔ ∃ e, Writes v e := by
  cases v with
  | obj ms =>
    induction ms using Json.objectInduction with
    | step ms ih =>
    have operand : ∀ key, (ms.get? key).bind (Json.foldObjects fault) = some none ↔
        ∃ a e, ms.get? key = some a ∧ Writes a e := by
      intro key
      rw [Option.bind_eq_some_iff]
      refine exists_congr fun a => ?_
      rw [exists_and_left]
      refine and_congr_right fun found => ?_
      cases a with
      | obj ns => exact ih key ns found
      | _ =>
        refine ⟨fun impossible => ?_,by rintro ⟨e,⟨⟩⟩⟩
        simp [Json.foldObjects] at impossible
    rw [faultless_obj,fault_eq_none,operand,operand]
    constructor
    · rintro ⟨three,⟨t,path,literal,operator,key,value⟩ |
        ⟨j,operator,⟨a,left,first,fore⟩,⟨b,right,second,hind⟩⟩⟩
      · exact ⟨_,.test three operator key value⟩
      · exact ⟨_,.join three operator first second fore hind⟩
    · rintro ⟨e,writes⟩
      cases writes with
      | test three operator key value => exact ⟨three,.inl ⟨_,_,_,operator,key,value⟩⟩
      | join three operator first second fore hind =>
        exact ⟨three,.inr ⟨_,operator,⟨_,_,first,fore⟩,⟨_,_,second,hind⟩⟩⟩
  | _ =>
    refine ⟨fun impossible => ?_,by rintro ⟨e,⟨⟩⟩⟩
    simp [Faultless,Json.foldObjects] at impossible

theorem accepted_iff : (∃ f, ofJson v = .ok f) ↔ ∃ e, Writes v e := by
  rw [← faultless_iff]
  constructor
  · rintro ⟨f,accepted⟩
    exact (ofJson_eq_ok.mp accepted).2
  · intro faultless
    cases v with
    | obj ms => exact ⟨⟨ms⟩,ofJson_eq_ok.mpr ⟨rfl,faultless⟩⟩
    | _ => simp [Faultless,Json.foldObjects] at faultless

/-- An accepted filter writes an expression. -/
theorem writes_of_accepted (accepted : ofJson v = .ok f) : ∃ e, Writes f.toJson e := by
  obtain ⟨rfl,faultless⟩ := ofJson_eq_ok.mp accepted
  exact faultless_iff.mp faultless

/-! ## The canonical form -/

/-- A value writes one expression only. -/
theorem Writes.unique (writes : Writes v e) (writes' : Writes v e') : e = e' := by
  induction writes generalizing e' with
  | test three operator key value =>
    cases writes' with
    | test _ operator' key' value' =>
      have same := Operator.name_injective
        (Json.str.inj (Option.some.inj (operator.symm.trans operator')))
      obtain rfl := Operator.test.inj same
      obtain rfl := Json.str.inj (Option.some.inj (key.symm.trans key'))
      obtain rfl := Option.some.inj (value.symm.trans value')
      rfl
    | join _ operator' =>
      have same := Operator.name_injective
        (Json.str.inj (Option.some.inj (operator.symm.trans operator')))
      cases same
  | join three operator first second fore hind ihFore ihHind =>
    cases writes' with
    | test _ operator' =>
      have same := Operator.name_injective
        (Json.str.inj (Option.some.inj (operator.symm.trans operator')))
      cases same
    | join _ operator' first' second' fore' hind' =>
      have same := Operator.name_injective
        (Json.str.inj (Option.some.inj (operator.symm.trans operator')))
      obtain rfl := Operator.join.inj same
      obtain rfl := Option.some.inj (first.symm.trans first')
      obtain rfl := Option.some.inj (second.symm.trans second')
      rw [ihFore fore',ihHind hind']

theorem writes_toJson (e : Expr) : Writes e.toJson e := by
  induction e with
  | test t path literal => exact .test rfl rfl rfl rfl
  | join j left right ihLeft ihRight => exact .join rfl rfl rfl rfl ihLeft ihRight

section

variable {t : Test} {j : Join} {path : String} {literal : Json} {left right : Filter}

theorem ascending_test : (test t path literal).node.Ascending :=
  Members.ascending_iff_keys.mpr (by decide : ["$key","$op","$val"].Pairwise (· < ·))

theorem ascending_join : (join j left right).node.Ascending :=
  Members.ascending_iff_keys.mpr (by decide : ["$filter_1","$filter_2","$op"].Pairwise (· < ·))

theorem ordered_test : (test t path literal).toJson.Ordered ↔ literal.Ordered := by
  rw [toJson,Json.ordered_obj,and_iff_right ascending_test]
  simp [test,Json.Ordered]

theorem ordered_join :
    (join j left right).toJson.Ordered ↔ left.toJson.Ordered ∧ right.toJson.Ordered := by
  rw [toJson,Json.ordered_obj,and_iff_right ascending_join]
  simp [join,Json.Ordered]

end

/-- An object in order that writes an expression is its canonical form. -/
theorem Writes.eq_toJson (writes : Writes v e) (sorted : v.Ordered) : v = e.toJson := by
  induction writes with
  | @test ms t path literal three operator key value =>
    have subset : (Filter.test t path literal).node ⊆ ms := by
      simp only [Filter.test,List.cons_subset,List.nil_subset,and_true]
      exact ⟨Members.mem_of_get? key,Members.mem_of_get? operator,Members.mem_of_get? value⟩
    exact congrArg Json.obj ((Json.ordered_obj.mp sorted).1.eq_of_subset
      ascending_test subset (Nat.le_of_eq three))
  | @join ms j a b left right three operator first second fore hind ihFore ihHind =>
    obtain rfl := ihFore (sorted.get? first)
    obtain rfl := ihHind (sorted.get? second)
    have subset : (Filter.join j left.toFilter right.toFilter).node ⊆ ms := by
      simp only [Filter.join,List.cons_subset,List.nil_subset,and_true]
      exact ⟨Members.mem_of_get? first,Members.mem_of_get? second,Members.mem_of_get? operator⟩
    exact congrArg Json.obj ((Json.ordered_obj.mp sorted).1.eq_of_subset
      ascending_join subset (Nat.le_of_eq three))

theorem Built.written (built : Built f) : ∃ e : Expr, f = e.toFilter := by
  induction built with
  | contains path literal => exact ⟨.test .contains path literal,rfl⟩
  | equals path literal => exact ⟨.test .equals path literal,rfl⟩
  | lower path literal => exact ⟨.test .below path literal,rfl⟩
  | higher path literal => exact ⟨.test .above path literal,rfl⟩
  | present path => exact ⟨.test .present path (.bool true),rfl⟩
  | absent path => exact ⟨.test .absent path (.bool false),rfl⟩
  | both _ _ ihLeft ihRight =>
    obtain ⟨left,rfl⟩ := ihLeft
    obtain ⟨right,rfl⟩ := ihRight
    exact ⟨.join .both left right,rfl⟩
  | either _ _ ihLeft ihRight =>
    obtain ⟨left,rfl⟩ := ihLeft
    obtain ⟨right,rfl⟩ := ihRight
    exact ⟨.join .either left right,rfl⟩

end Vicinity.Filter
