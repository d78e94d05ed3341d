import Vicinity.Proofs.Filter.Form

/-! What a filter demands of properties. A test asks about the value that its path leads to, and a
combination says what its operator makes of its operands. An accepted filter always comes to a
verdict, and the verdict is whether its demand is met. -/
namespace Vicinity

namespace Json

mutual

/-- Values of one shape whose parts are equal, doubles as numbers. -/
inductive Alike : Json → Json → Prop
  | null : Alike .null .null
  | bool (b : Bool) : Alike (.bool b) (.bool b)
  | int (i : Int) : Alike (.num (.int i)) (.num (.int i))
  | float {x y : Float} (equal : (x == y) = true) : Alike (.num (.float x)) (.num (.float y))
  | str (s : String) : Alike (.str s) (.str s)
  | arr {xs ys : List Json} (items : AlikeItems xs ys) : Alike (.arr xs) (.arr ys)
  | obj {ms ns : Members} (members : AlikeMembers ms ns) : Alike (.obj ms) (.obj ns)

inductive AlikeItems : List Json → List Json → Prop
  | nil : AlikeItems [] []
  | cons {x y : Json} {xs ys : List Json} (first : Alike x y) (rest : AlikeItems xs ys) :
      AlikeItems (x :: xs) (y :: ys)

inductive AlikeMembers : Members → Members → Prop
  | nil : AlikeMembers [] []
  | cons (key : String) {v w : Json} {ms ns : Members} (first : Alike v w)
      (rest : AlikeMembers ms ns) : AlikeMembers ((key,v) :: ms) ((key,w) :: ns)

end

mutual

theorem alike_of_beq {a b : Json} (equal : a.beq b = true) : Alike a b := by
  cases a <;> cases b <;> simp only [beq,Bool.false_eq_true] at equal
  case null => exact .null
  case bool a b => exact eq_of_beq equal ▸ .bool a
  case num a b =>
    cases a with
    | int i =>
      cases b with
      | int j => exact eq_of_beq (α := Int) equal ▸ .int i
      | float y => cases equal
    | float x =>
      cases b with
      | int j => cases equal
      | float y => exact .float equal
  case str a b => exact eq_of_beq equal ▸ .str a
  case arr => exact .arr (alikeItems_of_beq equal)
  case obj => exact .obj (alikeMembers_of_beq equal)

theorem alikeItems_of_beq {xs ys : List Json} (equal : beqItems xs ys = true) :
    AlikeItems xs ys := by
  cases xs <;> cases ys <;> simp only [beqItems,Bool.false_eq_true,Bool.and_eq_true] at equal
  case nil => exact .nil
  case cons => exact .cons (alike_of_beq equal.1) (alikeItems_of_beq equal.2)

theorem alikeMembers_of_beq {ms ns : Members} (equal : beqMembers ms ns = true) :
    AlikeMembers ms ns := by
  cases ms <;> cases ns <;> simp only [beqMembers,Bool.false_eq_true] at equal
  case nil => exact .nil
  case cons m ms n ns =>
    obtain ⟨key,v⟩ := m
    obtain ⟨key',w⟩ := n
    simp only [Bool.and_eq_true] at equal
    obtain rfl := eq_of_beq equal.1.1
    exact .cons key (alike_of_beq equal.1.2) (alikeMembers_of_beq equal.2)

end

mutual

theorem Alike.beq {a b : Json} (alike : Alike a b) : a.beq b = true := by
  cases alike with
  | null => rfl
  | bool b => simp [Json.beq]
  | int i => simp [Json.beq,BEq.beq,Number.beq]
  | float equal => exact equal
  | str s => simp [Json.beq]
  | arr items => simpa only [Json.beq] using items.beq
  | obj members => simpa only [Json.beq] using members.beq

theorem AlikeItems.beq {xs ys : List Json} (alike : AlikeItems xs ys) :
    beqItems xs ys = true := by
  cases alike with
  | nil => rfl
  | cons first rest => simp [beqItems,first.beq,rest.beq]

theorem AlikeMembers.beq {ms ns : Members} (alike : AlikeMembers ms ns) :
    beqMembers ms ns = true := by
  cases alike with
  | nil => rfl
  | cons key first rest => simp [beqMembers,first.beq,rest.beq]

end

/-- Equality compares part by part. -/
theorem beq_iff_alike {a b : Json} : (a == b) = true ↔ Alike a b :=
  ⟨alike_of_beq,Alike.beq⟩

/-- Walking along names through nested objects ends at a value. -/
inductive Leads : Json → List String → Json → Prop
  | here {v : Json} : Leads v [] v
  | member {ms : Members} {name : String} {names : List String} {v w : Json}
      (found : ms.get? name = some v) (on : Leads v names w) : Leads (.obj ms) (name :: names) w

end Json

namespace Filter

variable {p : Members} {path : String} {literal v : Json} {f : Filter} {e : Expr}

/-- A path without its root. -/
def unrooted (path : String) : List Char :=
  if ['$','.'] <+: path.toList ∨ ['@','.'] <+: path.toList then path.toList.drop 2 else path.toList

/-- The path leads to the value among the properties: the names between its dots do. -/
def At (p : Members) (path : String) (v : Json) : Prop :=
  Json.Leads (.obj p) (((unrooted path).splitOn '.').map String.ofList) v

/-- Two numbers are equal as doubles, other values part by part. -/
inductive Equal : Json → Json → Prop
  | number {a b : Number} (equal : (a.toFloat == b.toFloat) = true) : Equal (.num a) (.num b)
  | other {v w : Json} (different : v.num? = none ∨ w.num? = none) (alike : v.Alike w) : Equal v w

/-- What a test asks of the values that a path leads to. -/
def Test.Asks (literal : Json) (leads : Json → Prop) : Test → Prop
  | .present => ∃ v, leads v
  | .absent => ¬∃ v, leads v
  | .equals => ∃ v, leads v ∧ Equal v literal
  | .contains =>
    (∃ s needle, leads (.str s) ∧ literal = .str needle ∧ needle.toList <:+: s.toList) ∨
      ∃ items, leads (.arr items) ∧ ∃ v ∈ items, Equal v literal
  | .below => ∃ a b, leads (.num a) ∧ literal = .num b ∧ a.toFloat < b.toFloat
  | .above => ∃ a b, leads (.num a) ∧ literal = .num b ∧ a.toFloat > b.toFloat

/-- What an expression demands of properties. -/
def Expr.Demands (p : Members) : Expr → Prop
  | .test t path literal => t.Asks literal (At p path)
  | .join .both left right => left.Demands p ∧ right.Demands p
  | .join .either left right => left.Demands p ∨ right.Demands p

/-! ## Tests -/

theorem split_eq_splitOn (c : Char) (cs : List Char) : Text.split c cs = cs.splitOn c := by
  induction cs with
  | nil => rfl
  | cons d cs ih =>
    rw [Text.split,ih]
    simp only [List.splitOn,List.splitOnP_cons_eq_if_modifyHead,beq_iff_eq]
    split
    · rfl
    · cases split : cs.splitOnP (· == c) with
      | nil => exact absurd split (List.splitOnP_ne_nil _ cs)
      | cons part parts => rfl

theorem pathNames_eq (path : String) :
    pathNames path = ((unrooted path).splitOn '.').map String.ofList := by
  simp only [pathNames,unrooted,split_eq_splitOn]
  congr 2
  split
  next cs dollar => simp [dollar]
  next cs at' => simp [at']
  next other dollar at' =>
    rw [if_neg]
    rintro (⟨cs,same⟩ | ⟨cs,same⟩)
    · exact dollar cs same.symm
    · exact at' cs same.symm

theorem walk_iff {names : List String} {j : Json} : walk j names = some v ↔ j.Leads names v := by
  induction names generalizing j with
  | nil =>
    refine ⟨fun found => ?_,fun leads => ?_⟩
    · obtain rfl := Option.some.inj found
      exact .here
    · cases leads
      rfl
  | cons name names ih =>
    refine ⟨fun found => ?_,fun leads => ?_⟩
    · cases j with
      | obj ms =>
        obtain ⟨w,first,on⟩ := Option.bind_eq_some_iff.mp found
        exact .member first (ih.mp on)
      | _ => cases found
    · cases leads with
      | member first on => exact Option.bind_eq_some_iff.mpr ⟨_,first,ih.mpr on⟩

theorem resolve_iff : resolve p path = some v ↔ At p path v := by
  rw [resolve,walk_iff,At,pathNames_eq]

theorem sameValue_other {v w : Json} (different : v.num? = none ∨ w.num? = none) :
    sameValue v w = (v == w) := by
  cases v with
  | num a =>
    cases w with
    | num b => simp [Json.num?] at different
    | _ => rfl
  | _ => rfl

theorem sameValue_iff {v w : Json} : sameValue v w = true ↔ Equal v w := by
  constructor
  · intro same
    by_cases different : v.num? = none ∨ w.num? = none
    · rw [sameValue_other different] at same
      exact .other different (Json.beq_iff_alike.mp same)
    · cases v with
      | num a =>
        cases w with
        | num b => exact .number same
        | _ => exact absurd (.inr rfl) different
      | _ => exact absurd (.inl rfl) different
  · intro equal
    cases equal with
    | number equal => exact equal
    | other different alike =>
      rw [sameValue_other different]
      exact Json.beq_iff_alike.mpr alike

theorem occurs_iff {needle cs : List Char} : occurs needle cs = true ↔ needle <:+: cs := by
  induction cs with
  | nil => simp [occurs]
  | cons c cs ih => simp [occurs,ih,List.infix_cons_iff]

theorem Test.holds_iff {t : Test} {found : Option Json} :
    t.holds found literal = true ↔ t.Asks literal (found = some ·) := by
  cases t with
  | present => exact Option.isSome_iff_exists
  | absent => simp [Test.holds,Test.Asks,Option.eq_none_iff_forall_ne_some]
  | equals =>
    cases found with
    | none => simp [Test.holds,Test.Asks]
    | some v => simp [Test.holds,Test.Asks,sameValue_iff]
  | contains =>
    cases found with
    | none => simp [Test.holds,Test.Asks]
    | some v =>
      cases v with
      | str s => cases literal <;> simp [Test.holds,Test.Asks,occurs_iff]
      | arr items => simp [Test.holds,Test.Asks,sameValue_iff]
      | _ => simp [Test.holds,Test.Asks]
  | below =>
    cases found with
    | none => simp [Test.holds,Test.Asks]
    | some v => cases v <;> cases literal <;> simp [Test.holds,Test.Asks]
  | above =>
    cases found with
    | none => simp [Test.holds,Test.Asks]
    | some v => cases v <;> cases literal <;> simp [Test.holds,Test.Asks]

theorem Expr.holds_iff : e.holds p = true ↔ e.Demands p := by
  induction e with
  | test t path literal =>
    have leads : (resolve p path = some ·) = At p path := funext fun v => propext resolve_iff
    rw [Expr.holds,Test.holds_iff,leads,Expr.Demands]
  | join j left right ihLeft ihRight =>
    cases j
    · rw [Expr.holds,Bool.and_eq_true,ihLeft,ihRight,Expr.Demands]
    · rw [Expr.holds,Bool.or_eq_true,ihLeft,ihRight,Expr.Demands]

/-! ## Verdicts -/

/-- What evaluation comes to; a malformed filter may leave it without a verdict. -/
def outcome (f : Filter) (p : Members) : Option Bool :=
  (Json.foldObjects (verdict p) f.toJson).join

theorem evaluate_eq (f : Filter) (p : Members) : f.evaluate p = (f.outcome p).getD false := rfl

theorem operator?_eq {ms : Members} {o : Operator} :
    operator? ms = some o ↔ ms.get? opKey = some (.str o.name) := by
  rw [operator?,Option.bind_eq_some_iff]
  constructor
  · rintro ⟨name,operator,named⟩
    rw [named_member.mp operator,Operator.name_of_named? named]
  · intro operator
    exact ⟨o.name,named_member.mpr operator,Operator.named?_name o⟩

theorem verdict_test {ms : Members} {t : Test} {operand : String → Option (Option Bool)}
    (three : ms.length = 3) (operator : operator? ms = some (.test t))
    (key : ms.get? pathKey = some (.str path)) (value : ms.get? literalKey = some literal) :
    verdict p ms operand = some (t.holds (resolve p path) literal) := by
  simp [verdict,three,operator,key,value,Json.str?]

/-- The side of a combination on which one operand settles it. -/
def Join.decisive : Join → Bool
  | .both => false
  | .either => true

theorem verdict_join {ms : Members} {j : Join} {operand : String → Option (Option Bool)}
    (three : ms.length = 3) (operator : operator? ms = some (.join j)) :
    verdict p ms operand = (operand leftKey).join.bind fun b =>
      if b = j.decisive then some b else (operand rightKey).join := by
  cases j <;> cases left : (operand leftKey).join with
  | none => simp [verdict,three,operator,left]
  | some b => cases b <;> simp [verdict,three,operator,left,Join.decisive]

/-- A value that writes an expression is given the verdict that the expression has. -/
theorem Writes.verdict (writes : Writes v e) :
    Json.foldObjects (verdict p) v = some (some (e.holds p)) := by
  induction writes with
  | test three operator key value =>
    rw [Json.foldObjects_obj,verdict_test three (operator?_eq.mpr operator) key value,Expr.holds]
  | @join ms j a b left right three operator first second fore hind ihFore ihHind =>
    rw [Json.foldObjects_obj,verdict_join three (operator?_eq.mpr operator)]
    simp only [first,second,Option.bind_some,ihFore,ihHind,Option.join_some]
    cases j <;> cases verdict : left.holds p <;> simp [Expr.holds,Join.decisive,verdict]

theorem Writes.outcome (writes : Writes f.toJson e) (p : Members) :
    f.outcome p = some (e.holds p) := by
  rw [Filter.outcome,writes.verdict,Option.join_some]

theorem Writes.evaluate (writes : Writes f.toJson e) (p : Members) :
    f.evaluate p = e.holds p := by
  rw [evaluate_eq,writes.outcome,Option.getD_some]

/-- A filter means the expression that it is written from. -/
structure Means (f : Filter) (e : Expr) : Prop where
  written : Writes f.toJson e
  /-- Evaluation never meets anything malformed. -/
  settled : ∀ p, f.outcome p = some (f.evaluate p)
  meaning : ∀ p, f.evaluate p = true ↔ e.Demands p
  /-- A combination comes to what its own operands come to. -/
  combined : ∀ j (left right : Filter), f.rootOperator? = some (.join j) →
    f.node.get? leftKey = some left.toJson → f.node.get? rightKey = some right.toJson →
    ∀ p, f.evaluate p = (match j with
      | .both => left.evaluate p && right.evaluate p
      | .either => left.evaluate p || right.evaluate p)
  swapped : ∀ j left right, e = .join j left right →
    ∀ p, f.evaluate p = (Expr.join j right left).toFilter.evaluate p
  opposite : ∀ path literal, e = .test .absent path literal →
    ∀ p, f.evaluate p = !(present path).evaluate p
  unfound : ∀ t path literal, e = .test t path literal → t ≠ .absent →
    ∀ p, (∀ v, ¬At p path v) → f.evaluate p = false

/-- Only the test for absence passes where a path leads nowhere. -/
theorem Test.not_asks {t : Test} (different : t ≠ .absent) {leads : Json → Prop}
    (nowhere : ∀ v, ¬leads v) : ¬t.Asks literal leads := by
  cases t with
  | absent => exact absurd rfl different
  | _ => simp [Test.Asks,nowhere]

theorem Writes.means (writes : Writes f.toJson e) : Means f e where
  written := writes
  settled p := by rw [writes.outcome,writes.evaluate]
  meaning p := by rw [writes.evaluate,Expr.holds_iff]
  combined j left right operator first second p := by
    have operator := operator?_eq.mp operator
    obtain ⟨ms⟩ := f
    cases writes with
    | test _ operator' =>
      have same := Operator.name_injective
        (Json.str.inj (Option.some.inj (operator.symm.trans operator')))
      cases same
    | join three operator' first' second' fore hind =>
      have same := Operator.name_injective
        (Json.str.inj (Option.some.inj (operator.symm.trans operator')))
      obtain rfl := Operator.join.inj same
      obtain rfl := Option.some.inj (first.symm.trans first')
      obtain rfl := Option.some.inj (second.symm.trans second')
      rw [Writes.evaluate (.join three operator' first' second' fore hind),fore.evaluate,
        hind.evaluate]
      cases j <;> rfl
  swapped j left right same p := by
    rw [writes.evaluate,(writes_toJson (.join j right left)).evaluate,same]
    cases j
    · exact Bool.and_comm ..
    · exact Bool.or_comm ..
  opposite path literal same p := by
    have other : (present path).evaluate p = (resolve p path).isSome :=
      (writes_toJson (.test .present path (.bool true))).evaluate p
    rw [writes.evaluate,other,same]
    exact (Option.not_isSome _).symm
  unfound t path literal same different p nowhere := by
    rw [writes.evaluate,← Bool.not_eq_true,Expr.holds_iff,same]
    exact t.not_asks different nowhere

theorem filter_means (accepted : (∃ v, ofJson v = .ok f) ∨ Built f) : ∃ e, Means f e := by
  rcases accepted with ⟨v,accepted⟩ | built
  · obtain ⟨e,writes⟩ := writes_of_accepted accepted
    exact ⟨e,writes.means⟩
  · obtain ⟨e,rfl⟩ := built.written
    exact ⟨e,(writes_toJson e).means⟩

theorem filter_means_guide :
    ∃ e, Means (either (equals "role" (.str "guide")) (above "$.age" (.int 30))) e :=
  filter_means (.inr (.either (.equals ..) (.higher ..)))

end Filter

end Vicinity
