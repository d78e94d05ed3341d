import Vicinity.Group
import Vicinity.Proofs.Filter.Meaning

/-! Malformed filters. A filter may come from elsewhere without being checked, and evaluation
finds a fault only where it comes to it: a combination that its left operand settles does not look
at its right one. A malformed filter lets properties through in that case and in no other. -/
namespace Vicinity.Filter

variable {p ms : Members} {v : Json} {b : Bool} {cause : ValidationError}

/-- Evaluation of a written filter comes to a verdict on the properties. -/
inductive Settles (p : Members) : Json → Bool → Prop
  | test {ms : Members} {t : Test} {path : String} {literal : Json} (three : ms.length = 3)
      (operator : operator? ms = some (.test t)) (key : ms.get? pathKey = some (.str path))
      (value : ms.get? literalKey = some literal) :
      Settles p (.obj ms) (t.holds (resolve p path) literal)
  | decided {ms : Members} {j : Join} {a : Json} (three : ms.length = 3)
      (operator : operator? ms = some (.join j)) (first : ms.get? leftKey = some a)
      (fore : Settles p a j.decisive) : Settles p (.obj ms) j.decisive
  | passed {ms : Members} {j : Join} {a c : Json} {b : Bool} (three : ms.length = 3)
      (operator : operator? ms = some (.join j)) (first : ms.get? leftKey = some a)
      (fore : Settles p a !j.decisive) (second : ms.get? rightKey = some c)
      (hind : Settles p c b) : Settles p (.obj ms) b

/-- Evaluation of one written filter comes to another inside. -/
inductive Reached (p : Members) : Json → Json → Prop
  | root {v : Json} : Reached p v v
  | fore {ms : Members} {j : Join} {a n : Json} (operator : operator? ms = some (.join j))
      (first : ms.get? leftKey = some a) (inside : Reached p a n) : Reached p (.obj ms) n
  | hind {ms : Members} {j : Join} {a c n : Json} (operator : operator? ms = some (.join j))
      (first : ms.get? leftKey = some a) (fore : Settles p a !j.decisive)
      (second : ms.get? rightKey = some c) (inside : Reached p c n) : Reached p (.obj ms) n

/-- A combination that its left operand settles while its right one is missing or malformed. -/
def Skips (p : Members) (v : Json) : Prop :=
  ∃ (ms : Members) (j : Join) (a : Json), v = .obj ms ∧ operator? ms = some (.join j) ∧
    ms.get? leftKey = some a ∧ Settles p a j.decisive ∧
    ∀ c, ms.get? rightKey = some c → ∃ cause, ofJson c = .error cause

theorem ofJson_eq_error : (∃ cause, ofJson v = .error cause) ↔ ¬Faultless v := by
  rw [faultless_iff,← accepted_iff]
  cases ofJson v <;> simp

theorem verdict_eq_some {operand : String → Option (Option Bool)} :
    verdict p ms operand = some b ↔ ms.length = 3 ∧
      ((∃ t path literal, operator? ms = some (.test t) ∧ ms.get? pathKey = some (.str path) ∧
        ms.get? literalKey = some literal ∧ t.holds (resolve p path) literal = b) ∨
      ∃ j, operator? ms = some (.join j) ∧
        ((operand leftKey).join = some j.decisive ∧ j.decisive = b ∨
          (operand leftKey).join = some (!j.decisive) ∧ (operand rightKey).join = some b)) := by
  by_cases three : ms.length = 3
  swap
  · simp [verdict,three]
  cases operator : operator? ms with
  | none => simp [verdict,three,operator]
  | some o =>
    cases o with
    | join j =>
      rw [verdict_join three operator]
      cases left : (operand leftKey).join with
      | none => simp
      | some l => cases l <;> cases j <;> simp [three,Join.decisive]
    | test t =>
      cases key : (ms.get? pathKey).bind Json.str? with
      | none =>
        have unnamed : ∀ path, ms.get? pathKey ≠ some (.str path) := fun path found => by
          rw [named_member.mpr found] at key
          cases key
        simp [verdict,three,operator,key,unnamed]
      | some path =>
        cases value : ms.get? literalKey with
        | none => simp [verdict,three,operator,key,value]
        | some literal =>
          rw [verdict_test three operator (named_member.mp key) value]
          simp [three,named_member.mp key]

theorem foldObjects_verdict : (Json.foldObjects (verdict p) v).join = some b ↔ Settles p v b := by
  cases v with
  | obj ms =>
    induction ms using Json.objectInduction generalizing b with
    | step ms ih =>
    have operand : ∀ key b, ((ms.get? key).bind (Json.foldObjects (verdict p))).join = some b ↔
        ∃ a, ms.get? key = some a ∧ Settles p a b := by
      intro key b
      cases found : ms.get? key with
      | none => simp
      | some a =>
        cases a with
        | obj ns => simp [ih key ns found]
        | _ =>
          refine ⟨fun impossible => ?_,?_⟩
          · simp [Json.foldObjects] at impossible
          · rintro ⟨_,same,settles⟩
            obtain rfl := Option.some.inj same
            cases settles
    rw [Json.foldObjects_obj,Option.join_some,verdict_eq_some]
    simp only [operand]
    constructor
    · rintro ⟨three,⟨t,path,literal,operator,key,value,rfl⟩ |
        ⟨j,operator,⟨⟨a,first,fore⟩,rfl⟩ | ⟨⟨a,first,fore⟩,c,second,hind⟩⟩⟩
      · exact .test three operator key value
      · exact .decided three operator first fore
      · exact .passed three operator first fore second hind
    · intro settles
      cases settles with
      | test three operator key value =>
        exact ⟨three,.inl ⟨_,_,_,operator,key,value,rfl⟩⟩
      | decided three operator first fore =>
        exact ⟨three,.inr ⟨_,operator,.inl ⟨⟨_,first,fore⟩,rfl⟩⟩⟩
      | passed three operator first fore second hind =>
        exact ⟨three,.inr ⟨_,operator,.inr ⟨⟨_,first,fore⟩,_,second,hind⟩⟩⟩
  | _ =>
    refine ⟨fun impossible => ?_,fun settles => by cases settles⟩
    simp [Json.foldObjects] at impossible

theorem evaluate_iff {f : Filter} : f.evaluate p = true ↔ Settles p f.toJson true := by
  rw [evaluate_eq,← foldObjects_verdict,outcome]
  cases (Json.foldObjects (verdict p) f.toJson).join <;> simp

theorem faultless_test {t : Test} {path : String} {literal : Json} (three : ms.length = 3)
    (operator : operator? ms = some (.test t)) (key : ms.get? pathKey = some (.str path))
    (value : ms.get? literalKey = some literal) : Faultless (.obj ms) :=
  faultless_iff.mpr ⟨_,.test three (operator?_eq.mp operator) key value⟩

theorem faultless_join {j : Join} {a c : Json} (three : ms.length = 3)
    (operator : operator? ms = some (.join j)) (first : ms.get? leftKey = some a)
    (second : ms.get? rightKey = some c) (fore : Faultless a) (hind : Faultless c) :
    Faultless (.obj ms) := by
  obtain ⟨left,fore⟩ := faultless_iff.mp fore
  obtain ⟨right,hind⟩ := faultless_iff.mp hind
  exact faultless_iff.mpr ⟨_,.join three (operator?_eq.mp operator) first second fore hind⟩

/-- A malformed filter comes to a verdict only because a fault of it was not looked at. -/
theorem Settles.skips (settles : Settles p v b) (malformed : ¬Faultless v) :
    ∃ n, Reached p v n ∧ Skips p n := by
  induction settles with
  | test three operator key value =>
    exact absurd (faultless_test three operator key value) malformed
  | @decided ms j a three operator first fore ih =>
    by_cases sound : Faultless a
    · refine ⟨.obj ms,.root,ms,j,a,rfl,operator,first,fore,fun c second => ?_⟩
      exact ofJson_eq_error.mpr fun hind =>
        malformed (faultless_join three operator first second sound hind)
    · obtain ⟨n,inside,skips⟩ := ih sound
      exact ⟨n,.fore operator first inside,skips⟩
  | @passed ms j a c b three operator first fore second hind ihFore ihHind =>
    by_cases sound : Faultless a
    · have faulty : ¬Faultless c := fun hind =>
        malformed (faultless_join three operator first second sound hind)
      obtain ⟨n,inside,skips⟩ := ihHind faulty
      exact ⟨n,.hind operator first fore second inside,skips⟩
    · obtain ⟨n,inside,skips⟩ := ihFore sound
      exact ⟨n,.fore operator first inside,skips⟩

/-- A malformed filter lets properties through if and only if evaluation passes over each of its
faults and the rest holds; a group with such a filter has members in that case only. -/
theorem malformed_passes_iff (malformed : ofJson (.obj ms) = .error cause) :
    (∀ p, (⟨ms⟩ : Filter).evaluate p = true ↔
      Settles p (.obj ms) true ∧ ∃ n, Reached p (.obj ms) n ∧ Skips p n) ∧
    ∀ (g : Group) (x : Entity), g.filter = some ⟨ms⟩ → g.contains x = true →
      ∃ n, Reached x.properties (.obj ms) n ∧ Skips x.properties n := by
  have faulty : ¬Faultless (.obj ms) := ofJson_eq_error.mp ⟨cause,malformed⟩
  have passes : ∀ p, (⟨ms⟩ : Filter).evaluate p = true ↔
      Settles p (.obj ms) true ∧ ∃ n, Reached p (.obj ms) n ∧ Skips p n := by
    intro p
    rw [evaluate_iff]
    exact ⟨fun settles => ⟨settles,settles.skips faulty⟩,And.left⟩
  refine ⟨passes,fun g x filter member => ?_⟩
  have holds : (⟨ms⟩ : Filter).evaluate x.properties = true := by
    simp only [Group.contains,filter,Option.all_some,Bool.and_eq_true] at member
    exact member.2
  exact ((passes x.properties).mp holds).2

/-- A choice between the presence of a property and nothing at all. -/
def openChoice : Members :=
  [(leftKey,(present "a").toJson),(rightKey,.obj []),(opKey,.str (Operator.join .either).name)]

theorem malformed_passes_iff_choice : ∃ cause, ofJson (.obj openChoice) = .error cause ∧
    ((⟨openChoice⟩ : Filter).evaluate [("a",.int 1)] = true ↔
      Settles [("a",.int 1)] (.obj openChoice) true ∧
        ∃ n, Reached [("a",.int 1)] (.obj openChoice) n ∧ Skips [("a",.int 1)] n) := by
  have malformed : ofJson (.obj openChoice) = .error _ := rfl
  exact ⟨_,malformed,(malformed_passes_iff malformed).1 _⟩

/-- Without its right operand the choice is malformed, and lets its left one through. -/
theorem malformed_choice_passes :
    ofJson (.obj openChoice) = .error (.invalidFilter "node must have 3 keys, found 0") ∧
      (⟨openChoice⟩ : Filter).evaluate [("a",.int 1)] = true ∧
      ((Group.everyone "open").withFilter ⟨openChoice⟩).contains
        ⟨.of "x",.device,.unknown,[("a",.int 1)]⟩ = true :=
  ⟨rfl,rfl,rfl⟩

end Vicinity.Filter
