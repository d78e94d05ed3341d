import Vicinity.Proofs.Filter.Form
import Vicinity.Proofs.Json.Trees

/-! The language of filters. The check accepts the canonical forms of expressions and nothing else,
different expressions have different forms, what the building functions make is accepted, and an
accepted filter is read back from its text. -/
namespace Vicinity.Filter

variable {v : Json} {f : Filter} {e e' : Expr}

/-- Of the values in order, exactly the canonical forms are accepted. -/
theorem accepted_iff_toJson (sorted : v.Ordered) :
    (∃ f, ofJson v = .ok f) ↔ ∃ e : Expr, v = e.toJson := by
  rw [accepted_iff]
  constructor
  · rintro ⟨e,writes⟩
    exact ⟨e,writes.eq_toJson sorted⟩
  · rintro ⟨e,rfl⟩
    exact ⟨e,writes_toJson e⟩

theorem Expr.toJson_injective (same : e.toJson = e'.toJson) : e = e' :=
  (writes_toJson e).unique (same ▸ writes_toJson e')

theorem Built.accepted (built : Built f) : ofJson f.toJson = .ok f := by
  obtain ⟨e,rfl⟩ := built.written
  exact ofJson_toJson (faultless_iff.mpr ⟨e,writes_toJson e⟩)

/-- An accepted filter with integers for numbers is read back from its text. -/
theorem parse_text (accepted : ofJson v = .ok f) (sorted : v.Ordered) (integral : v.Integral)
    (shallow : v.depth ≤ 127) : parse f.text = .ok f := by
  obtain ⟨rfl,faultless⟩ := ofJson_eq_ok.mp accepted
  have read : Json.parse? f.text = some f.toJson := Json.parse?_compact integral sorted shallow
  rw [parse,read]
  exact accepted

theorem accepts_expressions :
    (∀ v, (∃ f, ofJson v = .ok f) ↔ ∃ e, Writes v e) ∧
    (∀ v, v.Ordered → ((∃ f, ofJson v = .ok f) ↔ ∃ e : Expr, v = e.toJson)) ∧
    (∀ e e' : Expr, e.toJson = e'.toJson → e = e') ∧
    (∀ f, Built f → ofJson f.toJson = .ok f) ∧
    ∀ v f, ofJson v = .ok f → v.Ordered → v.Integral → v.depth ≤ 127 →
      parse f.text = .ok f :=
  ⟨fun _ => accepted_iff,fun _ => accepted_iff_toJson,fun _ _ => Expr.toJson_injective,
    fun _ => Built.accepted,fun _ _ => parse_text⟩

theorem accepts_expressions_guide :
    let guide := either (equals "role" (.str "guide")) (above "$.age" (.int 30))
    guide.toJson.Ordered ∧ guide.toJson.Integral ∧ guide.toJson.depth = 2 ∧
      (∃ e : Expr, guide.toJson = e.toJson) ∧ parse guide.text = .ok guide := by
  intro guide
  have sorted : guide.toJson.Ordered :=
    ordered_join.mpr ⟨ordered_test.mpr trivial,ordered_test.mpr trivial⟩
  have integral : guide.toJson.Integral := by
    simp [guide,toJson,either,equals,above,join,test,Json.Integral,Json.IntegralMembers,Json.int,
      Number.inRange]
  have accepted : ofJson guide.toJson = .ok guide :=
    accepts_expressions.2.2.2.1 guide (.either (.equals ..) (.higher ..))
  exact ⟨sorted,integral,rfl,(accepts_expressions.2.1 _ sorted).mp ⟨guide,accepted⟩,
    accepts_expressions.2.2.2.2 _ guide accepted sorted integral (by decide)⟩

end Vicinity.Filter
