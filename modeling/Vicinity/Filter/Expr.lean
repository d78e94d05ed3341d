import Vicinity.Filter

/-! Filters as expression trees: what a filter means, and how it is written. -/
namespace Vicinity.Filter

inductive Expr where
  | test (t : Test) (path : String) (literal : Json)
  | join (j : Join) (left right : Expr)

namespace Expr

/-- A combination is the conjunction or the disjunction of its operands. -/
def holds (properties : Members) : Expr → Bool
  | .test t path literal => t.holds (resolve properties path) literal
  | .join .both left right => left.holds properties && right.holds properties
  | .join .either left right => left.holds properties || right.holds properties

/-- The canonical written form. -/
def toFilter : Expr → Filter
  | .test t path literal => Filter.test t path literal
  | .join j left right => Filter.join j left.toFilter right.toFilter

def toJson (e : Expr) : Json := e.toFilter.toJson

end Expr

end Vicinity.Filter
