import Vicinity.Json.Decoder
import Vicinity.Json.Fold
import Vicinity.Json.Printer
import Vicinity.Text.Split

/-! Filters over the properties of an entity. A filter travels as the JSON object that it is
written in: a test is written with an operator, a path and a literal, and a combination with an
operator and two operands. A filter that came from elsewhere may be malformed, and then it
lets nothing through at the places that evaluation reaches. -/
namespace Vicinity

namespace Filter

inductive Test where
  | contains
  | equals
  | present
  | absent
  | below
  | above
  deriving DecidableEq

inductive Join where
  | both
  | either
  deriving DecidableEq

inductive Operator where
  | join (j : Join)
  | test (t : Test)
  deriving DecidableEq

namespace Operator

def all : List Operator :=
  [.join .both, .join .either, .test .contains, .test .equals, .test .present, .test .absent,
    .test .below, .test .above]

def name : Operator → String
  | .join .both => "AND"
  | .join .either => "OR"
  | .test .contains => "CONTAINS"
  | .test .equals => "EQUALS"
  | .test .present => "EXISTS"
  | .test .absent => "NOT_EXISTS"
  | .test .below => "LT"
  | .test .above => "GT"

def named? (s : String) : Option Operator := all.find? (·.name == s)

def isJoin : Operator → Bool
  | .join _ => true
  | .test _ => false

end Operator

def opKey : String := "$op"
def pathKey : String := "$key"
def literalKey : String := "$val"
def leftKey : String := "$filter_1"
def rightKey : String := "$filter_2"

/-! ## Tests -/

/-- Two numbers are compared as doubles, other values part by part. -/
def sameValue : Json → Json → Bool
  | .num a, .num b => a.toFloat == b.toFloat
  | a, b => a == b

/-- Whether `needle` stands somewhere in a text. -/
def occurs (needle : List Char) : List Char → Bool
  | [] => needle.isEmpty
  | c :: cs => needle.isPrefixOf (c :: cs) || occurs needle cs

/-- Whether the value found at a path, if any, passes a test. -/
def Test.holds (t : Test) (found : Option Json) (literal : Json) : Bool :=
  match t, found, literal with
  | .present, found, _ => found.isSome
  | .absent, found, _ => found.isNone
  | .equals, some v, literal => sameValue v literal
  | .contains, some (.str s), .str needle => occurs needle.toList s.toList
  | .contains, some (.arr items), literal => items.any (sameValue · literal)
  | .below, some (.num a), .num b => a.toFloat < b.toFloat
  | .above, some (.num a), .num b => b.toFloat < a.toFloat
  | _, _, _ => false

/-- The names along a dotted path; a path may begin at a root, written as a dollar or an at sign
before the first dot. -/
def pathNames (path : String) : List String :=
  let cs := match path.toList with
    | '$' :: '.' :: cs => cs
    | '@' :: '.' :: cs => cs
    | cs => cs
  (Text.split '.' cs).map String.ofList

/-- The value at the end of a path through nested objects. -/
def walk (j : Json) : List String → Option Json
  | [] => some j
  | name :: names =>
    match j with
    | .obj ms => (Members.get? ms name).bind (walk · names)
    | _ => none

def resolve (properties : Members) (path : String) : Option Json :=
  walk (.obj properties) (pathNames path)

/-! ## Written filters -/

def operator? (ms : Members) : Option Operator :=
  ((ms.get? opKey).bind Json.str?).bind Operator.named?

/-- The verdict of one written node, given those of its operands. The right operand is asked
only if the left one does not settle the matter. -/
def verdict (properties : Members) (ms : Members) (operand : String → Option (Option Bool)) :
    Option Bool := do
  if ms.length ≠ 3 then none
  match ← operator? ms with
  | .join .both =>
    if ← (operand leftKey).join then (operand rightKey).join else some false
  | .join .either =>
    if ← (operand leftKey).join then some true else (operand rightKey).join
  | .test t =>
    let path ← (ms.get? pathKey).bind Json.str?
    let literal ← ms.get? literalKey
    some (t.holds (resolve properties path) literal)

/-- The first fault of one written node, given those of its operands. -/
def fault (ms : Members) (operand : String → Option (Option String)) : Option String :=
  if ms.length ≠ 3 then some ("node must have 3 keys, found " ++ toString ms.length)
  else match (ms.get? opKey).bind Json.str? with
    | none => some "missing $op"
    | some name =>
      match Operator.named? name with
      | none => some ("unknown operator '" ++ name ++ "'")
      | some (.join j) =>
        let demand (key : String) : Option String :=
          match operand key with
          | none => some ((Operator.join j).name ++ " requires object " ++ key)
          | some inner => inner
        demand leftKey <|> demand rightKey
      | some (.test t) =>
        if ((ms.get? pathKey).bind Json.str?).isNone then
          some ((Operator.test t).name ++ " requires string $key")
        else if (ms.get? literalKey).isNone then
          some ((Operator.test t).name ++ " requires $val")
        else none

end Filter

/-- A filter as it is written. -/
structure Filter where
  node : Members

namespace Filter

def toJson (f : Filter) : Json := .obj f.node

def text (f : Filter) : String := f.toJson.compact

instance : BEq Filter := ⟨fun a b => a.toJson == b.toJson⟩

/-- The operator at the root, if there is one. -/
def rootOperator? (f : Filter) : Option Operator := operator? f.node

/-- Whether properties pass the filter; a malformed filter passes nothing. -/
def evaluate (f : Filter) (properties : Members) : Bool :=
  (Json.foldObjects (verdict properties) f.toJson).join.getD false

/-- Accepts a well-formed filter. -/
def ofJson (j : Json) : Except ValidationError Filter :=
  match j with
  | .obj ms =>
    match (Json.foldObjects fault j).join with
    | none => .ok ⟨ms⟩
    | some reason => .error (.invalidFilter reason)
  | _ => .error (.invalidFilter "filter must be a JSON object")

/-- Accepts the text of a well-formed filter. -/
def parse (s : String) : Except ValidationError Filter :=
  match Json.parse? s with
  | some j => ofJson j
  | none => .error .filterNotJson

/-- A filter is decoded without being checked. -/
def decoder : Json.Decoder Filter := fun f n => do return ⟨← Json.Decoder.members f n⟩

/-! ## Building filters -/

def test (t : Test) (path : String) (literal : Json) : Filter :=
  ⟨[(pathKey, .str path), (opKey, .str (Operator.test t).name), (literalKey, literal)]⟩

def join (j : Join) (left right : Filter) : Filter :=
  ⟨[(leftKey, left.toJson), (rightKey, right.toJson), (opKey, .str (Operator.join j).name)]⟩

def both : Filter → Filter → Filter := join .both
def either : Filter → Filter → Filter := join .either
def contains (path : String) (literal : Json) : Filter := test .contains path literal
def equals (path : String) (literal : Json) : Filter := test .equals path literal
def below (path : String) (literal : Json) : Filter := test .below path literal
def above (path : String) (literal : Json) : Filter := test .above path literal
def present (path : String) : Filter := test .present path (.bool true)
def absent (path : String) : Filter := test .absent path (.bool false)

end Filter

end Vicinity
