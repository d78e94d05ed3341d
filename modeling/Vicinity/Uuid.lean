import Vicinity.Json.Decoder

/-! Identifiers of 128 bits and their texts. -/
namespace Vicinity

structure Uuid where
  bits : BitVec 128
  deriving DecidableEq

namespace Uuid

def ofNat (n : Nat) : Uuid := ⟨.ofNat 128 n⟩

def add (u : Uuid) (n : Nat) : Uuid := ⟨u.bits + .ofNat 128 n⟩

/-- Thirty-two hexadecimal digits. -/
def ofDigits? (cs : List Char) : Option Uuid :=
  if cs.length = 32 then
    (cs.mapM Json.Token.Lexer.hexDigit?).map fun ds =>
      ofNat (ds.foldl (fun v d => v * 16 + d) 0)
  else none

/-- Five groups of digits with hyphens between them. -/
def ofGroups? (cs : List Char) : Option Uuid :=
  let hyphens := [8, 13, 18, 23]
  if cs.length = 36 ∧ hyphens.all (fun i => cs[i]? == some '-') then
    ofDigits? (cs.zipIdx.filterMap fun (c, i) => if hyphens.contains i then none else some c)
  else none

/-- The name space of identifiers as a uniform resource name. -/
def nameSpace : List Char := ['u', 'r', 'n', ':', 'u', 'u', 'i', 'd', ':']

/-- Digits or groups of digits; groups may stand in braces or after the name space, whose letter
case does not matter. -/
def parse? (s : String) : Option Uuid :=
  match s.toList with
  | '{' :: cs => if cs.getLast? = some '}' then ofGroups? cs.dropLast else none
  | cs =>
    if (cs.take nameSpace.length).map Char.toLower = nameSpace then
      ofGroups? (cs.drop nameSpace.length)
    else ofDigits? cs <|> ofGroups? cs

def digit (u : Uuid) (i : Nat) : Char := Nat.digitChar ((u.bits.toNat >>> (4 * (31 - i))) % 16)

/-- The text in five groups of lower-case digits. -/
def text (u : Uuid) : String :=
  String.ofList ((List.range 32).flatMap fun i =>
    if i = 8 ∨ i = 12 ∨ i = 16 ∨ i = 20 then ['-', u.digit i] else [u.digit i])

def decoder : Json.Decoder Uuid := fun f n => do
  Json.present (parse? (← Json.Decoder.string f n))

end Uuid

end Vicinity
