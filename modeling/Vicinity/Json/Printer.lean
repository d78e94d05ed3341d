import Vicinity.Json.Basic
import Vicinity.Decimal.Shortest

/-! The compact text of a JSON value. Every function puts its text in front of `rest`. -/
namespace Vicinity

open Decimal

/-- Doubles are positional from 10⁻⁵ to below 10¹⁶. -/
def Number.layout : Layout := ⟨-5, 15⟩

def Number.write : Number → List Char
  | .int (.ofNat n) => Nat.toDigits 10 n
  | .int (.negSucc n) => '-' :: Nat.toDigits 10 (n + 1)
  | .float x => layout.write x

namespace Json

def hexDigit (n : Nat) : Char := Nat.digitChar n

/-- Quotes, backslashes and the control characters are escaped, and nothing else. -/
def writeChar (c : Char) (rest : List Char) : List Char :=
  match c with
  | '"' => '\\' :: '"' :: rest
  | '\\' => '\\' :: '\\' :: rest
  | '\n' => '\\' :: 'n' :: rest
  | '\r' => '\\' :: 'r' :: rest
  | '\t' => '\\' :: 't' :: rest
  | '\x08' => '\\' :: 'b' :: rest
  | '\x0c' => '\\' :: 'f' :: rest
  | c =>
    if c.toNat < 0x20 then
      '\\' :: 'u' :: '0' :: '0' :: hexDigit (c.toNat / 16) :: hexDigit (c.toNat % 16) :: rest
    else c :: rest

def writeChars (cs : List Char) (rest : List Char) : List Char := cs.foldr writeChar rest

def writeString (s : String) (rest : List Char) : List Char :=
  '"' :: writeChars s.toList ('"' :: rest)

mutual

def write : Json → List Char → List Char
  | .null, rest => 'n' :: 'u' :: 'l' :: 'l' :: rest
  | .bool true, rest => 't' :: 'r' :: 'u' :: 'e' :: rest
  | .bool false, rest => 'f' :: 'a' :: 'l' :: 's' :: 'e' :: rest
  | .num n, rest => n.write ++ rest
  | .str s, rest => writeString s rest
  | .arr [], rest => '[' :: ']' :: rest
  | .arr (x :: xs), rest => '[' :: write x (writeItems xs (']' :: rest))
  | .obj [], rest => '{' :: '}' :: rest
  | .obj ((k, v) :: ms), rest =>
    '{' :: writeString k (':' :: write v (writeMembers ms ('}' :: rest)))

/-- The items after the first one. -/
def writeItems : List Json → List Char → List Char
  | [], rest => rest
  | x :: xs, rest => ',' :: write x (writeItems xs rest)

def writeMembers : List (String × Json) → List Char → List Char
  | [], rest => rest
  | (k, v) :: ms, rest => ',' :: writeString k (':' :: write v (writeMembers ms rest))

end

def compact (j : Json) : String := String.ofList (j.write [])

end Json

end Vicinity
