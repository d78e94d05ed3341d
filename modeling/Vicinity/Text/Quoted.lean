import Vicinity.Text.PrintableTable
import Vicinity.Text.Ranges

/-! Texts quoted for diagnostics: every character that a reader could not see is written by its
code point. -/
namespace Vicinity.Text

def isHidden (c : Char) : Bool := within PrintableTable.hidden c

def quoteChar (c : Char) : String :=
  match c with
  | '"' => "\\\""
  | '\\' => "\\\\"
  | '\n' => "\\n"
  | '\r' => "\\r"
  | '\t' => "\\t"
  | '\x00' => "\\0"
  | c =>
    if isHidden c then "\\u\x7b" ++ String.ofList (Nat.toDigits 16 c.toNat) ++ "\x7d"
    else c.toString

def quote (s : String) : String :=
  "\"" ++ String.join (s.toList.map quoteChar) ++ "\""

def quoteAll (texts : List String) : String :=
  "[" ++ ", ".intercalate (texts.map quote) ++ "]"

end Vicinity.Text
