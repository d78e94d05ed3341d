import Vicinity.Json.Basic

/-! The tokens of a JSON text, read character by character. The reader never looks back: it is
in one state between any two characters, and the first character that fits no state ends the
tokens. Texts that name no characters and numbers that no double holds are tokens without a
value, because a reader that passes over them need not mind. -/
namespace Vicinity.Json

inductive Token where
  | openArr
  | closeArr
  | openObj
  | closeObj
  | colon
  | comma
  | null
  | bool (value : Bool)
  | num (value : Option Number)
  | str (value : Option String)
  | bad

namespace Token

/-- Where in a numeral the reader stands. -/
inductive Phase where
  | sign
  | zero
  | whole
  | point
  | fraction
  | mark
  | markSign
  | exponent
  deriving DecidableEq

/-- A numeral in the making; digits stand latest first. -/
structure Draft where
  phase : Phase
  negative : Bool
  whole : List Nat
  fraction : List Nat
  below : Bool
  exponent : List Nat

namespace Draft

def start (negative : Bool) : Draft := ⟨.sign, negative, [], [], false, []⟩

def pushWhole (d : Draft) (phase : Phase) (v : Nat) : Draft :=
  { d with phase := phase, whole := v :: d.whole }

def pushFraction (d : Draft) (v : Nat) : Draft :=
  { d with phase := .fraction, fraction := v :: d.fraction }

def pushExponent (d : Draft) (v : Nat) : Draft :=
  { d with phase := .exponent, exponent := v :: d.exponent }

/-- A point or an exponent mark after the digits of the whole part or the fraction. -/
def punctuate (d : Draft) (pointAllowed : Bool) (c : Char) : Option Draft :=
  if c = 'e' ∨ c = 'E' then some { d with phase := .mark }
  else if pointAllowed ∧ c = '.' then some { d with phase := .point }
  else none

/-- The numeral one character further on, if the character belongs to it. -/
def feed (d : Draft) (c : Char) : Option Draft :=
  match d.phase, Decimal.digit? c with
  | .sign, some 0 => some (d.pushWhole .zero 0)
  | .sign, some v => some (d.pushWhole .whole v)
  | .whole, some v => some (d.pushWhole .whole v)
  | .point, some v | .fraction, some v => some (d.pushFraction v)
  | .mark, some v | .markSign, some v | .exponent, some v => some (d.pushExponent v)
  | .zero, none | .whole, none => d.punctuate true c
  | .fraction, none => d.punctuate false c
  | .mark, none =>
    if c = '+' then some { d with phase := .markSign }
    else if c = '-' then some { d with phase := .markSign, below := true }
    else none
  | _, _ => none

def complete (d : Draft) : Bool :=
  match d.phase with
  | .zero | .whole | .fraction | .exponent => true
  | _ => false

/-- An exponent of more than 31 bits settles the number whatever its other digits are. -/
def number (d : Draft) : Option Number :=
  let e : Int := Decimal.ofDigitsBelow 0x80000000 d.exponent.reverse
  Number.ofNumeral (d.phase = .zero ∨ d.phase = .whole)
    ⟨d.negative, d.whole.reverse, d.fraction.reverse, if d.below then -e else e⟩

end Draft

/-- The text of a string so far, latest character first; `none` once it holds something that is
no character. -/
abbrev Spelling := Option (List Char)

inductive State where
  | start
  | word (left : List Char) (token : Token)
  | text (got : Spelling)
  | escape (got : Spelling)
  /-- Inside `\u` with `left` digits to come; `high` is the surrogate that waits for its half. -/
  | hex (got : Spelling) (high : Option Nat) (value left : Nat)
  | afterHigh (got : Spelling) (high : Nat)
  | afterHighEscape (got : Spelling) (high : Nat)
  | numeral (draft : Draft)
  | failed

/-- The reader between two characters; tokens stand latest first. -/
structure Lexer where
  state : State
  tokens : List Token

namespace Lexer

def fail (l : Lexer) : Lexer := ⟨.failed, .bad :: l.tokens⟩

def goTo (l : Lexer) (s : State) : Lexer := ⟨s, l.tokens⟩

def emit (l : Lexer) (t : Token) : Lexer := ⟨.start, t :: l.tokens⟩

def push (got : Spelling) (c : Char) : Spelling := got.map (c :: ·)

def atStart (l : Lexer) : Option Char → Lexer
  | some c =>
    match c with
    | ' ' | '\t' | '\n' | '\r' => l.goTo .start
    | '[' => l.emit .openArr
    | ']' => l.emit .closeArr
    | '{' => l.emit .openObj
    | '}' => l.emit .closeObj
    | ':' => l.emit .colon
    | ',' => l.emit .comma
    | '"' => l.goTo (.text (some []))
    | 'n' => l.goTo (.word ['u', 'l', 'l'] .null)
    | 't' => l.goTo (.word ['r', 'u', 'e'] (.bool true))
    | 'f' => l.goTo (.word ['a', 'l', 's', 'e'] (.bool false))
    | '-' => l.goTo (.numeral (.start true))
    | c =>
      match (Draft.start false).feed c with
      | some d => l.goTo (.numeral d)
      | none => l.fail
  | none => l.fail

def inText (l : Lexer) (got : Spelling) : Option Char → Lexer
  | none => l.goTo (.text none)
  | some '"' => l.emit (.str (got.map fun cs => String.ofList cs.reverse))
  | some '\\' => l.goTo (.escape got)
  | some c => if c.toNat < 0x20 then l.fail else l.goTo (.text (push got c))

def inEscape (l : Lexer) (got : Spelling) : Option Char → Lexer
  | some '"' => l.goTo (.text (push got '"'))
  | some '\\' => l.goTo (.text (push got '\\'))
  | some '/' => l.goTo (.text (push got '/'))
  | some 'b' => l.goTo (.text (push got '\x08'))
  | some 'f' => l.goTo (.text (push got '\x0c'))
  | some 'n' => l.goTo (.text (push got '\n'))
  | some 'r' => l.goTo (.text (push got '\r'))
  | some 't' => l.goTo (.text (push got '\t'))
  | some 'u' => l.goTo (.hex got none 0 4)
  | _ => l.fail

def hexDigit? (c : Char) : Option Nat :=
  if '0' ≤ c ∧ c ≤ '9' then some (c.toNat - 48)
  else if 'a' ≤ c ∧ c ≤ 'f' then some (c.toNat - 87)
  else if 'A' ≤ c ∧ c ≤ 'F' then some (c.toNat - 55)
  else none

def isHigh (v : Nat) : Bool := 0xD800 ≤ v && v ≤ 0xDBFF

def isLow (v : Nat) : Bool := 0xDC00 ≤ v && v ≤ 0xDFFF

/-- After the fourth digit: two surrogates make one character, and a lone one makes none. -/
def closeHex (l : Lexer) (got : Spelling) (high : Option Nat) (v : Nat) : Lexer :=
  match high with
  | some h =>
    if isLow v then
      l.goTo (.text (push got (Char.ofNat (0x10000 + (h - 0xD800) * 0x400 + (v - 0xDC00)))))
    else l.goTo (.text none)
  | none =>
    if isHigh v then l.goTo (.afterHigh got v)
    else if isLow v then l.goTo (.text none)
    else l.goTo (.text (push got (Char.ofNat v)))

def inNumeral (l : Lexer) (d : Draft) (u : Option Char) : Lexer :=
  match u.bind d.feed with
  | some d => l.goTo (.numeral d)
  | none => if d.complete then (l.emit (.num d.number)).atStart u else l.fail

def feed (l : Lexer) (u : Option Char) : Lexer :=
  match l.state with
  | .start => l.atStart u
  | .word [] _ => l.fail
  | .word (c :: left) t =>
    if u = some c then (if left.isEmpty then l.emit t else l.goTo (.word left t)) else l.fail
  | .text got => l.inText got u
  | .escape got => l.inEscape got u
  | .hex got high v left =>
    match u.bind hexDigit? with
    | some d =>
      if left ≤ 1 then l.closeHex got high (v * 16 + d)
      else l.goTo (.hex got high (v * 16 + d) (left - 1))
    | none => l.fail
  | .afterHigh got h =>
    if u = some '\\' then l.goTo (.afterHighEscape got h) else l.inText none u
  | .afterHighEscape got h =>
    if u = some 'u' then l.goTo (.hex got (some h) 0 4) else l.inEscape none u
  | .numeral d => l.inNumeral d u
  | .failed => l

def finish (l : Lexer) : List Token :=
  (match l.state with
    | .start | .failed => l
    | .numeral d => if d.complete then l.emit (.num d.number) else l.fail
    | _ => l.fail).tokens.reverse

end Lexer

/-- The tokens of a text whose `none` are bytes that begin no character. -/
def ofUnits (us : List (Option Char)) : List Token :=
  (us.foldl Lexer.feed ⟨.start, []⟩).finish

end Token

end Vicinity.Json
