import Vicinity.Json.Token

/-! JSON texts as trees that keep what a reader in text order can meet: repeated keys, strings
and numbers without a value, and the place where the text stops being JSON. The first such
place leaves every array and object around it unclosed, so a closed one is sound to its last
character. -/
namespace Vicinity.Json

inductive Node where
  | null
  | bool (value : Bool)
  | num (value : Option Number)
  | str (value : Option String)
  | arr (items : List Node) (closed : Bool)
  | obj (members : List (Option String × Node)) (closed : Bool)

namespace Node

/-- An array or object that is still open, latest part first. -/
inductive Frame where
  | arr (items : List Node)
  | obj (members : List (Option String × Node)) (key : Option String)

inductive Expect where
  | value
  | firstItem
  | firstKey
  | key
  | colon
  | next

/-- A tree in the making. `root` is the value once it is complete. -/
structure Builder where
  frames : List Frame
  expect : Expect
  root : Option Node
  sound : Bool

namespace Builder

def start : Builder := ⟨[], .value, none, true⟩

/-- Places a complete value where one was expected. -/
def put (b : Builder) (n : Node) : Builder :=
  match b.frames with
  | [] => { b with root := some n, expect := .next }
  | .arr items :: fs => { b with frames := .arr (n :: items) :: fs, expect := .next }
  | .obj ms key :: fs => { b with frames := .obj ((key, n) :: ms) none :: fs, expect := .next }

def Frame.close (closed : Bool) : Frame → Node
  | .arr items => .arr items.reverse closed
  | .obj ms _ => .obj ms.reverse closed

/-- Leaves every open frame unclosed. -/
def abandon (b : Builder) : Builder :=
  let root := b.frames.foldl (fun inner f =>
    match f, inner with
    | .arr items, some n => some (Frame.close false (.arr (n :: items)))
    | .obj ms key, some n => some (Frame.close false (.obj ((key, n) :: ms) none))
    | f, none => some (Frame.close false f)) none
  { b with frames := [], root := root <|> b.root, sound := false }

def openFrame (b : Builder) (f : Frame) (e : Expect) : Builder :=
  { b with frames := f :: b.frames, expect := e }

def closeFrame (b : Builder) : Builder :=
  match b.frames with
  | [] => b.abandon
  | f :: fs => { b with frames := fs }.put (Frame.close true f)

def atValue (b : Builder) : Token → Builder
  | .null => b.put .null
  | .bool v => b.put (.bool v)
  | .num v => b.put (.num v)
  | .str v => b.put (.str v)
  | .openArr => b.openFrame (.arr []) .firstItem
  | .openObj => b.openFrame (.obj [] none) .firstKey
  | _ => b.abandon

def atKey (b : Builder) : Token → Builder
  | .str v =>
    match b.frames with
    | .obj ms _ :: fs => { b with frames := .obj ms v :: fs, expect := .colon }
    | _ => b.abandon
  | _ => b.abandon

def atNext (b : Builder) (t : Token) : Builder :=
  match b.frames, t with
  | .arr _ :: _, .comma => { b with expect := .value }
  | .arr _ :: _, .closeArr => b.closeFrame
  | .obj _ _ :: _, .comma => { b with expect := .key }
  | .obj _ _ :: _, .closeObj => b.closeFrame
  | _, _ => b.abandon

def feed (b : Builder) (t : Token) : Builder :=
  if !b.sound then b
  else match b.expect, t with
    | .firstItem, .closeArr => b.closeFrame
    | .firstItem, t | .value, t => b.atValue t
    | .firstKey, .closeObj => b.closeFrame
    | .firstKey, t | .key, t => b.atKey t
    | .colon, .colon => { b with expect := .value }
    | .colon, _ => b.abandon
    | .next, t => b.atNext t

end Builder

/-- A text as a tree. `root` is the first value as far as it goes, and `sound` tells that it is
complete and that nothing but white space follows it. -/
structure Document where
  root : Option Node
  sound : Bool

def Document.ofTokens (ts : List Token) : Document :=
  let b := ts.foldl Builder.feed .start
  let b := if b.frames.isEmpty then b else b.abandon
  ⟨b.root, b.sound && b.root.isSome⟩

def Document.ofUnits (us : List (Option Char)) : Document := .ofTokens (Token.ofUnits us)

def Document.ofString (s : String) : Document := .ofUnits (s.toList.map some)

end Node

mutual

/-- A value as a tree: sound, with the members of objects in the order of their keys. -/
def toNode : Json → Node
  | .null => .null
  | .bool b => .bool b
  | .num n => .num (some n)
  | .str s => .str (some s)
  | .arr xs => .arr (toNodes xs) true
  | .obj ms => .obj (toNodeMembers ms) true

def toNodes : List Json → List Node
  | [] => []
  | x :: xs => x.toNode :: toNodes xs

def toNodeMembers : List (String × Json) → List (Option String × Node)
  | [] => []
  | (k, v) :: ms => (some k, v.toNode) :: toNodeMembers ms

end

end Vicinity.Json
