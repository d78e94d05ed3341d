import Vicinity.Error
import Vicinity.Json.Node

/-! Typed values out of JSON trees. A decoder walks its tree in text order and stops at the
first defect. A record may be written as an object or as the array of its fields, an
enumeration as its name or as an object with that one key. -/
namespace Vicinity.Json

/-- Why a tree is refused: it has the wrong form, or the value it describes breaks a rule. -/
inductive Defect where
  | malformed
  | invalid (cause : ValidationError)

/-- How a tree is read: `room` bounds how deep arrays and objects may nest, and `held` tells that
the tree was read through to its end before. -/
structure Form where
  room : Option Nat
  held : Bool

namespace Form

/-- The reading of a text, at most 127 arrays and objects deep. -/
def text : Form := ⟨some 127, false⟩

/-- The reading of a value that is already in memory. -/
def value : Form := ⟨none, false⟩

/-- The second reading of a part that was read through. -/
def again : Form := ⟨none, true⟩

/-- The reading inside one more array or object. -/
def enter (f : Form) : Except Defect Form :=
  match f.room with
  | none => .ok f
  | some 0 => .error .malformed
  | some (n + 1) => .ok { f with room := some n }

end Form

abbrev Decoder (α : Type) := Form → Node → Except Defect α

def require (b : Bool) : Except Defect Unit := if b then .ok () else .error .malformed

def present (a : Option α) : Except Defect α :=
  match a with
  | some a => .ok a
  | none => .error .malformed

namespace Node

/-- Passes over a part that nobody asks for, at any depth. -/
def skip : Node → Except Defect Unit
  | .arr _ closed | .obj _ closed => require closed
  | _ => .ok ()

mutual

/-- Any value. -/
def json (f : Form) : Node → Except Defect Json
  | .null => .ok .null
  | .bool b => .ok (.bool b)
  | .num n => do return .num (← present n)
  | .str s => do return .str (← present s)
  | .arr items closed => do
    let f ← f.enter
    let items ← jsonItems f items
    require closed
    return .arr items
  | .obj ms closed => do
    let f ← f.enter
    let ms ← jsonMembers f ms
    require closed
    return Json.object ms

def jsonItems (f : Form) : List Node → Except Defect (List Json)
  | [] => .ok []
  | n :: ns => do
    let j ← n.json f
    return j :: (← jsonItems f ns)

def jsonMembers (f : Form) : List (Option String × Node) → Except Defect (List (String × Json))
  | [] => .ok []
  | (k, n) :: ms => do
    let k ← present k
    let j ← n.json f
    return (k, j) :: (← jsonMembers f ms)

end

/-- Checks a part that is read through now and decoded later. -/
def hold (f : Form) (n : Node) : Except Defect Unit := do
  let _ ← n.json f

end Node

namespace Decoder

def string : Decoder String := fun _ n =>
  match n with
  | .str s => present s
  | _ => .error .malformed

def flag : Decoder Bool := fun _ n =>
  match n with
  | .bool b => .ok b
  | _ => .error .malformed

/-- A natural number below `bound`. -/
def natural (bound : Nat) : Decoder Nat := fun _ n =>
  match n with
  | .num (some (.int (.ofNat v))) => if v < bound then .ok v else .error .malformed
  | _ => .error .malformed

def number : Decoder Number := fun _ n =>
  match n with
  | .num v => present v
  | _ => .error .malformed

def members : Decoder Members := fun f n =>
  match n with
  | .obj _ _ => do
    match ← n.json f with
    | .obj ms => return ms
    | _ => .error .malformed
  | _ => .error .malformed

/-- Null stands for nothing. -/
def optional (d : Decoder α) : Decoder (Option α) := fun f n =>
  match n with
  | .null => .ok none
  | n => do return some (← d f n)

def list (d : Decoder α) : Decoder (List α) := fun f n =>
  match n with
  | .arr items closed => do
    let f ← f.enter
    let items ← items.mapM (d f)
    require closed
    return items
  | _ => .error .malformed

/-- One of several names. Where the name is the key of an object, null stands for its absent
content, and in a second reading an empty object does too. -/
def name (names : List (String × α)) : Decoder α := fun f n =>
  match n with
  | .str s => do present (names.lookup (← present s))
  | .obj ((k, content) :: more) closed => do
    let _ ← f.enter
    let a ← present (names.lookup (← present k))
    match content with
    | .null => pure ()
    | .obj [] _ => require f.held
    | _ => .error .malformed
    require (more.isEmpty && closed)
    return a
  | _ => .error .malformed

end Decoder

/-- A field of a record whose parts are gathered in `δ`. -/
structure Field (δ : Type) where
  name : String
  filled : δ → Bool
  read : Form → Node → δ → Except Defect δ

/-- A field whose part stands last. -/
def Field.last (name : String) (d : Decoder α) : Field (δ × Option α) :=
  ⟨name, (·.2.isSome), fun f n parts => do return (parts.1, some (← d f n))⟩

/-- A field of the parts before the last one. -/
def Field.lift (field : Field δ) : Field (δ × Option α) :=
  ⟨field.name, (field.filled ·.1), fun f n parts => do return (← field.read f n parts.1, parts.2)⟩

/-- The fields of a record in order, and its parts before any field is read. -/
structure Fields (δ : Type) where
  list : List (Field δ)
  empty : δ

namespace Fields

def none : Fields Unit := ⟨[], ()⟩

/-- One more field. -/
def and (fields : Fields δ) (name : String) (d : Decoder α) : Fields (δ × Option α) :=
  ⟨fields.list.map .lift ++ [.last name d], (fields.empty, Option.none)⟩

/-- A field may stand once; keys that name no field are passed over. -/
def readMembers (fields : List (Field δ)) (f : Form) :
    List (Option String × Node) → δ → Except Defect δ
  | [], parts => .ok parts
  | (k, n) :: ms, parts => do
    let k ← present k
    match fields.find? (·.name == k) with
    | some field =>
      require (!field.filled parts)
      readMembers fields f ms (← field.read f n parts)
    | Option.none =>
      n.skip
      readMembers fields f ms parts

/-- Fields at the end may be left off. -/
def readItems (f : Form) : List (Field δ) → List Node → δ → Except Defect δ
  | _, [], parts => .ok parts
  | [], _ :: _, _ => .error .malformed
  | field :: fields, n :: ns, parts => do readItems f fields ns (← field.read f n parts)

/-- The record, and what becomes of its parts once all are gathered. -/
def decoder (fields : Fields δ) (finish : δ → Except Defect α) : Decoder α := fun f n =>
  match n with
  | .obj ms closed => do
    let f ← f.enter
    let parts ← readMembers fields.list f ms fields.empty
    require closed
    finish parts
  | .arr items closed => do
    let f ← f.enter
    let parts ← readItems f fields.list items fields.empty
    require closed
    finish parts
  | _ => .error .malformed

end Fields

/-! A tagged record names one of several kinds and goes on with the fields of that kind. It is
read through before its fields are decoded. -/

/-- The kind that a tag names. In a second reading its position in the list will do too. -/
def kindOf (kinds : List (String × α)) (f : Form) (tag : Node) : Except Defect α :=
  match tag with
  | .str s => do present (kinds.lookup (← present s))
  | .num (some (.int (.ofNat i))) =>
    if f.held then present ((kinds[i]?).map (·.2)) else .error .malformed
  | _ => .error .malformed

/-- Splits the members into the kind and the rest, and checks the rest. -/
def splitTag (tag : String) (kinds : List (String × α)) (f : Form) :
    List (Option String × Node) → Option α →
      Except Defect (Option α × List (Option String × Node))
  | [], kind => .ok (kind, [])
  | (k, n) :: ms, kind => do
    let k ← present k
    if k = tag then
      require kind.isNone
      splitTag tag kinds f ms (some (← kindOf kinds f n))
    else
      n.hold f
      let (kind, rest) ← splitTag tag kinds f ms kind
      return (kind, (some k, n) :: rest)

def Decoder.tagged (tag : String) (kinds : List (String × Decoder α)) : Decoder α := fun f n =>
  match n with
  | .obj ms closed => do
    let inner ← f.enter
    let (kind, rest) ← splitTag tag kinds inner ms none
    require closed
    (← present kind) .again (.obj rest true)
  | .arr (t :: items) closed => do
    let inner ← f.enter
    let kind ← kindOf kinds inner t
    items.forM (Node.hold inner)
    require closed
    kind .again (.arr items true)
  | _ => .error .malformed

/-- A whole text: its value, and nothing after it. -/
def decodeText (d : Decoder α) (doc : Node.Document) : Except Defect α := do
  let a ← d .text (← present doc.root)
  require doc.sound
  return a

def decodeValue (d : Decoder α) (j : Json) : Except Defect α := d .value j.toNode

/-- A text that is JSON through and through. -/
def parse? (s : String) : Option Json :=
  (decodeText Node.json (.ofString s)).toOption

end Vicinity.Json
