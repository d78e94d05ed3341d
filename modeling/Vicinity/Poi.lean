import Vicinity.Json.Decoder

/-! Points of interest: named circular regions that the host watches. Lists of them are written
by people, so numbers may be given as texts and a radius may be left blank. -/
namespace Vicinity

structure Poi where
  name : String
  latitude : Float
  longitude : Float
  /-- In metres. -/
  radius : Float32
  beaconUuid : Option String

namespace Poi

def defaultRadius : Float32 := 50

def numberField (ms : Members) (field : String) : Except ValidationError (Option Float) :=
  match ms.get? field with
  | none | some .null => .ok none
  | some (.num n) => .ok (some n.toFloat)
  | some (.str s) =>
    let cs := Text.trim s.toList
    if cs.isEmpty then .ok none
    else match Decimal.Signed.read cs with
      | some x => .ok (some x.toFloat)
      | none => .error (.invalidPoi ("field '" ++ field ++ "' is not numeric"))
  | some _ => .error (.invalidPoi ("field '" ++ field ++ "' is not numeric"))

def requiredNumber (ms : Members) (field : String) : Except ValidationError Float := do
  match ← numberField ms field with
  | some x => return x
  | none => .error (.missingField field)

def textField (ms : Members) (field : String) : Option String :=
  ((ms.get? field).bind Json.str?).filter (!·.isEmpty)

/-- Reads one entry of a list, its fields in the order name, latitude, longitude, radius. -/
def ofMembers (ms : Members) : Except ValidationError Poi := do
  match textField ms "name" with
  | none => .error (.missingField "name")
  | some name =>
    let latitude ← requiredNumber ms "latitude"
    let longitude ← requiredNumber ms "longitude"
    let radius ← numberField ms "radius"
    return {
      name := name
      latitude := latitude
      longitude := longitude
      radius := (radius.map Float.toFloat32).getD defaultRadius
      beaconUuid := (textField ms "beacon_uuid").map fun s =>
        String.ofList (Text.lower s.toList) }

/-- Reads the entries of a list, the first of which stands at `index`. -/
def ofEntries (index : Nat) : List Json → Except ValidationError (List Poi)
  | [] => .ok []
  | .obj ms :: js => do
    let p ← ofMembers ms
    return p :: (← ofEntries (index + 1) js)
  | _ :: _ => .error (.invalidPoi ("entry " ++ toString index ++ " is not an object"))

/-- Reads the text of a list. -/
def parseList (s : String) : Except ValidationError (List Poi) :=
  match Json.parse? s with
  | none => .error .poisNotJson
  | some (.arr items) => ofEntries 0 items
  | some _ => .error (.invalidPoi "expected a JSON array")

/-- A number as a single; an integer is rounded once. -/
def toSingle : Number → Float32
  | .int (.ofNat n) => (UInt64.ofNat n).toFloat32
  | .int (.negSucc n) => -(UInt64.ofNat (n + 1)).toFloat32
  | .float x => x.toFloat32

def decoder : Json.Decoder Poi :=
  (Json.Fields.none.and "name" Json.Decoder.string
    |>.and "latitude" Json.Decoder.number
    |>.and "longitude" Json.Decoder.number
    |>.and "radius" Json.Decoder.number
    |>.and "beacon_uuid" (.optional Json.Decoder.string)).decoder
  fun ((((((), name), latitude), longitude), radius), uuid) => do
    return {
      name := ← Json.present name
      latitude := (← Json.present latitude).toFloat
      longitude := (← Json.present longitude).toFloat
      radius := toSingle (← Json.present radius)
      beaconUuid := uuid.join }

end Poi

end Vicinity
