import Vicinity.Entity
import Vicinity.Filter

/-! Groups of participants, described by what their members have in common. Each part of a
description is optional and the others must all hold. -/
namespace Vicinity

structure Group where
  description : String
  entityId : Option EntityId
  entityType : Option EntityType
  filter : Option Filter

namespace Group

/-- The group of everybody. -/
def everyone (description : String) : Group := ⟨description, none, none, none⟩

/-- An empty id restricts nothing. -/
def withId (g : Group) (id : EntityId) : Group :=
  { g with entityId := if id.isEmpty then none else some id }

def withType (g : Group) (type : EntityType) : Group := { g with entityType := some type }

def withFilter (g : Group) (filter : Filter) : Group := { g with filter := some filter }

/-- The group around one participant. -/
def single (e : Entity) : Group := ((everyone e.id.text).withId e.id).withType e.type

/-- The id of a beacon is matched from the top of its hierarchy, that of a device as a whole. -/
def idMatches (wanted : EntityId) (e : Entity) : Bool :=
  if e.isBeacon then wanted.tokens.isPrefixOf e.id.tokens else wanted == e.id

def contains (g : Group) (e : Entity) : Bool :=
  g.entityId.all (idMatches · e) && g.entityType.all (· == e.type) &&
    g.filter.all (·.evaluate e.properties)

instance : BEq Group where
  beq a b := a.description == b.description && a.entityId == b.entityId &&
    a.entityType == b.entityType && a.filter == b.filter

def toJson (g : Group) : Json :=
  .obj ([("description", .str g.description)] ++
    (g.entityId.map fun id => ("entity_id", .str id.text)).toList ++
    (g.entityType.map fun t => ("entity_type", .str t.name)).toList ++
    (g.filter.map fun f => ("filter", f.toJson)).toList)

def decoder : Json.Decoder Group :=
  (Json.Fields.none.and "description" Json.Decoder.string
    |>.and "entity_id" (.optional EntityId.decoder)
    |>.and "entity_type" (.optional EntityType.decoder)
    |>.and "filter" (.optional Filter.decoder)).decoder
  fun (((((), description), id), type), filter) =>
    .ok ⟨description.getD "", id.join, type.join, filter.join⟩

end Group

end Vicinity
