import RowScope.Dict
import RowScope.Value.Basic

/-!
# Schemas, catalogs and rows

A `Schema` declares the fields of an entity type, a `Catalog` holds the schemas
and lists the entity types, and a `Row` is one entity.  A catalog may list an
entity type that it has no schema for.
-/

namespace RowScope

/-- A field and its type. -/
structure Field where
  name : String
  type : ScalarType
deriving DecidableEq, Repr

/-- The fields of an entity type and the name of the one that is its key.  Of
two fields with one name the first counts. -/
structure Schema where
  entity : String
  key : String
  fields : List Field
deriving DecidableEq, Repr

/-- The field with a name. -/
def Schema.field? (s : Schema) (name : String) : Option Field :=
  s.fields.find? fun f => f.name = name

/-- Entity types in the order in which they are listed, and their schemas. -/
structure Catalog where
  listed : List String
  schemas : Dict Schema

namespace Catalog

def empty : Catalog := ⟨[], .empty⟩

instance : Inhabited Catalog := ⟨empty⟩

/-- Lists an entity type without a schema. -/
def announce (c : Catalog) (entity : String) : Catalog :=
  { c with listed := c.listed ++ [entity] }

/-- Adds a schema.  One for an entity type that has a schema already takes its
place in the listing. -/
def insert (c : Catalog) (s : Schema) : Catalog :=
  { listed := if c.schemas.contains s.entity then c.listed else c.listed ++ [s.entity]
    schemas := c.schemas.put s.entity s }

/-- The catalog that lists `unmapped` entity types first and then those of the
schemas in order. -/
def ofSchemas (unmapped : List String) (schemas : List Schema) : Catalog :=
  schemas.foldl insert (unmapped.foldl announce empty)

/-- The schema of an entity type. -/
def schema? (c : Catalog) (entity : String) : Option Schema := c.schemas.get? entity

/-- The number of schemas. -/
def size (c : Catalog) : Nat := c.schemas.size

def isEmpty (c : Catalog) : Bool := c.schemas.isEmpty

end Catalog

/-- One entity: its type and the values of its fields. -/
structure Row where
  entity : String
  fields : Dict Value

namespace Row

/-- The value of a field; a field that is absent reads as null. -/
def read (r : Row) (field : String) : Value := (r.fields.get? field).getD .null

/-- Whether two rows are of one entity type and have the same values. -/
def same (r s : Row) : Bool := r.entity == s.entity && r.fields.sameBy Value.same s.fields

end Row

end RowScope
