import CriteriaSearch.Descriptor

namespace CriteriaSearch

inductive AttributeKind where
  | integer
  | float
  | decimal
  | date
  | dateTime
  | boolean
  | text
  | collection
  | map
  | other
  deriving DecidableEq, Inhabited, Repr

/-- What the owner of a schema says about searching an attribute. -/
structure Searchable where
  fieldType : FieldType
  nullable : Bool
  /-- The key to search by, if it is not the attribute's name. -/
  fieldName : Option String
  /-- An empty name is ignored when it is given, so that none is kept. -/
  fieldName_ne_empty : fieldName ≠ some ""
  deriving DecidableEq, Repr

structure Attribute where
  name : String
  kind : AttributeKind
  /-- The attribute belongs to the type and not to its values. -/
  isStatic : Bool
  isTransient : Bool
  isExcluded : Bool
  searchable : Option Searchable
  deriving DecidableEq, Repr

/-- One level of a schema: an entity or one of its ancestors, with the attributes it declares. -/
structure SchemaLevel where
  name : String
  attributes : List Attribute
  deriving DecidableEq, Repr

/-- The schema of an entity; the nearest ancestor comes first. -/
structure EntitySchema where
  own : SchemaLevel
  ancestors : List SchemaLevel
  deriving DecidableEq, Repr

namespace AttributeKind

def ofName? : String → Option AttributeKind
  | "integer" => some .integer
  | "float" => some .float
  | "decimal" => some .decimal
  | "date" => some .date
  | "dateTime" => some .dateTime
  | "boolean" => some .boolean
  | "text" => some .text
  | "collection" => some .collection
  | "map" => some .map
  | "other" => some .other
  | _ => none

def fieldType? : AttributeKind → Option FieldType
  | .integer | .float | .decimal => some .number
  | .date | .dateTime => some .date
  | .boolean => some .boolean
  | .text => some .string
  | .collection | .map | .other => none

def isComposite : AttributeKind → Bool
  | .collection | .map => true
  | _ => false

end AttributeKind

namespace Searchable

def ofType (t : FieldType) : Searchable := ⟨t, true, none, nofun⟩

theorem nonEmpty_ne_empty (name : String) :
    (if name = "" then none else some name) ≠ some "" := by
  split
  · exact nofun
  · next hname => exact fun h => hname (Option.some.inj h)

/-- The field searched by another name; the empty name stands for that of the attribute. -/
def named (s : Searchable) (name : String) : Searchable :=
  ⟨s.fieldType, s.nullable, if name = "" then none else some name, nonEmpty_ne_empty name⟩

end Searchable

namespace Attribute

def plain (name : String) (kind : AttributeKind) : Attribute :=
  ⟨name, kind, false, false, false, none⟩

def isVisible (a : Attribute) : Bool :=
  !a.isExcluded && !a.isStatic && !a.isTransient && !a.kind.isComposite

/-- The key, field type and nullability that an attribute is searched with, if it can be: those that
the schema's owner gave, or else those detected from the kind of its values. -/
def searchedAs? (a : Attribute) : Option (String × FieldType × Bool) :=
  if a.isVisible then
    match a.searchable with
    | some s => some (s.fieldName.getD a.name, s.fieldType, s.nullable)
    | none => a.kind.fieldType?.map fun t => (a.name, t, true)
  else none

end Attribute

namespace EntitySchema

def empty (name : String) : EntitySchema := ⟨⟨name, []⟩, []⟩

def name (s : EntitySchema) : String := s.own.name

def attributes (s : EntitySchema) : List Attribute :=
  (s.own :: s.ancestors).flatMap SchemaLevel.attributes

/-- The descriptors of an entity, in the order of its attributes. A blank key is refused. -/
def descriptors (s : EntitySchema) : Except SearchError (List FilterDescriptor) :=
  (s.attributes.filterMap Attribute.searchedAs?).mapM fun (key, t, nullable) =>
    FilterDescriptor.withDefaults key t nullable

end EntitySchema

end CriteriaSearch
