import Projection.FieldType
import Projection.Json.Basic

set_option autoImplicit false

namespace Projection

structure Field where
  name : String
  type : FieldType
  deriving DecidableEq, Repr

structure EntityType where
  name : String
  fields : List Field
  deriving DecidableEq, Repr

def EntityType.field? (entity : EntityType) (name : String) : Option Field :=
  entity.fields.find? (·.name == name)

inductive Shape where
  | collection (entity : EntityType)
  | scalar (type : FieldType)
  deriving DecidableEq, Repr

structure Member where
  name : String
  shape : Shape
  deriving DecidableEq, Repr

def Member.find? (members : List Member) (name : String) : Option Member :=
  List.find? (·.name == name) members

/-- An element gives its fields by name, or nothing for a name that it does not have. -/
abbrev Element := String → Option Json

/-- The contents that queries run over. Only collections that are stored can be scanned; whether
that agrees with the description of the members is up to the context. -/
structure Context where
  scan : String → Option (List Element)

end Projection
