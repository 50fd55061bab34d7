import Projection.CompiledQuery
import Projection.Json.Writer

set_option autoImplicit false

namespace Projection

def FieldType.toJson : FieldType → Json
  | bool => .string "Bool"
  | integer => .string "Integer"
  | float => .string "Float"
  | string => .string "String"
  | optional content => .object [("Optional", content.toJson)]
  | list item => .object [("List", item.toJson)]

def Field.toJson (field : Field) : Json :=
  .object [("name", .string field.name), ("ty", field.type.toJson)]

def Field.listToJson (fields : List Field) : Json := .array (fields.map Field.toJson)

def EntityType.toJson (entity : EntityType) : Json :=
  .object [("name", .string entity.name), ("fields", Field.listToJson entity.fields)]

def Shape.toJson : Shape → Json
  | collection entity => .object [("Collection", entity.toJson)]
  | scalar type => .object [("Scalar", type.toJson)]

def Member.toJson (member : Member) : Json :=
  .object [("name", .string member.name), ("shape", member.shape.toJson)]

def Member.listToJson (members : List Member) : Json := .array (members.map Member.toJson)

def QueryError.toJson (error : QueryError) : Json := .string error.message

namespace Query

def toJson (query : Query) : Json :=
  .object [("columns", .array (query.columns.map .string)), ("table_source", .string query.tableSource)]

def render (style : Json.Style) (query : Query) : String := query.toJson.render style

end Query

def Record.listToJson (records : List Record) : Json := .array (records.map Record.written)

def Rows.render (style : Json.Style) (rows : Rows) : Except QueryError String :=
  rows.collect.map fun records => (Record.listToJson records).render style

end Projection
