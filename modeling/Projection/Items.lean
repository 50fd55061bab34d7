import Projection.Layout

set_option autoImplicit false

namespace Projection

def Layout.item : Layout :=
  { name := "Item"
    columns := [⟨"I8", .signed 8⟩, ⟨"I16", .signed 16⟩, ⟨"I32", .signed 32⟩, ⟨"I64", .signed 64⟩,
      ⟨"Isize", .signed 64⟩, ⟨"U8", .unsigned 8⟩, ⟨"U16", .unsigned 16⟩, ⟨"U32", .unsigned 32⟩,
      ⟨"U64", .unsigned 64⟩, ⟨"Usize", .unsigned 64⟩, ⟨"F32", .single⟩, ⟨"F64", .double⟩,
      ⟨"Flag", .bool⟩, ⟨"Text", .text⟩, ⟨"Maybe Int", .optional (.signed 64)⟩,
      ⟨"Maybe F64", .optional .double⟩, ⟨"Tags", .list .text⟩, ⟨"Bytes", .list (.unsigned 8)⟩,
      ⟨"Maybe Floats", .optional (.list .single)⟩, ⟨"Maybe Flags", .list (.optional .bool)⟩,
      ⟨"Grid", .list (.list (.signed 32))⟩, ⟨"", .unsigned 8⟩] }

namespace Items

def members : List Member :=
  [⟨"Items", .collection Layout.item.entityType⟩,
    ⟨"Count", .scalar (.optional (.list .integer))⟩]

def toContext (rows : List Layout.item.Row) : Context where
  scan name := if name = "Items" then some (rows.map Layout.item.element) else none

end Items

end Projection
