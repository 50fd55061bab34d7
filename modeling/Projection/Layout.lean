import Projection.Kind
import Projection.Json.Record

set_option autoImplicit false

namespace Projection

structure Column where
  name : String
  kind : Kind
  deriving DecidableEq, Repr

structure Layout where
  name : String
  columns : List Column
  deriving DecidableEq, Repr

def Cells : List Column → Type
  | [] => Unit
  | column :: columns => column.kind.Carrier × Cells columns

namespace Cells

def get? : (columns : List Column) → Cells columns → Element
  | [], _, _ => none
  | column :: columns, (value, others), name =>
    if column.name = name then some (column.kind.toJson value) else get? columns others name

end Cells

namespace Column

def field (column : Column) : Field := ⟨column.name, column.kind.fieldType⟩

def slot (column : Column) : Json.Slot :=
  ⟨column.name, column.kind.Carrier, column.kind.read, column.kind.absent⟩

end Column

def Cells.ofFilled : (columns : List Column) → Json.Filled (columns.map Column.slot) → Cells columns
  | [], _ => ()
  | _ :: columns, (value, others) => (value, ofFilled columns others)

namespace Layout

abbrev Row (layout : Layout) : Type := Cells layout.columns

def entityType (layout : Layout) : EntityType := ⟨layout.name, layout.columns.map Column.field⟩

def element (layout : Layout) (row : layout.Row) : Element := Cells.get? layout.columns row

def read (layout : Layout) : Json.Reader layout.Row :=
  (Json.takeRecord (layout.columns.map Column.slot)).map (Cells.ofFilled layout.columns)

end Layout

end Projection
