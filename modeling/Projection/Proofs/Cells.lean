import Projection.Proofs.Binding
import Projection.Proofs.Views

/-! The cells of typed rows. A query over rows of a layout finds the type of a column in the
description and its value in an element; both come from the one cell that stands under that name. -/

set_option autoImplicit false

namespace Projection

structure Cell where
  kind : Kind
  value : kind.Carrier

namespace Cell

def fieldType (cell : Cell) : FieldType := cell.kind.fieldType

def json (cell : Cell) : Json := cell.kind.toJson cell.value

end Cell

namespace Cells

def cell? : (columns : List Column) → Cells columns → String → Option Cell
  | [], _, _ => none
  | column :: columns, (value, others), name =>
    if column.name = name then some ⟨column.kind, value⟩ else cell? columns others name

theorem get?_eq {columns : List Column} (cells : Cells columns) (name : String) :
    get? columns cells name = (cell? columns cells name).map Cell.json := by
  induction columns with
  | nil => rfl
  | cons column columns ih =>
    obtain ⟨value, others⟩ := cells
    by_cases here : column.name = name
    · simp only [get?, cell?, if_pos here]
      rfl
    · simp only [get?, cell?, if_neg here, ih]

theorem find?_field {columns : List Column} (cells : Cells columns) (name : String) :
    ((columns.map Column.field).find? (·.name == name)).map Field.type =
      (cell? columns cells name).map Cell.fieldType := by
  induction columns with
  | nil => rfl
  | cons column columns ih =>
    obtain ⟨value, others⟩ := cells
    rw [List.map_cons, List.find?_cons]
    by_cases here : column.name = name
    · simp [cell?, Column.field, Cell.fieldType, here]
    · simp only [cell?, Column.field, beq_false_of_ne here, if_neg here]
      exact ih others

end Cells

namespace Layout

variable {layout : Layout} {row : layout.Row}

def cell? (layout : Layout) (row : layout.Row) (name : String) : Option Cell :=
  Cells.cell? layout.columns row name

/-- The field and the value both stand for the cell under the name of the field. -/
structure Stores (layout : Layout) (row : layout.Row) (field : Field) (value : Json) (cell : Cell) :
    Prop where
  found : layout.cell? row field.name = some cell
  type : cell.fieldType = field.type
  json : cell.json = value

/-- The rows are the collection of this name in the context, and the members describe it by their
layout. -/
structure Serves (layout : Layout) (rows : List layout.Row) (members : List Member)
    (context : Context) (name : String) : Prop where
  described : BindsTo members name layout.entityType
  stored : context.scan name = some (rows.map layout.element)

theorem exists_stores {field : Field} {value : Json}
    (described : layout.entityType.field? field.name = some field)
    (answered : layout.element row field.name = some value) :
    ∃ cell, layout.Stores row field value cell := by
  have typed : (layout.entityType.field? field.name).map Field.type =
      (layout.cell? row field.name).map Cell.fieldType := Cells.find?_field row field.name
  rw [element, Cells.get?_eq, Option.map_eq_some_iff] at answered
  obtain ⟨cell, found, rfl⟩ := answered
  rw [described, cell?, found] at typed
  exact ⟨cell, found, (Option.some.inj typed).symm, rfl⟩

end Layout

theorem field?_of_firstNamed {entity : EntityType} {columns : List String} {fields : List Field}
    (named : List.Forall₂ (FirstNamed Field.name entity.fields) columns fields) :
    ∀ field ∈ fields, entity.field? field.name = some field := by
  induction named with
  | nil => simp
  | cons first _ ih =>
    refine List.forall_mem_cons.mpr ⟨?_, ih⟩
    rw [first.1]
    exact find?_eq_some_iff_firstNamed.mpr first

theorem stores_of_yields {origin : Origin} {members : List Member} {identity : UInt64}
    {compiled : CompiledQuery} {context : Context} {layout : Layout} {rows : List layout.Row}
    {record : Record} (made : origin.compile members identity = .ok compiled)
    (serves : layout.Serves rows members context compiled.query.tableSource)
    (yields : compiled.Yields context record) :
    record.type = compiled.type ∧ ∃ row ∈ rows, List.Forall₂
      (fun field value => ∃ cell, layout.Stores row field value cell)
      compiled.type.fields record.values := by
  obtain ⟨query, _, made⟩ := exists_of_bind_eq_ok made
  obtain ⟨rfl, entity, bound, synthesized⟩ := bound_of_compile made
  obtain ⟨running, executed, gives⟩ := yields
  obtain ⟨elements, scanned, rfl⟩ := exists_scan_of_execute executed
  obtain ⟨element, member, projected⟩ := Rows.gives_iff.mp gives
  cases scanned.symm.trans serves.stored
  cases bound.symm.trans serves.described
  obtain ⟨row, stored, rfl⟩ := List.mem_map.mp member
  have described := field?_of_firstNamed (synthesize_eq_ok_iff.mp synthesized).2.2
  rw [← RecordType.projectAnswers_const, RecordType.projectAnswers_eq_ok_iff,
    RecordType.answers_const] at projected
  have answered := forall₂_of_mapM projected.2
  refine ⟨projected.1, row, stored, ?_⟩
  exact ((List.forall₂_and_left _ _).mpr ⟨described, answered⟩).imp fun field value both =>
    Layout.exists_stores both.1 (eq_some_of_valueIn both.2)

end Projection
