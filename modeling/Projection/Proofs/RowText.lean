import Projection.Proofs.History
import Projection.Proofs.Json.Figure
import Projection.Proofs.Json.Record

set_option autoImplicit false

namespace Projection

theorem Json.reads_array {α : Type} {item : Reader α} {toJson : α → Json} {style : Style}
    {level : Nat} (each : ∀ value, item.Reads (write style (level + 1) (toJson value)) value)
    (values : List α) :
    (takeListOf item).Reads (write style level (.array (values.map toJson))) values := by
  rw [Style.write_array, List.map_map]
  apply reads_list
  rw [List.forall₂_map_left_iff, List.forall₂_same]
  exact fun value _ => each value

namespace Kind

def NeverNull : Kind → Prop
  | optional _ => False
  | _ => True

def Exact : Kind → Prop
  | bool | text => True
  | integer low high => -9223372036854775808 ≤ low ∧ high < 18446744073709551616
  | single | double => False
  | optional content => content.Exact ∧ content.NeverNull
  | list item => item.Exact

theorem head?_write_ne {kind : Kind} (exact : kind.Exact) (never : kind.NeverNull)
    (value : kind.Carrier) (style : Json.Style) (level : Nat) :
    (Json.write style level (kind.toJson value)).head? ≠ some 'n' := by
  cases kind with
  | bool =>
    cases value <;> simp [toJson, Json.write]
  | text => simp [toJson, Json.write, Json.Quoted.write]
  | integer low high =>
    obtain ⟨c, tail, same, first⟩ := (Json.Figure.ofInt value.val).text_eq_cons
    rw [Json.Figure.text_ofInt] at same
    rw [toJson, Json.write, Json.Number.write, same]
    rintro start
    rw [Option.some.inj start] at first
    exact absurd first (by decide)
  | single | double => exact exact.elim
  | optional content => exact never.elim
  | list item =>
    rw [toJson, Json.Style.write_array, Json.Style.list]
    simp

theorem reads_write {kind : Kind} (exact : kind.Exact) (value : kind.Carrier) (style : Json.Style)
    (level : Nat) : kind.read.Reads (Json.write style level (kind.toJson value)) value := by
  induction kind generalizing level with
  | bool =>
    cases value with
    | true =>
      exact ⟨⟨'t', _, rfl, rfl, by decide⟩, fun rest _ => Json.took_takeName 't' "rue" true rest⟩
    | false =>
      exact ⟨⟨'f', _, rfl, rfl, by decide⟩, fun rest _ => Json.took_takeName 'f' "alse" false rest⟩
  | text => exact Json.reads_string value
  | integer low high => exact Json.reads_takeInteger exact.1 exact.2 value
  | single | double => exact exact.elim
  | optional content ih =>
    obtain ⟨exact, never⟩ := exact
    cases value with
    | none => exact Json.reads_none content.read
    | some value =>
      exact Json.reads_some (ih exact value level) (head?_write_ne exact never value style level)
  | list item ih => exact Json.reads_array (fun value => ih exact value (level + 1)) value

end Kind

namespace Cells

def entries : (columns : List Column) → Cells columns → List (String × Json)
  | [], _ => []
  | column :: columns, (value, others) =>
    (column.name, column.kind.toJson value) :: entries columns others

theorem select_eq_entries {columns : List Column} (distinct : (columns.map Column.name).Nodup)
    (cells : Cells columns) :
    Element.select (columns.map Column.name) (get? columns cells) = entries columns cells := by
  induction columns with
  | nil => rfl
  | cons column columns ih =>
    obtain ⟨value, others⟩ := cells
    obtain ⟨fresh, distinct⟩ := List.nodup_cons.mp distinct
    have behind : Element.select (columns.map Column.name) (get? (column :: columns) (value, others)) =
        Element.select (columns.map Column.name) (get? columns others) := by
      apply List.filterMap_congr
      intro name member
      rw [get?, if_neg]
      rintro rfl
      exact fresh member
    rw [entries, ← ih distinct others, ← behind]
    simp [Element.select, get?]

/-- Texts for the columns in their order; a column that may be left out need not have one. -/
inductive Texts : (columns : List Column) → List (String × List Char) → Cells columns → Prop
  | nil : Texts [] [] ()
  | given {column : Column} {columns : List Column} {entries : List (String × List Char)}
      {cells : Cells columns} {text : List Char} {value : column.kind.Carrier}
      (reads : column.kind.read.Reads text value) (others : Texts columns entries cells) :
      Texts (column :: columns) ((column.name, text) :: entries) (value, cells)
  | absent {column : Column} {columns : List Column} {entries : List (String × List Char)}
      {cells : Cells columns} {value : column.kind.Carrier}
      (missing : column.kind.absent = some value) (others : Texts columns entries cells) :
      Texts (column :: columns) entries (value, cells)

section Texts

variable {columns : List Column} {entries : List (String × List Char)} {cells : Cells columns}

theorem Texts.name_mem (texts : Texts columns entries cells) :
    ∀ entry ∈ entries, entry.1 ∈ columns.map Column.name := by
  induction texts with
  | nil => simp
  | given _ _ ih =>
    exact List.forall_mem_cons.mpr ⟨List.mem_cons_self, fun entry member =>
      List.mem_cons_of_mem _ (ih entry member)⟩
  | absent _ _ ih => exact fun entry member => List.mem_cons_of_mem _ (ih entry member)

theorem Texts.unused (texts : Texts columns entries cells) {column : Column}
    (fresh : column.name ∉ columns.map Column.name) :
    ∀ entry ∈ entries, entry.1 ≠ column.slot.name := by
  intro entry member taken
  have known := texts.name_mem entry member
  rw [taken] at known
  exact fresh known

theorem Texts.fills (texts : Texts columns entries cells)
    (distinct : (columns.map Column.name).Nodup) :
    ∃ draft filled, Json.Draft.Fills (columns.map Column.slot) entries draft ∧
      Json.Draft.fill? (columns.map Column.slot) draft = some filled ∧
      ofFilled columns filled = cells := by
  induction texts with
  | nil =>
    have nothing : Json.Draft.Fills [] [] () := by simp [Json.Draft.Fills]
    exact ⟨(), (), nothing, rfl, rfl⟩
  | @given column columns entries cells text value reads others ih =>
    obtain ⟨fresh, distinct⟩ := List.nodup_cons.mp distinct
    obtain ⟨draft, filled, fills, complete, same⟩ := ih distinct
    have unused := others.unused fresh
    exact ⟨(some value, draft), (value, filled), fills.given unused reads,
      @Json.Draft.fill?_given column.slot _ _ _ complete value, congrArg (Prod.mk value) same⟩
  | @absent column columns entries cells value missing others ih =>
    obtain ⟨fresh, distinct⟩ := List.nodup_cons.mp distinct
    obtain ⟨draft, filled, fills, complete, same⟩ := ih distinct
    have unused := others.unused fresh
    exact ⟨(none, draft), (value, filled), fills.absent unused,
      @Json.Draft.fill?_absent column.slot _ _ _ complete _ missing, congrArg (Prod.mk value) same⟩

end Texts

theorem texts_entries {columns : List Column} (exact : ∀ column ∈ columns, column.kind.Exact)
    (cells : Cells columns) (style : Json.Style) (level : Nat) :
    Texts columns
      ((entries columns cells).map fun (key, value) => (key, Json.write style level value)) cells := by
  induction columns with
  | nil => exact .nil
  | cons column columns ih =>
    obtain ⟨value, others⟩ := cells
    obtain ⟨first, exact⟩ := List.forall_mem_cons.mp exact
    exact .given (Kind.reads_write first value style level) (ih exact others)

end Cells

namespace Layout

def toJson (layout : Layout) (row : layout.Row) : Json := .object (Cells.entries layout.columns row)

variable {layout : Layout}

theorem reads_texts (distinct : (layout.columns.map Column.name).Nodup)
    {entries : List (String × List Char)} {row : layout.Row}
    (texts : Cells.Texts layout.columns entries row) (style : Json.Style) (level : Nat) :
    layout.read.Reads (style.object level entries) row := by
  obtain ⟨draft, filled, fills, complete, same⟩ := texts.fills distinct
  have reads := (Json.reads_takeRecord fills complete style level).map (Cells.ofFilled layout.columns)
  rw [same] at reads
  exact reads

theorem reads_row (distinct : (layout.columns.map Column.name).Nodup)
    (exact : ∀ column ∈ layout.columns, column.kind.Exact) (row : layout.Row) (style : Json.Style)
    (level : Nat) : layout.read.Reads (Json.write style level (layout.toJson row)) row := by
  rw [toJson, Json.Style.write_object]
  exact reads_texts distinct (Cells.texts_entries exact row style (level + 1)) style level

theorem reads_rows (distinct : (layout.columns.map Column.name).Nodup)
    (exact : ∀ column ∈ layout.columns, column.kind.Exact) (rows : List layout.Row)
    (style : Json.Style) (level : Nat) :
    (Json.takeListOf layout.read).Reads
      (Json.write style level (.array (rows.map layout.toJson))) rows :=
  Json.reads_array (fun row => reads_row distinct exact row style (level + 1)) rows

end Layout

end Projection
