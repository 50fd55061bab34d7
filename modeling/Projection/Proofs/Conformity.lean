import Projection.Items
import Projection.Proofs.Cells
import Projection.Proofs.Json.Value

/-! Values and the types they are declared with. The field type of a kind and the JSON form of its
values are two recursions that know nothing of each other; what they share is stated twice here, for
a field type and for a value at its side. -/

set_option autoImplicit false

namespace Projection

inductive FieldType.Holds : FieldType → Json → Prop
  | bool (value : Bool) : Holds .bool (.bool value)
  | integer (n : Int) : Holds .integer (.number (.integer n))
  | float (x : Double) : Holds .float (.number (.float x))
  | string (s : String) : Holds .string (.string s)
  | absent (content : FieldType) : Holds (.optional content) .null
  | present {content : FieldType} {json : Json} (holds : Holds content json) :
      Holds (.optional content) json
  | list {item : FieldType} {items : List Json} (each : ∀ json ∈ items, Holds item json) :
      Holds (.list item) (.array items)

namespace Kind

def finite : (kind : Kind) → kind.Carrier → Bool
  | single, value | double, value => value.finite?.isSome
  | optional content, value => Option.all content.finite value
  | list item, values => List.all values item.finite
  | _, _ => true

/-- The JSON value is the value itself, with nothing rounded, wrapped, replaced, dropped or moved. -/
inductive Copies : (kind : Kind) → kind.Carrier → Json → Prop
  | bool (value : Bool) : Copies bool value (.bool value)
  | integer {low high : Int} (n : { n : Int // low ≤ n ∧ n ≤ high }) :
      Copies (integer low high) n (.number (.integer n.val))
  | single (x : Double) : Copies single (.finite x) (.number (.float x))
  | double (x : Double) : Copies double (.finite x) (.number (.float x))
  | text (s : String) : Copies text s (.string s)
  | absent {content : Kind} : Copies (optional content) none .null
  | present {content : Kind} {value : content.Carrier} {json : Json}
      (copied : Copies content value json) : Copies (optional content) (some value) json
  | list {item : Kind} {values : List item.Carrier} {items : List Json}
      (length : items.length = values.length)
      (each : ∀ (place : Nat) (value : item.Carrier) (json : Json), values[place]? = some value →
        items[place]? = some json → Copies item value json) :
      Copies (list item) values (.array items)

/-- The kinds that the fields of typed elements can have: integers have one of four widths. -/
inductive Built : Kind → Prop
  | bool : Built bool
  | signed {bits : Nat} (width : bits ∈ [8, 16, 32, 64]) : Built (signed bits)
  | unsigned {bits : Nat} (width : bits ∈ [8, 16, 32, 64]) : Built (unsigned bits)
  | single : Built single
  | double : Built double
  | text : Built text
  | optional {content : Kind} (built : Built content) : Built (optional content)
  | list {item : Kind} (built : Built item) : Built (list item)

section Copies

variable {kind : Kind} {value : kind.Carrier} {json : Json}

theorem copies_list {item : Kind} {values : List item.Carrier}
    (each : ∀ value ∈ values, item.Copies value (item.toJson value)) :
    Copies (list item) values (.array (values.map item.toJson)) := by
  refine .list (List.length_map _) fun place value json found image => ?_
  rw [List.getElem?_map, found] at image
  cases image
  exact each value (List.mem_of_getElem? found)

theorem copies_toJson (finite : kind.finite value) : kind.Copies value (kind.toJson value) := by
  induction kind with
  | bool => exact .bool value
  | integer low high => exact .integer value
  | single | double =>
    cases value with
    | finite x => constructor
    | infinite _ | notANumber => cases finite
  | text => exact .text value
  | optional content ih =>
    cases value with
    | none => exact .absent
    | some value => exact .present (ih finite)
  | list item ih =>
    exact copies_list fun value member => ih (List.all_eq_true.mp finite value member)

theorem toJson_of_copies (copies : kind.Copies value json) : kind.toJson value = json := by
  induction copies with
  | bool | integer | single | double | text | absent => rfl
  | present _ ih => exact ih
  | @list item values items length each ih =>
    refine congrArg Json.array (List.ext_getElem? fun place => ?_)
    rw [List.getElem?_map]
    by_cases within : place < values.length
    · have image := List.getElem?_eq_getElem (length ▸ within : place < items.length)
      have found := List.getElem?_eq_getElem within
      rw [found, image, Option.map_some, ih place _ _ found image]
    · simp [within, length]

theorem finite_of_copies (copies : kind.Copies value json) : kind.finite value := by
  induction copies with
  | bool | integer | single | double | text | absent => rfl
  | present _ ih => exact ih
  | @list item values items length each ih =>
    refine List.all_eq_true.mpr fun value member => ?_
    obtain ⟨place, within, rfl⟩ := List.getElem_of_mem member
    exact ih place _ _ (List.getElem?_eq_getElem within)
      (List.getElem?_eq_getElem (length ▸ within : place < items.length))

theorem copies_iff : kind.Copies value json ↔ kind.finite value ∧ kind.toJson value = json :=
  ⟨fun copies => ⟨finite_of_copies copies, toJson_of_copies copies⟩,
    fun ⟨finite, same⟩ => same ▸ copies_toJson finite⟩

theorem holds_of_copies (copies : kind.Copies value json) : kind.fieldType.Holds json := by
  induction copies with
  | bool value => exact .bool value
  | integer n => exact .integer n.val
  | single x => exact .float x
  | double x => exact .float x
  | text s => exact .string s
  | absent => exact .absent _
  | present _ ih => exact .present ih
  | @list item values items length each ih =>
    refine .list fun json member => ?_
    obtain ⟨place, within, rfl⟩ := List.getElem_of_mem member
    exact ih place _ _ (List.getElem?_eq_getElem (length ▸ within : place < values.length))
      (List.getElem?_eq_getElem within)

end Copies

theorem toJson_optional_eq_null_iff {content : Kind} {value : Option content.Carrier} :
    (optional content).toJson value = .null ↔
      value = none ∨ ∃ present, value = some present ∧ content.toJson present = .null := by
  cases value with
  | none => simp [toJson]
  | some value => simp [toJson]

theorem stored_integer {low high : Int} (value : (integer low high).Carrier)
    (least : -9223372036854775808 ≤ low) (most : high < 18446744073709551616) :
    ((integer low high).toJson value).Stored :=
  .integer (Int.le_trans least value.property.1) (Int.lt_of_le_of_lt value.property.2 most)

theorem pow_of_width {bits : Nat} (width : bits ∈ [8, 16, 32, 64]) :
    Nat.pow 2 (bits - 1) ≤ 9223372036854775808 ∧ Nat.pow 2 bits ≤ 18446744073709551616 := by
  simp only [List.mem_cons, List.not_mem_nil, or_false] at width
  rcases width with rfl | rfl | rfl | rfl <;> decide

theorem stored_toJson {kind : Kind} (built : kind.Built) (value : kind.Carrier) :
    (kind.toJson value).Stored := by
  induction built with
  | bool => exact .bool value
  | signed width =>
    have range := pow_of_width width
    exact stored_integer value (by omega) (by omega)
  | unsigned width =>
    have range := pow_of_width width
    exact stored_integer value (by omega) (by omega)
  | single | double =>
    cases value with
    | finite x => exact .float x
    | infinite _ | notANumber => exact .null
  | text => exact .string value
  | optional _ ih =>
    cases value with
    | none => exact .null
    | some value => exact ih value
  | list _ ih =>
    refine .array fun json member => ?_
    obtain ⟨value, _, rfl⟩ := List.mem_map.mp member
    exact ih value

end Kind

def Cells.finite : (columns : List Column) → Cells columns → Bool
  | [], _ => true
  | column :: columns, (value, others) => column.kind.finite value && finite columns others

theorem Cells.finite_of_cell? {columns : List Column} {cells : Cells columns} {name : String}
    {cell : Cell} (all : cells.finite) (found : cell? columns cells name = some cell) :
    cell.kind.finite cell.value := by
  induction columns with
  | nil => cases found
  | cons column columns ih =>
    obtain ⟨value, others⟩ := cells
    obtain ⟨first, behind⟩ := Bool.and_eq_true_iff.mp all
    by_cases here : column.name = name
    · simp only [cell?, if_pos here] at found
      cases found
      exact first
    · simp only [cell?, if_neg here] at found
      exact ih behind found

def Layout.finite (layout : Layout) (row : layout.Row) : Bool := Cells.finite layout.columns row

/-- The JSON form of a value of any kind is the value itself and one of its field type. In each
record of a query over typed rows, every value is a copy of a cell of one row, and of the type that
the result type has at its place. -/
theorem projected_values_conform :
    (∀ (kind : Kind) (value : kind.Carrier) (json : Json),
      kind.Copies value json ↔ kind.finite value ∧ kind.toJson value = json) ∧
    (∀ (kind : Kind) (value : kind.Carrier), kind.finite value →
      kind.fieldType.Holds (kind.toJson value)) ∧
    (∀ (content : Kind) (value : Option content.Carrier),
      (Kind.optional content).toJson value = .null ↔
        value = none ∨ ∃ present, value = some present ∧ content.toJson present = .null) ∧
    (∀ kind : Kind, kind.Built → ∀ value, (kind.toJson value).Stored) ∧
    ∀ (origin : Origin) (members : List Member) (identity : UInt64) (compiled : CompiledQuery)
      (context : Context) (layout : Layout) (rows : List layout.Row),
      origin.compile members identity = .ok compiled →
      layout.Serves rows members context compiled.query.tableSource →
      (∀ row ∈ rows, layout.finite row) →
      ∀ record, compiled.Yields context record →
        record.type = compiled.type ∧
        List.Forall₂ (fun field value => field.type.Holds value) compiled.type.fields
          record.values ∧
        ∃ row ∈ rows, List.Forall₂ (fun field value => ∃ cell,
          layout.Stores row field value cell ∧ cell.kind.Copies cell.value value)
          compiled.type.fields record.values := by
  refine ⟨fun _ _ _ => Kind.copies_iff, fun _ _ finite => Kind.holds_of_copies
    (Kind.copies_toJson finite), fun _ _ => Kind.toJson_optional_eq_null_iff,
    fun _ => Kind.stored_toJson, ?_⟩
  intro origin members identity compiled context layout rows made serves finite record yields
  obtain ⟨type, row, member, stores⟩ := stores_of_yields made serves yields
  have copied : List.Forall₂ (fun field value => ∃ cell,
      layout.Stores row field value cell ∧ cell.kind.Copies cell.value value)
      compiled.type.fields record.values := by
    refine stores.imp ?_
    rintro field value ⟨cell, stored⟩
    have whole := Cells.finite_of_cell? (finite row member) stored.found
    exact ⟨cell, stored, Kind.copies_iff.mpr ⟨whole, stored.json⟩⟩
  refine ⟨type, copied.imp ?_, row, member, copied⟩
  rintro field value ⟨cell, stored, copies⟩
  exact stored.type ▸ Kind.holds_of_copies copies

def Items.limits : Layout.item.Row :=
  (⟨-128, by decide⟩, ⟨-32768, by decide⟩, ⟨-2147483648, by decide⟩,
    ⟨-9223372036854775808, by decide⟩, ⟨9223372036854775807, by decide⟩, ⟨255, by decide⟩,
    ⟨65535, by decide⟩, ⟨4294967295, by decide⟩, ⟨18446744073709551615, by decide⟩,
    ⟨18446744073709551615, by decide⟩, .finite ⟨false, 9007198717870080, 75⟩,
    .finite ⟨true, 9007199254740991, 971⟩, true, "", none, some (.finite (.zero true)), [""],
    [⟨255, by decide⟩], some [.finite (.zero false)], [none, some false],
    [[⟨-1, by decide⟩], []], ⟨7, by decide⟩, ())

theorem projected_values_conform_limits :
    ∃ (compiled : CompiledQuery) (record : Record),
      (Origin.statement {} "select I64,U64,[Maybe Int],Grid from Items").compile Items.members 1 =
        .ok compiled ∧
      Layout.item.Serves [Items.limits] Items.members (Items.toContext [Items.limits])
        compiled.query.tableSource ∧
      (∀ row ∈ [Items.limits], Layout.item.finite row) ∧
      compiled.Yields (Items.toContext [Items.limits]) record ∧
      record.values = [.number (.integer (-9223372036854775808)),
        .number (.integer 18446744073709551615), .null,
        .array [.array [.number (.integer (-1))], .array []]] ∧
      record.type = compiled.type ∧
      List.Forall₂ (fun field value => field.type.Holds value) compiled.type.fields
        record.values := by
  have parsed : Query.ofText {} "select I64,U64,[Maybe Int],Grid from Items" =
      .ok ⟨["I64", "U64", "Maybe Int", "Grid"], "Items", by decide⟩ := by decide +kernel
  let compiled : CompiledQuery := ⟨⟨["I64", "U64", "Maybe Int", "Grid"], "Items", by decide⟩,
    ⟨1, "Item", [⟨"I64", .integer⟩, ⟨"U64", .integer⟩, ⟨"Maybe Int", .optional .integer⟩,
      ⟨"Grid", .list (.list .integer)⟩]⟩, rfl⟩
  let record : Record := ⟨compiled.type, [.number (.integer (-9223372036854775808)),
    .number (.integer 18446744073709551615), .null,
    .array [.array [.number (.integer (-1))], .array []]], rfl⟩
  have made : (Origin.statement {} "select I64,U64,[Maybe Int],Grid from Items").compile
      Items.members 1 = .ok compiled := by
    rw [Origin.compile, Origin.parsed, parsed]
    rfl
  have serves : Layout.item.Serves [Items.limits] Items.members (Items.toContext [Items.limits])
      compiled.query.tableSource := ⟨rfl, rfl⟩
  have finite : ∀ row ∈ [Items.limits], Layout.item.finite row := by decide
  have collected : compiled.executeAll (Items.toContext [Items.limits]) = .ok [record] := rfl
  have yields := CompiledQuery.yields_of_mem_executeAll collected List.mem_cons_self
  obtain ⟨type, conform, _⟩ := projected_values_conform.2.2.2.2 _ _ 1 compiled _ _ _ made serves
    finite record yields
  exact ⟨compiled, record, made, serves, finite, yields, rfl, type, conform⟩

end Projection
