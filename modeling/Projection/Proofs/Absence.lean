import Projection.Items
import Projection.Proofs.Cells

set_option autoImplicit false

namespace Projection

/-- The part of a value that a path leads to, one place for each list that it enters. -/
def Json.at? : List Nat → Json → Option Json
  | [], json => some json
  | place :: path, .array items => items[place]?.bind (at? path)
  | _ :: _, _ => none

theorem Json.eq_null_of_at? {json : Json} {path : List Nat} (single : ∀ items, json ≠ .array items)
    (shown : json.at? path = some .null) : path = [] ∧ json = .null := by
  cases path with
  | nil => exact ⟨rfl, Option.some.inj shown⟩
  | cons place path =>
    unfold at? at shown
    split at shown
    · contradiction
    · exact absurd rfl (single _)
    · cases shown

namespace Cell

/-- The same path within a cell. Through an optional value that is present it leads straight on. -/
inductive Reaches : Cell → List Nat → Cell → Prop
  | here (cell : Cell) : Reaches cell [] cell
  | present {content : Kind} {value : content.Carrier} {path : List Nat} {found : Cell}
      (reaches : Reaches ⟨content, value⟩ path found) :
      Reaches ⟨.optional content, some value⟩ path found
  | item {item : Kind} {values : List item.Carrier} {place : Nat} {value : item.Carrier}
      {path : List Nat} {found : Cell} (stored : values[place]? = some value)
      (reaches : Reaches ⟨item, value⟩ path found) :
      Reaches ⟨.list item, values⟩ (place :: path) found

def absent (content : Kind) : Cell := ⟨.optional content, none⟩

inductive Unwritable : Cell → Prop
  | single {value : Floating} (special : value.finite? = none) : Unwritable ⟨.single, value⟩
  | double {value : Floating} (special : value.finite? = none) : Unwritable ⟨.double, value⟩

def Null (cell : Cell) : Prop := (∃ content, cell = absent content) ∨ cell.Unwritable

theorem json_of_null {cell : Cell} (null : cell.Null) : cell.json = .null := by
  rcases null with ⟨content, rfl⟩ | unwritable
  · rfl
  · cases unwritable with
    | single special | double special => simp only [json, Kind.toJson, Kind.floatToJson, special]

theorem at?_json_of_reaches {cell found : Cell} {path : List Nat}
    (reaches : cell.Reaches path found) : cell.json.at? path = some found.json := by
  induction reaches with
  | here cell => rfl
  | present _ ih => exact ih
  | @item item values place value path found stored _ ih =>
    change ((values.map item.toJson)[place]?).bind (Json.at? path) = some found.json
    rw [List.getElem?_map, stored]
    exact ih

theorem reaches_null_of_float {kind : Kind} {value : kind.Carrier} {path : List Nat}
    {float : Floating} (same : kind.toJson value = Kind.floatToJson float)
    (unwritable : float.finite? = none → Unwritable ⟨kind, value⟩)
    (shown : (kind.toJson value).at? path = some .null) :
    ∃ found, Reaches ⟨kind, value⟩ path found ∧ found.Null := by
  rw [same, Kind.floatToJson] at shown
  cases special : float.finite? with
  | none =>
    simp only [special] at shown
    obtain ⟨rfl, _⟩ := Json.eq_null_of_at? (by simp) shown
    exact ⟨_, .here _, .inr (unwritable special)⟩
  | some x =>
    simp only [special] at shown
    cases (Json.eq_null_of_at? (by simp) shown).2

theorem reaches_null_of_at? {kind : Kind} {value : kind.Carrier} {path : List Nat}
    (shown : (kind.toJson value).at? path = some .null) :
    ∃ found, Reaches ⟨kind, value⟩ path found ∧ found.Null := by
  induction kind generalizing path with
  | bool => cases (Json.eq_null_of_at? (by simp [Kind.toJson]) shown).2
  | integer low high => cases (Json.eq_null_of_at? (by simp [Kind.toJson]) shown).2
  | text => cases (Json.eq_null_of_at? (by simp [Kind.toJson]) shown).2
  | single => exact reaches_null_of_float rfl .single shown
  | double => exact reaches_null_of_float rfl .double shown
  | optional content ih =>
    cases value with
    | none =>
      obtain ⟨rfl, _⟩ := Json.eq_null_of_at? (by simp [Kind.toJson]) shown
      exact ⟨_, .here _, .inl ⟨content, rfl⟩⟩
    | some value =>
      obtain ⟨found, reaches, null⟩ := ih shown
      exact ⟨found, .present reaches, null⟩
  | list item ih =>
    cases path with
    | nil => cases shown
    | cons place path =>
      obtain ⟨image, placed, shown⟩ := Option.bind_eq_some_iff.mp shown
      obtain ⟨value, stored, rfl⟩ := Option.map_eq_some_iff.mp (List.getElem?_map.symm.trans placed)
      obtain ⟨found, reaches, null⟩ := ih shown
      exact ⟨found, .item stored reaches, null⟩

theorem at?_json_eq_null_iff {cell : Cell} {path : List Nat} :
    cell.json.at? path = some .null ↔ ∃ found, cell.Reaches path found ∧ found.Null := by
  constructor
  · exact reaches_null_of_at?
  · rintro ⟨found, reaches, null⟩
    rw [at?_json_of_reaches reaches, json_of_null null]

end Cell

theorem Items.serves_of_compile {origin : Origin} {identity : UInt64} {compiled : CompiledQuery}
    (made : origin.compile members identity = .ok compiled) (rows : List Layout.item.Row) :
    Layout.item.Serves rows members (toContext rows) compiled.query.tableSource := by
  obtain ⟨query, _, made⟩ := exists_of_bind_eq_ok made
  obtain ⟨rfl, entity, bound, _⟩ := bound_of_compile made
  have member := List.mem_of_find?_eq_some bound
  simp only [members, List.mem_cons, List.not_mem_nil, or_false, Member.mk.injEq, reduceCtorEq,
    and_false] at member
  rw [member.1] at bound ⊢
  exact ⟨rfl, rfl⟩

/-- In the records of a query over items, a null stands where an optional value is absent and where
a float is infinite or not a number, and nowhere else. -/
theorem null_is_absent_or_unwritable (rows : List Layout.item.Row) {origin : Origin}
    {identity : UInt64} {compiled : CompiledQuery}
    (made : origin.compile Items.members identity = .ok compiled) {record : Record}
    (yields : compiled.Yields (Items.toContext rows) record) :
    record.type = compiled.type ∧ ∃ row ∈ rows, List.Forall₂ (fun field value => ∃ cell,
      Layout.item.Stores row field value cell ∧ ∀ path, value.at? path = some .null ↔
        (∃ content, cell.Reaches path (.absent content)) ∨
          ∃ float, cell.Reaches path float ∧ float.Unwritable)
      compiled.type.fields record.values := by
  obtain ⟨type, row, member, stores⟩ :=
    stores_of_yields made (Items.serves_of_compile made rows) yields
  refine ⟨type, row, member, stores.imp ?_⟩
  rintro field value ⟨cell, stored⟩
  refine ⟨cell, stored, fun path => ?_⟩
  rw [← stored.json, Cell.at?_json_eq_null_iff]
  constructor
  · rintro ⟨found, reaches, ⟨content, rfl⟩ | unwritable⟩
    · exact .inl ⟨content, reaches⟩
    · exact .inr ⟨found, reaches, unwritable⟩
  · rintro (⟨content, reaches⟩ | ⟨float, reaches, unwritable⟩)
    · exact ⟨_, reaches, .inl ⟨content, rfl⟩⟩
    · exact ⟨float, reaches, .inr unwritable⟩

def Items.notANumber : Layout.item.Row :=
  (⟨0, by decide⟩, ⟨0, by decide⟩, ⟨0, by decide⟩, ⟨0, by decide⟩, ⟨0, by decide⟩, ⟨0, by decide⟩,
    ⟨0, by decide⟩, ⟨0, by decide⟩, ⟨0, by decide⟩, ⟨0, by decide⟩, .finite (.zero false),
    .notANumber, false, "", none, none, [], [], none, [], [], ⟨0, by decide⟩, ())

/-- The records of `select F64,[Maybe F64] from Items` over that row: one null is an absent value,
the other is not. -/
theorem null_is_absent_or_unwritable_both :
    ∃ (compiled : CompiledQuery) (record : Record),
      (Origin.statement {} "select F64,[Maybe F64] from Items").compile Items.members 1 =
        .ok compiled ∧
      compiled.Yields (Items.toContext [Items.notANumber]) record ∧
      record.values = [.null, .null] ∧
      ∃ row ∈ [Items.notANumber], List.Forall₂ (fun field value => ∃ cell,
        Layout.item.Stores row field value cell ∧ ∀ path, value.at? path = some .null ↔
          (∃ content, cell.Reaches path (.absent content)) ∨
            ∃ float, cell.Reaches path float ∧ float.Unwritable)
        compiled.type.fields record.values := by
  have parsed : Query.ofText {} "select F64,[Maybe F64] from Items" =
      .ok ⟨["F64", "Maybe F64"], "Items", by decide⟩ := by decide +kernel
  let compiled : CompiledQuery := ⟨⟨["F64", "Maybe F64"], "Items", by decide⟩,
    ⟨1, "Item", [⟨"F64", .float⟩, ⟨"Maybe F64", .optional .float⟩]⟩, rfl⟩
  let record : Record := ⟨compiled.type, [.null, .null], rfl⟩
  have made : (Origin.statement {} "select F64,[Maybe F64] from Items").compile Items.members 1 =
      .ok compiled := by
    rw [Origin.compile, Origin.parsed, parsed]
    rfl
  have collected : compiled.executeAll (Items.toContext [Items.notANumber]) = .ok [record] := rfl
  have yields := CompiledQuery.yields_of_mem_executeAll collected List.mem_cons_self
  exact ⟨compiled, record, made, yields, rfl,
    (null_is_absent_or_unwritable [Items.notANumber] made yields).2⟩

theorem present_float_shown_as_null :
    ∃ (compiled : CompiledQuery) (record : Record),
      (Origin.statement {} "SELECT F64 FROM Items").compile Items.members 1 = .ok compiled ∧
      compiled.executeAll (Items.toContext [Items.notANumber]) = .ok [record] ∧
      compiled.type.fields = [⟨"F64", .float⟩] ∧
      Layout.item.cell? Items.notANumber "F64" = some ⟨.double, .notANumber⟩ ∧
      record.values = [.null] ∧
      ¬∃ content, Cell.Reaches ⟨.double, .notANumber⟩ [] (.absent content) := by
  have parsed : Query.ofText {} "SELECT F64 FROM Items" = .ok ⟨["F64"], "Items", by decide⟩ := by
    decide +kernel
  refine ⟨⟨⟨["F64"], "Items", by decide⟩, ⟨1, "Item", [⟨"F64", .float⟩]⟩, rfl⟩,
    ⟨⟨1, "Item", [⟨"F64", .float⟩]⟩, [.null], rfl⟩, ?_, rfl, rfl, rfl, rfl, ?_⟩
  · rw [Origin.compile, Origin.parsed, parsed]
    rfl
  · rintro ⟨content, reaches⟩
    cases reaches

end Projection
