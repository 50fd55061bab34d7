import Projection.Description
import Projection.Proofs.Json.Blanks
import Projection.Proofs.Json.Depth
import Projection.Proofs.Views

set_option autoImplicit false

namespace Projection

def renderRows (style : Json.Style) (results : List (Except QueryError Record)) :
    Except QueryError String :=
  (results.mapM id).map fun records => (Record.listToJson records).render style

theorem Rows.render_eq_renderRows (rows : Rows) (style : Json.Style) :
    rows.render style = renderRows style (rows.pending.map rows.type.project) := by
  rw [renderRows, List.mapM_map]
  rfl

section Results

variable {results : List (Except QueryError Record)}

theorem all_ok_or_fails (results : List (Except QueryError Record)) :
    (∃ records : List Record, results = records.map .ok) ∨
      ∃ (done : List Record) (error : QueryError) (later : List (Except QueryError Record)),
        results = done.map .ok ++ .error error :: later := by
  induction results with
  | nil => exact .inl ⟨[], rfl⟩
  | cons result results ih =>
    cases result with
    | error error => exact .inr ⟨[], error, results, rfl⟩
    | ok record =>
      rcases ih with ⟨records, rfl⟩ | ⟨done, error, later, rfl⟩
      · exact .inl ⟨record :: records, rfl⟩
      · exact .inr ⟨record :: done, error, later, rfl⟩

theorem mapM_id_of_ok (records : List Record) :
    (records.map .ok : List (Except QueryError Record)).mapM id = .ok records := by
  apply mapM_of_forall₂
  rw [List.forall₂_map_left_iff, List.forall₂_same]
  exact fun record _ => rfl

theorem mapM_id_of_error (done : List Record) (error : QueryError)
    (later : List (Except QueryError Record)) :
    (done.map .ok ++ .error error :: later : List (Except QueryError Record)).mapM id =
      .error error := by
  apply failure?_eq_some_iff.mp
  have none_before : (done.map .ok : List (Except QueryError Record)).findSome?
      (fun result => failure? (id result)) = none := by
    simp [List.findSome?_eq_none_iff, failure?]
  rw [failure?_mapM, List.findSome?_append, none_before]
  rfl

end Results

section Written

variable {record : Record} {limit : Nat} {style : Json.Style} {level : Nat}

theorem mem_values_of_mem_entries {entry : String × Json} (member : entry ∈ record.entries) :
    entry.2 ∈ record.values := by
  rw [← record.values_entries]
  exact List.mem_map_of_mem member

theorem reads_written (plain : ∀ value ∈ record.values, value.Stored ∧ value.FloatFree)
    (within : ∀ value ∈ record.values, value.depth ≤ limit) :
    (Json.takeValue (limit + 1)).Reads (Json.write style level record.written)
      record.toObject := by
  refine Json.reads_object fun entry member => ?_
  have member := mem_values_of_mem_entries member
  obtain ⟨stored, free⟩ := plain _ member
  exact Json.reads_value stored free (within _ member) style _

theorem refuses_written (plain : ∀ value ∈ record.values, value.Stored ∧ value.FloatFree)
    (deep : ∃ value ∈ record.values, limit < value.depth) :
    (Json.takeValue (limit + 1)).Refuses (Json.write style level record.written) .malformed := by
  refine Json.refuses_object (fun entry member => ?_) ?_
  · obtain ⟨stored, free⟩ := plain _ (mem_values_of_mem_entries member)
    rcases Nat.lt_or_ge limit entry.2.depth with deep | within
    · exact .inr (Json.refuses_value stored free deep style _)
    · exact .inl (Json.reads_value stored free within style _)
  · obtain ⟨value, member, deep⟩ := deep
    obtain ⟨stored, free⟩ := plain _ member
    rw [← record.values_entries] at member
    obtain ⟨entry, written, rfl⟩ := List.mem_map.mp member
    exact ⟨entry, written, Json.refuses_value stored free deep style _⟩

end Written

section Lists

variable {records : List Record} {limit : Nat} {style : Json.Style} {level : Nat}

theorem reads_listToJson
    (plain : ∀ record ∈ records, ∀ value ∈ record.values, value.Stored ∧ value.FloatFree)
    (within : ∀ record ∈ records, ∀ value ∈ record.values, value.depth ≤ limit) :
    (Json.takeValue (limit + 2)).Reads (Json.write style level (Record.listToJson records))
      (.array (records.map Record.toObject)) := by
  refine Json.reads_items ?_
  rw [List.forall₂_map_left_iff, List.forall₂_map_right_iff, List.forall₂_same]
  exact fun record member => reads_written (plain record member) (within record member)

theorem refuses_listToJson
    (plain : ∀ record ∈ records, ∀ value ∈ record.values, value.Stored ∧ value.FloatFree)
    (deep : ∃ record ∈ records, ∃ value ∈ record.values, limit < value.depth) :
    (Json.takeValue (limit + 2)).Refuses (Json.write style level (Record.listToJson records))
      .malformed := by
  refine Json.refuses_items ?_ ?_
  · rw [List.forall_mem_map]
    intro record member
    by_cases within : ∀ value ∈ record.values, value.depth ≤ limit
    · exact .inl ⟨_, reads_written (plain record member) within⟩
    · simp only [not_forall, Nat.not_le, exists_prop] at within
      exact .inr (refuses_written (plain record member) within)
  · obtain ⟨record, member, deep⟩ := deep
    exact ⟨_, List.mem_map_of_mem member, refuses_written (plain record member) deep⟩

end Lists

/-- Rows are rendered all or not at all. In both styles their text is read as the list of their
objects if no value holds a float, and if none is nested so deep that the reader refuses it. -/
theorem rendered_rows_decode :
    (∀ (rows : Rows) (style : Json.Style),
      rows.render style = renderRows style (rows.pending.map rows.type.project)) ∧
    (∀ results : List (Except QueryError Record),
      (∃ (done : List Record) (error : QueryError) (later : List (Except QueryError Record)),
        results = done.map .ok ++ .error error :: later ∧
          ∀ style, renderRows style results = .error error) ∨
      ∃ (records : List Record) (text : Json.Style → String), results = records.map .ok ∧
        (∀ style, renderRows style results = .ok (text style)) ∧
        Json.squeeze (text .pretty) = text .compact ∧
        ((∀ record ∈ records, ∀ value ∈ record.values, value.Stored ∧ value.FloatFree) →
          ((∀ record ∈ records, ∀ value ∈ record.values, value.depth + 2 ≤ Json.maxDepth) →
            ∀ style, Json.ofText (text style) = .ok (.array (records.map Record.toObject))) ∧
          ((∃ record ∈ records, ∃ value ∈ record.values, Json.maxDepth < value.depth + 2) →
            ∀ style, Json.ofText (text style) = .error .malformed))) ∧
    ∀ record : Record, ∃ entries, record.toObject = .object entries ∧
      Json.keys entries = record.type.names.eraseDups ∧
      ∀ name, Json.find? name entries = Json.find? name record.entries.reverse := by
  refine ⟨Rows.render_eq_renderRows, fun results => ?_, fun record => ?_⟩
  · rcases all_ok_or_fails results with ⟨records, rfl⟩ | ⟨done, error, later, rfl⟩
    · refine .inr ⟨records, fun style => (Record.listToJson records).render style, rfl,
        fun style => ?_, Json.squeeze_render _ _, fun plain => ⟨fun within style => ?_,
        fun deep style => ?_⟩⟩
      · rw [renderRows, mapM_id_of_ok]
        rfl
      · have inner : ∀ record ∈ records, ∀ value ∈ record.values, value.depth ≤ 125 :=
          fun record member value held => Nat.le_of_add_le_add_right (within record member value held)
        exact Json.readAll_of_reads (reads_listToJson plain inner) String.toList_ofList
      · obtain ⟨record, member, value, held, deep⟩ := deep
        have inner : ∃ record ∈ records, ∃ value ∈ record.values, 125 < value.depth :=
          ⟨record, member, value, held, Nat.lt_of_add_lt_add_right (n := 2) deep⟩
        exact Json.readAll_of_refuses (refuses_listToJson plain inner) String.toList_ofList
    · refine .inl ⟨done, error, later, rfl, fun style => ?_⟩
      rw [renderRows, mapM_id_of_error]
      rfl
  · refine ⟨_, rfl, ?_, fun name => Json.find?_ofEntries name _⟩
    rw [Json.keys_ofEntries, record.keys_entries]

end Projection
