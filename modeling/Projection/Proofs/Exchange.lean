import Projection.Mode
import Projection.Proofs.Interchange
import Projection.Proofs.Json.Value

/-! Queries that are passed on as text. The JSON text of a query is an object of its columns and its
table source, and whoever reads it rebuilds the query from these. So the text can take the place of
the statement, and equal texts stand for equal queries. -/

set_option autoImplicit false

namespace Projection

namespace Query

theorem ofParts_eq_ok_iff {columns : List String} {tableSource : String} {query : Query} :
    ofParts columns tableSource = .ok query ↔
      columns = query.columns ∧ tableSource = query.tableSource := by
  obtain ⟨selected, source, some_column⟩ := query
  unfold ofParts
  split
  · next empty =>
    simp only [reduceCtorEq, false_iff, not_and]
    rintro rfl
    exact absurd empty some_column
  · simp

theorem stored_toJson (query : Query) : query.toJson.Stored := by
  have columns : (Json.array (query.columns.map .string)).Stored :=
    .array (List.forall_mem_map.mpr fun column _ => .string column)
  exact .object (by simp [Json.keys])
    (List.forall_mem_cons.mpr ⟨columns, List.forall_mem_singleton.mpr (.string _)⟩)

theorem floatFree_toJson (query : Query) : query.toJson.FloatFree := by
  have columns : (Json.array (query.columns.map .string)).FloatFree :=
    .array (List.forall_mem_map.mpr fun column _ => .string column)
  exact .object (List.forall_mem_cons.mpr ⟨columns, List.forall_mem_singleton.mpr (.string _)⟩)

theorem depth_toJson_le (query : Query) : query.toJson.depth ≤ 2 := by
  have columns : (Json.array (query.columns.map .string)).depth ≤ 1 :=
    Json.depth_array_le_iff.mpr (List.forall_mem_map.mpr fun _ _ => Nat.le_refl 0)
  exact Json.depth_object_le_iff.mpr
    (List.forall_mem_cons.mpr ⟨columns, List.forall_mem_singleton.mpr (Nat.zero_le 1)⟩)

theorem ofText_render (query : Query) (style : Json.Style) :
    Json.ofText (query.render style) = .ok query.toJson := by
  have within : query.toJson.depth ≤ Json.maxDepth := query.depth_toJson_le.trans (by decide)
  have reads := Json.reads_value query.stored_toJson query.floatFree_toJson within style 0
  exact Json.readAll_of_reads reads String.toList_ofList

theorem toJson_injective : Function.Injective toJson := by
  intro a b same
  obtain ⟨columns, source, _⟩ := a
  obtain ⟨others, other, _⟩ := b
  simp only [toJson, Json.object.injEq, List.cons.injEq, Prod.mk.injEq, Json.array.injEq,
    Json.string.injEq, true_and, and_true] at same
  obtain ⟨columns_eq, rfl⟩ := same
  have strings : Function.Injective Json.string := fun _ _ => Json.string.inj
  obtain rfl := strings.list_map columns_eq
  rfl

theorem render_injective (style : Json.Style) : Function.Injective (render style) := by
  intro a b same
  apply toJson_injective
  have read := a.ofText_render style
  rw [same, b.ofText_render] at read
  exact (Except.ok.inj read).symm

end Query

theorem Mode.run_parseOnly_eq_ok_iff {files : Files} {config : Config} {statement text : String} :
    run files config statement .parseOnly = .ok text ↔
      ∃ query, Query.ofText config.keywords statement = .ok query ∧
        query.render config.style = text := by
  unfold run
  cases Query.ofText config.keywords statement <;> simp [Except.map, Except.mapError]

/-- The text of a statement's query is read as an object of its columns and its table source. The
query that is rebuilt from them is that of the statement, and over any members both are refused
alike or compiled to what can stand for each other. Two statements have one text in a style if and
only if their queries are equal. -/
theorem query_text_exchanges (files : Files) (config : Config) (statement : String) :
    (∀ text, Mode.run files config statement .parseOnly = .ok text →
      ∃ (columns : List String) (tableSource : String) (query : Query),
        Json.ofText text = .ok (.object [("columns", .array (columns.map .string)),
          ("table_source", .string tableSource)]) ∧
        Query.ofParts columns tableSource = .ok query ∧
        Query.ofText config.keywords statement = .ok query ∧
        ∀ (members : List Member) (i j : UInt64), Together CompiledQuery.Interchanges
          ((Origin.query query).compile members i)
          ((Origin.statement config.keywords statement).compile members j)) ∧
    ∀ (others : Files) (other : Config) (second : String), config.style = other.style →
      ((∃ text, Mode.run files config statement .parseOnly = .ok text ∧
          Mode.run others other second .parseOnly = .ok text) ↔
        ∃ query, Query.ofText config.keywords statement = .ok query ∧
          Query.ofText other.keywords second = .ok query) := by
  refine ⟨fun text printed => ?_, fun others other second style => ⟨?_, ?_⟩⟩
  · obtain ⟨query, parsed, rfl⟩ := Mode.run_parseOnly_eq_ok_iff.mp printed
    refine ⟨query.columns, query.tableSource, query, query.ofText_render _,
      Query.ofParts_eq_ok_iff.mpr ⟨rfl, rfl⟩, parsed, fun members i j => ?_⟩
    have same : (Origin.query query).parsed = (Origin.statement config.keywords statement).parsed :=
      parsed.symm
    exact (together_of_map_eq (Origin.frozen_compile_eq same i j)).imp
      CompiledQuery.interchanges_of_frozen
  · rintro ⟨text, printed, also⟩
    obtain ⟨query, parsed, rfl⟩ := Mode.run_parseOnly_eq_ok_iff.mp printed
    obtain ⟨found, reparsed, same⟩ := Mode.run_parseOnly_eq_ok_iff.mp also
    rw [← style] at same
    obtain rfl := Query.render_injective _ same
    exact ⟨found, parsed, reparsed⟩
  · rintro ⟨query, parsed, reparsed⟩
    refine ⟨query.render config.style, Mode.run_parseOnly_eq_ok_iff.mpr ⟨query, parsed, rfl⟩, ?_⟩
    rw [style]
    exact Mode.run_parseOnly_eq_ok_iff.mpr ⟨query, reparsed, rfl⟩

end Projection
