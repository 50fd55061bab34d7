import Projection.Proofs.Interchange
import Projection.Proofs.Json.Apart

set_option autoImplicit false

namespace Projection

namespace Record

theorem entries_eq_iff {a b : Record} :
    a.entries = b.entries ↔ a.type.names = b.type.names ∧ a.values = b.values := by
  constructor
  · intro same
    rw [← a.keys_entries, ← b.keys_entries, ← a.values_entries, ← b.values_entries, same]
    exact ⟨rfl, rfl⟩
  · rintro ⟨names, values⟩
    rw [entries, entries, names, values]

theorem floatFree_written {record : Record} (free : ∀ value ∈ record.values, value.FloatFree) :
    record.written.FloatFree := by
  refine .object fun entry member => free entry.2 ?_
  rw [← record.values_entries]
  exact List.mem_map_of_mem member

end Record

/-- Two records without floats have one text in a style if and only if their queries select the same
columns, repeated ones as often, and they have the same values in the same places. -/
theorem record_told_from_text {compiled other : CompiledQuery} {context second : Context}
    {a b : Record} (yields : compiled.Yields context a) (also : other.Yields second b)
    (free : ∀ value ∈ a.values, value.FloatFree) (freed : ∀ value ∈ b.values, value.FloatFree)
    (style : Json.Style) :
    (a.written.render style = b.written.render style ↔
      compiled.query.columns = other.query.columns ∧ a.values = b.values) ∧
    (a.written.render style = b.written.render style →
      a.type.names = b.type.names ∧ a.same b = true) := by
  obtain ⟨_, projected⟩ := CompiledQuery.project_of_yields yields
  obtain ⟨_, again⟩ := CompiledQuery.project_of_yields also
  have columns : a.type.names = compiled.query.columns := by
    rw [type_of_project projected, compiled.names_type]
  have others : b.type.names = other.query.columns := by
    rw [type_of_project again, other.names_type]
  have told := Json.render_eq_iff_of_floatFree (Record.floatFree_written free)
    (Record.floatFree_written freed) style
  rw [Record.written, Record.written, Json.object.injEq] at told
  refine ⟨?_, fun same => ?_⟩
  · rw [← columns, ← others, ← Record.entries_eq_iff]
    exact told
  · have entries := told.mp same
    exact ⟨(Record.entries_eq_iff.mp entries).1, Record.same_of_entries entries⟩

/-- Two columns, the same two of another type, and one column whose name is what stands between the
names and the values of the two. -/
theorem record_told_from_text_quoted :
    ∃ (compiled again other : CompiledQuery) (context : Context) (a b c : Record),
      compiled.Yields context a ∧ again.Yields context b ∧ other.Yields context c ∧
      compiled.query.columns = ["a", "b"] ∧ other.query.columns = ["a\":1,\"b"] ∧
      a.type ≠ b.type ∧ a.same b = true ∧
      ∀ style : Json.Style, a.written.render style = b.written.render style ∧
        a.written.render style ≠ c.written.render style := by
  let element : Element := fun name => some (.number (.integer (if name = "a" then 1 else 2)))
  let context : Context := ⟨fun _ => some [element]⟩
  let field (name : String) : Field := ⟨name, .integer⟩
  let compiled : CompiledQuery :=
    ⟨⟨["a", "b"], "Things", by decide⟩, ⟨1, "Thing", [field "a", field "b"]⟩, rfl⟩
  let again : CompiledQuery :=
    ⟨⟨["a", "b"], "Things", by decide⟩, ⟨2, "Thing", [field "a", field "b"]⟩, rfl⟩
  let other : CompiledQuery :=
    ⟨⟨["a\":1,\"b"], "Things", by decide⟩, ⟨3, "Thing", [field "a\":1,\"b"]⟩, rfl⟩
  let a : Record := ⟨compiled.type, [.number (.integer 1), .number (.integer 2)], rfl⟩
  let b : Record := ⟨again.type, [.number (.integer 1), .number (.integer 2)], rfl⟩
  let c : Record := ⟨other.type, [.number (.integer 2)], rfl⟩
  have yields_a : compiled.Yields context a := ⟨_, rfl, .now rfl⟩
  have yields_b : again.Yields context b := ⟨_, rfl, .now rfl⟩
  have yields_c : other.Yields context c := ⟨_, rfl, .now rfl⟩
  have integers : ∀ numbers : List Int,
      ∀ value ∈ numbers.map fun n => Json.number (.integer n), value.FloatFree := by
    intro numbers
    rw [List.forall_mem_map]
    exact fun n _ => .integer n
  have alike := record_told_from_text yields_a yields_b (integers [1, 2]) (integers [1, 2])
  have apart := record_told_from_text yields_a yields_c (integers [1, 2]) (integers [2])
  refine ⟨compiled, again, other, context, a, b, c, yields_a, yields_b, yields_c, rfl, rfl,
    by decide, ((alike .compact).2 ((alike .compact).1.mpr ⟨rfl, rfl⟩)).2, fun style => ?_⟩
  refine ⟨(alike style).1.mpr ⟨rfl, rfl⟩, fun same => ?_⟩
  obtain ⟨columns, _⟩ := (apart style).1.mp same
  exact absurd columns (by decide)

end Projection
