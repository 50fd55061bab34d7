import Projection.Proofs.Compilation
import Projection.SampleData

set_option autoImplicit false

namespace Projection

def Element.lacks? (columns : List String) (element : Element) : Option String :=
  columns.find? fun column => (element column).isNone

/-- A record that pairs each column, in order, with the element's value, and holds nothing else. -/
def Record.Shows (record : Record) (columns : List String) (element : Element) : Prop :=
  record.entries.map (fun entry => (entry.1, some entry.2)) =
    columns.map fun column => (column, element column)

theorem failure?_valueIn (type : RecordType) (element : Element) (field : Field) :
    failure? (type.valueIn element field) =
      if (element field.name).isNone then some (.unknownField field.name type.source)
      else none := by
  unfold RecordType.valueIn
  cases element field.name <;> rfl

theorem findSome?_missing (element : Element) (source : String) (fields : List Field) :
    (fields.findSome? fun field =>
        if (element field.name).isNone then some (QueryError.unknownField field.name source)
        else none) =
      (element.lacks? (fields.map Field.name)).map (.unknownField · source) := by
  induction fields with
  | nil => rfl
  | cons field fields ih =>
    rw [List.findSome?_cons, ih]
    cases missing : (element field.name).isNone <;> simp [Element.lacks?, missing]

theorem failure?_project (type : RecordType) (element : Element) :
    failure? (type.project element) =
      (element.lacks? type.names).map (.unknownField · type.source) := by
  have values := failure?_mapM (type.valueIn element) type.fields
  simp only [failure?_valueIn, findSome?_missing] at values
  rw [RecordType.names, ← values]
  unfold RecordType.project
  split <;> simp [*, failure?]

theorem eq_some_of_valueIn {type : RecordType} {element : Element} {field : Field} {value : Json}
    (found : type.valueIn element field = .ok value) : element field.name = some value := by
  unfold RecordType.valueIn at found
  split at found
  · next present =>
    cases found
    exact present
  · cases found

theorem zip_names_of_each {type : RecordType} {element : Element} {fields : List Field}
    {values : List Json} (each : List.Forall₂
      (fun field value => type.valueIn element field = .ok value) fields values) :
    ((fields.map Field.name).zip values).map (fun entry => (entry.1, some entry.2)) =
      (fields.map Field.name).map fun column => (column, element column) := by
  induction each with
  | nil => rfl
  | cons first others ih => simp [eq_some_of_valueIn first, ih]

theorem shows_of_project {type : RecordType} {element : Element} {record : Record}
    (projected : type.project element = .ok record) : record.Shows type.names element := by
  unfold RecordType.project at projected
  split at projected
  · cases projected
  · next values found =>
    cases projected
    exact zip_names_of_each (forall₂_of_mapM found)

theorem failure?_collect (type : RecordType) (elements : List Element) :
    failure? (Rows.collect ⟨type, elements⟩) =
      (elements.findSome? (·.lacks? type.names)).map (.unknownField · type.source) := by
  rw [Rows.collect, failure?_mapM]
  simp only [failure?_project]
  induction elements with
  | nil => rfl
  | cons element elements ih =>
    rw [List.findSome?_cons, List.findSome?_cons, ih]
    cases element.lacks? type.names <;> rfl

theorem findSome?_lacks?_eq_none_iff {columns : List String} {elements : List Element} :
    elements.findSome? (·.lacks? columns) = none ↔
      ∀ element ∈ elements, ∀ column ∈ columns, (element column).isSome := by
  simp [List.findSome?_eq_none_iff, Element.lacks?, Option.isSome_iff_ne_none]

theorem execute_of_scan {compiled : CompiledQuery} {context : Context} {elements : List Element}
    (scanned : context.scan compiled.query.tableSource = some elements) :
    compiled.execute context = .ok ⟨compiled.type, elements⟩ := by
  simp only [CompiledQuery.execute, scanned]

theorem exists_scan_of_execute {compiled : CompiledQuery} {context : Context}
    {rows : Rows} (executed : compiled.execute context = .ok rows) :
    ∃ elements, context.scan compiled.query.tableSource = some elements ∧
      rows = ⟨compiled.type, elements⟩ := by
  unfold CompiledQuery.execute at executed
  split at executed
  · cases executed
  · next elements scanned =>
    cases executed
    exact ⟨elements, scanned, rfl⟩

/-- A compiled query cannot start where nothing is stored. Elsewhere it gives one record for each
element or, if an element is incomplete, the first gap of the first such element. -/
theorem executeAll_projects {origin : Origin} {members : List Member} {identity : UInt64}
    {compiled : CompiledQuery} (made : origin.compile members identity = .ok compiled)
    (context : Context) :
    origin.parsed = .ok compiled.query ∧
      ∃ entity, BindsTo members compiled.query.tableSource entity ∧
        (compiled.execute context = .error (.unknownTableSource compiled.query.tableSource) ↔
          context.scan compiled.query.tableSource = none) ∧
        ∀ elements, context.scan compiled.query.tableSource = some elements →
          (∃ rows, compiled.execute context = .ok rows) ∧
          ((∀ element ∈ elements, ∀ column ∈ compiled.query.columns, (element column).isSome) →
            ∃ records, compiled.executeAll context = .ok records ∧
              List.Forall₂ (fun element record => record.Shows compiled.query.columns element)
                elements records) ∧
          ((∃ element ∈ elements, ∃ column ∈ compiled.query.columns, element column = none) →
            ∃ field, elements.findSome? (·.lacks? compiled.query.columns) = some field ∧
              compiled.executeAll context = .error (.unknownField field entity.name)) := by
  obtain ⟨query, parsed, made⟩ := exists_of_bind_eq_ok made
  obtain ⟨rfl, entity, bound, synthesized⟩ := bound_of_compile made
  refine ⟨parsed, entity, bound, ?_, fun elements stored => ?_⟩
  · unfold CompiledQuery.execute
    cases context.scan compiled.query.tableSource <;> simp
  · have executed : compiled.execute context = .ok ⟨compiled.type, elements⟩ := by
      simp only [CompiledQuery.execute, stored]
    have collected : compiled.executeAll context = Rows.collect ⟨compiled.type, elements⟩ := by
      simp only [CompiledQuery.executeAll, executed]
      rfl
    have failed := failure?_collect compiled.type elements
    rw [compiled.names_type, source_of_synthesize synthesized, ← collected] at failed
    refine ⟨⟨_, executed⟩, fun complete => ?_, ?_⟩
    · rw [findSome?_lacks?_eq_none_iff.mpr complete] at failed
      obtain ⟨records, found⟩ := failure?_eq_none_iff.mp failed
      refine ⟨records, found, ?_⟩
      rw [collected] at found
      rw [← compiled.names_type]
      exact (forall₂_of_mapM found).imp fun _ _ => shows_of_project
    · rintro ⟨element, member, column, selected, missing⟩
      cases gap : elements.findSome? (·.lacks? compiled.query.columns) with
      | none =>
        have present := findSome?_lacks?_eq_none_iff.mp gap element member column selected
        simp [missing] at present
      | some field =>
        rw [gap] at failed
        exact ⟨field, rfl, failure?_eq_some_iff.mp failed⟩

theorem executeAll_projects_nameless :
    ∃ compiled : CompiledQuery,
      (Origin.statement {} "select Age,[Name],Age from Customers").compile SampleData.members 1 =
          .ok compiled ∧
        compiled.executeAll ⟨fun _ => some [fun _ => some .null,
          fun name => if name = "Age" then some (.bool true) else none]⟩ =
          .error (.unknownField "Name" "Customer") := by
  have parsed : Query.ofText {} "select Age,[Name],Age from Customers" =
      .ok ⟨["Age", "Name", "Age"], "Customers", by decide⟩ := by decide +kernel
  have made : (Origin.statement {} "select Age,[Name],Age from Customers").compile
      SampleData.members 1 = .ok ⟨⟨["Age", "Name", "Age"], "Customers", by decide⟩,
        ⟨1, "Customer", [⟨"Age", .integer⟩, ⟨"Name", .string⟩, ⟨"Age", .integer⟩]⟩, rfl⟩ := by
    rw [Origin.compile, Origin.parsed, parsed]
    rfl
  obtain ⟨_, entity, bound, _, projects⟩ := executeAll_projects made
    ⟨fun _ => some [fun _ => some .null,
      fun name => if name = "Age" then some (.bool true) else none]⟩
  obtain ⟨field, first, failed⟩ := (projects _ rfl).2.2
    ⟨_, List.mem_cons_of_mem _ List.mem_cons_self, "Name", by decide, rfl⟩
  cases first
  cases bound
  exact ⟨_, made, failed⟩

end Projection
