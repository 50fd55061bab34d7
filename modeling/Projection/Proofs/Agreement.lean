import Projection.Items
import Projection.Proofs.Binding
import Projection.Proofs.Execution

set_option autoImplicit false

namespace Projection

/-- Exactly the described collections are stored, and their elements have exactly the described
fields. -/
structure Context.Agrees (context : Context) (members : List Member) : Prop where
  collections : ∀ name, (context.scan name).isSome ↔ ∃ entity, BindsTo members name entity
  fields : ∀ {name : String} {entity : EntityType} {elements : List Element},
    BindsTo members name entity → context.scan name = some elements →
      ∀ element ∈ elements, ∀ column, (element column).isSome ↔ (entity.field? column).isSome

/-- The query starts, and each of so many elements gives its row. -/
def CompiledQuery.RunsThrough (compiled : CompiledQuery) (context : Context) (count : Nat) : Prop :=
  ∃ rows records, compiled.execute context = .ok rows ∧ rows.pending.length = count ∧
    List.Forall₂ (fun element record => rows.type.project element = .ok record) rows.pending records ∧
    compiled.executeAll context = .ok records

section Agreement

variable {context : Context} {members : List Member} {origin : Origin} {identity : UInt64}
  {compiled : CompiledQuery}

theorem isSome_field?_of_synthesize {columns : List String} {entity : EntityType}
    {type : RecordType} (made : RecordType.synthesize identity columns entity = .ok type) :
    ∀ column ∈ columns, (entity.field? column).isSome := by
  have unfailing := failure?_synthesize identity columns entity
  rw [made] at unfailing
  have resolved := List.findSome?_eq_none_iff.mp unfailing.symm
  intro column selected
  obtain ⟨field, found⟩ := failure?_eq_none_iff.mp (resolved column selected)
  rw [EntityType.field?, find?_eq_some_iff_firstNamed.mpr (resolve_eq_ok_iff.mp found)]
  rfl

theorem runsThrough_of_agrees (agrees : context.Agrees members)
    (made : origin.compile members identity = .ok compiled) :
    ∃ entity elements, BindsTo members compiled.query.tableSource entity ∧
      context.scan compiled.query.tableSource = some elements ∧
      compiled.RunsThrough context elements.length := by
  obtain ⟨query, _, bound⟩ := exists_of_bind_eq_ok made
  obtain ⟨rfl, entity, binds, synthesized⟩ := bound_of_compile bound
  have described := isSome_field?_of_synthesize synthesized
  have stored := (agrees.collections compiled.query.tableSource).mpr ⟨entity, binds⟩
  obtain ⟨elements, scanned⟩ := Option.isSome_iff_exists.mp stored
  have complete : ∀ element ∈ elements, ∀ column ∈ compiled.query.columns,
      (element column).isSome := by
    intro element member column selected
    exact (agrees.fields binds scanned element member column).mpr (described column selected)
  have executed := execute_of_scan scanned
  have unfailing := failure?_collect compiled.type elements
  rw [compiled.names_type, findSome?_lacks?_eq_none_iff.mpr complete] at unfailing
  obtain ⟨records, collected⟩ := failure?_eq_none_iff.mp unfailing
  refine ⟨entity, elements, binds, scanned, _, records, executed, rfl, forall₂_of_mapM collected, ?_⟩
  rw [CompiledQuery.executeAll, executed]
  exact collected

end Agreement

namespace Cells

theorem isSome_get?_iff (columns : List Column) (cells : Cells columns) (name : String) :
    (get? columns cells name).isSome ↔ ∃ column ∈ columns, column.name = name := by
  induction columns with
  | nil => simp [get?]
  | cons column columns ih =>
    obtain ⟨value, others⟩ := cells
    by_cases same : column.name = name
    · simp [get?, same]
    · simp [get?, same, ih]

end Cells

namespace Layout

theorem isSome_element_iff (layout : Layout) (row : layout.Row) (column : String) :
    (layout.element row column).isSome ↔ (layout.entityType.field? column).isSome := by
  have described : (layout.entityType.field? column).isSome ↔
      ∃ described ∈ layout.columns, described.name = column := by
    simp [EntityType.field?, entityType, Column.field]
  rw [described, element, Cells.isSome_get?_iff]

theorem fields_agree (layout : Layout) (rows : List layout.Row) :
    ∀ element ∈ rows.map layout.element, ∀ column,
      (element column).isSome ↔ (layout.entityType.field? column).isSome := by
  intro element member column
  obtain ⟨row, _, rfl⟩ := List.mem_map.mp member
  exact layout.isSome_element_iff row column

end Layout

namespace SampleData

theorem bindsTo_members_iff {name : String} {entity : EntityType} :
    BindsTo members name entity ↔
      name = "Customers" ∧ entity = Layout.customer.entityType ∨
        name = "Orders" ∧ entity = Layout.order.entityType := by
  unfold BindsTo members
  by_cases customers : name = "Customers"
  · subst customers
    simp [eq_comm]
  · by_cases orders : name = "Orders"
    · subst orders
      simp [eq_comm]
    · by_cases company : name = "Company"
      · subst company
        simp
      · simp [customers, orders, Ne.symm customers, Ne.symm orders, Ne.symm company]

theorem agrees (data : SampleData) : data.toContext.Agrees members where
  collections name := by
    simp only [bindsTo_members_iff, toContext]
    by_cases customers : name = "Customers"
    · simp [customers]
    · by_cases orders : name = "Orders" <;> simp [customers, orders]
  fields binds scanned := by
    obtain ⟨rfl, rfl⟩ | ⟨rfl, rfl⟩ := bindsTo_members_iff.mp binds
    · cases scanned
      exact Layout.customer.fields_agree data.customers
    · cases scanned
      exact Layout.order.fields_agree data.orders

end SampleData

namespace Items

theorem bindsTo_members_iff {name : String} {entity : EntityType} :
    BindsTo members name entity ↔ name = "Items" ∧ entity = Layout.item.entityType := by
  unfold BindsTo members
  by_cases items : name = "Items"
  · subst items
    simp [eq_comm]
  · by_cases count : name = "Count"
    · subst count
      simp
    · simp [items, Ne.symm items, Ne.symm count]

theorem agrees (rows : List Layout.item.Row) : (toContext rows).Agrees members where
  collections name := by
    simp only [bindsTo_members_iff, toContext]
    by_cases items : name = "Items" <;> simp [items]
  fields binds scanned := by
    obtain ⟨rfl, rfl⟩ := bindsTo_members_iff.mp binds
    cases scanned
    exact Layout.item.fields_agree rows

end Items

/-- Whatever the data, what has been compiled for the sample data or for items runs to its last
row. -/
theorem compiled_runsThrough (data : SampleData) (items : List Layout.item.Row) :
    data.toContext.Agrees SampleData.members ∧ (Items.toContext items).Agrees Items.members ∧
    (∀ (layout : Layout) (row : layout.Row) (column : String),
      (layout.element row column).isSome ↔ (layout.entityType.field? column).isSome) ∧
    (∀ (origin : Origin) (identity : UInt64) (compiled : CompiledQuery),
      origin.compile SampleData.members identity = .ok compiled →
        (compiled.query.tableSource = "Customers" ∧
            compiled.RunsThrough data.toContext data.customers.length) ∨
          (compiled.query.tableSource = "Orders" ∧
            compiled.RunsThrough data.toContext data.orders.length)) ∧
    ∀ (origin : Origin) (identity : UInt64) (compiled : CompiledQuery),
      origin.compile Items.members identity = .ok compiled →
        compiled.query.tableSource = "Items" ∧
          compiled.RunsThrough (Items.toContext items) items.length := by
  refine ⟨data.agrees, Items.agrees items, Layout.isSome_element_iff, ?_, ?_⟩
  · intro origin identity compiled made
    obtain ⟨entity, elements, binds, scanned, runs⟩ := runsThrough_of_agrees data.agrees made
    rcases SampleData.bindsTo_members_iff.mp binds with ⟨source, _⟩ | ⟨source, _⟩
    · rw [source] at scanned
      cases scanned
      exact .inl ⟨source, by simpa using runs⟩
    · rw [source] at scanned
      cases scanned
      exact .inr ⟨source, by simpa using runs⟩
  · intro origin identity compiled made
    obtain ⟨entity, elements, binds, scanned, runs⟩ := runsThrough_of_agrees (Items.agrees items) made
    obtain ⟨source, _⟩ := Items.bindsTo_members_iff.mp binds
    rw [source] at scanned
    cases scanned
    exact ⟨source, by simpa using runs⟩

end Projection
