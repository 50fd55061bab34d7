import Projection.Proofs.Modes

set_option autoImplicit false

namespace Projection

/-- The same value, or none, for each of the columns. A zero with a sign is a value of its own. -/
def Element.AgreeOn (columns : List String) (a b : Element) : Prop :=
  ∀ column ∈ columns, a column = b column

/-- Nothing but the selected columns of the table source is compared. -/
def Context.AgreeFor (query : Query) (a b : Context) : Prop :=
  Option.Rel (List.Forall₂ (Element.AgreeOn query.columns)) (a.scan query.tableSource)
    (b.scan query.tableSource)

def Layout.RowsAgree (layout : Layout) (columns : List String) (rows others : List layout.Row) :
    Prop :=
  List.Forall₂ (fun a b => Element.AgreeOn columns (layout.element a) (layout.element b)) rows others

structure SampleData.AgreeFor (query : Query) (a b : SampleData) : Prop where
  customers : query.tableSource = "Customers" →
    Layout.customer.RowsAgree query.columns a.customers b.customers
  orders : query.tableSource = "Orders" → Layout.order.RowsAgree query.columns a.orders b.orders

/-- The contexts give the same rows one by one, as many, the same records or the same failure, and
the same text. -/
structure CompiledQuery.Confuses (compiled : CompiledQuery) (a b : Context) : Prop where
  rows : (compiled.execute a).map (fun rows => rows.pending.map rows.type.project) =
    (compiled.execute b).map fun rows => rows.pending.map rows.type.project
  hint : (compiled.execute a).map Rows.sizeHint = (compiled.execute b).map Rows.sizeHint
  records : compiled.executeAll a = compiled.executeAll b
  text : ∀ style, (compiled.execute a).bind (Rows.render style) =
    (compiled.execute b).bind (Rows.render style)

section Elements

variable {columns : List String} {a b : Element} {elements others : List Element}

theorem project_eq_of_agree {type : RecordType} (agree : a.AgreeOn type.names b) :
    type.project a = type.project b := by
  have answers : type.fields.map (type.valueIn a) = type.fields.map (type.valueIn b) := by
    refine List.map_congr_left fun field member => ?_
    rw [RecordType.valueIn, RecordType.valueIn, agree _ (List.mem_map_of_mem member)]
  have found := congrArg (List.mapM id) answers
  rw [List.mapM_map, List.mapM_map] at found
  change type.fields.mapM (type.valueIn a) = type.fields.mapM (type.valueIn b) at found
  unfold RecordType.project
  split <;> split <;> simp_all

theorem select_eq_of_agree (agree : a.AgreeOn columns b) : a.select columns = b.select columns :=
  List.filterMap_congr fun column member => by rw [agree column member]

theorem map_eq_of_agree {β : Type} {f : Element → β}
    (same : ∀ {a b : Element}, a.AgreeOn columns b → f a = f b)
    (agree : List.Forall₂ (Element.AgreeOn columns) elements others) :
    elements.map f = others.map f := by
  induction agree with
  | nil => rfl
  | cons first _ ih => rw [List.map_cons, List.map_cons, same first, ih]

end Elements

namespace CompiledQuery

variable {compiled : CompiledQuery} {a b : Context}

theorem confuses_of_agree (agree : a.AgreeFor compiled.query b) : compiled.Confuses a b := by
  unfold Context.AgreeFor at agree
  rw [← compiled.names_type] at agree
  generalize first : a.scan compiled.query.tableSource = stored at agree
  generalize second : b.scan compiled.query.tableSource = other at agree
  cases agree with
  | none =>
    have same : compiled.execute a = compiled.execute b := by simp only [execute, first, second]
    exact ⟨by rw [same], by rw [same], by rw [executeAll, same, executeAll], fun _ => by rw [same]⟩
  | @some elements others agree =>
    have results := map_eq_of_agree (f := compiled.type.project) project_eq_of_agree agree
    have collected : Rows.collect ⟨compiled.type, elements⟩ =
        Rows.collect ⟨compiled.type, others⟩ := by
      have found := congrArg (List.mapM id) results
      rwa [List.mapM_map, List.mapM_map] at found
    refine ⟨?_, ?_, ?_, fun style => ?_⟩
    · rw [execute_of_scan first, execute_of_scan second]
      exact congrArg Except.ok results
    · rw [execute_of_scan first, execute_of_scan second]
      simp only [Except.map, Rows.sizeHint, agree.length_eq]
    · rw [executeAll, executeAll, execute_of_scan first, execute_of_scan second]
      exact collected
    · rw [execute_of_scan first, execute_of_scan second]
      simp only [Except.bind, Rows.render, collected]

end CompiledQuery

theorem Layout.RowsAgree.map_element {layout : Layout} {columns : List String}
    {rows others : List layout.Row} (agree : layout.RowsAgree columns rows others) :
    List.Forall₂ (Element.AgreeOn columns) (rows.map layout.element) (others.map layout.element) := by
  rw [List.forall₂_map_left_iff, List.forall₂_map_right_iff]
  exact agree

theorem SampleData.agree_toContext {query : Query} {first second : SampleData}
    (agree : first.AgreeFor query second) : first.toContext.AgreeFor query second.toContext := by
  unfold Context.AgreeFor toContext
  by_cases customers : query.tableSource = "Customers"
  · simp only [customers, if_true]
    exact .some (agree.customers customers).map_element
  · by_cases orders : query.tableSource = "Orders"
    · simp only [if_neg customers, if_pos orders]
      exact .some (agree.orders orders).map_element
    · simp only [customers, orders, if_false]
      exact .none

theorem getD_scan_of_agree {query : Query} {a b : Context} (agree : a.AgreeFor query b) :
    List.Forall₂ (Element.AgreeOn query.columns) ((a.scan query.tableSource).getD [])
      ((b.scan query.tableSource).getD []) := by
  unfold Context.AgreeFor at agree
  generalize a.scan query.tableSource = stored at agree ⊢
  generalize b.scan query.tableSource = other at agree ⊢
  cases agree with
  | none => exact .nil
  | some agree => exact agree

/-- Contexts that agree on what a query selects give the same rows and the same failure, and sample
data that does gives the same text, whatever stands beside the selected columns. -/
theorem unselected_is_unseen :
    (∀ (compiled : CompiledQuery) (a b : Context), a.AgreeFor compiled.query b →
      compiled.Confuses a b) ∧
    ∀ (config : Config) (statement : String) (identity : UInt64) (compiled : CompiledQuery),
      (Origin.statement config.keywords statement).compile SampleData.members identity =
        .ok compiled →
      ∀ (files others : Files) (data changed : Option Path) (first second : SampleData),
        SampleData.load files { config with data } = .ok first →
        SampleData.load others { config with data := changed } = .ok second →
        first.AgreeFor compiled.query second →
        ∀ pretty, ∃ text,
          Mode.run files { config with data, pretty } statement .execute = .ok text ∧
          Mode.run others { config with data := changed, pretty } statement .execute = .ok text := by
  refine ⟨fun compiled a b => CompiledQuery.confuses_of_agree, ?_⟩
  intro config statement identity compiled made files others data changed first second
    loaded_first loaded_second agree pretty
  have selected := map_eq_of_agree (f := fun element => Json.object (element.select _))
    (fun agree => by rw [select_eq_of_agree agree])
    (getD_scan_of_agree (SampleData.agree_toContext agree))
  have shown := @Mode.execute_shows files { config with data, pretty } statement identity compiled
    first made loaded_first
  refine ⟨_, shown, ?_⟩
  rw [@Mode.execute_shows others { config with data := changed, pretty } statement identity compiled
    second made loaded_second, selected]
  rfl

def sameNames : DataFile where
  style := .compact
  customers := some (DataFile.writtenCustomers .compact
    [("Joe", ⟨7, by decide⟩, ()), ("Fred", ⟨99, by decide⟩, ())])
  orders := none
  company := none
  entries := _
  members := .refl _

theorem unselected_is_unseen_ages :
    let files : Files := fun _ => some (.file sameNames.text.toUTF8)
    let missing : Context := ⟨fun _ => some [fun _ => none]⟩
    let aged : Context := ⟨fun _ => some [fun name => if name = "Age" then some .null else none]⟩
    ∃ compiled : CompiledQuery,
      (Origin.statement {} "select Name from Customers").compile SampleData.members 1 = .ok compiled ∧
      SampleData.load files {} = .ok SampleData.demo ∧
      SampleData.load files { data := some "d.json" } = .ok sameNames.contents ∧
      SampleData.demo.AgreeFor compiled.query sameNames.contents ∧
      (∀ pretty, ∃ text,
        Mode.run files { pretty } "select Name from Customers" .execute = .ok text ∧
        Mode.run files { data := some "d.json", pretty } "select Name from Customers" .execute =
          .ok text) ∧
      missing.AgreeFor compiled.query aged ∧ compiled.Confuses missing aged ∧
      compiled.executeAll aged = .error (.unknownField "Name" "Customer") := by
  intro files missing aged
  have parsed : Query.ofText {} "select Name from Customers" =
      .ok ⟨["Name"], "Customers", by decide⟩ := by decide +kernel
  let compiled : CompiledQuery :=
    ⟨⟨["Name"], "Customers", by decide⟩, ⟨1, "Customer", [⟨"Name", .string⟩]⟩, rfl⟩
  have made : (Origin.statement {} "select Name from Customers").compile SampleData.members 1 =
      .ok compiled := by
    rw [Origin.compile, Origin.parsed, parsed]
    rfl
  obtain ⟨core, shown⟩ := unselected_is_unseen
  have names : SampleData.demo.AgreeFor compiled.query sameNames.contents := by
    refine ⟨fun _ => .cons (fun column selected => ?_) (.cons (fun column selected => ?_) .nil),
      fun orders => absurd orders (by decide)⟩ <;>
    · cases List.mem_singleton.mp selected
      rfl
  have lacking : missing.AgreeFor compiled.query aged := by
    refine .some (.cons (fun column selected => ?_) .nil)
    cases List.mem_singleton.mp selected
    rfl
  have loaded : SampleData.load files { data := some "d.json" } = .ok sameNames.contents :=
    sameNames.load_eq rfl rfl
  exact ⟨compiled, made, rfl, loaded, names,
    shown {} _ 1 compiled made files files none (some "d.json") _ _ rfl loaded names, lacking,
    core compiled missing aged lacking, rfl⟩

end Projection
