import Projection.Proofs.Compilation
import Projection.Proofs.Statement

set_option autoImplicit false

namespace Projection

def FirstNamed {α : Type} (nameOf : α → String) (items : List α) (name : String) (item : α) : Prop :=
  nameOf item = name ∧ ∃ before after, items = before ++ item :: after ∧
    ∀ other ∈ before, nameOf other ≠ name

theorem find?_eq_some_iff_firstNamed {α : Type} {nameOf : α → String} {items : List α}
    {name : String} {item : α} :
    items.find? (nameOf · == name) = some item ↔ FirstNamed nameOf items name item := by
  simp [FirstNamed, List.find?_eq_some_iff_append]

theorem find?_eq_none_iff_unnamed {α : Type} {nameOf : α → String} {items : List α} {name : String} :
    items.find? (nameOf · == name) = none ↔ ∀ item ∈ items, nameOf item ≠ name := by
  simp

/-- What becomes of a query, given what the members are described to be. -/
inductive Binding (members : List Member) (identity : UInt64) (query : Query) :
    Except QueryError CompiledQuery → Prop where
  | unknownTableSource (absent : ∀ member ∈ members, member.name ≠ query.tableSource) :
    Binding members identity query (.error (.unknownTableSource query.tableSource))
  | notACollection {type : FieldType}
      (first : FirstNamed Member.name members query.tableSource ⟨query.tableSource, .scalar type⟩) :
    Binding members identity query (.error (.notACollection query.tableSource))
  | unknownField {entity : EntityType} {column : String} {before after : List String}
      (first : FirstNamed Member.name members query.tableSource
        ⟨query.tableSource, .collection entity⟩)
      (split : query.columns = before ++ column :: after)
      (known : ∀ name ∈ before, ∃ field ∈ entity.fields, field.name = name)
      (unknown : ∀ field ∈ entity.fields, field.name ≠ column) :
    Binding members identity query (.error (.unknownField column entity.name))
  | bound {entity : EntityType} {compiled : CompiledQuery}
      (first : FirstNamed Member.name members query.tableSource
        ⟨query.tableSource, .collection entity⟩)
      (same : compiled.query = query) (identified : compiled.type.identity = identity)
      (source : compiled.type.source = entity.name)
      (fields : List.Forall₂ (FirstNamed Field.name entity.fields) query.columns
        compiled.type.fields) :
    Binding members identity query (.ok compiled)

section Resolution

variable {entity : EntityType} {column : String}

theorem resolve_eq_ok_iff {field : Field} :
    entity.resolve column = .ok field ↔ FirstNamed Field.name entity.fields column field := by
  rw [← find?_eq_some_iff_firstNamed, ← EntityType.field?, EntityType.resolve]
  cases entity.field? column <;> simp

theorem field?_eq_none_iff :
    entity.field? column = none ↔ ∀ field ∈ entity.fields, field.name ≠ column :=
  find?_eq_none_iff_unnamed

theorem failure?_resolve_eq_some_iff {error : QueryError} :
    failure? (entity.resolve column) = some error ↔
      (∀ field ∈ entity.fields, field.name ≠ column) ∧ error = .unknownField column entity.name := by
  rw [← field?_eq_none_iff, EntityType.resolve]
  cases entity.field? column <;> simp [failure?, eq_comm]

theorem failure?_resolve_eq_none_iff :
    failure? (entity.resolve column) = none ↔ ∃ field ∈ entity.fields, field.name = column := by
  have unnamed : entity.field? column ≠ none ↔ ∃ field ∈ entity.fields, field.name = column := by
    simp [field?_eq_none_iff]
  rw [← unnamed, EntityType.resolve]
  cases entity.field? column <;> simp [failure?]

theorem failure?_synthesize (identity : UInt64) (columns : List String) (entity : EntityType) :
    failure? (RecordType.synthesize identity columns entity) =
      columns.findSome? fun column => failure? (entity.resolve column) := by
  rw [← failure?_mapM, RecordType.synthesize]
  cases columns.mapM entity.resolve <;> rfl

theorem failure?_synthesize_eq_some_iff {identity : UInt64} {columns : List String}
    {error : QueryError} :
    failure? (RecordType.synthesize identity columns entity) = some error ↔
      ∃ before column after, columns = before ++ column :: after ∧
        ((∀ field ∈ entity.fields, field.name ≠ column) ∧
          error = .unknownField column entity.name) ∧
        ∀ name ∈ before, ∃ field ∈ entity.fields, field.name = name := by
  simp only [failure?_synthesize, List.findSome?_eq_some_iff, failure?_resolve_eq_some_iff,
    failure?_resolve_eq_none_iff]

theorem synthesize_eq_ok_iff {identity : UInt64} {columns : List String} {type : RecordType} :
    RecordType.synthesize identity columns entity = .ok type ↔
      type.identity = identity ∧ type.source = entity.name ∧
        List.Forall₂ (FirstNamed Field.name entity.fields) columns type.fields := by
  unfold RecordType.synthesize
  constructor
  · intro made
    cases resolved : columns.mapM entity.resolve with
    | error error => simp [resolved, Except.map] at made
    | ok fields =>
      rw [resolved] at made
      cases made
      exact ⟨rfl, rfl, (forall₂_of_mapM resolved).imp fun _ _ => resolve_eq_ok_iff.mp⟩
  · rintro ⟨rfl, source, fields⟩
    have resolved := mapM_of_forall₂ (fields.imp fun _ _ => resolve_eq_ok_iff.mpr)
    rw [resolved, ← source]
    rfl

end Resolution

section Compile

variable {members : List Member} {identity : UInt64} {query : Query}

theorem find?_member_iff {name : String} {member : Member} :
    Member.find? members name = some member ↔ FirstNamed Member.name members name member :=
  find?_eq_some_iff_firstNamed

/-- Why a query cannot be compiled, in the order in which the reasons are looked for. -/
theorem failure?_compile (members : List Member) (identity : UInt64) (query : Query) :
    failure? (query.compile members identity) =
      match Member.find? members query.tableSource with
      | none => some (.unknownTableSource query.tableSource)
      | some ⟨_, .scalar _⟩ => some (.notACollection query.tableSource)
      | some ⟨_, .collection entity⟩ =>
        failure? (RecordType.synthesize identity query.columns entity) := by
  unfold Query.compile Member.collection
  match Member.find? members query.tableSource with
  | none => rfl
  | some ⟨_, .scalar _⟩ => rfl
  | some ⟨_, .collection entity⟩ =>
    simp only
    split <;> simp [failure?, *]

theorem compile_eq_error_iff {error : QueryError} :
    query.compile members identity = .error error ↔
      Binding members identity query (.error error) := by
  rw [← failure?_eq_some_iff, failure?_compile]
  constructor
  · intro refused
    match found : Member.find? members query.tableSource with
    | none =>
      rw [found] at refused
      cases refused
      exact .unknownTableSource (find?_eq_none_iff_unnamed.mp found)
    | some ⟨name, shape⟩ =>
      have first := find?_member_iff.mp found
      obtain rfl : name = query.tableSource := first.1
      rw [found] at refused
      cases shape with
      | scalar type =>
        cases refused
        exact .notACollection first
      | collection entity =>
        obtain ⟨before, column, after, split, ⟨unknown, rfl⟩, known⟩ :=
          failure?_synthesize_eq_some_iff.mp refused
        exact .unknownField first split known unknown
  · intro binding
    cases binding with
    | unknownTableSource absent => rw [Member.find?, find?_eq_none_iff_unnamed.mpr absent]
    | notACollection first => rw [find?_member_iff.mpr first]
    | unknownField first split known unknown =>
      rw [find?_member_iff.mpr first]
      exact failure?_synthesize_eq_some_iff.mpr ⟨_, _, _, split, ⟨unknown, rfl⟩, known⟩

theorem compile_eq_ok_iff {compiled : CompiledQuery} :
    query.compile members identity = .ok compiled ↔
      Binding members identity query (.ok compiled) := by
  constructor
  · intro made
    obtain ⟨same, entity, bound, synthesized⟩ := bound_of_compile made
    obtain ⟨identified, source, fields⟩ := synthesize_eq_ok_iff.mp synthesized
    exact .bound (find?_member_iff.mp bound) same identified source fields
  · intro binding
    cases binding with
    | bound first same identified source fields =>
      have found := find?_member_iff.mpr first
      have synthesized := synthesize_eq_ok_iff.mpr ⟨identified, source, fields⟩
      have succeeds := failure?_compile members identity query
      simp only [found, synthesized] at succeeds
      obtain ⟨made, compiles⟩ := failure?_eq_none_iff.mp succeeds
      obtain ⟨same_made, entity, bound, synthesized_made⟩ := bound_of_compile compiles
      -- both are bound to the first member of that name, so their types are made alike
      have same_member := found.symm.trans bound
      cases same_member
      have same_type := synthesized.symm.trans synthesized_made
      rw [compiles]
      cases made
      cases compiled
      simp_all

theorem compile_eq_iff_binding {outcome : Except QueryError CompiledQuery} :
    query.compile members identity = outcome ↔ Binding members identity query outcome := by
  cases outcome with
  | error error => exact compile_eq_error_iff
  | ok compiled => exact compile_eq_ok_iff

end Compile

/-- The word of a statement that an error is about: its first word, its table source, or the first
column that is no field. -/
inductive Offends (members : List Member) : QueryError → List Lexeme → Lexeme → Prop where
  | start {word : Lexeme} {words : List Lexeme} :
    Offends members (.unexpectedStart word.text) (word :: words) word
  | absent {source : Lexeme} {words : List Lexeme} :
    Offends members (.unknownTableSource source.text) (words ++ [source]) source
  | scalar {source : Lexeme} {words : List Lexeme} :
    Offends members (.notACollection source.text) (words ++ [source]) source
  | column {select word divider source : Lexeme} {before after : List Lexeme} {entity : EntityType}
      (first : FirstNamed Member.name members source.text ⟨source.text, .collection entity⟩)
      (known : ∀ column ∈ before, ∃ field ∈ entity.fields, field.name = column.text)
      (unknown : ∀ field ∈ entity.fields, field.name ≠ word.text) :
    Offends members (.unknownField word.text entity.name)
      (select :: (before ++ word :: (after ++ [divider, source]))) word

theorem identifier?_of_verdictOfRest {keywords : KeywordRule} {words : List Lexeme}
    {error : QueryError} (refused : verdictOfRest keywords words = .error error) :
    error.identifier? = none := by
  unfold verdictOfRest verdictOfClauses at refused
  split at refused
  · cases refused
    rfl
  · split at refused <;> cases refused <;> rfl

theorem offends_of_verdict {keywords : KeywordRule} {words : List Lexeme} {error : QueryError}
    {name : String} (members : List Member) (refused : verdict keywords words = .error error)
    (named : error.identifier? = some name) :
    (words = [] ∧ name = "") ∨
      ∃ word ∈ words, word.unclosed? = none ∧ word.text = name ∧ Offends members error words word := by
  cases words with
  | nil =>
    cases refused
    cases named
    exact .inl ⟨rfl, rfl⟩
  | cons first words =>
    right
    by_cases select : keywords.Marks "SELECT" first
    · obtain ⟨start, rfl, _⟩ := KeywordRule.eq_bare_of_marks select
      simp only [verdict, if_pos select] at refused
      rw [identifier?_of_verdictOfRest refused] at named
      cases named
    · cases first with
      | unclosed text =>
        cases refused
        cases named
      | bare text | bracketed text =>
        simp only [verdict, if_neg select] at refused
        cases refused
        cases named
        exact ⟨_, List.mem_cons_self, rfl, rfl, .start⟩

theorem offends_of_binding {keywords : KeywordRule} {members : List Member} {identity : UInt64}
    {query : Query} {words : List Lexeme} {error : QueryError} {name : String}
    (selects : Selects keywords words query.columns query.tableSource)
    (refused : Binding members identity query (.error error))
    (named : error.identifier? = some name) :
    ∃ word ∈ words, word.unclosed? = none ∧ word.text = name ∧ Offends members error words word := by
  obtain ⟨columns, tableSource, some_column⟩ := query
  simp only at selects
  obtain @⟨first, divider, forms, source, _, _, closed, _, source_closed⟩ := selects
  have last : Lexeme.bare first :: (forms ++ [.bare divider, source]) =
      (.bare first :: (forms ++ [.bare divider])) ++ [source] := by simp
  cases refused with
  | unknownTableSource absent =>
    cases named
    refine ⟨source, by simp, source_closed, rfl, ?_⟩
    rw [last]
    exact .absent
  | notACollection scalar =>
    cases named
    refine ⟨source, by simp, source_closed, rfl, ?_⟩
    rw [last]
    exact .scalar
  | unknownField bound split known unknown =>
    cases named
    obtain ⟨before, rest, rfl, rfl, others⟩ := List.map_eq_append_iff.mp split
    obtain ⟨word, after, rfl, rfl, _⟩ := List.map_eq_cons_iff.mp others
    refine ⟨word, by simp, (closed word (by simp)).1, rfl, ?_⟩
    rw [List.append_assoc, List.cons_append]
    refine .column bound (fun column member => ?_) unknown
    exact known column.text (List.mem_map_of_mem member)

theorem form_of_proper {word : Lexeme} (proper : word.Proper) (closed : word.unclosed? = none) :
    (word = .bare word.text ∧ word.text ≠ "") ∨ word = .bracketed word.text := by
  cases word with
  | unclosed text => cases closed
  | bracketed text => exact .inr rfl
  | bare text =>
    refine .inl ⟨rfl, fun empty => proper.1 ?_⟩
    simp [show text = "" from empty]

/-- The outcome of compiling a statement, and what its error names. -/
theorem compile_decides_by_binding (keywords : KeywordRule) (text : String)
    (members : List Member) (identity : UInt64) :
    (∀ outcome, (Origin.statement keywords text).compile members identity = outcome ↔
      (∃ error, Query.ofText keywords text = .error error ∧ outcome = .error error) ∨
        ∃ query, Query.ofText keywords text = .ok query ∧ Binding members identity query outcome) ∧
    ∃ writing : Writing, writing.IsOf text.toList ∧
      (∀ other : Writing, other.IsOf text.toList → other = writing) ∧
      ∀ error name,
        (Origin.statement keywords text).compile members identity = .error error →
        error.identifier? = some name →
        (writing.items = [] ∧ name = "") ∨
          ∃ word ∈ writing.items, Offends members error writing.items word ∧
            ((word = .bare name ∧ name ≠ "") ∨ word = .bracketed name) := by
  have judged := parts_ofText keywords text
  obtain ⟨writing, is_of, unique⟩ := Writing.existsUnique_isOf text.toList
  rw [← is_of.items_eq] at judged
  have outcome : (Origin.statement keywords text).compile members identity =
      (Query.ofText keywords text).bind (·.compile members identity) := rfl
  rw [outcome]
  cases parsed : Query.ofText keywords text with
  | error refused =>
    rw [parsed] at judged
    refine ⟨fun outcome => by simp [Except.bind, eq_comm], writing, is_of, unique, ?_⟩
    rintro error name same named
    cases same
    rcases offends_of_verdict members judged.symm named with empty | ⟨word, member, closed, rfl, offends⟩
    · exact .inl empty
    · have form := form_of_proper (Writing.proper_of_mem_items is_of.proper member) closed
      exact .inr ⟨word, member, offends, form⟩
  | ok query =>
    rw [parsed] at judged
    refine ⟨fun outcome => by simp [Except.bind, compile_eq_iff_binding], writing, is_of, unique, ?_⟩
    rintro error name refused named
    obtain ⟨word, member, closed, rfl, offends⟩ := offends_of_binding
      (selects_of_verdict judged.symm) (compile_eq_iff_binding.mp refused) named
    have form := form_of_proper (Writing.proper_of_mem_items is_of.proper member) closed
    exact .inr ⟨word, member, offends, form⟩

end Projection
