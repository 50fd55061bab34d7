import Mathlib.Data.List.Forall2
import Projection.CompiledQuery

set_option autoImplicit false

namespace Projection

def failure? {α : Type} : Except QueryError α → Option QueryError
  | .error error => some error
  | .ok _ => none

variable {α β : Type}

theorem failure?_eq_some_iff {result : Except QueryError α} {error : QueryError} :
    failure? result = some error ↔ result = .error error := by
  cases result <;> simp [failure?]

theorem failure?_eq_none_iff {result : Except QueryError α} :
    failure? result = none ↔ ∃ value, result = .ok value := by
  cases result <;> simp [failure?]

theorem failure?_mapM (f : α → Except QueryError β) (items : List α) :
    failure? (items.mapM f) = items.findSome? fun item => failure? (f item) := by
  induction items with
  | nil => rfl
  | cons item items ih =>
    rw [List.mapM_cons, List.findSome?_cons, ← ih]
    cases f item with
    | error error => rfl
    | ok value => cases items.mapM f <;> rfl

theorem exists_of_bind_eq_ok {result : Except QueryError α} {f : α → Except QueryError β}
    {value : β} (succeeds : result.bind f = .ok value) :
    ∃ middle, result = .ok middle ∧ f middle = .ok value := by
  cases result with
  | error error => cases succeeds
  | ok middle => exact ⟨middle, rfl, succeeds⟩

theorem forall₂_of_mapM {f : α → Except QueryError β} {items : List α} {results : List β}
    (succeeds : items.mapM f = .ok results) :
    List.Forall₂ (fun item result => f item = .ok result) items results := by
  induction items generalizing results with
  | nil =>
    cases succeeds
    exact .nil
  | cons item items ih =>
    rw [List.mapM_cons] at succeeds
    obtain ⟨value, first, succeeds⟩ := exists_of_bind_eq_ok succeeds
    obtain ⟨values, others, same⟩ := exists_of_bind_eq_ok succeeds
    cases same
    exact .cons first (ih others)

theorem mapM_of_forall₂ {f : α → Except QueryError β} {items : List α} {results : List β}
    (each : List.Forall₂ (fun item result => f item = .ok result) items results) :
    items.mapM f = .ok results := by
  induction each with
  | nil => rfl
  | cons first _ ih =>
    rw [List.mapM_cons, first, ih]
    rfl

/-- What a query is compiled from: a statement, or a query made before. -/
inductive Origin where
  | statement (keywords : KeywordRule) (text : String)
  | query (made : Query)

namespace Origin

def parsed : Origin → Except QueryError Query
  | statement keywords text => Query.ofText keywords text
  | .query made => .ok made

def compile (members : List Member) (identity : UInt64) (origin : Origin) :
    Except QueryError CompiledQuery := origin.parsed.bind (·.compile members identity)

end Origin

def BindsTo (members : List Member) (name : String) (entity : EntityType) : Prop :=
  members.find? (·.name == name) = some ⟨name, .collection entity⟩

theorem bindsTo_of_collection {members : List Member} {name : String} {entity : EntityType}
    (bound : Member.collection members name = .ok entity) : BindsTo members name entity := by
  unfold Member.collection at bound
  split at bound
  · cases bound
  · cases bound
  · next other entity found =>
    cases bound
    have same : other = name := by simpa using List.find?_some found
    subst same
    exact found

theorem bound_of_compile {query : Query} {members : List Member} {identity : UInt64}
    {compiled : CompiledQuery} (made : query.compile members identity = .ok compiled) :
    compiled.query = query ∧ ∃ entity, BindsTo members query.tableSource entity ∧
      RecordType.synthesize identity query.columns entity = .ok compiled.type := by
  unfold Query.compile at made
  split at made
  · cases made
  · next entity bound =>
    split at made
    · cases made
    · next type synthesized =>
      cases made
      exact ⟨rfl, entity, bindsTo_of_collection bound, synthesized⟩

theorem source_of_synthesize {identity : UInt64} {columns : List String} {entity : EntityType}
    {type : RecordType} (made : RecordType.synthesize identity columns entity = .ok type) :
    type.source = entity.name := by
  unfold RecordType.synthesize at made
  cases resolved : columns.mapM entity.resolve with
  | error error => simp [resolved, Except.map] at made
  | ok fields =>
    rw [resolved] at made
    cases made
    rfl

end Projection
