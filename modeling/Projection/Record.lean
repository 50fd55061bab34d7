import Projection.Entity
import Projection.QueryError

set_option autoImplicit false

namespace Projection

/-- Types that are made apart have different identities, even if their fields are the same. -/
structure RecordType where
  identity : UInt64
  source : String
  fields : List Field
  deriving DecidableEq, Repr

namespace RecordType

def names (type : RecordType) : List String := type.fields.map Field.name

def position? (type : RecordType) (name : String) : Option Nat :=
  type.fields.findIdx? (·.name == name)

def sameFields (a b : RecordType) : Bool := a.fields == b.fields

end RecordType

def EntityType.resolve (entity : EntityType) (column : String) : Except QueryError Field :=
  match entity.field? column with
  | some field => .ok field
  | none => .error (.unknownField column entity.name)

theorem EntityType.resolve_name {entity : EntityType} {column : String} {field : Field}
    (h : entity.resolve column = .ok field) : field.name = column := by
  unfold resolve at h
  split at h
  · next found =>
    cases h
    simpa using List.find?_some found
  · cases h

def RecordType.synthesize (identity : UInt64) (columns : List String) (entity : EntityType) :
    Except QueryError RecordType :=
  (columns.mapM entity.resolve).map fun fields => ⟨identity, entity.name, fields⟩

theorem map_eq_of_mapM {α β γ : Type} {f : α → Except QueryError β} {g : β → γ} {k : α → γ}
    (each : ∀ {item : α} {result : β}, f item = .ok result → g result = k item) :
    {items : List α} → {results : List β} → items.mapM f = .ok results →
      results.map g = items.map k
  | [], results, h => by
    cases h
    rfl
  | item :: items, results, h => by
    rw [List.mapM_cons] at h
    cases first : f item with
    | error => simp [first, bind, Except.bind] at h
    | ok value =>
      cases others : items.mapM f with
      | error => simp [first, others, bind, Except.bind] at h
      | ok values =>
        simp only [first, others, bind, Except.bind, pure, Except.pure, Except.ok.injEq] at h
        rw [← h, List.map_cons, List.map_cons, each first, map_eq_of_mapM each others]

theorem length_of_mapM {α β : Type} {f : α → Except QueryError β} {items : List α}
    {results : List β} (h : items.mapM f = .ok results) : results.length = items.length := by
  have same := map_eq_of_mapM (g := fun _ => ()) (k := fun _ => ()) (fun _ => rfl) h
  simpa using congrArg List.length same

theorem RecordType.names_synthesize {identity : UInt64} {columns : List String} {entity : EntityType}
    {type : RecordType} (h : synthesize identity columns entity = .ok type) :
    type.names = columns := by
  unfold synthesize at h
  cases fields : columns.mapM entity.resolve with
  | error => simp [fields, Except.map] at h
  | ok found =>
    simp only [fields, Except.map, Except.ok.injEq] at h
    rw [← h]
    simpa [names] using map_eq_of_mapM (k := id) EntityType.resolve_name fields

structure Record where
  type : RecordType
  values : List Json
  length_values : values.length = type.fields.length

namespace Record

def entries (record : Record) : List (String × Json) := record.type.names.zip record.values

def get? (record : Record) (name : String) : Option Json := Json.find? name record.entries

/-- The record as it is written: a repeated column is written each time. -/
def written (record : Record) : Json := .object record.entries

/-- The record as an object. A repeated column keeps its first place and its last value. -/
def toObject (record : Record) : Json := .object (Json.ofEntries record.entries)

/-- Records are compared by their names and values, not by their types. -/
def same (a b : Record) : Bool :=
  Json.sameItems a.values b.values && a.type.names == b.type.names

end Record

namespace RecordType

def valueIn (type : RecordType) (element : Element) (field : Field) : Except QueryError Json :=
  match element field.name with
  | some value => .ok value
  | none => .error (.unknownField field.name type.source)

/-- The record of an element. The first field that the element lacks is reported. -/
def project (type : RecordType) (element : Element) : Except QueryError Record :=
  match values : type.fields.mapM (type.valueIn element) with
  | .error error => .error error
  | .ok found => .ok ⟨type, found, length_of_mapM values⟩

end RecordType

end Projection
