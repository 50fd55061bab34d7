import Projection.Query
import Projection.Record

set_option autoImplicit false

namespace Projection

structure CompiledQuery where
  query : Query
  type : RecordType
  names_type : type.names = query.columns

/-- The entity type of a table source. The first member of that name decides. -/
def Member.collection (members : List Member) (name : String) : Except QueryError EntityType :=
  match Member.find? members name with
  | none => .error (.unknownTableSource name)
  | some ⟨_, .scalar _⟩ => .error (.notACollection name)
  | some ⟨_, .collection entity⟩ => .ok entity

def Query.compile (query : Query) (members : List Member) (identity : UInt64) :
    Except QueryError CompiledQuery :=
  match Member.collection members query.tableSource with
  | .error error => .error error
  | .ok entity =>
    match made : RecordType.synthesize identity query.columns entity with
    | .error error => .error error
    | .ok type => .ok ⟨query, type, RecordType.names_synthesize made⟩

structure SizeHint where
  lower : Nat
  upper : Nat
  deriving DecidableEq, Repr

structure Rows where
  type : RecordType
  pending : List Element

namespace Rows

def next (rows : Rows) : Option (Except QueryError Record) × Rows :=
  match rows.pending with
  | [] => (none, rows)
  | element :: pending => (some (rows.type.project element), { rows with pending })

def sizeHint (rows : Rows) : SizeHint := ⟨rows.pending.length, rows.pending.length⟩

def collect (rows : Rows) : Except QueryError (List Record) :=
  rows.pending.mapM rows.type.project

end Rows

namespace CompiledQuery

def execute (compiled : CompiledQuery) (context : Context) : Except QueryError Rows :=
  match context.scan compiled.query.tableSource with
  | none => .error (.unknownTableSource compiled.query.tableSource)
  | some elements => .ok ⟨compiled.type, elements⟩

def executeAll (compiled : CompiledQuery) (context : Context) : Except QueryError (List Record) :=
  (compiled.execute context).bind Rows.collect

end CompiledQuery

end Projection
