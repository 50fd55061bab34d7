import Projection.Lexer

set_option autoImplicit false

namespace Projection

structure Query where
  columns : List String
  tableSource : String
  columns_ne_nil : columns ≠ []
  deriving DecidableEq

namespace Query

def ofParts (columns : List String) (tableSource : String) : Except QueryError Query :=
  if h : columns = [] then .error .emptySelectList else .ok ⟨columns, tableSource, h⟩

end Query

structure Clauses where
  columns : List String := []
  tableSources : List String := []
  deriving DecidableEq, Repr

namespace Clauses

/-- A token counts by its kind and by the phase reported after it. -/
def accept (clauses : Clauses) : Token → Phase → Except QueryError Clauses
  | ⟨.selectKeyword, _⟩, .selectList | ⟨.fromKeyword, _⟩, .tableSource => .ok clauses
  | ⟨.column, text⟩, .selectList => .ok { clauses with columns := clauses.columns ++ [text] }
  | ⟨.tableSource, text⟩, .tableSource | ⟨.tableSource, text⟩, .finished =>
    .ok { clauses with tableSources := clauses.tableSources ++ [text] }
  | ⟨kind, text⟩, phase => .error (.misplacedToken phase kind text)

def toQuery (clauses : Clauses) : Except QueryError Query :=
  if clauses.columns = [] then .error .emptySelectList
  else
    match clauses.tableSources with
    | [] => .error .missingTableSource
    | [tableSource] => Query.ofParts clauses.columns tableSource
    | tableSources => .error (.multipleTableSources tableSources)

end Clauses

namespace Query

def ofSource {σ : Type} [TokenSource σ] (source : σ) : Except QueryError Query × σ :=
  let (clauses, rest) := TokenSource.fold Clauses.accept {} source
  (clauses.bind Clauses.toQuery, rest)

def ofText (keywords : KeywordRule) (statement : String) : Except QueryError Query :=
  (ofSource (Lexer.ofText keywords statement)).1

end Query

end Projection
