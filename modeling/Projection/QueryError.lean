import Projection.Token

set_option autoImplicit false

namespace Projection

inductive QueryError where
  /-- The statement's first word, empty if it has none, is not the SELECT keyword. -/
  | unexpectedStart (found : String)
  | unterminatedIdentifier (text : String)
  | closedLexer
  | misplacedToken (phase : Phase) (kind : TokenKind) (text : String)
  | emptySelectList
  | missingTableSource
  | multipleTableSources (names : List String)
  | unknownField (field entity : String)
  | unknownTableSource (name : String)
  | notACollection (name : String)
  deriving DecidableEq, Repr

namespace QueryError

inductive Category where
  | lexical
  | grammatical
  | semantic
  deriving DecidableEq, Repr

def Category.name : Category → String
  | lexical => "Lexical"
  | grammatical => "Syntax"
  | semantic => "Semantic"

def category : QueryError → Category
  | unexpectedStart _ | unterminatedIdentifier _ | closedLexer => .lexical
  | misplacedToken _ _ _ => .grammatical
  | emptySelectList | missingTableSource | multipleTableSources _ | unknownField _ _
  | unknownTableSource _ | notACollection _ => .semantic

/-- The word of the statement that the error is about. -/
def identifier? : QueryError → Option String
  | unexpectedStart found => some found
  | unknownField field _ => some field
  | unknownTableSource name | notACollection name => some name
  | unterminatedIdentifier _ | closedLexer | misplacedToken _ _ _ | emptySelectList
  | missingTableSource | multipleTableSources _ => none

def reason : QueryError → String
  | unexpectedStart found => "statement must start with SELECT, found '" ++ found ++ "'"
  | unterminatedIdentifier text => "unterminated bracketed identifier '[" ++ text ++ "'"
  | closedLexer => "lexer has been closed"
  | misplacedToken phase kind text =>
    "unexpected " ++ kind.name ++ " token '" ++ text ++ "' in state " ++ phase.name
  | emptySelectList => "select list is empty"
  | missingTableSource => "missing table source after FROM"
  | multipleTableSources names =>
    "multiple table sources are not supported: " ++ ", ".intercalate names
  | unknownField field entity => "unknown field '" ++ field ++ "' on '" ++ entity ++ "'"
  | unknownTableSource name => "unknown table source '" ++ name ++ "'"
  | notACollection name => "table source '" ++ name ++ "' is not a collection"

def message (error : QueryError) : String :=
  error.category.name ++ " error: " ++ error.reason

end QueryError

end Projection
