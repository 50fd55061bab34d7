import Projection.Lexeme

set_option autoImplicit false

namespace Projection

inductive TokenKind where
  | selectKeyword
  | column
  | fromKeyword
  | tableSource
  deriving DecidableEq, Repr

namespace TokenKind

def name : TokenKind → String
  | selectKeyword => "SelectKeyword"
  | column => "SelectListColumn"
  | fromKeyword => "FromKeyword"
  | tableSource => "TableSource"

def all : List TokenKind := [selectKeyword, column, fromKeyword, tableSource]

def ofName? (name : String) : Option TokenKind := all.find? (·.name == name)

end TokenKind

inductive Phase where
  | start
  | selectList
  | tableSource
  | finished
  deriving DecidableEq, Repr

namespace Phase

def name : Phase → String
  | start => "None"
  | selectList => "SelectList"
  | tableSource => "TableSource"
  | finished => "End"

def all : List Phase := [start, selectList, tableSource, finished]

def ofName? (name : String) : Option Phase := all.find? (·.name == name)

end Phase

structure Token where
  kind : TokenKind
  text : String
  deriving DecidableEq, Repr

/-- How the two keywords are recognised: in upper case only, or in any ASCII case. -/
structure KeywordRule where
  caseSensitive : Bool := false
  deriving DecidableEq, Repr

/-- Letters outside ASCII keep their case. -/
def foldCase (text : String) : List Char := text.toList.map Char.toLower

namespace KeywordRule

/-- A bracketed word is a name, whatever its text. -/
def accepts (rule : KeywordRule) (keyword : String) : Lexeme → Bool
  | .bare text =>
    if rule.caseSensitive then text == keyword else foldCase text == foldCase keyword
  | _ => false

def acceptsSelect (rule : KeywordRule) : Lexeme → Bool := rule.accepts "SELECT"

def acceptsFrom (rule : KeywordRule) : Lexeme → Bool := rule.accepts "FROM"

end KeywordRule

end Projection
