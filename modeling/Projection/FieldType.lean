set_option autoImplicit false

namespace Projection

inductive FieldType where
  | bool
  | integer
  | float
  | string
  | optional (content : FieldType)
  | list (item : FieldType)
  deriving DecidableEq, Repr

namespace FieldType

def write : FieldType → List Char
  | bool => "bool".toList
  | integer => "integer".toList
  | float => "float".toList
  | string => "string".toList
  | optional content => content.write ++ ['?']
  | list item => '[' :: (item.write ++ [']'])

def text (type : FieldType) : String := String.ofList type.write

def ofName? (name : List Char) : Option FieldType :=
  if name = "bool".toList then some bool
  else if name = "integer".toList then some integer
  else if name = "float".toList then some float
  else if name = "string".toList then some string
  else none

/-- A final question mark is read first, then a pair of brackets around the text. -/
def read? (written : List Char) : Option FieldType :=
  if written.getLast? = some '?' then (read? written.dropLast).map optional
  else if written.head? = some '[' ∧ written.getLast? = some ']' then
    (read? written.tail.dropLast).map list
  else ofName? written
termination_by written.length
decreasing_by
  all_goals
    cases written <;> simp_all
    try omega

def ofText? (text : String) : Option FieldType := read? text.toList

end FieldType

end Projection
