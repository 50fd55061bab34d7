import Projection.Text.Lines
import Projection.Toml.Value

set_option autoImplicit false

namespace Projection.Toml

inductive Header where
  | table (key : Key)
  | repeated (key : Key)
  deriving DecidableEq, Repr

inductive Statement where
  | header (header : Header)
  | assignment (key : Key) (value : Toml)

structure Section where
  header : Header
  assignments : List (Key × Toml)

namespace Statement

def takeHeader (closing : List Char) (make : Key → Header) (text : List Char) :
    Option (Taken Statement text) :=
  (Key.take text).bind fun key =>
    if closing.isPrefixOf key.rest then
      some ⟨.header (make key.value), key.rest.drop closing.length, by
        rw [List.length_drop]
        exact Nat.lt_of_le_of_lt (Nat.sub_le _ _) key.shorter⟩
    else none

def take : Reader Statement
  | '[' :: '[' :: rest =>
    (takeHeader [']', ']'] .repeated rest).map (·.behind.behind)
  | '[' :: rest => (takeHeader [']'] .table rest).map (·.behind)
  | text => (takePair takeValue text).map (·.map fun (key, value) => .assignment key value)

def readAll (text : List Char) : Option (List Statement) :=
  let front := skipTrivia text
  if front.rest.isEmpty then some []
  else
    match take front.rest with
    | none => none
    | some statement =>
      match takeLineEnd statement.rest with
      | none => none
      | some line =>
        (readAll line.rest).map (statement.value :: ·)
termination_by text.length
decreasing_by
  exact Nat.lt_of_le_of_lt line.no_longer
    (Nat.lt_of_lt_of_le statement.shorter front.no_longer)

def divide : List Statement → List (Key × Toml) × List Section
  | [] => ([], [])
  | .assignment key value :: rest =>
    let (front, sections) := divide rest
    ((key, value) :: front, sections)
  | .header heading :: rest =>
    let (assignments, sections) := divide rest
    ([], ⟨heading, assignments⟩ :: sections)

end Statement

namespace Section

def addTo (entries : Entries) (s : Section) : Option Entries :=
  match s.header with
  | .table key =>
    entries.descend (·.update key.name (Entries.openTable s.assignments)) key.parents
  | .repeated key =>
    entries.descend (·.update key.name (Entries.addTable s.assignments)) key.parents

end Section

def ofStatements (statements : List Statement) : Option (List (String × Toml)) := do
  let (front, sections) := Statement.divide statements
  let entries ← sections.foldlM Section.addTo (← Entries.assignAll [] front)
  return entriesToToml entries

def ofText (text : String) : Option (List (String × Toml)) :=
  (Statement.readAll (Text.skipMark text.toList)).bind ofStatements

end Projection.Toml
