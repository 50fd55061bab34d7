import Projection.Toml.Basic

/-! The tables of a TOML text while it is read. Each table knows how it came to be, because that
decides what may still be added to it: a table has one header at most, and dotted keys reach only
tables that dotted keys have made. -/

set_option autoImplicit false

namespace Projection.Toml

/-- A key with dots: the last part names the value, the parts before it the tables around it. -/
structure Key where
  parents : List String
  name : String
  deriving DecidableEq, Repr

/-- What a table was made by. -/
inductive Origin where
  | header
  | longerHeader
  | dottedKey
  deriving DecidableEq, Repr

inductive Node where
  | leaf (value : Toml)
  | table (origin : Origin) (entries : List (String × Node))
  /-- Tables under one repeated header. Later keys belong to the last of them. -/
  | tables (earlier : List (List (String × Node))) (last : List (String × Node))

abbrev Entries := List (String × Node)

namespace Entries

def update (name : String) (change : Option Node → Option Node) : Entries → Option Entries
  | [] => (change none).map fun node => [(name, node)]
  | (other, node) :: rest =>
    if other = name then (change (some node)).map fun changed => (name, changed) :: rest
    else (update name change rest).map ((other, node) :: ·)

def descend (change : Entries → Option Entries) : (parents : List String) → Entries → Option Entries
  | [], entries => change entries
  | parent :: parents, entries =>
    entries.update parent fun
      | none => (descend change parents []).map (.table .longerHeader)
      | some (.leaf _) => none
      | some (.table origin inner) => (descend change parents inner).map (.table origin)
      | some (.tables earlier last) => (descend change parents last).map (.tables earlier)

/-- Gives a new key its value. A dotted key may pass through any table without a header, but the
table it ends in must be one made by dotted keys. -/
def assign (name : String) (value : Toml) : (parents : List String) → Entries → Option Entries
  | [], entries =>
    entries.update name fun
      | none => some (.leaf value)
      | some _ => none
  | parent :: parents, entries =>
    entries.update parent fun
      | none => (assign name value parents []).map (.table .dottedKey)
      | some (.table .dottedKey inner) => (assign name value parents inner).map (.table .dottedKey)
      | some (.table .longerHeader inner) =>
        if parents.isEmpty then none
        else (assign name value parents inner).map (.table .longerHeader)
      | some (.tables earlier last) =>
        if parents.isEmpty then none
        else (assign name value parents last).map (.tables earlier)
      | some (.table .header _) | some (.leaf _) => none

def assignAll (entries : Entries) (assignments : List (Key × Toml)) : Option Entries :=
  assignments.foldlM (fun entries (key, value) => entries.assign key.name value key.parents) entries

/-- The table under a header. A longer header may have made it before. -/
def openTable (assignments : List (Key × Toml)) : Option Node → Option Node
  | none => (assignAll [] assignments).map (.table .header)
  | some (.table .longerHeader entries) => (assignAll entries assignments).map (.table .header)
  | some _ => none

def addTable (assignments : List (Key × Toml)) : Option Node → Option Node
  | none => (assignAll [] assignments).map (.tables [])
  | some (.tables earlier last) =>
    (assignAll [] assignments).map (.tables (earlier ++ [last]))
  | some _ => none

end Entries

mutual

def Node.toToml : Node → Toml
  | .leaf value => value
  | .table _ entries => .table (entriesToToml entries)
  | .tables earlier last => .array (tablesToToml earlier ++ [.table (entriesToToml last)])

def entriesToToml : List (String × Node) → List (String × Toml)
  | [] => []
  | (name, node) :: rest => (name, node.toToml) :: entriesToToml rest

def tablesToToml : List (List (String × Node)) → List Toml
  | [] => []
  | entries :: rest => .table (entriesToToml entries) :: tablesToToml rest

end

def Entries.toToml (entries : Entries) : Toml := .table (entriesToToml entries)

end Projection.Toml
