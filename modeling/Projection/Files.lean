import Projection.RawText

set_option autoImplicit false

namespace Projection

inductive Entry where
  | directory
  | file (bytes : ByteArray)

abbrev Path := RawText

abbrev Files := Path → Option Entry

namespace Files

def bytes? (files : Files) (path : Path) : Option ByteArray :=
  match files path with
  | some (.file bytes) => some bytes
  | _ => none

def text? (files : Files) (path : Path) : Option String :=
  (files.bytes? path).bind String.fromUTF8?

end Files

namespace Path

def slash : UInt8 := 47

def isAbsolute (path : Path) : Bool := path.bytes.head? == some slash

/-- A path below a directory. Another absolute path stands for itself, and nothing but a slash is
put between the two parts. -/
def join (directory path : Path) : Path :=
  if path.isAbsolute || directory.isEmpty then path
  else if directory.bytes.getLast? = some slash then directory ++ path
  else directory ++ "/" ++ path

def names (path : Path) : List RawText := (path.bytes.splitOn slash).map RawText.mk

end Path

/-- The entries below one directory, each under the names that lead to it. Of two entries under the
same names the first one counts. -/
structure FileTree where
  entries : List (List RawText × Entry)

namespace FileTree

def empty : FileTree := ⟨[]⟩

def isStay (name : RawText) : Bool := name == "" || name == "."

def add (tree : FileTree) (path : Path) (entry : Entry) : FileTree :=
  ⟨(path.names.filter (!isStay ·), entry) :: tree.entries⟩

def entry? (tree : FileTree) (location : List RawText) : Option Entry :=
  match tree.entries.find? (·.1 == location) with
  | some (_, entry) => some entry
  | none =>
    if location.isEmpty || tree.entries.any (location.isPrefixOf ·.1) then some .directory else none

def isDirectory (tree : FileTree) (location : List RawText) : Bool :=
  match tree.entry? location with
  | some .directory => true
  | _ => false

def follow (tree : FileTree) : (location : List RawText) → List RawText → Option (List RawText)
  | location, [] => some location
  | location, name :: rest =>
    if !tree.isDirectory location then none
    else if isStay name then follow tree location rest
    else if name = ".." then
      if location.isEmpty then none else follow tree location.dropLast rest
    else follow tree (location ++ [name]) rest

def pathLimit : Nat := 4095

/-- The tree as the directory that relative paths start from. Of all absolute paths only the one of
the system's empty file leads somewhere. -/
def toFiles (tree : FileTree) : Files := fun path =>
  if path = "/dev/null" then some (.file .empty)
  else if path.isEmpty || path.isAbsolute || path.bytes.length > pathLimit then none
  else (tree.follow [] path.names).bind tree.entry?

end FileTree

end Projection
