import Projection.Environment
import Projection.EnvFile.Line
import Projection.EnvFile.Value

/-! Environment files: a text with an assignment on each line. Reading stops at the first line that
is none, and keeps what has been assigned before. A value that no variable can have makes the whole
file fail. -/

set_option autoImplicit false

namespace Projection.EnvFile

inductive Line where
  | empty
  | assignment (name value : String)
  | broken
  deriving DecidableEq, Repr

def isNameStart (c : Char) : Bool := c.isAlpha || c == '_'

def isNameChar (c : Char) : Bool := c.isAlphanum || c == '_' || c == '.'

def takeName (text : List Char) : Option (List Char × List Char) :=
  if (text.head?.map isNameStart).getD false then
    some (text.takeWhile isNameChar, Text.trimStart (text.dropWhile isNameChar))
  else none

/-- The name that a line assigns to, and what stands behind the equals sign. The word `export` may
stand before the name; it can be a name itself. -/
def takeTarget (text : List Char) : Option (List Char × List Char) :=
  match takeName text with
  | none => none
  | some (name, '=' :: rest) => some (name, Text.trimStart rest)
  | some (name, rest) =>
    if name = "export".toList then
      match takeName rest with
      | some (name, '=' :: rest) => some (name, Text.trimStart rest)
      | _ => none
    else none

def endsHere (text : List Char) : Bool := text.isEmpty || text.head? == some '#'

def valueIn (environment : Environment) (name : List Char) : List Char :=
  ((environment.text? (String.ofList name)).getD "").toList

namespace Line

def read (environment : Environment) (line : List Char) : Line :=
  let text := Text.trim line
  if endsHere text then .empty
  else
    match takeTarget text with
    | none => .broken
    | some (name, written) =>
      if endsHere written then .assignment (String.ofList name) ""
      else
        match (Cursor.text false).expand? (valueIn environment) written with
        | none => .broken
        | some value => .assignment (String.ofList name) (String.ofList value)

end Line

def assignLines? (environment : Environment) : List (List Char) → Option Environment
  | [] => some environment
  | line :: lines =>
    match Line.read environment line with
    | .empty => assignLines? environment lines
    | .assignment name value =>
      (environment.setDefault? name value).bind fun environment => assignLines? environment lines
    | .broken => some environment

/-- The environment with the assignments of a file. Variables that are set already stay as they are.
Nothing if the file gives a variable a value that it cannot have. -/
def assign? (environment : Environment) (bytes : ByteArray) : Option Environment :=
  assignLines? environment (linesOf bytes)

/-- Every name that stands in a text where a variable could: behind a dollar sign, in braces behind
one, or before an equals sign. -/
def namesIn : List Char → List (List Char)
  | [] => []
  | c :: rest =>
    if c = '$' then
      rest.takeWhile Text.isAlphanumeric :: (rest.drop 1).takeWhile (· != '}') :: namesIn rest
    else if isNameStart c then (c :: rest.takeWhile isNameChar) :: namesIn rest
    else namesIn rest

def mentioned (bytes : ByteArray) : List String :=
  ((linesOf bytes).flatMap namesIn).map String.ofList

end Projection.EnvFile
