import Projection.Text.Lines
import Projection.Text.Whitespace

set_option autoImplicit false

namespace Projection.EnvFile

inductive Place where
  | plain
  /-- Behind a blank, where a comment may start. -/
  | blank
  | escape
  | doubleQuotes
  | doubleQuotesEscape
  | singleQuotes
  | singleQuotesEscape
  deriving DecidableEq, Repr

namespace Place

def ofMark (c : Char) : Place :=
  if c = '\\' then .escape
  else if c = '"' then .doubleQuotes
  else if c = '\'' then .singleQuotes
  else .plain

def next (c : Char) : Place → Place
  | plain =>
    if Text.isWhitespace c && c != '\n' && c != '\r' then .blank else ofMark c
  | blank => ofMark c
  | escape => .plain
  | doubleQuotes =>
    if c = '\\' then .doubleQuotesEscape else if c = '"' then .plain else .doubleQuotes
  | doubleQuotesEscape => .doubleQuotes
  | singleQuotes =>
    if c = '\\' then .singleQuotesEscape else if c = '\'' then .plain else .singleQuotes
  | singleQuotesEscape => .singleQuotes

/-- Goes along a line: what stands before a comment, or, if there is none, the place at the end. -/
def follow : Place → List Char → List Char × Option Place
  | place, [] => ([], some place)
  | place, c :: rest =>
    if place = .blank ∧ c = '#' then ([], none)
    else
      let (kept, last) := follow (place.next c) rest
      (c :: kept, last)

end Place

def dropLineFeed (line : List Char) : List Char :=
  match line.reverse with
  | '\n' :: '\r' :: rest => rest.reverse
  | '\n' :: rest => rest.reverse
  | _ => line

def isComment (line : List Char) : Bool := (Text.trimStart line).head? == some '#'

/-- Puts together the lines that belong to one assignment. `taken` is what stands before the given
lines and ends in `place`. A line that is not complete at the end of the file is dropped. -/
def joinLines (place : Place) (taken : List Char) : List (List Char) → List (List Char)
  | [] => []
  | line :: lines =>
    if isComment (taken ++ line) then joinLines .plain [] lines
    else
      match place.follow line with
      | (kept, none) => (taken ++ kept) :: joinLines .plain [] lines
      | (_, some .plain) => dropLineFeed (taken ++ line) :: joinLines .plain [] lines
      | (_, some inside) => joinLines inside (taken ++ line) lines

def decodeLines : List (List UInt8) → List (List Char)
  | [] => []
  | line :: lines =>
    match String.fromUTF8? ⟨line.toArray⟩ with
    | some text => text.toList :: decodeLines lines
    | none => []

def skipMark : List (List Char) → List (List Char)
  | [] => []
  | line :: lines => Text.skipMark line :: lines

def linesOf (bytes : ByteArray) : List (List Char) :=
  joinLines .plain [] (skipMark (decodeLines (Text.splitAfter 10 bytes.data.toList)))

end Projection.EnvFile
