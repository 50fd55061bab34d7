import Projection.Json.Basic
import Projection.Taken

set_option autoImplicit false

namespace Projection.Json

inductive Fault where
  | truncated
  | malformed
  /-- The value read is not of the kind that is wanted, or a wanted one is missing. -/
  | unfit
  deriving DecidableEq, Repr

abbrev Reader (α : Type) := (text : List Char) → Except Fault (Taken α text)

def isBlank (c : Char) : Bool := c == ' ' || c == '\n' || c == '\t' || c == '\r'

def skipBlanks (text : List Char) : List Char := text.dropWhile isBlank

theorem skipBlanks_length_le (text : List Char) : (skipBlanks text).length ≤ text.length :=
  (List.dropWhile_suffix isBlank).length_le

namespace Reader

def afterBlanks {α : Type} (reader : Reader α) : Reader α := fun text =>
  (reader (skipBlanks text)).map (·.within (skipBlanks_length_le text))

def map {α β : Type} (f : α → β) (reader : Reader α) : Reader β := fun text =>
  (reader text).map (·.map f)

end Reader

def faultAt : List Char → Fault
  | [] => .truncated
  | _ :: _ => .malformed

def takeLiteral : (literal text : List Char) → Except Fault (Remains Unit text)
  | [], text => .ok (.whole () text)
  | _ :: _, [] => .error .truncated
  | c :: literal, d :: text =>
    if c = d then
      (takeLiteral literal text).map (·.behind.remains)
    else .error .malformed

def takeName {α : Type} (c : Char) (tail : String) (value : α) (text : List Char) :
    Except Fault (Taken α (c :: text)) :=
  (takeLiteral tail.toList text).map fun left =>
    (left.map fun _ => value).behind

def readAll {α : Type} (reader : Reader α) (text : String) : Except Fault α :=
  match reader.afterBlanks text.toList with
  | .error fault => .error fault
  | .ok taken => if (skipBlanks taken.rest).isEmpty then .ok taken.value else .error .malformed

end Projection.Json
