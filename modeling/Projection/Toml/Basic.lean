import Projection.Number.Decimal
import Projection.Taken

set_option autoImplicit false

namespace Projection

inductive Toml where
  | string (value : String)
  | integer (value : Int)
  | float (value : Floating)
  | bool (value : Bool)
  /-- A date, a time of day, or both, as it is written. -/
  | moment (written : List Char)
  | array (items : List Toml)
  | table (entries : List (String × Toml))

namespace Toml

abbrev Reader (α : Type) := (text : List Char) → Option (Taken α text)

def isPlain (c : Char) : Bool := c == '\t' || 32 ≤ c.toNat && c.toNat != 127

def isSpace (c : Char) : Bool := c == ' ' || c == '\t'

def skipSpaces (text : List Char) : List Char := text.dropWhile isSpace

theorem skipSpaces_length_le (text : List Char) : (skipSpaces text).length ≤ text.length :=
  (List.dropWhile_suffix isSpace).length_le

theorem length_lt_of_skipSpaces {text rest : List Char} {c : Char}
    (start : skipSpaces text = c :: rest) : rest.length < text.length :=
  length_lt_of_eq_cons start (skipSpaces_length_le text)

def takeNewline : Reader Unit
  | '\n' :: rest => some (.single () rest)
  | '\r' :: '\n' :: rest => some (Taken.single () rest).behind
  | _ => none

def skipComment : (text : List Char) → Remains Unit text
  | '#' :: rest =>
    (Remains.behind ⟨(), rest.dropWhile isPlain, (List.dropWhile_suffix isPlain).length_le⟩).remains
  | text => .whole () text

def takeLineEnd (text : List Char) : Option (Remains Unit text) :=
  let comment := skipComment (skipSpaces text)
  have no_longer := Nat.le_trans comment.no_longer (skipSpaces_length_le text)
  match after : comment.rest with
  | [] => some ⟨(), [], Nat.zero_le _⟩
  | c :: rest =>
    (takeNewline (c :: rest)).map fun newline =>
      newline.remains.within (after ▸ no_longer)

def skipTrivia (text : List Char) : Remains Unit text :=
  let comment := skipComment (skipSpaces text)
  have no_longer := Nat.le_trans comment.no_longer (skipSpaces_length_le text)
  match takeNewline comment.rest with
  | none => ⟨(), comment.rest, no_longer⟩
  | some newline =>
    have shorter := Nat.lt_of_lt_of_le newline.shorter no_longer
    (skipTrivia newline.rest).within (Nat.le_of_lt shorter)
termination_by text.length

end Toml

end Projection
