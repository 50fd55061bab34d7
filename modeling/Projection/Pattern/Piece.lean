import Projection.Pattern.Flags
import Projection.Text.Alphanumeric

set_option autoImplicit false

namespace Projection.Pattern

inductive Piece where
  | literal (c : Char)
  /-- A character by two hexadecimal digits. It is a byte where bytes are meant. -/
  | byte (c : Char)
  | anyChar
  | anchor
  | wordEdge
  | category (negated : Bool)
  | bracket (depth : Nat)
  | repetition
  | bar
  | opening (name : Option (List Char)) (change : FlagChange)
  | closing
  | setting (change : FlagChange)
  deriving DecidableEq, Repr

namespace Piece

def ofEscape? (c : Char) : Option Piece :=
  match c with
  | 'd' | 's' | 'w' => some (category false)
  | 'D' | 'S' | 'W' => some (category true)
  | 'b' | 'B' | '<' | '>' => some wordEdge
  | 'A' | 'z' => some anchor
  | 'a' => some (literal (Char.ofNat 7))
  | 't' => some (literal '\t')
  | 'n' => some (literal '\n')
  | 'v' => some (literal (Char.ofNat 11))
  | 'f' => some (literal (Char.ofNat 12))
  | 'r' => some (literal '\r')
  | _ => if c.toNat < 128 && !c.isAlphanum then some (literal c) else none

def takeEscape (flags : Flags) : (text : List Char) → Option (Taken Piece text)
  | [] => none
  | c :: rest =>
    match c with
    | 'x' => (Text.takeCodePoint flags.gap 2 rest).map fun number => (number.map byte).behind
    | 'u' =>
      (Text.takeCodePoint flags.gap 4 rest).map fun number => (number.map literal).behind
    | 'U' =>
      (Text.takeCodePoint flags.gap 8 rest).map fun number => (number.map literal).behind
    | _ => (ofEscape? c).map fun piece => .single piece rest

def isNameStart (c : Char) : Bool := c == '_' || Text.isAlphabetic c

def isNameChar (c : Char) : Bool :=
  c == '_' || c == '.' || c == '[' || c == ']' || Text.isAlphanumeric c

def takeNameRest : (text : List Char) → Option (Taken (List Char) text)
  | [] => none
  | c :: rest =>
    if c = '>' then some (.single [] rest)
    else if isNameChar c then
      (takeNameRest rest).map fun name => (name.map (c :: ·)).behind
    else none

def takeName : (text : List Char) → Option (Taken (List Char) text)
  | [] => none
  | c :: rest =>
    if isNameStart c then (takeNameRest rest).map fun name => (name.map (c :: ·)).behind
    else none

def takeChange (text : List Char) : Option (Taken Piece text) :=
  match FlagChange.takeLetters {} text with
  | none => none
  | some change =>
    match start : change.rest with
    | ':' :: rest =>
      some ⟨opening none change.value, rest, length_lt_of_eq_cons start change.no_longer⟩
    | ')' :: rest =>
      if change.value = {} then none
      else some ⟨setting change.value, rest, length_lt_of_eq_cons start change.no_longer⟩
    | _ => none

def named (name : List Char) : Piece := opening (some name) {}

def takeMarked : (text : List Char) → Option (Taken Piece text)
  | 'P' :: '<' :: rest =>
    (takeName rest).map fun name => (name.map named).behind.behind
  | '<' :: rest => (takeName rest).map fun name => (name.map named).behind
  | text => takeChange text

/-- What begins where a group does. It is a group of its own if no question mark tells more. -/
def takeGroup : (text : List Char) → Option (Remains Piece text)
  | '?' :: rest => (takeMarked rest).map fun piece => piece.behind.remains
  | text => some (.whole (opening none {}) text)

def takeOpening (flags : Flags) (text : List Char) : Option (Remains Piece text) :=
  (takeGroup (flags.skip text)).map (·.within (flags.skip_length_le text))

end Piece

end Projection.Pattern
