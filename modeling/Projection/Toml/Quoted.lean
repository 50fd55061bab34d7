import Projection.Text.CodePoint
import Projection.Toml.Basic

set_option autoImplicit false

namespace Projection.Toml

namespace Quoted

def takeEscape : Reader Char
  | 'b' :: rest => some (.single (Char.ofNat 8) rest)
  | 't' :: rest => some (.single '\t' rest)
  | 'n' :: rest => some (.single '\n' rest)
  | 'f' :: rest => some (.single (Char.ofNat 12) rest)
  | 'r' :: rest => some (.single '\r' rest)
  | '"' :: rest => some (.single '"' rest)
  | '\\' :: rest => some (.single '\\' rest)
  | 'u' :: rest => (Text.takeCodePoint .none 4 rest).map (·.behind)
  | 'U' :: rest => (Text.takeCodePoint .none 8 rest).map (·.behind)
  | _ => none

def takeBasic (text : List Char) : Option (Taken (List Char) text) :=
  match text with
  | [] => none
  | c :: rest =>
    if c = '"' then some (.single [] rest)
    else if c = '\\' then
      match takeEscape rest with
      | none => none
      | some escaped =>
        (takeBasic escaped.rest).map fun body =>
          (escaped.andThen (body.map (escaped.value :: ·))).behind
    else if isPlain c then
      (takeBasic rest).map fun body => (body.map (c :: ·)).behind
    else none
termination_by text.length
decreasing_by
  · exact Nat.lt_succ_of_lt escaped.shorter
  · exact Nat.lt_succ_self _

def takeLiteral : Reader (List Char)
  | [] => none
  | c :: rest =>
    if c = '\'' then some (.single [] rest)
    else if isPlain c then
      (takeLiteral rest).map fun body => (body.map (c :: ·)).behind
    else none

/-- Three to five quotes in a row end a string on several lines; those before the last three belong
to it. -/
def takeClosing (quote : Char) (text : List Char) : Option (Taken (List Char) text) :=
  let quotes := min (text.takeWhile (· == quote)).length 5
  if enough : 3 ≤ quotes then
    some ⟨List.replicate (quotes - 3) quote, text.drop quotes, by
      have := (List.takeWhile_prefix (l := text) (· == quote)).length_le
      rw [List.length_drop]
      omega⟩
  else none

/-- Behind a backslash at the end of a line: all spaces and line feeds up to the next character. -/
def skipBreak (text : List Char) : Option (Taken Unit text) :=
  match takeNewline (skipSpaces text) with
  | none => none
  | some newline =>
    some ((newline.andLeft (skipBlankLines newline.rest)).within (skipSpaces_length_le text))
where
  skipBlankLines (text : List Char) : Remains Unit text :=
    match takeNewline (skipSpaces text) with
    | none => ⟨(), skipSpaces text, skipSpaces_length_le text⟩
    | some newline =>
      have shorter := Nat.lt_of_lt_of_le newline.shorter (skipSpaces_length_le text)
      (skipBlankLines newline.rest).within (Nat.le_of_lt shorter)
  termination_by text.length

def takeLines (quote : Char) (escapes : Bool) (text : List Char) :
    Option (Taken (List Char) text) :=
  match takeClosing quote text with
  | some closing => some closing
  | none =>
    match takeNewline text with
    | some newline =>
      (takeLines quote escapes newline.rest).map fun body =>
        newline.andThen (body.map ('\n' :: ·))
    | none =>
      match text with
      | [] => none
      | c :: rest =>
        if escapes && c == '\\' then
          match skipBreak rest with
          | some lines =>
            (takeLines quote escapes lines.rest).map fun body => (lines.andThen body).behind
          | none =>
            match takeEscape rest with
            | none => none
            | some escaped =>
              (takeLines quote escapes escaped.rest).map fun body =>
                (escaped.andThen (body.map (escaped.value :: ·))).behind
        else if isPlain c then
          (takeLines quote escapes rest).map fun body => (body.map (c :: ·)).behind
        else none
termination_by text.length
decreasing_by
  · exact newline.shorter
  · exact Nat.lt_succ_of_lt lines.shorter
  · exact Nat.lt_succ_of_lt escaped.shorter
  · exact Nat.lt_succ_self _

def skipFirstNewline (text : List Char) : Remains Unit text :=
  match takeNewline text with
  | some newline => newline.remains
  | none => .whole () text

def takeAllLines (quote : Char) (escapes : Bool) (text : List Char) :
    Option (Taken (List Char) text) :=
  let start := skipFirstNewline text
  (takeLines quote escapes start.rest).map start.andThen

def takeLine : Reader String
  | '"' :: rest => (takeBasic rest).map fun body => (body.map String.ofList).behind
  | '\'' :: rest => (takeLiteral rest).map fun body => (body.map String.ofList).behind
  | _ => none

def take : Reader String
  | '"' :: '"' :: '"' :: rest =>
    (takeAllLines '"' true rest).map fun body =>
      (body.map String.ofList).behind.behind.behind
  | '\'' :: '\'' :: '\'' :: rest =>
    (takeAllLines '\'' false rest).map fun body =>
      (body.map String.ofList).behind.behind.behind
  | text => takeLine text

end Quoted

end Projection.Toml
