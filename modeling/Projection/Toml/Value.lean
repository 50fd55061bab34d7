import Projection.Toml.Quoted
import Projection.Toml.Scalar
import Projection.Toml.Tree

set_option autoImplicit false

namespace Projection.Toml

/-- Lists, tables in braces and the parts of a key may be nested less deep than this. -/
def depthLimit : Nat := 80

namespace Key

def isBare (c : Char) : Bool := c.isAlphanum || c == '-' || c == '_'

def takePart (text : List Char) : Option (Taken String text) :=
  if bare : 0 < (text.takeWhile isBare).length then
    some ⟨String.ofList (text.takeWhile isBare), text.drop (text.takeWhile isBare).length, by
      have := (List.takeWhile_prefix (l := text) isBare).length_le
      rw [List.length_drop]
      omega⟩
  else Quoted.takeLine text

def takeParts (text : List Char) : Option (Taken Key text) :=
  match takePart (skipSpaces text) with
  | none => none
  | some part =>
    have shorter := Nat.lt_of_lt_of_le part.shorter (skipSpaces_length_le text)
    match start : skipSpaces part.rest with
    | '.' :: rest =>
      have dot := Nat.lt_trans (length_lt_of_skipSpaces start) shorter
      (takeParts rest).map fun others =>
        (others.map fun key => { key with parents := part.value :: key.parents }).within
          (Nat.le_of_lt dot)
    | _ =>
      some ⟨⟨[], part.value⟩, skipSpaces part.rest,
        Nat.lt_of_le_of_lt (skipSpaces_length_le part.rest) shorter⟩
termination_by text.length

def take (text : List Char) : Option (Taken Key text) :=
  (takeParts text).bind fun key =>
    if key.value.parents.length + 1 < depthLimit then some key else none

end Key

def takePair (item : Reader Toml) (text : List Char) : Option (Taken (Key × Toml) text) :=
  match Key.take text with
  | none => none
  | some key =>
    match start : key.rest with
    | '=' :: rest =>
      have sign : rest.length < text.length :=
        length_lt_of_eq_cons start (Nat.le_of_lt key.shorter)
      (item (skipSpaces rest)).map fun value =>
        ⟨(key.value, value.value), skipSpaces value.rest,
          Nat.lt_of_le_of_lt (skipSpaces_length_le value.rest)
            (Nat.lt_trans value.shorter (Nat.lt_of_le_of_lt (skipSpaces_length_le rest) sign))⟩
    | _ => none

/-- The items of a list up to its closing bracket. A comma may follow the last one. -/
def takeItems (item : Reader Toml) (text : List Char) : Option (Taken (List Toml) text) :=
  let front := skipTrivia text
  match start : front.rest with
  | [] => none
  | c :: rest =>
    have shorter : rest.length < text.length := length_lt_of_eq_cons start front.no_longer
    if c = ']' then some ⟨[], rest, shorter⟩
    else
      match item (c :: rest) with
      | none => none
      | some first =>
        let back := skipTrivia first.rest
        have kept : back.rest.length < text.length :=
          Nat.lt_of_le_of_lt back.no_longer
            (Nat.lt_of_lt_of_le first.shorter (start ▸ front.no_longer))
        match next : back.rest with
        | ',' :: others =>
          have comma : others.length < text.length :=
            length_lt_of_eq_cons next (Nat.le_of_lt kept)
          (takeItems item others).map fun items =>
            (items.map (first.value :: ·)).within (Nat.le_of_lt comma)
        | ']' :: others =>
          some ⟨[first.value], others, length_lt_of_eq_cons next (Nat.le_of_lt kept)⟩
        | _ => none
termination_by text.length

/-- The pairs of a table in braces up to its closing brace. There is at least one, and no comma
follows the last one. -/
def takePairs (item : Reader Toml) (text : List Char) :
    Option (Taken (List (Key × Toml)) text) :=
  match takePair item text with
  | none => none
  | some first =>
    match next : first.rest with
    | ',' :: others =>
      have comma : others.length < text.length :=
        length_lt_of_eq_cons next (Nat.le_of_lt first.shorter)
      (takePairs item others).map fun pairs =>
        (pairs.map (first.value :: ·)).within (Nat.le_of_lt comma)
    | '}' :: others =>
      some ⟨[first.value], others, length_lt_of_eq_cons next (Nat.le_of_lt first.shorter)⟩
    | _ => none
termination_by text.length

def takeBraces (item : Reader Toml) (text : List Char) : Option (Taken Toml text) :=
  match start : skipSpaces text with
  | '}' :: rest => some ⟨.table [], rest, length_lt_of_skipSpaces start⟩
  | _ =>
    (takePairs item text).bind fun pairs =>
      (Entries.assignAll [] pairs.value).map fun entries => pairs.map fun _ => entries.toToml

def takeSimple (text : List Char) : Option (Taken Toml text) :=
  match Quoted.take text with
  | some value => some (value.map .string)
  | none => Scalar.take text

def takeNested : (depth : Nat) → Reader Toml
  | depth + 1, '[' :: rest =>
    (takeItems (takeNested depth) rest).map fun items => (items.map .array).behind
  | depth + 1, '{' :: rest => (takeBraces (takeNested depth) rest).map (·.behind)
  | _, text => takeSimple text

def takeValue : Reader Toml := takeNested (depthLimit - 1)

end Projection.Toml
