import Projection.Pattern.Piece

set_option autoImplicit false

namespace Projection.Pattern

namespace Bracket

/-- What has been read of a class, as far as its depth depends on it. -/
structure Members where
  before : Option Nat := none
  count : Nat := 0
  deepest : Nat := 0
  deriving DecidableEq, Repr

namespace Members

def add (members : Members) (depth : Nat) : Members :=
  { members with count := members.count + 1, deepest := max members.deepest depth }

/-- Several members together are deeper by one, and so are the two sides of an operator. -/
def depth (members : Members) : Nat :=
  let last := if members.count ≤ 1 then members.deepest else members.deepest + 1
  match members.before with
  | none => last
  | some first => max first last + 1

def afterOperator (members : Members) : Members := { before := some members.depth }

end Members

def char? : Piece → Option Char
  | .literal c | .byte c => some c
  | _ => none

/-- Classes of bytes speak of ASCII alone, and categories exist among bytes alone. -/
def isMember (flags : Flags) : Piece → Bool
  | .literal c | .byte c => if flags.unicode then !flags.ignoreCase else c.toNat < 128
  | .category negated => !flags.unicode && !negated
  | _ => false

def takePiece (flags : Flags) : (text : List Char) → Option (Taken Piece text)
  | [] => none
  | c :: rest =>
    if c = '\\' then (Piece.takeEscape flags rest).map (·.behind)
    else some (.single (.literal c) rest)

/-- The minus sign of a range. It means itself before a closing bracket, and before another one it
begins an operator. -/
def takeRangeSign (flags : Flags) (text : List Char) : Option (Taken Unit text) :=
  match start : flags.skip text with
  | '-' :: rest =>
    have sign : rest.length < text.length :=
      length_lt_of_eq_cons start (flags.skip_length_le text)
    match flags.glance? rest with
    | some ']' | some '-' => none
    | _ => some ⟨(), flags.skip rest, Nat.lt_of_le_of_lt (flags.skip_length_le rest) sign⟩
  | _ => none

def takeMember (flags : Flags) (text : List Char) : Option (Taken Unit text) :=
  (takePiece flags text).bind fun first =>
    if !isMember flags first.value then none
    else
      match takeRangeSign flags first.rest with
      | none => some (first.map fun _ => ())
      | some sign =>
        (takePiece flags sign.rest).bind fun last =>
          match char? first.value, char? last.value with
          | some low, some high =>
            if isMember flags last.value && low ≤ high then
              some (first.andThen (sign.andThen (last.map fun _ => ())))
            else none
          | _, _ => none

def asciiClassNames : List String :=
  ["alnum", "alpha", "ascii", "blank", "cntrl", "digit", "graph", "lower", "print", "punct",
    "space", "upper", "word", "xdigit"]

def takeAsciiName (text : List Char) : Option (Taken Unit text) :=
  match start : text.dropWhile (· != ':') with
  | ':' :: ']' :: rest =>
    if String.ofList (text.takeWhile (· != ':')) ∈ asciiClassNames then
      some ⟨(), rest, by
        have shorter := (List.dropWhile_suffix (l := text) (· != ':')).length_le
        rw [start, List.length_cons, List.length_cons] at shorter
        omega⟩
    else none
  | _ => none

def takeAsciiClass : (text : List Char) → Option (Taken Bool text)
  | ':' :: '^' :: rest =>
    (takeAsciiName rest).map fun name => (name.map fun _ => true).behind.behind
  | ':' :: rest => (takeAsciiName rest).map fun name => (name.map fun _ => false).behind
  | _ => none

def skipNegation (flags : Flags) (text : List Char) : Option (Remains Unit text) :=
  match start : flags.skip text with
  | '^' :: rest =>
    if flags.unicode then
      some ⟨(), rest,
        Nat.le_of_lt (length_lt_of_eq_cons start (flags.skip_length_le text))⟩
    else none
  | _ => some (.whole () text)

def takeOperator : (text : List Char) → Option (Taken Unit text)
  | '&' :: '&' :: rest => some (Taken.single () rest).behind
  | '-' :: '-' :: rest => some (Taken.single () rest).behind
  | '~' :: '~' :: rest => some (Taken.single () rest).behind
  | _ => none

/-- The rest of a class, up to the bracket that closes it. `outer` are the classes around the one
that is read. At its start minus signs mean themselves, and so does a closing bracket. -/
def takeMembers (flags : Flags) (outer : List Members) (members : Members) (atStart : Bool)
    (text : List Char) : Option (Taken Nat text) :=
  match start : flags.skip text with
  | [] => none
  | c :: rest =>
    have shorter : rest.length < text.length :=
      length_lt_of_eq_cons start (flags.skip_length_le text)
    have no_longer : (c :: rest).length ≤ text.length := start ▸ flags.skip_length_le text
    if atStart && (c == '-' || c == ']' && members.count == 0) then
      if flags.needsCases then none
      else
        (takeMembers flags outer (members.add 0) (c == '-') rest).map
          (·.within (Nat.le_of_lt shorter))
    else if c = ']' then
      match outer with
      | [] => some ⟨members.depth + 1, rest, shorter⟩
      | parent :: others =>
        (takeMembers flags others (parent.add (members.depth + 1)) false rest).map
          (·.within (Nat.le_of_lt shorter))
    else if c = '[' then
      match takeAsciiClass rest with
      | some ascii =>
        if flags.needsCases || ascii.value && !flags.unicode then none
        else
          (takeMembers flags outer (members.add 0) false ascii.rest).map fun body =>
            (ascii.andThen body).within (Nat.le_of_lt shorter)
      | none =>
        match skipNegation flags rest with
        | none => none
        | some sign =>
          (takeMembers flags (members :: outer) {} true sign.rest).map fun body =>
            (sign.andThen body).within (Nat.le_of_lt shorter)
    else
      match takeOperator (c :: rest) with
      | some mark =>
        (takeMembers flags outer members.afterOperator false mark.rest).map fun body =>
          (mark.andThen body).within no_longer
      | none =>
        match takeMember flags (c :: rest) with
        | none => none
        | some member =>
          (takeMembers flags outer (members.add 0) false member.rest).map fun body =>
            (member.andThen body).within no_longer
termination_by text.length
decreasing_by
  · exact shorter
  · exact shorter
  · exact Nat.lt_trans ascii.shorter shorter
  · exact Nat.lt_of_le_of_lt sign.no_longer shorter
  · exact Nat.lt_of_lt_of_le mark.shorter no_longer
  · exact Nat.lt_of_lt_of_le member.shorter no_longer

def take (flags : Flags) (text : List Char) : Option (Taken Nat text) :=
  (skipNegation flags text).bind fun sign =>
    (takeMembers flags [] {} true sign.rest).map sign.andThen

end Bracket

end Projection.Pattern
