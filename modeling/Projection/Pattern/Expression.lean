import Projection.Pattern.Bracket
import Projection.Pattern.Group

set_option autoImplicit false

namespace Projection.Pattern

def takeRepetition : (text : List Char) → Remains Piece text
  | '?' :: rest => (Taken.single .repetition rest).remains
  | text => .whole .repetition text

def Piece.take (flags : Flags) : (text : List Char) → Option (Taken Piece text)
  | [] => none
  | c :: rest =>
    match c with
    | '(' => (takeOpening flags rest).map (·.behind)
    | ')' => some (.single closing rest)
    | '|' => some (.single bar rest)
    | '[' => (Bracket.take flags rest).map fun depth => (depth.map bracket).behind
    | '*' | '+' | '?' => some (takeRepetition rest).behind
    | '{' => none
    | '\\' => (takeEscape flags rest).map (·.behind)
    | '.' => some (.single anyChar rest)
    | '^' | '$' => some (.single anchor rest)
    | _ => some (.single (literal c) rest)

def completes (state : State) (text : List Char) : Bool :=
  if state.flags.skip text = [] then state.isComplete
  else
    match Piece.take state.flags (state.flags.skip text) with
    | none => false
    | some piece =>
      match state.step piece.value with
      | none => false
      | some state => completes state piece.rest
termination_by text.length
decreasing_by exact Nat.lt_of_lt_of_le piece.shorter (Flags.skip_length_le _ _)

def isExpression (text : List Char) : Bool := completes {} text

end Projection.Pattern
