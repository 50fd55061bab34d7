import Projection.Json.Container
import Projection.Json.Numeral

/-! Values that nobody reads are skipped, to any depth. They have to be JSON, but a number in them
may be of any size and a `\u` escape may name any unit. -/

set_option autoImplicit false

namespace Projection.Json

inductive Opened where
  | list
  | object
  deriving DecidableEq, Repr

def Opened.close : Opened → Char
  | list => ']'
  | object => '}'

/-- A number that breaks off is not taken for a text that does. -/
def skipNumber : Reader Unit := fun text =>
  match Numeral.take text with
  | .ok taken => .ok (taken.map fun _ => ())
  | .error _ => .error .malformed

def skipScalar : Reader Unit
  | 'n' :: rest => takeName 'n' "ull" () rest
  | 't' :: rest => takeName 't' "rue" () rest
  | 'f' :: rest => takeName 'f' "alse" () rest
  | '"' :: rest => (Quoted.skipBody rest).map (·.behind)
  | c :: rest => if c = '-' ∨ c.isDigit then skipNumber (c :: rest) else .error .malformed
  | [] => .error .truncated

def skipKey (text : List Char) : Except Fault (Taken Unit text) :=
  match takeMark '"' text with
  | .error fault => .error fault
  | .ok quote =>
    match Quoted.skipBody quote.rest with
    | .error fault => .error fault
    | .ok key => (takeColon key.rest).map fun colon => quote.andThen (key.andThen colon)

def skipLabel (opened : Opened) (text : List Char) : Except Fault (Remains Unit text) :=
  match opened with
  | .list => .ok (.whole () text)
  | .object => (skipKey text).map Taken.remains

mutual

/-- A value inside of containers, the innermost first, and then all of these up to their ends. -/
def skipWithin (around : List Opened) (text : List Char) : Except Fault (Taken Unit text) :=
  match start : skipBlanks text with
  | [] => .error .truncated
  | c :: rest =>
    have shorter := length_lt_of_skipBlanks start
    if c = '[' then skipContents around .list rest shorter
    else if c = '{' then skipContents around .object rest shorter
    else
      match skipScalar (c :: rest) with
      | .error fault => .error fault
      | .ok scalar =>
        (skipToEnds around scalar.rest).map fun ends => (scalar.andLeft ends).within shorter
termination_by (text.length, 1)
decreasing_by
  · exact .left _ _ (length_lt_of_skipBlanks start)
  · exact .left _ _ (length_lt_of_skipBlanks start)
  · exact .left _ _ (Nat.lt_of_lt_of_le scalar.shorter (length_lt_of_skipBlanks start))

def skipContents {text : List Char} (around : List Opened) (opened : Opened) (rest : List Char)
    (shorter : rest.length < text.length) : Except Fault (Taken Unit text) :=
  match start : skipBlanks rest with
  | [] => .error .truncated
  | c :: inner =>
    have lt := length_lt_of_skipBlanks start
    if c = opened.close then
      (skipToEnds around inner).map (·.taken (Nat.lt_trans lt shorter))
    else
      match skipLabel opened rest with
      | .error fault => .error fault
      | .ok label =>
        (skipWithin (opened :: around) label.rest).map fun contents =>
          (label.andThen contents).within (Nat.le_of_lt shorter)
termination_by (rest.length, 2)
decreasing_by
  · exact .left _ _ (length_lt_of_skipBlanks start)
  · exact (Nat.lt_or_eq_of_le label.no_longer).elim (fun h => .left _ _ h)
      fun h => by rw [h]; exact .right _ (by decide)

def skipToEnds (around : List Opened) (text : List Char) : Except Fault (Remains Unit text) :=
  match around with
  | [] => .ok (.whole () text)
  | opened :: outer =>
    match start : skipBlanks text with
    | [] => .error .truncated
    | c :: rest =>
      have shorter := length_lt_of_skipBlanks start
      if c = ',' then
        match skipLabel opened rest with
        | .error fault => .error fault
        | .ok label =>
          (skipWithin (opened :: outer) label.rest).map fun others =>
            ((label.andThen others).within (Nat.le_of_lt shorter)).remains
      else if c = opened.close then
        (skipToEnds outer rest).map (·.within (Nat.le_of_lt shorter))
      else .error .malformed
termination_by (text.length, 0)
decreasing_by
  · exact .left _ _ (Nat.lt_of_le_of_lt label.no_longer (length_lt_of_skipBlanks start))
  · exact .left _ _ (length_lt_of_skipBlanks start)

end

def skipValue : Reader Unit := skipWithin []

end Projection.Json
