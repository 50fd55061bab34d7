import Projection.Json.Reader
import Projection.Number.Digits

/-! Strings in JSON text. Quotes, backslashes and control characters are written as escapes, all
other characters as they are. Reading accepts every escape of JSON; a `\u` escape names a UTF-16
unit, and a leading surrogate needs its trailing one right behind it. -/

set_option autoImplicit false

namespace Projection.Json

namespace Quoted

def escape (c : Char) : List Char :=
  if c = '"' then ['\\', '"']
  else if c = '\\' then ['\\', '\\']
  else if c = '\n' then ['\\', 'n']
  else if c = '\r' then ['\\', 'r']
  else if c = '\t' then ['\\', 't']
  else if c.toNat = 8 then ['\\', 'b']
  else if c.toNat = 12 then ['\\', 'f']
  else if c.toNat < 32 then ['\\', 'u', '0', '0', Digits.hexChar (c.toNat / 16), Digits.hexChar (c.toNat % 16)]
  else [c]

def write (s : String) : List Char := '"' :: (s.toList.flatMap escape ++ ['"'])

/-- Four hexadecimal digits. A text of fewer than four bytes has ended too early, whatever they
are. -/
def takeUnit (text : List Char) : Except Fault (Taken Nat text) :=
  if (String.ofList (text.take 4)).utf8ByteSize < 4 then .error .truncated
  else
    match text with
    | a :: b :: c :: d :: rest =>
      match Digits.hexValue? a, Digits.hexValue? b, Digits.hexValue? c, Digits.hexValue? d with
      | some a, some b, some c, some d =>
        .ok (Taken.single (((a * 16 + b) * 16 + c) * 16 + d) rest).behind.behind.behind
      | _, _, _, _ => .error .malformed
    | _ => .error .malformed

def isLeading (unit : Nat) : Bool := 0xD800 ≤ unit && unit ≤ 0xDBFF

def isTrailing (unit : Nat) : Bool := 0xDC00 ≤ unit && unit ≤ 0xDFFF

def ofPair (leading trailing : Nat) : Char :=
  Char.ofNat ((leading - 0xD800) * 1024 + (trailing - 0xDC00) + 0x10000)

def takeTrailing (leading : Nat) (text : List Char) : Except Fault (Taken Char text) :=
  match text with
  | '\\' :: 'u' :: rest =>
    match takeUnit rest with
    | .error fault => .error fault
    | .ok unit =>
      if isTrailing unit.value then
        .ok (unit.map (ofPair leading)).behind.behind
      else .error .malformed
  | [] | ['\\'] => .error .truncated
  | _ => .error .malformed

def named? : Char → Option Char
  | '"' => some '"'
  | '\\' => some '\\'
  | '/' => some '/'
  | 'b' => some (Char.ofNat 8)
  | 'f' => some (Char.ofNat 12)
  | 'n' => some '\n'
  | 'r' => some '\r'
  | 't' => some '\t'
  | _ => none

def takeEscape (text : List Char) : Except Fault (Taken Char text) :=
  match text with
  | [] => .error .truncated
  | 'u' :: rest =>
    match takeUnit rest with
    | .error fault => .error fault
    | .ok unit =>
      if isTrailing unit.value then .error .malformed
      else if isLeading unit.value then
        (takeTrailing unit.value unit.rest).map fun pair => (unit.andThen pair).behind
      else .ok (unit.map Char.ofNat).behind
  | c :: rest =>
    match named? c with
    | some named => .ok (.single named rest)
    | none => .error .malformed

/-- An escape that nobody reads: a `\u` may name any unit. -/
def skipEscape (text : List Char) : Except Fault (Taken Unit text) :=
  match text with
  | [] => .error .truncated
  | 'u' :: rest => (takeUnit rest).map fun unit => (unit.map fun _ => ()).behind
  | c :: rest => if (named? c).isSome then .ok (.single () rest) else .error .malformed

def takeBody (text : List Char) : Except Fault (Taken (List Char) text) :=
  match text with
  | [] => .error .truncated
  | c :: rest =>
    if c = '"' then .ok (.single [] rest)
    else if c = '\\' then
      match takeEscape rest with
      | .error fault => .error fault
      | .ok escaped =>
        (takeBody escaped.rest).map fun body =>
          (escaped.andThen (body.map (escaped.value :: ·))).behind
    else if c.toNat < 32 then .error .malformed
    else (takeBody rest).map fun body => (body.map (c :: ·)).behind
termination_by text.length
decreasing_by
  · exact Nat.lt_succ_of_lt escaped.shorter
  · exact Nat.lt_succ_self _

def skipBody (text : List Char) : Except Fault (Taken Unit text) :=
  match text with
  | [] => .error .truncated
  | c :: rest =>
    if c = '"' then .ok (.single () rest)
    else if c = '\\' then
      match skipEscape rest with
      | .error fault => .error fault
      | .ok escaped =>
        (skipBody escaped.rest).map fun body => (escaped.andThen body).behind
    else if c.toNat < 32 then .error .malformed
    else (skipBody rest).map (·.behind)
termination_by text.length
decreasing_by
  · exact Nat.lt_succ_of_lt escaped.shorter
  · exact Nat.lt_succ_self _

def take : Reader String := Reader.map String.ofList takeBody

end Quoted

end Projection.Json
