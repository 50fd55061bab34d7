import Projection.Toml.Basic

set_option autoImplicit false

namespace Projection.Toml

namespace Scalar

def endsScalar (c : Char) : Bool :=
  c == ' ' || c == '\t' || c == '\n' || c == '\r' || c == ',' || c == ']' || c == '}' || c == '#'

def ungroup? (isDigit : Char → Bool) : List Char → Option (List Char)
  | [] => none
  | [c] => if isDigit c then some [c] else none
  | c :: '_' :: rest =>
    if isDigit c then (ungroup? isDigit rest).map (c :: ·) else none
  | c :: rest => if isDigit c then (ungroup? isDigit rest).map (c :: ·) else none

def hasLeadingZero : List Char → Bool
  | '0' :: _ :: _ => true
  | _ => false

def wholeDigits? (text : List Char) : Option (List Char) :=
  (ungroup? Char.isDigit text).bind fun digits =>
    if hasLeadingZero digits then none else some digits

def splitSign : List Char → Bool × List Char
  | '-' :: rest => (true, rest)
  | '+' :: rest => (false, rest)
  | rest => (false, rest)

def inBase? (base : Nat) (isDigit : Char → Bool) (text : List Char) : Option Nat :=
  (ungroup? isDigit text).map fun digits =>
    digits.foldl (fun n c => base * n + (Digits.hexValue? c).getD 0) 0

/-- Integers have 64 bits. Only decimal ones have a sign. -/
def integer? (text : List Char) : Option Int :=
  let magnitude? (text : List Char) : Option Nat :=
    match text with
    | '0' :: 'x' :: digits => inBase? 16 (fun c => (Digits.hexValue? c).isSome) digits
    | '0' :: 'o' :: digits => inBase? 8 (fun c => '0' ≤ c && c ≤ '7') digits
    | '0' :: 'b' :: digits => inBase? 2 (fun c => c == '0' || c == '1') digits
    | _ => none
  match magnitude? text with
  | some n => if n < 9223372036854775808 then some n else none
  | none =>
    let (negative, rest) := splitSign text
    (wholeDigits? rest).bind fun digits =>
      let n := Digits.toNat digits
      if negative && n ≤ 9223372036854775808 then some (-n)
      else if n < 9223372036854775808 then some n
      else none

def isExponentMark (c : Char) : Bool := c == 'e' || c == 'E'

def fraction? : List Char → Option (List Char)
  | [] => some []
  | '.' :: rest => ungroup? Char.isDigit rest
  | _ => none

def exponent? : List Char → Option Int
  | [] => some 0
  | _ :: rest =>
    let (negative, digits) := splitSign rest
    (ungroup? Char.isDigit digits).map fun digits =>
      if negative then -(Digits.toNat digits : Int) else Digits.toNat digits

/-- A number beyond the largest double is refused; beyond the least one it is infinite. -/
def decimal? (negative : Bool) (text : List Char) : Option Floating := do
  let mantissa := text.takeWhile (!isExponentMark ·)
  let whole ← wholeDigits? (mantissa.takeWhile (· != '.'))
  let fraction ← fraction? (mantissa.dropWhile (· != '.'))
  let exponent ← exponent? (text.dropWhile (!isExponentMark ·))
  let value := Decimal.toFloating negative
    ⟨Digits.toNat (whole ++ fraction), exponent - fraction.length⟩
  if value = .infinite false then none else some value

def float? (text : List Char) : Option Floating :=
  let (negative, rest) := splitSign text
  if rest = "inf".toList then some (.infinite negative)
  else if rest = "nan".toList then some .notANumber
  else if rest.any fun c => c == '.' || isExponentMark c then decimal? negative rest
  else none

def twoDigits? (low high : Nat) : List Char → Option Nat
  | [a, b] =>
    let n := Digits.toNat [a, b]
    if a.isDigit && b.isDigit && low ≤ n && n ≤ high then some n else none
  | _ => none

def isLeapYear (year : Nat) : Bool := year % 4 == 0 && (year % 100 != 0 || year % 400 == 0)

def daysOf (year month : Nat) : Nat :=
  if month = 2 then (if isLeapYear year then 29 else 28)
  else if month = 4 ∨ month = 6 ∨ month = 9 ∨ month = 11 then 30
  else 31

def isDate (text : List Char) : Bool :=
  match text with
  | [y1, y2, y3, y4, '-', m1, m2, '-', d1, d2] =>
    let year := [y1, y2, y3, y4]
    year.all Char.isDigit &&
      match twoDigits? 1 12 [m1, m2] with
      | some month => (twoDigits? 1 (daysOf (Digits.toNat year) month) [d1, d2]).isSome
      | none => false
  | _ => false

/-- Hours, minutes and seconds, which may be a leap second. -/
def isClock (text : List Char) : Bool :=
  match text with
  | [h1, h2, ':', m1, m2, ':', s1, s2] =>
    (twoDigits? 0 23 [h1, h2]).isSome && (twoDigits? 0 59 [m1, m2]).isSome &&
      (twoDigits? 0 60 [s1, s2]).isSome
  | _ => false

def isSecondFraction : List Char → Bool
  | [] => true
  | '.' :: digits => !digits.isEmpty && digits.all Char.isDigit
  | _ => false

def isTime (text : List Char) : Bool := isClock (text.take 8) && isSecondFraction (text.drop 8)

def isOffset : List Char → Bool
  | [] => true
  | ['Z'] | ['z'] => true
  | [sign, h1, h2, ':', m1, m2] =>
    (sign == '+' || sign == '-') && (twoDigits? 0 23 [h1, h2]).isSome &&
      (twoDigits? 0 59 [m1, m2]).isSome
  | _ => false

def startsOffset (c : Char) : Bool := c == 'Z' || c == 'z' || c == '+' || c == '-'

def isZonedTime (text : List Char) : Bool :=
  isTime (text.takeWhile (!startsOffset ·)) && isOffset (text.dropWhile (!startsOffset ·))

def isMoment (text : List Char) : Bool :=
  isTime text || isDate text ||
    isDate (text.take 10) &&
      match text.drop 10 with
      | mark :: time => (mark == 'T' || mark == 't' || mark == ' ') && isZonedTime time
      | [] => false

def ofText? (text : List Char) : Option Toml :=
  if text = "true".toList then some (.bool true)
  else if text = "false".toList then some (.bool false)
  else if isMoment text then some (.moment text)
  else
    match integer? text with
    | some n => some (.integer n)
    | none => (float? text).map .float

/-- A scalar from the front of a text. One space may stand between a date and its time. -/
def take : Reader Toml := fun text =>
  let first := text.takeWhile (!endsScalar ·)
  let rest := text.dropWhile (!endsScalar ·)
  let joined : Option (List Char) :=
    match rest with
    | ' ' :: time =>
      let whole := first ++ ' ' :: time.takeWhile (!endsScalar ·)
      if isDate first && isMoment whole then some whole else none
    | _ => none
  let written := joined.getD first
  if filled : 0 < written.length ∧ written.length ≤ text.length then
    (ofText? written).map fun value =>
      ⟨value, text.drop written.length, by rw [List.length_drop]; omega⟩
  else none

end Scalar

end Projection.Toml
