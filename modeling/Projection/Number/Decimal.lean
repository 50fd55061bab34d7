import Projection.Number.Digits
import Projection.Number.Double

set_option autoImplicit false

namespace Projection

namespace Ratio

def le (x y : Ratio) : Bool := x.numerator * y.denominator ≤ y.numerator * x.denominator

def lt (x y : Ratio) : Bool := x.numerator * y.denominator < y.numerator * x.denominator

/-- The greatest `k` with `10 ^ k ≤ ratio`, for a fraction above zero. The guess comes from
`log₁₀ 2 ≈ 0.30103` and is off by one at most. -/
def floorLog10 (ratio : Ratio) : Int :=
  let guess := ratio.floorLog2 * 30103 / 100000
  if ratio.lt (Ratio.scale 10 ⟨1, 1⟩ guess) then guess - 1
  else if (Ratio.scale 10 ⟨1, 1⟩ (guess + 1)).le ratio then guess + 1
  else guess

end Ratio

structure Decimal where
  coefficient : Nat
  exponent : Int
  deriving DecidableEq, Repr

namespace Decimal

def toRatio (x : Decimal) : Ratio := Ratio.scale 10 ⟨x.coefficient, 1⟩ x.exponent

structure Scientific where
  digits : List Char
  exponent : Int
  deriving DecidableEq, Repr

def toScientific (x : Decimal) : Scientific :=
  let digits := Digits.ofNat x.coefficient
  { digits := (digits.reverse.dropWhile (· == '0')).reverse
    exponent := x.exponent + digits.length - 1 }

end Decimal

/-- The fractions that round to a double. Its ends belong to it if the significand is even. -/
structure RoundingInterval where
  lower : Ratio
  upper : Ratio
  closed : Bool

namespace RoundingInterval

/-- The neighbours are one unit of the last place away, but below a power of two they are only
half a unit away. -/
def ofDouble (x : Double) : RoundingInterval :=
  let half (quarters : Nat) : Ratio := Ratio.scale 2 ⟨quarters, 1⟩ (x.exponent - 2)
  let narrow := x.significand == Nat.pow 2 52 && decide (BinaryFormat.double.minExponent < x.exponent)
  { lower := half (4 * x.significand - (if narrow then 1 else 2))
    upper := half (4 * x.significand + 2)
    closed := x.significand % 2 == 0 }

def contains (interval : RoundingInterval) (x : Ratio) : Bool :=
  if interval.closed then interval.lower.le x && x.le interval.upper
  else interval.lower.lt x && x.lt interval.upper

end RoundingInterval

namespace Double

/-- The decimal with the given number of digits that is nearest to a double, other than zero, and
rounds to it. On each side one candidate is the nearest; from halfway, the even one is taken. -/
def nearestDecimal? (x : Double) (digits : Nat) : Option Decimal :=
  let interval := RoundingInterval.ofDouble x
  let exponent := x.magnitude.floorLog10 + 1 - digits
  let scaled := x.magnitude.scale 10 (-exponent)
  let below := scaled.numerator / scaled.denominator
  let holds (coefficient : Nat) := interval.contains (Decimal.toRatio ⟨coefficient, exponent⟩)
  match holds below, holds (below + 1) with
  | true, true => some ⟨scaled.round, exponent⟩
  | true, false => some ⟨below, exponent⟩
  | false, true => some ⟨below + 1, exponent⟩
  | false, false => none

/-- The decimal with the fewest digits that rounds to a double, and of those the nearest. Seventeen
digits are always enough. -/
def shortest (x : Double) : Decimal :=
  ((List.range 17).findSome? fun n => x.nearestDecimal? (n + 1)).getD ⟨0, 0⟩

end Double

namespace Decimal

/-- The nearest floating-point value. Beyond 310 places before or 330 places behind the point only
infinity and zero are left. -/
def toFloating (negative : Bool) (x : Decimal) : Floating :=
  let places := (Digits.ofNat x.coefficient).length + x.exponent
  if x.coefficient = 0 ∨ places < -330 then .finite (.zero negative)
  else if 310 < places then .infinite negative
  else .ofRatio negative x.toRatio

def splitPoint? (text : List Char) : Option Decimal :=
  let whole := text.takeWhile Char.isDigit
  let fraction : Option (List Char) :=
    match text.dropWhile Char.isDigit with
    | [] => some []
    | '.' :: rest => if rest.all Char.isDigit then some rest else none
    | _ => none
  fraction.bind fun fraction =>
    if whole.isEmpty && fraction.isEmpty then none
    else some ⟨Digits.toNat (whole ++ fraction), -fraction.length⟩

def exponent? (text : List Char) : Option Int :=
  let digits? (digits : List Char) : Option Nat :=
    if digits.isEmpty || !digits.all Char.isDigit then none else some (Digits.toNat digits)
  match text with
  | '-' :: digits => (digits? digits).map fun n => -(n : Int)
  | '+' :: digits => (digits? digits).map fun n => n
  | digits => (digits? digits).map fun n => n

def ofText? (text : List Char) : Option Decimal :=
  let isMark (c : Char) : Bool := c == 'e' || c == 'E'
  (splitPoint? (text.takeWhile (!isMark ·))).bind fun x =>
    match text.dropWhile (!isMark ·) with
    | [] => some x
    | _ :: power => (exponent? power).map fun n => { x with exponent := x.exponent + n }

end Decimal

namespace Floating

def ofText? (text : String) : Option Floating :=
  let unsigned? (negative : Bool) (text : List Char) : Option Floating :=
    let folded := text.map Char.toLower
    if folded = "inf".toList ∨ folded = "infinity".toList then some (.infinite negative)
    else if folded = "nan".toList then some .notANumber
    else (Decimal.ofText? text).map (Decimal.toFloating negative)
  match text.toList with
  | '-' :: rest => unsigned? true rest
  | '+' :: rest => unsigned? false rest
  | rest => unsigned? false rest

end Floating

end Projection
