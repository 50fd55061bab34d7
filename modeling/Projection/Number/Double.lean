/-! Finite double-precision numbers as exact fractions of whole numbers. Every operation is the
exact one followed by one rounding: to the nearest number of the format, and to the one with an
even significand from halfway between two. -/

set_option autoImplicit false

namespace Projection

/-- A binary floating-point format: how many binary digits a significand has, and the exponents of
its last digit in the smallest and in the largest numbers. -/
structure BinaryFormat where
  precision : Nat
  minExponent : Int
  maxExponent : Int
  deriving DecidableEq, Repr

namespace BinaryFormat

def double : BinaryFormat := ⟨53, -1074, 971⟩

def single : BinaryFormat := ⟨24, -149, 104⟩

end BinaryFormat

/-- The number `significand · 2 ^ exponent`, or its negative. Zeros have a sign too. The exponent is
the least that the format allows, so that equal numbers other than zeros have equal parts. -/
structure Double where
  negative : Bool
  significand : Nat
  exponent : Int
  deriving DecidableEq, Repr

structure Ratio where
  numerator : Nat
  denominator : Nat
  deriving DecidableEq, Repr

namespace Ratio

def scale (base : Nat) (ratio : Ratio) (power : Int) : Ratio :=
  if 0 ≤ power then { ratio with numerator := ratio.numerator * Nat.pow base power.toNat }
  else { ratio with denominator := ratio.denominator * Nat.pow base (-power).toNat }

def round (ratio : Ratio) : Nat :=
  let whole := ratio.numerator / ratio.denominator
  let twice := 2 * (ratio.numerator % ratio.denominator)
  if twice < ratio.denominator ∨ twice = ratio.denominator ∧ whole % 2 = 0 then whole else whole + 1

def floorLog2 (ratio : Ratio) : Int :=
  let guess : Int := ratio.numerator.log2 - ratio.denominator.log2
  let scaled := ratio.scale 2 (-guess)
  if scaled.denominator ≤ scaled.numerator then guess else guess - 1

end Ratio

namespace BinaryFormat

def round? (format : BinaryFormat) (negative : Bool) (ratio : Ratio) : Option Double :=
  if ratio.numerator = 0 then some ⟨negative, 0, format.minExponent⟩
  else
    let exponent := max (ratio.floorLog2 + 1 - format.precision) format.minExponent
    let significand := (ratio.scale 2 (-exponent)).round
    let (significand, exponent) :=
      if significand = Nat.pow 2 format.precision then (significand / 2, exponent + 1)
      else (significand, exponent)
    if exponent ≤ format.maxExponent then some ⟨negative, significand, exponent⟩ else none

end BinaryFormat

namespace Double

def zero (negative : Bool) : Double := ⟨negative, 0, BinaryFormat.double.minExponent⟩

def isZero (x : Double) : Bool := x.significand == 0

def magnitude (x : Double) : Ratio := Ratio.scale 2 ⟨x.significand, 1⟩ x.exponent

def ofRatio? (negative : Bool) (ratio : Ratio) : Option Double :=
  BinaryFormat.double.round? negative ratio

/-- Whole numbers that are read or stored have far fewer than 300 digits and never overflow. -/
def ofInt (n : Int) : Double :=
  (ofRatio? (n < 0) ⟨n.natAbs, 1⟩).getD (zero false)

def mul? (x y : Double) : Option Double :=
  ofRatio? (x.negative != y.negative)
    (Ratio.scale 2 ⟨x.significand * y.significand, 1⟩ (x.exponent + y.exponent))

def div? (x y : Double) : Option Double :=
  if y.isZero then none
  else
    ofRatio? (x.negative != y.negative)
      (Ratio.scale 2 ⟨x.significand, y.significand⟩ (x.exponent - y.exponent))

def toSingle? (x : Double) : Option Double :=
  (BinaryFormat.single.round? x.negative x.magnitude).bind fun y =>
    ofRatio? y.negative y.magnitude

def same (x y : Double) : Bool := x.isZero && y.isZero || x == y

theorem same_refl (x : Double) : x.same x = true := by simp [same]

end Double

inductive Floating where
  | finite (value : Double)
  | infinite (negative : Bool)
  | notANumber
  deriving DecidableEq, Repr

namespace Floating

def ofRatio (negative : Bool) (ratio : Ratio) : Floating :=
  match Double.ofRatio? negative ratio with
  | some value => finite value
  | none => infinite negative

def toSingle : Floating → Floating
  | finite value =>
    match value.toSingle? with
    | some single => finite single
    | none => infinite value.negative
  | other => other

def finite? : Floating → Option Double
  | finite value => some value
  | infinite _ | notANumber => none

end Floating

end Projection
