import Projection.Json.Reader
import Projection.Number.Decimal

/-! Numbers in JSON text. A numeral without a fraction or an exponent is an integer as far as 64
bits reach. Any other is a double: its digits are gathered as far as they fit into 64 bits, and what
they make is multiplied or divided by a power of ten, with one rounding at each step. A double is
written with the fewest digits that stand for it. -/

set_option autoImplicit false

namespace Projection.Json

structure Numeral where
  negative : Bool
  whole : List Char
  fraction : Option (List Char)
  exponent : Option Int
  deriving DecidableEq, Repr

namespace Numeral

def takeDigits : Reader (List Char)
  | [] => .error .truncated
  | c :: rest =>
    if c.isDigit then
      .ok ⟨c :: rest.takeWhile Char.isDigit, rest.dropWhile Char.isDigit,
        Nat.lt_succ_of_le (List.dropWhile_suffix _).length_le⟩
    else .error .malformed

def takeWhole : Reader (List Char)
  | '0' :: d :: rest =>
    if d.isDigit then .error .malformed else .ok (.single ['0'] (d :: rest))
  | text => takeDigits text

def takeFraction (text : List Char) : Except Fault (Remains (Option (List Char)) text) :=
  match text with
  | '.' :: rest =>
    (takeDigits rest).map fun digits => (digits.map some).behind.remains
  | text => .ok (.whole none text)

def takePower (text : List Char) : Except Fault (Taken Int text) :=
  match text with
  | '-' :: rest =>
    (takeDigits rest).map fun digits =>
      (digits.map fun digits => -(Digits.toNat digits : Int)).behind
  | '+' :: rest =>
    (takeDigits rest).map fun digits =>
      (digits.map fun digits => (Digits.toNat digits : Int)).behind
  | text => (takeDigits text).map (·.map fun digits => (Digits.toNat digits : Int))

def takeExponent (text : List Char) : Except Fault (Remains (Option Int) text) :=
  match text with
  | c :: rest =>
    if c = 'e' ∨ c = 'E' then
      (takePower rest).map fun power => (power.map some).behind.remains
    else .ok (.whole none (c :: rest))
  | [] => .ok (.whole none [])

def takeUnsigned (negative : Bool) : Reader Numeral := fun text => do
  let whole ← takeWhole text
  let fraction ← takeFraction whole.rest
  let exponent ← takeExponent fraction.rest
  let left := (exponent.map fun power => Numeral.mk negative whole.value fraction.value power)
  return whole.andLeft (fraction.andLeft left)

def take : Reader Numeral
  | '-' :: rest => (takeUnsigned true rest).map (·.behind)
  | text => takeUnsigned false text

/-- Digits gathered into 64 bits. Once a digit does not fit, it and all after it are left out. -/
structure Gathered where
  significand : Nat
  left : List Char

def gather (significand : Nat) : List Char → Gathered
  | [] => ⟨significand, []⟩
  | c :: rest =>
    let longer := 10 * significand + Digits.value c
    if longer < 18446744073709551616 then gather longer rest else ⟨significand, c :: rest⟩

/-- `value · 10 ^ power`, the power of ten being a double itself. Powers beyond 308 are none, so a
division by a higher power goes in steps. None if the result is too large. -/
def scaleTen? (value : Double) (power : Int) : Option Double :=
  let ten (power : Nat) : Double := (Double.ofRatio? false ⟨Nat.pow 10 power, 1⟩).getD (.zero false)
  if power < -308 then
    if value.isZero then some value
    else (value.div? (ten 308)).bind fun smaller => scaleTen? smaller (power + 308)
  else if power < 0 then value.div? (ten (-power).toNat)
  else if power ≤ 308 then value.mul? (ten power.toNat)
  else if value.isZero then some value
  else none
termination_by (-power).toNat

def toDouble? (numeral : Numeral) : Option Double :=
  let whole := gather 0 numeral.whole
  let fraction := numeral.fraction.getD []
  let all := gather whole.significand fraction
  let used : Int := fraction.length - all.left.length
  (scaleTen? (.ofInt all.significand) (whole.left.length - used + numeral.exponent.getD 0)).map
    fun x => { x with negative := numeral.negative }

/-- The number that a numeral stands for, none if it is too large. Minus zero is a double. -/
def toNumber? (numeral : Numeral) : Option Number :=
  let n := Digits.toNat numeral.whole
  if numeral.fraction.isNone && numeral.exponent.isNone && !numeral.negative
      && n < 18446744073709551616 then
    some (.integer n)
  else if numeral.fraction.isNone && numeral.exponent.isNone && numeral.negative
      && 0 < n && n ≤ 9223372036854775808 then
    some (.integer (-n))
  else numeral.toDouble?.map .float

end Numeral

def takeNumber : Reader Number := fun text =>
  match Numeral.take text with
  | .error fault => .error fault
  | .ok taken =>
    match taken.value.toNumber? with
    | some value => .ok (taken.map fun _ => value)
    | none => .error .malformed

/-- Which exponents are written out in positions, from the first to below the second; the others
stand behind an `e`, always with their sign. -/
structure FloatLayout where
  positionalFrom : Int
  positionalBelow : Int

def floatLayout : FloatLayout := ⟨-5, 16⟩

namespace FloatLayout

def positional (digits : List Char) (exponent : Int) : List Char :=
  if exponent < 0 then
    '0' :: '.' :: (List.replicate (-exponent - 1).toNat '0' ++ digits)
  else
    let places := exponent.toNat + 1
    let fraction := digits.drop places
    digits.take places ++ List.replicate (places - digits.length) '0' ++
      '.' :: (if fraction.isEmpty then ['0'] else fraction)

def scientific (digits : List Char) (exponent : Int) : List Char :=
  digits.take 1 ++ (if digits.length ≤ 1 then [] else '.' :: digits.drop 1) ++
    'e' :: (if exponent < 0 then '-' else '+') :: Digits.ofNat exponent.natAbs

def write (layout : FloatLayout) (x : Double) : List Char :=
  let unsigned :=
    if x.isZero then ['0', '.', '0']
    else
      let ⟨digits, exponent⟩ := x.shortest.toScientific
      if layout.positionalFrom ≤ exponent ∧ exponent < layout.positionalBelow then
        positional digits exponent
      else scientific digits exponent
  if x.negative then '-' :: unsigned else unsigned

end FloatLayout

def Number.write : Number → List Char
  | .integer n => Digits.ofInt n
  | .float x => floatLayout.write x

end Projection.Json
