import Projection.Number.Digits
import Projection.Taken

set_option autoImplicit false

namespace Projection.Text

/-- What may be skipped before a digit. -/
structure Gap where
  skip : List Char → List Char
  skip_length_le (text : List Char) : (skip text).length ≤ text.length

def Gap.none : Gap := ⟨id, fun _ => Nat.le_refl _⟩

def takeHexDigit : (text : List Char) → Option (Taken Nat text)
  | [] => none
  | c :: rest => (Digits.hexValue? c).map fun digit => .single digit rest

def takeHex (gap : Gap) : (digits value : Nat) → (text : List Char) → Option (Remains Nat text)
  | 0, value, text => some (.whole value text)
  | digits + 1, value, text =>
    (takeHexDigit (gap.skip text)).bind fun digit =>
      (takeHex gap digits (16 * value + digit.value) digit.rest).map fun number =>
        (digit.andLeft number).remains.within (gap.skip_length_le text)

def takeCodePoint (gap : Gap) (digits : Nat) (text : List Char) : Option (Remains Char text) :=
  (takeHex gap digits 0 text).bind fun number =>
    if number.value.isValidChar then some (number.map Char.ofNat) else none

end Projection.Text
