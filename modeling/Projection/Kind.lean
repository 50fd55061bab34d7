import Projection.Entity
import Projection.Json.Scalar

set_option autoImplicit false

namespace Projection

inductive Kind where
  | bool
  | integer (low high : Int)
  /-- A number of single precision, kept as the double of the same value. -/
  | single
  | double
  | text
  | optional (content : Kind)
  | list (item : Kind)
  deriving DecidableEq, Repr

namespace Kind

def signed (bits : Nat) : Kind :=
  integer (-(Nat.pow 2 (bits - 1) : Nat)) ((Nat.pow 2 (bits - 1) : Nat) - 1)

def unsigned (bits : Nat) : Kind := integer 0 ((Nat.pow 2 bits : Nat) - 1)

def Carrier : Kind → Type
  | bool => Bool
  | integer low high => { n : Int // low ≤ n ∧ n ≤ high }
  | single | double => Floating
  | text => String
  | optional content => Option content.Carrier
  | list item => List item.Carrier

def fieldType : Kind → FieldType
  | bool => .bool
  | integer _ _ => .integer
  | single | double => .float
  | text => .string
  | optional content => .optional content.fieldType
  | list item => .list item.fieldType

/-- JSON has no infinities, and no value that is not a number: these become null. -/
def floatToJson (value : Floating) : Json :=
  match value.finite? with
  | some x => .number (.float x)
  | none => .null

def toJson : (kind : Kind) → kind.Carrier → Json
  | bool, value => .bool value
  | integer _ _, value => .number (.integer value.val)
  | single, value | double, value => floatToJson value
  | text, value => .string value
  | optional content, value =>
    match value with
    | some value => content.toJson value
    | none => .null
  | list item, values => .array (values.map item.toJson)

def read : (kind : Kind) → Json.Reader kind.Carrier
  | bool => Json.takeBool
  | integer low high => Json.takeInteger low high
  | single => Json.takeDouble.map fun x => (Floating.finite x).toSingle
  | double => Json.takeDouble.map Floating.finite
  | text => Json.takeString
  | optional content => Json.takeOptional content.read
  | list item => Json.takeListOf item.read

def absent : (kind : Kind) → Option kind.Carrier
  | optional _ => some none
  | _ => none

end Kind

end Projection
