import Projection.Number.Double

/-! JSON values. An object is a list of entries in the order in which its keys first came; looking a
key up finds its first entry. Two values are the same if they are equal up to the order of the
entries of objects; an integer is never the same as a float. -/

set_option autoImplicit false

namespace Projection

/-- Numbers without a fraction or an exponent are integers as far as 64 bits reach. -/
inductive Json.Number where
  | integer (value : Int)
  | float (value : Double)
  deriving DecidableEq, Repr

inductive Json where
  | null
  | bool (value : Bool)
  | number (value : Json.Number)
  | string (value : String)
  | array (items : List Json)
  | object (entries : List (String × Json))
  deriving Repr

namespace Json

namespace Number

def same : Number → Number → Bool
  | integer m, integer n => m == n
  | float x, float y => x.same y
  | _, _ => false

def toDouble : Number → Double
  | integer n => .ofInt n
  | float x => x

end Number

def find? (key : String) (entries : List (String × Json)) : Option Json := entries.lookup key

def keys (entries : List (String × Json)) : List String := entries.map Prod.fst

/-- A new key goes to the end; a known one keeps its place and takes the new value. -/
def insert (key : String) (value : Json) : List (String × Json) → List (String × Json)
  | [] => [(key, value)]
  | (k, v) :: rest => if k = key then (key, value) :: rest else (k, v) :: insert key value rest

def ofEntries (entries : List (String × Json)) : List (String × Json) :=
  entries.foldl (fun built (key, value) => insert key value built) []

mutual

def same : Json → Json → Bool
  | null, null => true
  | bool a, bool b => a == b
  | number a, number b => a.same b
  | string a, string b => a == b
  | array as, array bs => sameItems as bs
  | object as, object bs =>
    sameEntries [] as bs && (keys bs).all fun key => (keys as).contains key
  | _, _ => false

def sameItems : List Json → List Json → Bool
  | [], [] => true
  | a :: as, b :: bs => same a b && sameItems as bs
  | _, _ => false

/-- Every key on the left that is not in `seen` has the same value on the right. -/
def sameEntries (seen : List String) : List (String × Json) → List (String × Json) → Bool
  | [], _ => true
  | (key, a) :: rest, bs =>
    (seen.contains key || (match find? key bs with | some b => same a b | none => false)) &&
      sameEntries (key :: seen) rest bs

end

def get? (key : String) : Json → Option Json
  | object entries => find? key entries
  | _ => none

end Json

end Projection
