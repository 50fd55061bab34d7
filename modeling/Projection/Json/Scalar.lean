import Projection.Json.Container
import Projection.Json.Numeral

set_option autoImplicit false

namespace Projection.Json

def faultOf {α : Type} : Except Fault α → Fault
  | .error fault => fault
  | .ok _ => .unfit

def refuse : List Char → Fault
  | [] => .truncated
  | 'n' :: rest => faultOf (takeName 'n' "ull" () rest)
  | 't' :: rest => faultOf (takeName 't' "rue" () rest)
  | 'f' :: rest => faultOf (takeName 'f' "alse" () rest)
  | '"' :: rest => faultOf (Quoted.take rest)
  | '[' :: _ | '{' :: _ => .unfit
  | c :: rest => if c = '-' ∨ c.isDigit then faultOf (takeNumber (c :: rest)) else .malformed

def takeBool : Reader Bool
  | 't' :: rest => takeName 't' "rue" true rest
  | 'f' :: rest => takeName 'f' "alse" false rest
  | text => .error (refuse text)

def takeString : Reader String
  | '"' :: rest => (Quoted.take rest).map (·.behind)
  | text => .error (refuse text)

def takeNumberAs {α : Type} (use : Number → Option α) : Reader α := fun text =>
  match text with
  | c :: rest =>
    if c = '-' ∨ c.isDigit then
      match takeNumber (c :: rest) with
      | .error fault => .error fault
      | .ok taken =>
        match use taken.value with
        | some value => .ok (taken.map fun _ => value)
        | none => .error .unfit
    else .error (refuse (c :: rest))
  | [] => .error .truncated

def takeInteger (low high : Int) : Reader { n : Int // low ≤ n ∧ n ≤ high } :=
  takeNumberAs fun
    | .integer n => if within : low ≤ n ∧ n ≤ high then some ⟨n, within⟩ else none
    | .float _ => none

def takeDouble : Reader Double := takeNumberAs fun value => some value.toDouble

def takeOptional {α : Type} (reader : Reader α) : Reader (Option α)
  | 'n' :: rest => takeName 'n' "ull" none rest
  | text => reader.map some text

def takeListOf {α : Type} (item : Reader α) : Reader (List α)
  | '[' :: rest => (takeList item rest).map (·.behind)
  | text => .error (refuse text)

def keepEntry (item : Reader Json) (entries : List (String × Json)) (key : String) :
    Reader (List (String × Json)) := fun text =>
  match takeColon text with
  | .error fault => .error fault
  | .ok colon =>
    (item.afterBlanks colon.rest).map fun taken =>
      colon.andThen (taken.map fun value => insert key value entries)

def takeValue (depth : Nat) : Reader Json
  | 'n' :: rest => takeName 'n' "ull" null rest
  | 't' :: rest => takeName 't' "rue" (bool true) rest
  | 'f' :: rest => takeName 'f' "alse" (bool false) rest
  | '"' :: rest => (Quoted.take rest).map fun s => (s.map string).behind
  | '[' :: rest =>
    match depth with
    | 0 => .error .malformed
    | depth + 1 =>
      (takeList (takeValue depth) rest).map fun items => (items.map array).behind
  | '{' :: rest =>
    match depth with
    | 0 => .error .malformed
    | depth + 1 =>
      (takeObject (keepEntry (takeValue depth)) [] rest).map fun entries =>
        (entries.map object).behind
  | text => takeNumberAs (fun value => some (number value)) text

def maxDepth : Nat := 127

def ofText (text : String) : Except Fault Json := readAll (takeValue maxDepth) text

end Projection.Json
