import Projection.Json.Scalar
import Projection.Json.Skip

/-! Records in JSON text: an object with the record's fields in any order and others to be skipped,
or a list of the fields in their order. A field is given once at most; one that may be absent has a
value for that case. -/

set_option autoImplicit false

namespace Projection.Json

structure Slot where
  name : String
  Value : Type
  read : Reader Value
  absent : Option Value

def Filled : List Slot → Type
  | [] => Unit
  | slot :: slots => slot.Value × Filled slots

def Draft : List Slot → Type
  | [] => Unit
  | slot :: slots => Option slot.Value × Draft slots

namespace Draft

def empty : (slots : List Slot) → Draft slots
  | [] => ()
  | _ :: slots => (none, empty slots)

def fill? : (slots : List Slot) → Draft slots → Option (Filled slots)
  | [], _ => some ()
  | slot :: slots, (value, others) => do
    let value ← value.or slot.absent
    let others ← fill? slots others
    return (value, others)

/-- Reads the value of an entry into the draft: a field that has its value already is unfit, even
before the colon; an entry of another name is skipped. -/
def takeField : (slots : List Slot) → Draft slots → (key : String) → Reader (Draft slots)
  | [], _, _ => fun text =>
    match takeColon text with
    | .error fault => .error fault
    | .ok colon =>
      (skipValue.afterBlanks colon.rest).map fun skipped =>
        colon.andThen (skipped.map fun _ => ())
  | slot :: slots, (value, others), key => fun text =>
    if key = slot.name then
      if value.isSome then .error .unfit
      else
        match takeColon text with
        | .error fault => .error fault
        | .ok colon =>
          (slot.read.afterBlanks colon.rest).map fun taken =>
            colon.andThen (taken.map fun value => (some value, others))
    else (takeField slots others key text).map (·.map fun others => (value, others))

def takePositions : (slots : List Slot) → (text : List Char) →
    Except Fault (Remains (Draft slots) text)
  | [], text => .ok (.whole () text)
  | slot :: slots, text =>
    match start : skipBlanks text with
    | ',' :: rest =>
      have shorter := length_lt_of_skipBlanks start
      match slot.read.afterBlanks rest with
      | .error fault => .error fault
      | .ok taken =>
        (takePositions slots taken.rest).map fun left =>
          ((taken.andLeft (left.map fun others => (some taken.value, others))).within
            (Nat.le_of_lt shorter)).remains
    | ']' :: _ => .ok (.whole (empty (slot :: slots)) text)
    | other => .error (faultAt other)

def takeFirstPositions : (slots : List Slot) → (text : List Char) →
    Except Fault (Remains (Draft slots) text)
  | [], text => .ok (.whole () text)
  | slot :: slots, text =>
    match skipBlanks text with
    | ']' :: _ => .ok (.whole (empty (slot :: slots)) text)
    | _ =>
      match slot.read.afterBlanks text with
      | .error fault => .error fault
      | .ok taken =>
        (takePositions slots taken.rest).map fun left =>
          (taken.andLeft (left.map fun others => (some taken.value, others))).remains

end Draft

def takeRecord (slots : List Slot) : Reader (Filled slots)
  | '{' :: rest =>
    match takeObject (Draft.takeField slots) (Draft.empty slots) rest with
    | .error fault => .error fault
    | .ok taken =>
      match taken.value.fill? with
      | some filled => .ok (taken.map fun _ => filled).behind
      | none => .error .unfit
  | '[' :: rest =>
    match Draft.takeFirstPositions slots rest with
    | .error fault => .error fault
    | .ok left =>
      match left.value.fill? with
      | none => .error .unfit
      | some filled =>
        (takeMark ']' left.rest).map fun taken =>
          (left.andThen (taken.map fun _ => filled)).behind
  | text => .error (refuse text)

end Projection.Json
