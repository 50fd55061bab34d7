import Projection.Json.Quoted

set_option autoImplicit false

namespace Projection.Json

theorem length_lt_of_skipBlanks {text rest : List Char} {c : Char}
    (start : skipBlanks text = c :: rest) : rest.length < text.length :=
  length_lt_of_eq_cons start (skipBlanks_length_le text)

def takeMark (mark : Char) (text : List Char) : Except Fault (Taken Unit text) :=
  match start : skipBlanks text with
  | [] => .error .truncated
  | c :: rest =>
    if c = mark then .ok ⟨(), rest, length_lt_of_skipBlanks start⟩ else .error .malformed

def takeColon : Reader Unit := takeMark ':'

def takeItems {α : Type} (item : Reader α) (text : List Char) :
    Except Fault (Taken (List α) text) :=
  match start : skipBlanks text with
  | [] => .error .truncated
  | c :: rest =>
    have shorter := length_lt_of_skipBlanks start
    if c = ']' then .ok ⟨[], rest, shorter⟩
    else if c = ',' then
      match item.afterBlanks rest with
      | .error fault => .error fault
      | .ok first =>
        (takeItems item first.rest).map fun others =>
          (first.andThen (others.map (first.value :: ·))).within (Nat.le_of_lt shorter)
    else .error .malformed
termination_by text.length
decreasing_by exact Nat.lt_trans first.shorter (length_lt_of_skipBlanks start)

def takeList {α : Type} (item : Reader α) (text : List Char) :
    Except Fault (Taken (List α) text) :=
  match start : skipBlanks text with
  | ']' :: rest => .ok ⟨[], rest, length_lt_of_skipBlanks start⟩
  | _ =>
    match item.afterBlanks text with
    | .error fault => .error fault
    | .ok first =>
      (takeItems item first.rest).map fun others =>
        first.andThen (others.map (first.value :: ·))

/-- One entry of an object. `entry` reads what follows the key, colon included, and puts it into the
state built so far. -/
def takeEntry {σ : Type} (entry : σ → String → Reader σ) (state : σ) (text : List Char) :
    Except Fault (Taken σ text) :=
  match takeMark '"' text with
  | .error fault => .error fault
  | .ok quote =>
    match Quoted.take quote.rest with
    | .error fault => .error fault
    | .ok key =>
      (entry state key.value key.rest).map fun next => quote.andThen (key.andThen next)

def takeEntries {σ : Type} (entry : σ → String → Reader σ) (state : σ) (text : List Char) :
    Except Fault (Taken σ text) :=
  match start : skipBlanks text with
  | [] => .error .truncated
  | c :: rest =>
    have shorter := length_lt_of_skipBlanks start
    if c = '}' then .ok ⟨state, rest, shorter⟩
    else if c = ',' then
      match takeEntry entry state rest with
      | .error fault => .error fault
      | .ok next =>
        (takeEntries entry next.value next.rest).map fun others =>
          (next.andThen others).within (Nat.le_of_lt shorter)
    else .error .malformed
termination_by text.length
decreasing_by exact Nat.lt_trans next.shorter (length_lt_of_skipBlanks start)

def takeObject {σ : Type} (entry : σ → String → Reader σ) (state : σ) (text : List Char) :
    Except Fault (Taken σ text) :=
  match start : skipBlanks text with
  | '}' :: rest => .ok ⟨state, rest, length_lt_of_skipBlanks start⟩
  | _ =>
    match takeEntry entry state text with
    | .error fault => .error fault
    | .ok next =>
      (takeEntries entry next.value next.rest).map next.andThen

end Projection.Json
