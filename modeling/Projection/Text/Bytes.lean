set_option autoImplicit false

namespace Projection.Text

def byteCount : List Char → Nat
  | [] => 0
  | c :: rest => c.utf8Size + byteCount rest

/-- Cuts a text at a place. Nothing if the place is inside a character or behind the end. -/
def splitBytes? : Nat → List Char → Option (List Char × List Char)
  | 0, text => some ([], text)
  | _ + 1, [] => none
  | place + 1, c :: rest =>
    if c.utf8Size ≤ place + 1 then
      (splitBytes? (place + 1 - c.utf8Size) rest).map fun (front, behind) => (c :: front, behind)
    else none

def cut? (first last : Nat) (text : List Char) : Option (List Char) := do
  let (_, rest) ← splitBytes? first text
  let (part, _) ← splitBytes? (last - first) rest
  return part

end Projection.Text
