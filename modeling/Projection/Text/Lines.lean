set_option autoImplicit false

namespace Projection.Text

def skipMark : List Char → List Char
  | '\uFEFF' :: rest => rest
  | text => text

def splitAfter {α : Type} [DecidableEq α] (mark : α) : List α → List (List α)
  | [] => []
  | a :: rest =>
    if a = mark then [a] :: splitAfter mark rest
    else
      match splitAfter mark rest with
      | [] => [[a]]
      | line :: lines => (a :: line) :: lines

end Projection.Text
