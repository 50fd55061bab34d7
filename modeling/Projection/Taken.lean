set_option autoImplicit false

namespace Projection

theorem length_lt_of_eq_cons {c : Char} {part rest text : List Char} (start : part = c :: rest)
    (no_longer : part.length ≤ text.length) : rest.length < text.length := by
  rw [start, List.length_cons] at no_longer
  exact no_longer

structure Taken (α : Type) (text : List Char) where
  value : α
  rest : List Char
  shorter : rest.length < text.length

/-- A rest that may still be the whole text. -/
structure Remains (α : Type) (text : List Char) where
  value : α
  rest : List Char
  no_longer : rest.length ≤ text.length

variable {α β : Type} {c : Char} {rest text : List Char}

namespace Taken

def single (value : α) (rest : List Char) : Taken α (c :: rest) :=
  ⟨value, rest, Nat.lt_succ_self _⟩

def map (f : α → β) (taken : Taken α text) : Taken β text :=
  ⟨f taken.value, taken.rest, taken.shorter⟩

def remains (taken : Taken α text) : Remains α text :=
  ⟨taken.value, taken.rest, Nat.le_of_lt taken.shorter⟩

def within {longer : List Char} (taken : Taken α text) (no_longer : text.length ≤ longer.length) :
    Taken α longer :=
  ⟨taken.value, taken.rest, Nat.lt_of_lt_of_le taken.shorter no_longer⟩

def behind (taken : Taken α rest) : Taken α (c :: rest) := taken.within (Nat.le_succ _)

end Taken

namespace Remains

def whole (value : α) (text : List Char) : Remains α text := ⟨value, text, Nat.le_refl _⟩

def map (f : α → β) (left : Remains α text) : Remains β text :=
  ⟨f left.value, left.rest, left.no_longer⟩

def within {longer : List Char} (left : Remains α text) (no_longer : text.length ≤ longer.length) :
    Remains α longer :=
  ⟨left.value, left.rest, Nat.le_trans left.no_longer no_longer⟩

def taken {longer : List Char} (left : Remains α text) (shorter : text.length < longer.length) :
    Taken α longer :=
  ⟨left.value, left.rest, Nat.lt_of_le_of_lt left.no_longer shorter⟩

def behind (left : Remains α rest) : Taken α (c :: rest) := left.taken (Nat.lt_succ_self _)

def andThen (first : Remains α text) (next : Taken β first.rest) : Taken β text :=
  next.within first.no_longer

def andLeft (first : Remains α text) (next : Remains β first.rest) : Remains β text :=
  next.within first.no_longer

end Remains

namespace Taken

def andThen (first : Taken α text) (next : Taken β first.rest) : Taken β text :=
  next.within (Nat.le_of_lt first.shorter)

def andLeft (first : Taken α text) (next : Remains β first.rest) : Taken β text :=
  next.taken first.shorter

end Taken

end Projection
