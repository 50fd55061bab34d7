import Projection.RawText

set_option autoImplicit false

namespace Projection

/-- Each variable stands as one text, its name and its value with an equals sign between them. -/
abbrev Environment := List RawText

namespace Environment

/-- What the texts of a variable begin with. A value may hold equals signs too: what is set as `a` to
`b=c` is also found as `a=b`, with the value `c`. -/
def front (name : String) : RawText := RawText.ofString name ++ RawText.ofString "="

def entry (name value : String) : RawText := front name ++ RawText.ofString value

def get? (environment : Environment) (name : String) : Option RawText :=
  if name = "" then none else environment.findSome? (front name).behind?

def text? (environment : Environment) (name : String) : Option String :=
  (environment.get? name).bind RawText.toString?

def set (name value : String) : Environment → Environment
  | [] => [entry name value]
  | first :: others =>
    if ((front name).behind? first).isSome then entry name value :: others
    else first :: set name value others

/-- Gives a variable its value, unless it has a text already, be it empty. A value that is not UTF-8
gives way. A text with the character NUL cannot be a value. -/
def setDefault? (environment : Environment) (name value : String) : Option Environment :=
  if (environment.text? name).isSome then some environment
  else if '\x00' ∈ value.toList then none
  else some (environment.set name value)

end Environment

end Projection
