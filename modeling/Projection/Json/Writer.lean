import Projection.Json.Numeral
import Projection.Json.Quoted

set_option autoImplicit false

namespace Projection.Json

inductive Style where
  | compact
  | pretty
  deriving DecidableEq, Repr

namespace Style

def gap : Style → Nat → List Char
  | compact, _ => []
  | pretty, level => '\n' :: List.replicate (2 * level) ' '

def colon : Style → List Char
  | compact => [':']
  | pretty => [':', ' ']

end Style

mutual

def write (style : Style) (level : Nat) : Json → List Char
  | null => "null".toList
  | bool true => "true".toList
  | bool false => "false".toList
  | number value => value.write
  | string value => Quoted.write value
  | array [] => ['[', ']']
  | array (item :: items) =>
    '[' :: (style.gap (level + 1) ++ write style (level + 1) item ++ writeItems style level items)
  | object [] => ['{', '}']
  | object ((key, value) :: entries) =>
    '{' :: (style.gap (level + 1) ++ Quoted.write key ++ style.colon ++
      write style (level + 1) value ++ writeEntries style level entries)

def writeItems (style : Style) (level : Nat) : List Json → List Char
  | [] => style.gap level ++ [']']
  | item :: items =>
    ',' :: (style.gap (level + 1) ++ write style (level + 1) item ++ writeItems style level items)

def writeEntries (style : Style) (level : Nat) : List (String × Json) → List Char
  | [] => style.gap level ++ ['}']
  | (key, value) :: entries =>
    ',' :: (style.gap (level + 1) ++ Quoted.write key ++ style.colon ++
      write style (level + 1) value ++ writeEntries style level entries)

end

def render (style : Style) (value : Json) : String := String.ofList (write style 0 value)

end Projection.Json
