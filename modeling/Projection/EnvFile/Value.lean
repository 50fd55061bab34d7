import Projection.Text.Alphanumeric

set_option autoImplicit false

namespace Projection.EnvFile

/-- What a character of a value belongs to. `quoted` says whether double quotes are open. -/
inductive Cursor where
  | text (quoted : Bool)
  | escape (quoted : Bool)
  | singleQuotes
  | name (quoted : Bool) (name : List Char)
  | braces (quoted : Bool) (name : List Char)
  /-- Behind the value, where only a comment may follow. -/
  | ending
  deriving DecidableEq, Repr

def unescape? (c : Char) : Option Char :=
  if c = '\\' ∨ c = '\'' ∨ c = '"' ∨ c = '$' ∨ c = ' ' then some c
  else if c = 'n' then some '\n'
  else none

def Cursor.finish? (valueOf : List Char → List Char) : Cursor → Option (List Char)
  | text quoted | escape quoted => if quoted then none else some []
  | singleQuotes | braces _ _ => none
  | name quoted written => if quoted then none else some (valueOf written)
  | ending => some []

/-- The rest of a value from a cursor on. The character that ends a name stands for itself, whatever
it is, except for a dollar sign, which starts the next name. -/
def Cursor.expand? (valueOf : List Char → List Char) : Cursor → List Char → Option (List Char)
  | cursor, [] => cursor.finish? valueOf
  | text quoted, c :: rest =>
    if c = '$' then expand? valueOf (name quoted []) rest
    else if c = '\\' then expand? valueOf (escape quoted) rest
    else if c = '"' then expand? valueOf (text !quoted) rest
    else if quoted then (expand? valueOf (text true) rest).map (c :: ·)
    else if c = '\'' then expand? valueOf singleQuotes rest
    else if c = ' ' ∨ c = '\t' then expand? valueOf ending rest
    else (expand? valueOf (text false) rest).map (c :: ·)
  | escape quoted, c :: rest =>
    (unescape? c).bind fun d => (expand? valueOf (text quoted) rest).map (d :: ·)
  | singleQuotes, c :: rest =>
    if c = '\'' then expand? valueOf (text false) rest
    else (expand? valueOf singleQuotes rest).map (c :: ·)
  | name quoted written, c :: rest =>
    if Text.isAlphanumeric c then expand? valueOf (name quoted (written ++ [c])) rest
    else if c = '{' ∧ written = [] then expand? valueOf (braces quoted []) rest
    else if c = '$' then (expand? valueOf (name quoted []) rest).map (valueOf written ++ ·)
    else (expand? valueOf (text quoted) rest).map (valueOf written ++ c :: ·)
  | braces quoted written, c :: rest =>
    if c = '}' then (expand? valueOf (text quoted) rest).map (valueOf written ++ ·)
    else expand? valueOf (braces quoted (written ++ [c])) rest
  | ending, c :: rest =>
    if c = ' ' ∨ c = '\t' then expand? valueOf ending rest
    else if c = '#' then some []
    else none

end Projection.EnvFile
