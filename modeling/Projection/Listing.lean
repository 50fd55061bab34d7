import Projection.Lexer

set_option autoImplicit false

namespace Projection.Listing

def padRight (width : Nat) (text : List Char) : List Char :=
  text ++ List.replicate (width - text.length) ' '

def line (token : Token) (phase : Phase) : List Char :=
  padRight 16 token.kind.name.toList ++ ' ' ::
    (padRight 20 ('\'' :: (token.text.toList ++ ['\''])) ++ " -> ".toList ++ phase.name.toList)

def join : List (List Char) → List Char
  | [] => []
  | [last] => last
  | first :: others => first ++ '\n' :: join others

def ofTokens (tokens : List (Token × Phase)) : List Char :=
  join (tokens.map fun (token, phase) => line token phase)

def ofText (keywords : KeywordRule) (statement : String) : Except QueryError String :=
  (TokenSource.drain (Lexer.ofText keywords statement)).1.map fun tokens =>
    String.ofList (ofTokens tokens)

end Projection.Listing
