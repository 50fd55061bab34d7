/-! A statement is a line of words. Carriage returns, line feeds, tabs, spaces and commas only
separate; a word is bare, up to the next separator, or stands in brackets, up to the next `]`.
The words of a text do not depend on what has been read before: `Lexeme.ofText` lists them all. -/

set_option autoImplicit false

namespace Projection

def isSeparator (c : Char) : Bool :=
  c == '\r' || c == '\n' || c == '\t' || c == ' ' || c == ','

def skipSeparators (text : List Char) : List Char := text.dropWhile isSeparator

theorem skipSeparators_length_le (text : List Char) :
    (skipSeparators text).length ≤ text.length :=
  (List.dropWhile_suffix isSeparator).length_le

/-- One item of a statement's text. A bracket that is never closed takes all the text after it. -/
inductive Lexeme where
  | bare (text : String)
  | bracketed (text : String)
  | unclosed (text : String)
  deriving DecidableEq, Repr

namespace Lexeme

def text : Lexeme → String
  | bare text | bracketed text | unclosed text => text

/-- What follows an opening bracket. The separators behind the closing one are taken along. -/
def ofBracket (text : List Char) : Lexeme × List Char :=
  match text.dropWhile (· != ']') with
  | [] => (unclosed (String.ofList text), [])
  | _ :: rest => (bracketed (String.ofList (text.takeWhile (· != ']'))), skipSeparators rest)

def ofHead (c : Char) (text : List Char) : Lexeme × List Char :=
  if c = '[' then ofBracket text
  else (bare (String.ofList (c :: text.takeWhile (!isSeparator ·))), text.dropWhile (!isSeparator ·))

def next (text : List Char) : Option Lexeme × List Char :=
  match skipSeparators text with
  | [] => (none, [])
  | c :: rest => let (item, after) := ofHead c rest; (some item, after)

theorem ofBracket_length_le (text : List Char) : (ofBracket text).2.length ≤ text.length := by
  unfold ofBracket
  have h := (List.dropWhile_suffix (l := text) (· != ']')).length_le
  split
  · simp
  · next rest eq =>
    have := skipSeparators_length_le rest
    rw [eq, List.length_cons] at h
    simp only; omega

theorem ofHead_length_le (c : Char) (text : List Char) :
    (ofHead c text).2.length ≤ text.length := by
  unfold ofHead
  split
  · exact ofBracket_length_le text
  · exact (List.dropWhile_suffix _).length_le

theorem next_length_lt {text : List Char} {item : Lexeme} (found : (next text).1 = some item) :
    (next text).2.length < text.length := by
  unfold next at found ⊢
  have h := skipSeparators_length_le text
  split at found
  · simp at found
  · next c rest eq =>
    have := ofHead_length_le c rest
    rw [eq, List.length_cons] at h
    simp only; omega

def ofText (text : List Char) : List Lexeme :=
  match _ : next text with
  | (none, _) => []
  | (some item, rest) => item :: ofText rest
termination_by text.length
decreasing_by
  have := next_length_lt (congrArg Prod.fst ‹next text = _›)
  rwa [‹next text = _›] at this

end Lexeme

end Projection
