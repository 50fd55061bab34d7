import Projection.QueryError

/-! The lexer gives each word its role and reports the phase it has reached. A refused word is
taken, and the phase stays. Once closed, a lexer has no text and refuses every request.

Anything that hands out finitely many tokens is a `TokenSource`; its tokens are folded up one by
one, as far as the step function accepts them. -/

set_option autoImplicit false

namespace Projection

/-- A source hands out one token at a time and then reports the phase it is in. Its size goes down
with every token. -/
class TokenSource (σ : Type) where
  next : σ → Except QueryError (Option Token) × σ
  phase : σ → Phase
  size : σ → Nat
  size_lt {source rest : σ} {token : Token} (taken : next source = (.ok (some token), rest)) :
    size rest < size source

namespace TokenSource

/-- Every token goes through `step` with the phase reported after it. The first failure, of the
source or of `step`, ends the fold; nothing behind it is asked for. -/
def fold {σ β : Type} [TokenSource σ] (step : β → Token → Phase → Except QueryError β)
    (state : β) (source : σ) : Except QueryError β × σ :=
  match _ : next source with
  | (.error error, rest) => (.error error, rest)
  | (.ok none, rest) => (.ok state, rest)
  | (.ok (some token), rest) =>
    match step state token (phase rest) with
    | .error error => (.error error, rest)
    | .ok state => fold step state rest
termination_by size source
decreasing_by exact size_lt ‹_›

def drain {σ : Type} [TokenSource σ] (source : σ) : Except QueryError (List (Token × Phase)) × σ :=
  fold (fun tokens token phase => .ok (tokens ++ [(token, phase)])) [] source

end TokenSource

structure Lexer where
  keywords : KeywordRule
  /-- The text not yet read; none once the lexer is closed. -/
  unread : Option (List Char)
  phase : Phase
  deriving DecidableEq, Repr

namespace Lexer

def ofText (keywords : KeywordRule) (text : String) : Lexer := ⟨keywords, some text.toList, .start⟩

def close (lexer : Lexer) : Lexer := { lexer with unread := none }

def isClosed (lexer : Lexer) : Bool := lexer.unread.isNone

def classify (keywords : KeywordRule) : Phase → Lexeme → Except QueryError (Token × Phase)
  | _, .unclosed text => .error (.unterminatedIdentifier text)
  | .start, word =>
    if keywords.acceptsSelect word then .ok (⟨.selectKeyword, word.text⟩, .selectList)
    else .error (.unexpectedStart word.text)
  | .selectList, word =>
    if keywords.acceptsFrom word then .ok (⟨.fromKeyword, word.text⟩, .tableSource)
    else .ok (⟨.column, word.text⟩, .selectList)
  | .tableSource, word | .finished, word => .ok (⟨.tableSource, word.text⟩, .tableSource)

/-- Behind a table source the separators are taken too: if nothing else is left, that source ends
the statement. -/
def lookAhead : Token → Phase → List Char → Phase × List Char
  | ⟨.tableSource, _⟩, phase, rest =>
    match skipSeparators rest with
    | [] => (.finished, [])
    | rest => (phase, rest)
  | _, phase, rest => (phase, rest)

theorem lookAhead_length_le (token : Token) (phase : Phase) (rest : List Char) :
    (lookAhead token phase rest).2.length ≤ rest.length := by
  unfold lookAhead
  have := skipSeparators_length_le rest
  split
  · split <;> simp_all
  · simp

def atEnd : Phase → Except QueryError (Option Token) × Phase
  | .start => (.error (.unexpectedStart ""), .start)
  | _ => (.ok none, .finished)

def next (lexer : Lexer) : Except QueryError (Option Token) × Lexer :=
  match lexer.unread with
  | none => (.error .closedLexer, lexer)
  | some text =>
    if lexer.phase = .finished then (.ok none, lexer)
    else
      match Lexeme.next text with
      | (none, rest) =>
        let (result, phase) := atEnd lexer.phase
        (result, { lexer with unread := some rest, phase })
      | (some word, rest) =>
        match classify lexer.keywords lexer.phase word with
        | .error error => (.error error, { lexer with unread := some rest })
        | .ok (token, phase) =>
          let (phase, rest) := lookAhead token phase rest
          (.ok (some token), { lexer with unread := some rest, phase })

def size (lexer : Lexer) : Nat := (lexer.unread.getD []).length

theorem size_next_lt {lexer rest : Lexer} {token : Token}
    (taken : lexer.next = (.ok (some token), rest)) : rest.size < lexer.size := by
  unfold next at taken
  split at taken
  · simp at taken
  · next text unread =>
    split at taken
    · simp at taken
    · split at taken
      · cases phase : lexer.phase <;> simp [phase, atEnd] at taken
      · next word after found =>
        have shorter := Lexeme.next_length_lt (congrArg Prod.fst found)
        rw [found] at shorter
        split at taken
        · simp at taken
        · next token' phase _ =>
          have := lookAhead_length_le token' phase after
          simp only [Prod.mk.injEq] at taken
          rw [← taken.2]
          simp only [size, unread, Option.getD_some]
          simp only at shorter
          omega

instance : TokenSource Lexer where
  next := next
  phase := phase
  size := size
  size_lt := size_next_lt

end Lexer

inductive Reply where
  | token (token : Token) (phase : Phase)
  | done
  | failure (error : QueryError)
  deriving DecidableEq, Repr

/-- A source that gives its replies one after the other, and the end once they are used up. -/
structure Replay where
  replies : List Reply
  phase : Phase := .start
  deriving DecidableEq, Repr

namespace Replay

def next : Replay → Except QueryError (Option Token) × Replay
  | ⟨[], phase⟩ => (.ok none, ⟨[], phase⟩)
  | ⟨.token token phase :: replies, _⟩ => (.ok (some token), ⟨replies, phase⟩)
  | ⟨.done :: replies, phase⟩ => (.ok none, ⟨replies, phase⟩)
  | ⟨.failure error :: replies, phase⟩ => (.error error, ⟨replies, phase⟩)

instance : TokenSource Replay where
  next := next
  phase := phase
  size replay := replay.replies.length
  size_lt {source rest token} taken := by
    obtain ⟨replies, phase⟩ := source
    cases replies with
    | nil => simp [next] at taken
    | cons reply replies =>
      cases reply <;> simp [next] at taken
      simp [← taken.2]

end Replay

end Projection
