import Projection.Proofs.Keyword
import Projection.Proofs.Source
import Projection.Proofs.Writing

/-! A lexer over the list of words. It looks at no characters: what it does depends on its phase, on
the next word and on whether any word is left. The lexer over the text answers every request alike,
however many requests have been made and whatever became of them. -/

set_option autoImplicit false

namespace Projection

namespace Lexeme

def unclosed? : Lexeme → Option String
  | unclosed text => some text
  | _ => none

theorem unclosed?_eq_some_iff {word : Lexeme} {text : String} :
    word.unclosed? = some text ↔ word = unclosed text := by
  cases word <;> simp [unclosed?]

end Lexeme

structure WordLexer where
  keywords : KeywordRule
  words : List Lexeme
  phase : Phase
  deriving DecidableEq, Repr

namespace WordLexer

def ofWords (keywords : KeywordRule) (words : List Lexeme) : WordLexer := ⟨keywords, words, .start⟩

/-- A table source ends the statement if no word is left behind it. -/
def next (lexer : WordLexer) : Except QueryError (Option Token) × WordLexer :=
  match lexer.phase, lexer.words with
  | .finished, _ => (.ok none, lexer)
  | .start, [] => (.error (.unexpectedStart ""), lexer)
  | .selectList, [] | .tableSource, [] => (.ok none, { lexer with phase := .finished })
  | _, .unclosed text :: words => (.error (.unterminatedIdentifier text), { lexer with words })
  | .start, word :: words =>
    if lexer.keywords.Marks "SELECT" word then
      (.ok (some ⟨.selectKeyword, word.text⟩), { lexer with words, phase := .selectList })
    else (.error (.unexpectedStart word.text), { lexer with words })
  | .selectList, word :: words =>
    if lexer.keywords.Marks "FROM" word then
      (.ok (some ⟨.fromKeyword, word.text⟩), { lexer with words, phase := .tableSource })
    else (.ok (some ⟨.column, word.text⟩), { lexer with words })
  | .tableSource, word :: words =>
    (.ok (some ⟨.tableSource, word.text⟩),
      { lexer with words, phase := if words = [] then .finished else .tableSource })

inductive Takes : WordLexer → Token → WordLexer → Prop where
  | select {keywords : KeywordRule} {word : Lexeme} {words : List Lexeme}
      (marks : keywords.Marks "SELECT" word) :
    Takes ⟨keywords, word :: words, .start⟩ ⟨.selectKeyword, word.text⟩
      ⟨keywords, words, .selectList⟩
  | column {keywords : KeywordRule} {word : Lexeme} {words : List Lexeme}
      (closed : word.unclosed? = none) (other : ¬keywords.Marks "FROM" word) :
    Takes ⟨keywords, word :: words, .selectList⟩ ⟨.column, word.text⟩ ⟨keywords, words, .selectList⟩
  | source {keywords : KeywordRule} {word : Lexeme} {words : List Lexeme}
      (marks : keywords.Marks "FROM" word) :
    Takes ⟨keywords, word :: words, .selectList⟩ ⟨.fromKeyword, word.text⟩
      ⟨keywords, words, .tableSource⟩
  | tableSource {keywords : KeywordRule} {word : Lexeme} {words : List Lexeme}
      (closed : word.unclosed? = none) :
    Takes ⟨keywords, word :: words, .tableSource⟩ ⟨.tableSource, word.text⟩
      ⟨keywords, words, if words = [] then .finished else .tableSource⟩

theorem takes_of_next {lexer rest : WordLexer} {token : Token}
    (taken : lexer.next = (.ok (some token), rest)) : Takes lexer token rest := by
  obtain ⟨keywords, words, phase⟩ := lexer
  cases words with
  | nil => cases phase <;> simp [next] at taken
  | cons word words =>
    cases word with
    | unclosed name => cases phase <;> simp [next] at taken
    | bare name | bracketed name =>
      cases phase with
      | finished => simp [next] at taken
      | start =>
        simp only [next] at taken
        split at taken
        · next marks =>
          cases taken
          exact .select marks
        · cases taken
      | selectList =>
        simp only [next] at taken
        split at taken
        · next marks =>
          cases taken
          exact .source marks
        · next other =>
          cases taken
          exact .column rfl other
      | tableSource =>
        cases taken
        exact .tableSource rfl

theorem next_of_takes {lexer rest : WordLexer} {token : Token} (takes : Takes lexer token rest) :
    lexer.next = (.ok (some token), rest) := by
  cases takes with
  | select marks =>
    obtain ⟨name, rfl, _⟩ := KeywordRule.eq_bare_of_marks marks
    simp [next, marks]
  | @column _ word _ closed other =>
    cases word with
    | unclosed name => cases closed
    | bare name | bracketed name => simp [next, other]
  | source marks =>
    obtain ⟨name, rfl, _⟩ := KeywordRule.eq_bare_of_marks marks
    simp [next, marks]
  | @tableSource _ word _ closed =>
    cases word with
    | unclosed name => cases closed
    | bare name | bracketed name => rfl

theorem length_lt_of_takes {lexer rest : WordLexer} {token : Token}
    (takes : Takes lexer token rest) : rest.words.length < lexer.words.length := by
  cases takes <;> exact Nat.lt_succ_self _

theorem finished_iff_of_tableSource {lexer rest : WordLexer} {name : String}
    (takes : Takes lexer ⟨.tableSource, name⟩ rest) : rest.phase = .finished ↔ rest.words = [] := by
  cases takes
  split <;> simp [*]

instance : TokenSource WordLexer where
  next := next
  phase := phase
  size lexer := lexer.words.length
  size_lt taken := length_lt_of_takes (takes_of_next taken)

theorem fold_of_takes {β : Type} {step : β → Token → Phase → Except QueryError β} {state later : β}
    {lexer rest : WordLexer} {token : Token} (takes : Takes lexer token rest)
    (accepted : step state token rest.phase = .ok later) :
    TokenSource.fold step state lexer = TokenSource.fold step later rest := by
  have taken : TokenSource.next lexer = (.ok (some token), rest) := next_of_takes takes
  have reached : step state token (TokenSource.phase rest) = .ok later := accepted
  rw [TokenSource.fold_eq, taken]
  simp only [reached]

end WordLexer

namespace Lexer

structure Reads (lexer : Lexer) (image : WordLexer) : Prop where
  keywords : image.keywords = lexer.keywords
  phase : image.phase = lexer.phase
  words : ∃ text, lexer.unread = some text ∧ image.words = Lexeme.ofText text

theorem reads_ofText (keywords : KeywordRule) (text : String) :
    Reads (ofText keywords text) (.ofWords keywords (Lexeme.ofText text.toList)) :=
  ⟨rfl, rfl, text.toList, rfl, rfl⟩

theorem lookAhead_eq (token : Token) (phase : Phase) (rest : List Char) :
    (lookAhead token phase rest).1 =
        (if token.kind = .tableSource ∧ Lexeme.ofText rest = [] then .finished else phase) ∧
      Lexeme.ofText (lookAhead token phase rest).2 = Lexeme.ofText rest := by
  obtain ⟨kind, text⟩ := token
  cases kind with
  | selectKeyword | column | fromKeyword => simp [lookAhead]
  | tableSource =>
    have same := Lexeme.ofText_skipSeparators rest
    cases left : skipSeparators rest with
    | nil =>
      have none_left : Lexeme.ofText rest = [] := Lexeme.ofText_eq_nil_iff.mpr left
      simp [lookAhead, left, none_left]
    | cons c tail =>
      have some_left : Lexeme.ofText rest ≠ [] := by simp [Lexeme.ofText_eq_nil_iff, left]
      rw [left] at same
      simp [lookAhead, left, same, some_left]

theorem next_cons (keywords : KeywordRule) {phase : Phase} (unfinished : phase ≠ .finished)
    (item : Lexeme) (words : List Lexeme) :
    WordLexer.next ⟨keywords, item :: words, phase⟩ =
      match classify keywords phase item with
      | .error error => (.error error, ⟨keywords, words, phase⟩)
      | .ok (token, reached) =>
        (.ok (some token), ⟨keywords, words,
          if token.kind = .tableSource ∧ words = [] then .finished else reached⟩) := by
  have select := keywords.acceptsSelect_iff item
  have source := keywords.acceptsFrom_iff item
  cases phase with
  | finished => exact absurd rfl unfinished
  | start =>
    cases item with
    | unclosed name => rfl
    | bare name | bracketed name =>
      simp only [WordLexer.next, classify, select]
      split <;> simp
  | selectList =>
    cases item with
    | unclosed name => rfl
    | bare name | bracketed name =>
      simp only [WordLexer.next, classify, source]
      split <;> simp
  | tableSource => cases item <;> simp [WordLexer.next, classify]

theorem next_of_reads {lexer : Lexer} {image : WordLexer} (reads : lexer.Reads image) :
    lexer.next.1 = image.next.1 ∧ lexer.next.2.Reads image.next.2 := by
  obtain ⟨keywords, words, phase⟩ := image
  obtain ⟨_, unread, _⟩ := lexer
  obtain ⟨rfl, rfl, text, rfl, rfl⟩ := reads
  by_cases finished : phase = .finished
  · subst finished
    exact ⟨rfl, rfl, rfl, text, rfl, rfl⟩
  · have words_eq := Lexeme.ofText_eq text
    cases found : Lexeme.next text with
    | mk item rest =>
      rw [found] at words_eq
      rw [words_eq]
      cases item with
      | none =>
        have left : Lexeme.ofText rest = [] := by
          rw [Lexeme.eq_nil_of_next found, Lexeme.ofText_nil]
        simp only [next, if_neg finished, found]
        cases phase with
        | finished => exact absurd rfl finished
        | start | selectList | tableSource => exact ⟨rfl, rfl, rfl, rest, rfl, left.symm⟩
      | some item =>
        rw [next_cons keywords finished]
        simp only [next, if_neg finished, found]
        cases classify keywords phase item with
        | error error => exact ⟨rfl, rfl, rfl, rest, rfl, rfl⟩
        | ok role =>
          obtain ⟨token, reached⟩ := role
          obtain ⟨phase_eq, words_left⟩ := lookAhead_eq token reached rest
          exact ⟨rfl, rfl, phase_eq.symm, _, rfl, words_left.symm⟩

theorem simulates_reads : TokenSource.Simulates Reads where
  answer reads := (next_of_reads reads).1
  phase reads := reads.phase.symm
  step reads := (next_of_reads reads).2

/-- Whatever has been asked before, the lexer over a text and the lexer over the words of its one
writing answer the next request alike and are in the same phase then. A table source ends the
statement exactly when only separators are left. -/
theorem requests_agree_with_words (keywords : KeywordRule) (text : String) :
    ∃ writing : Writing, writing.IsOf text.toList ∧
      (∀ other : Writing, other.IsOf text.toList → other = writing) ∧
      ∀ requests : Nat,
        let lexer := TokenSource.skip requests (ofText keywords text)
        let image := TokenSource.skip requests (WordLexer.ofWords keywords writing.items)
        lexer.next.1 = image.next.1 ∧ lexer.next.2.phase = image.next.2.phase ∧
          ∀ name, lexer.next.1 = .ok (some ⟨.tableSource, name⟩) →
            ∃ rest, lexer.next.2.unread = some rest ∧
              (lexer.next.2.phase = .finished ↔ ∀ c ∈ rest, c ∈ separators) := by
  obtain ⟨writing, is_of, unique⟩ := Writing.existsUnique_isOf text.toList
  refine ⟨writing, is_of, unique, fun requests => ?_⟩
  have start := reads_ofText keywords text
  rw [← is_of.items_eq] at start
  obtain ⟨answer, reads⟩ := next_of_reads (simulates_reads.skip start requests)
  refine ⟨answer, reads.phase.symm, fun name found => ?_⟩
  obtain ⟨rest, unread, words⟩ := reads.words
  have takes := WordLexer.takes_of_next (Prod.ext (answer.symm.trans found) rfl)
  refine ⟨rest, unread, ?_⟩
  rw [← reads.phase, WordLexer.finished_iff_of_tableSource takes, words,
    Lexeme.ofText_eq_nil_iff, skipSeparators_eq_nil_iff]

end Lexer

end Projection
