import Projection.Proofs.LifeCycle

/-! How far a lexer gets. Every request reads on or finds the end of the text, so there are no more
tokens than characters, and once as many requests have been made as there are characters, all
further ones are answered alike. No loop that asks for tokens goes on for longer. -/

set_option autoImplicit false

namespace Projection

namespace Lexeme

theorem text_ofBracket_length_le (text : List Char) :
    (ofBracket text).1.text.length + (ofBracket text).2.length ≤ text.length := by
  have parts := congrArg List.length (List.takeWhile_append_dropWhile (p := (· != ']')) (l := text))
  rw [List.length_append] at parts
  unfold ofBracket
  split
  · exact Nat.le_of_eq (String.length_ofList)
  · next rest closed =>
    have behind := skipSeparators_length_le rest
    rw [closed, List.length_cons] at parts
    simp only [Lexeme.text, String.length_ofList]
    omega

theorem text_ofHead_length_le (c : Char) (text : List Char) :
    (ofHead c text).1.text.length + (ofHead c text).2.length ≤ text.length + 1 := by
  have parts := congrArg List.length
    (List.takeWhile_append_dropWhile (p := (!isSeparator ·)) (l := text))
  rw [List.length_append] at parts
  unfold ofHead
  split
  · exact (text_ofBracket_length_le text).trans (Nat.le_succ _)
  · simp only [Lexeme.text, String.length_ofList, List.length_cons]
    omega

theorem text_next_length_le {text : List Char} {item : Lexeme}
    (found : (next text).1 = some item) :
    item.text.length + (next text).2.length ≤ text.length := by
  have shorter := skipSeparators_length_le text
  unfold next at found ⊢
  split at found
  · cases found
  · next c rest left =>
    cases found
    have within := text_ofHead_length_le c rest
    rw [left, List.length_cons] at shorter
    exact within.trans shorter

theorem length_ofText_le (text : List Char) : (ofText text).length ≤ text.length := by
  induction size : text.length using Nat.strongRecOn generalizing text with
  | ind size ih =>
    subst size
    rw [ofText_eq]
    split
    · exact Nat.zero_le _
    · next item found =>
      have shorter := next_length_lt found
      have behind := ih _ shorter (next text).2 rfl
      rw [List.length_cons]
      omega

end Lexeme

namespace TokenSource

variable {σ β : Type} [TokenSource σ]

/-- The loop that folds up tokens, if it may ask only so many times. -/
def foldWithin (step : β → Token → Phase → Except QueryError β) :
    Nat → β → σ → Option (Except QueryError β × σ)
  | 0, _, _ => none
  | requests + 1, state, source =>
    match next source with
    | (.error error, rest) => some (.error error, rest)
    | (.ok none, rest) => some (.ok state, rest)
    | (.ok (some token), rest) =>
      match step state token (phase rest) with
      | .error error => some (.error error, rest)
      | .ok state => foldWithin step requests state rest

theorem foldWithin_eq_fold (step : β → Token → Phase → Except QueryError β) {requests : Nat}
    (state : β) {source : σ} (enough : size source < requests) :
    foldWithin step requests state source = some (fold step state source) := by
  induction requests generalizing state source with
  | zero => cases enough
  | succ requests ih =>
    rw [fold_eq, foldWithin]
    match answer : next source with
    | (.error error, rest) => rfl
    | (.ok none, rest) => rfl
    | (.ok (some token), rest) =>
      have shorter := size_lt answer
      simp only
      cases step state token (phase rest) with
      | error error => rfl
      | ok state => exact ih state (by omega)

end TokenSource

namespace WordLexer

def left (lexer : WordLexer) : Nat := if lexer.phase = .finished then 0 else lexer.words.length

def Begins (lexer : WordLexer) : Prop :=
  lexer.phase ≠ .start ∨ ∃ word ∈ lexer.words, lexer.keywords.Marks "SELECT" word

theorem left_next (lexer : WordLexer) :
    lexer.next.2.left = lexer.left - 1 ∧ (lexer.next.2.Begins ↔ lexer.Begins) := by
  obtain ⟨keywords, words, phase⟩ := lexer
  cases words with
  | nil => cases phase <;> simp [next, left, Begins]
  | cons word words =>
    cases phase with
    | finished => simp [next, left]
    | start =>
      cases word with
      | unclosed name => simp [next, left, Begins, KeywordRule.Marks]
      | bare name | bracketed name =>
        simp only [next]
        split <;> simp_all [left, Begins]
    | selectList =>
      cases word with
      | unclosed name => simp [next, left, Begins]
      | bare name | bracketed name =>
        simp only [next]
        split <;> simp [left, Begins]
    | tableSource =>
      cases word with
      | unclosed name => simp [next, left, Begins]
      | bare name | bracketed name => cases words <;> simp [next, left, Begins]

theorem left_skip (requests : Nat) (lexer : WordLexer) :
    (TokenSource.skip requests lexer).left = lexer.left - requests ∧
      ((TokenSource.skip requests lexer).Begins ↔ lexer.Begins) := by
  induction requests generalizing lexer with
  | zero => exact ⟨rfl, Iff.rfl⟩
  | succ requests ih =>
    obtain ⟨fewer, begins⟩ := left_next lexer
    obtain ⟨later, still⟩ := ih lexer.next.2
    refine ⟨?_, still.trans begins⟩
    rw [fewer] at later
    exact later.trans (by omega)

theorem next_of_left_eq_zero {lexer : WordLexer} (none_left : lexer.left = 0) :
    (lexer.Begins → lexer.next.1 = .ok none ∧ lexer.next.2.phase = .finished) ∧
      (¬lexer.Begins →
        lexer.next.1 = .error (.unexpectedStart "") ∧ lexer.next.2.phase = .start) := by
  obtain ⟨keywords, words, phase⟩ := lexer
  cases words with
  | nil => cases phase <;> simp [next, Begins]
  | cons word words => cases phase <;> simp_all [left, next, Begins]

end WordLexer

namespace Lexer

variable {lexer rest : Lexer}

theorem size_le_of_leads (leads : Leads lexer rest) : rest.size ≤ lexer.size := by
  cases left : rest.unread with
  | none => simp [size, left]
  | some text =>
    obtain ⟨longer, unread, behind⟩ := leads.unread text left
    simpa [size, left, unread] using behind.length_le

theorem text_of_classify {keywords : KeywordRule} {phase reached : Phase} {word : Lexeme}
    {token : Token} (accepted : classify keywords phase word = .ok (token, reached)) :
    token.text = word.text := by
  unfold classify at accepted
  split at accepted
  · cases accepted
  · split at accepted <;> cases accepted
    rfl
  · split at accepted <;> cases accepted <;> rfl
  · cases accepted
    rfl
  · cases accepted
    rfl

theorem text_next_le {token : Token} (answer : lexer.next = (.ok (some token), rest)) :
    token.text.length + rest.size ≤ lexer.size := by
  unfold next at answer
  split at answer
  · cases answer
  · next text unread =>
    split at answer
    · cases answer
    · split at answer
      · cases phase : lexer.phase <;> simp [phase, atEnd] at answer
      · next word after found =>
        have within := Lexeme.text_next_length_le (congrArg Prod.fst found)
        rw [found] at within
        split at answer
        · cases answer
        · next taken reached accepted =>
          have ahead := lookAhead_length_le taken reached after
          rw [← text_of_classify accepted] at within
          cases answer
          simp only [size, unread, Option.getD_some]
          exact (Nat.add_le_add_left ahead _).trans within

theorem size_next_lt_of_refused {error : QueryError} (answer : lexer.next = (.error error, rest))
    (opened : error ≠ .closedLexer) (some_word : error ≠ .unexpectedStart "") :
    rest.size < lexer.size := by
  unfold next at answer
  split at answer
  · cases answer
    exact absurd rfl opened
  · next text unread =>
    split at answer
    · cases answer
    · split at answer
      · cases phase : lexer.phase <;> simp [phase, atEnd] at answer
        exact absurd answer.1.symm some_word
      · next word after found =>
        have shorter := Lexeme.next_length_lt (congrArg Prod.fst found)
        rw [found] at shorter
        split at answer
        · cases answer
          simpa [size, unread] using shorter
        · cases answer

/-- Tokens that are paid for with characters: there are no more of them, nor are their texts longer,
than what has been read. -/
structure Affords (lexer : Lexer) (tokens : List (Token × Phase)) (rest : Lexer) : Prop where
  count : tokens.length + rest.size ≤ lexer.size
  texts : (tokens.flatMap fun reported => reported.1.text.toList).length + rest.size ≤ lexer.size

namespace Affords

theorem none (leads : Leads lexer rest) : Affords lexer [] rest := by
  have shorter := size_le_of_leads leads
  exact ⟨by simpa using shorter, by simpa using shorter⟩

theorem append {middle : Lexer} {first second : List (Token × Phase)}
    (before : Affords lexer first middle) (after : Affords middle second rest) :
    Affords lexer (first ++ second) rest := by
  obtain ⟨count, texts⟩ := before
  obtain ⟨later_count, later_texts⟩ := after
  refine ⟨?_, ?_⟩
  · rw [List.length_append]
    omega
  · rw [List.flatMap_append, List.length_append]
    omega

theorem token {token : Token} (answer : lexer.next = (.ok (some token), rest)) :
    Affords lexer [(token, rest.phase)] rest := by
  have shorter := size_next_lt answer
  have within := text_next_le answer
  refine ⟨?_, ?_⟩
  · rw [List.length_singleton]
    omega
  · rw [List.flatMap_singleton, String.length_toList]
    exact within

end Affords

theorem affords_of_yields {tokens : List (Token × Phase)} {stop : Except QueryError Unit}
    (yields : TokenSource.Yields lexer tokens stop rest) : Affords lexer tokens rest := by
  induction yields with
  | @ended lexer rest answer | @failed lexer rest error answer =>
    have leads := leads_next lexer
    rw [show lexer.next = _ from answer] at leads
    exact .none leads
  | token answer _ ih => exact (Affords.token answer).append ih

theorem affords_handsOut (lexer : Lexer) (request : Request) :
    Affords lexer (lexer.handsOut request) (lexer.ask request) := by
  have leads := leads_ask lexer request
  cases request with
  | close => exact .none leads
  | next =>
    obtain ⟨token, rest, answer⟩ | ⟨rest, answer, _⟩ | ⟨error, rest, answer, _⟩ := next_cases lexer
    · rw [handsOut_next answer, ask, answer]
      exact .token answer
    · rw [handsOut, answer]
      exact .none leads
    · rw [handsOut, answer]
      exact .none leads
  | tokenize =>
    obtain ⟨tokens, stop, rest, yields⟩ := TokenSource.exists_yields lexer
    rw [handsOut_tokenize yields]
    split
    · rw [ask, TokenSource.drain_of_yields yields]
      exact affords_of_yields yields
    · exact .none leads

theorem affords_handedOut (lexer : Lexer) (requests : List Request) :
    Affords lexer (lexer.handedOut requests) (lexer.after requests) := by
  induction requests generalizing lexer with
  | nil => exact .none (.refl lexer)
  | cons request requests ih => exact (affords_handsOut lexer request).append (ih _)

/-- Whatever has been asked of a lexer, a request that gives a token or refuses a word reads on, and
the tokens and their texts are no more than the characters. Once as many requests have been made as
there are characters, all others are answered alike: a statement that begins has ended, and one that
does not begin still misses its start. So a loop over the tokens asks only so many times. -/
theorem every_lexer_settles (keywords : KeywordRule) (text : String) :
    let start := ofText keywords text
    (∀ requests, let lexer := start.after requests
      (∀ token rest, lexer.next = (.ok (some token), rest) →
        token.text.length + rest.size ≤ lexer.size ∧ rest.size < lexer.size) ∧
      (∀ name rest, lexer.next = (.error (.unterminatedIdentifier name), rest) →
        rest.size < lexer.size) ∧
      ∀ word rest, word ≠ "" → lexer.next = (.error (.unexpectedStart word), rest) →
        rest.size < lexer.size) ∧
    (∀ requests, (start.handedOut requests).length ≤ text.length ∧
      ((start.handedOut requests).flatMap fun reported => reported.1.text.toList).length ≤
        text.length) ∧
    (∃ writing : Writing, writing.IsOf text.toList ∧
      (∀ other : Writing, other.IsOf text.toList → other = writing) ∧
      ∀ requests, text.length ≤ requests →
        let lexer := TokenSource.skip requests start
        ((∃ word ∈ writing.items, keywords.Marks "SELECT" word) →
          lexer.next.1 = .ok none ∧ lexer.next.2.phase = .finished) ∧
        ((¬∃ word ∈ writing.items, keywords.Marks "SELECT" word) →
          lexer.next.1 = .error (.unexpectedStart "") ∧ lexer.next.2.phase = .start)) ∧
    ∀ (β : Type) (step : β → Token → Phase → Except QueryError β) (state : β) requests,
      TokenSource.foldWithin step (text.length + 1) state (start.after requests) =
        some (TokenSource.fold step state (start.after requests)) := by
  intro start
  have whole : start.size = text.length := String.length_toList
  refine ⟨fun requests => ⟨fun token rest answer => ⟨text_next_le answer, size_next_lt answer⟩,
    fun name rest answer => size_next_lt_of_refused answer nofun nofun,
    fun word rest some_word answer => size_next_lt_of_refused answer nofun ?_⟩, fun requests => ?_,
    ?_, fun β step state requests => TokenSource.foldWithin_eq_fold step state ?_⟩
  · rintro same
    exact some_word (QueryError.unexpectedStart.inj same)
  · obtain ⟨count, texts⟩ := affords_handedOut start requests
    rw [whole] at count texts
    exact ⟨by omega, by omega⟩
  · obtain ⟨writing, is_of, unique⟩ := Writing.existsUnique_isOf text.toList
    refine ⟨writing, is_of, unique, fun requests enough => ?_⟩
    have reads := reads_ofText keywords text
    rw [← is_of.items_eq] at reads
    obtain ⟨answer, after⟩ := next_of_reads (simulates_reads.skip reads requests)
    obtain ⟨fewer, begins⟩ := WordLexer.left_skip requests (.ofWords keywords writing.items)
    have words : writing.items.length ≤ text.length := by
      rw [is_of.items_eq, ← whole]
      exact Lexeme.length_ofText_le text.toList
    have settled := WordLexer.next_of_left_eq_zero
      (fewer.trans (Nat.sub_eq_zero_of_le (words.trans enough)))
    rw [begins] at settled
    have marks : (WordLexer.ofWords keywords writing.items).Begins ↔
        ∃ word ∈ writing.items, keywords.Marks "SELECT" word := by
      simp [WordLexer.Begins, WordLexer.ofWords]
    rw [marks] at settled
    intro lexer
    rw [answer, ← after.phase]
    exact settled
  · exact Nat.lt_succ_of_le (whole ▸ size_le_of_leads (leads_after start requests))

end Lexer

end Projection
