import Projection.Proofs.Statement

/-! A lexer with a past. Whatever has been asked of it before, and whatever became of that, the
tokens it still hands out stand where the grammar has them, so only the end of the text, the open
bracket or the bad start can refuse what is left of the statement. -/

set_option autoImplicit false

namespace Projection

inductive Request where
  | next
  | tokenize
  | close
  deriving DecidableEq, Repr

namespace Lexer

def ask (lexer : Lexer) : Request → Lexer
  | .next => lexer.next.2
  | .tokenize => (TokenSource.drain lexer).2
  | .close => lexer.close

def after (requests : List Request) (lexer : Lexer) : Lexer := requests.foldl ask lexer

theorem next_of_closed {lexer : Lexer} (closed : lexer.isClosed = true) :
    lexer.next = (.error .closedLexer, lexer) := by
  rw [isClosed, Option.isNone_iff_eq_none] at closed
  simp only [next, closed]

theorem isClosed_next (lexer : Lexer) : lexer.next.2.isClosed = lexer.isClosed := by
  unfold next isClosed
  split
  · simp
  · next text unread =>
    rw [unread]
    split
    · simp [unread]
    · split
      · rfl
      · split <;> rfl

theorem isClosed_ask (lexer : Lexer) (request : Request) :
    (lexer.ask request).isClosed = (lexer.isClosed || decide (request = .close)) := by
  cases request with
  | next => simpa [ask] using isClosed_next lexer
  | close => simp [ask, close, isClosed]
  | tokenize =>
    -- nothing asked for on the way opens or closes the lexer
    have kept : ∀ closed, lexer.isClosed = closed → (lexer.ask .tokenize).isClosed = closed :=
      fun closed => TokenSource.fold_preserves
        (fun source same => (isClosed_next source).trans same) _ _
    simpa using kept _ rfl

theorem isClosed_after (requests : List Request) (lexer : Lexer) :
    (lexer.after requests).isClosed = (lexer.isClosed || decide (.close ∈ requests)) := by
  induction requests generalizing lexer with
  | nil => simp [after]
  | cons request requests ih =>
    have later := ih (lexer.ask request)
    rw [isClosed_ask] at later
    rw [show lexer.after (request :: requests) = (lexer.ask request).after requests from rfl, later]
    simp [eq_comm (a := Request.close), Bool.or_assoc]

end Lexer

namespace Clauses

def add (clauses : Clauses) (reported : Token × Phase) : Clauses :=
  match reported.1.kind with
  | .column => { clauses with columns := clauses.columns ++ [reported.1.text] }
  | .tableSource => { clauses with tableSources := clauses.tableSources ++ [reported.1.text] }
  | .selectKeyword | .fromKeyword => clauses

end Clauses

def textsOf (kind : TokenKind) (tokens : List (Token × Phase)) : List String :=
  (tokens.filter fun reported => reported.1.kind = kind).map fun reported => reported.1.text

theorem foldl_add (clauses : Clauses) (tokens : List (Token × Phase)) :
    tokens.foldl Clauses.add clauses =
      { columns := clauses.columns ++ textsOf .column tokens
        tableSources := clauses.tableSources ++ textsOf .tableSource tokens } := by
  induction tokens generalizing clauses with
  | nil => simp [textsOf]
  | cons reported tokens ih =>
    obtain ⟨⟨kind, text⟩, phase⟩ := reported
    rw [List.foldl_cons, ih]
    cases kind <;> simp [Clauses.add, textsOf]

namespace Lexer

variable {lexer rest : Lexer} {token : Token}

theorem exists_takes (answer : lexer.next = (.ok (some token), rest)) :
    ∃ image later, lexer.Reads image ∧ rest.Reads later ∧ WordLexer.Takes image token later := by
  cases unread : lexer.unread with
  | none => simp [next, unread] at answer
  | some text =>
    have reads : lexer.Reads ⟨lexer.keywords, Lexeme.ofText text, lexer.phase⟩ :=
      ⟨rfl, rfl, text, unread, rfl⟩
    obtain ⟨same, later⟩ := next_of_reads reads
    rw [answer] at same later
    exact ⟨_, _, reads, later, WordLexer.takes_of_next (Prod.ext same.symm rfl)⟩

theorem accept_of_next (answer : lexer.next = (.ok (some token), rest)) (clauses : Clauses) :
    clauses.accept token rest.phase = .ok (clauses.add (token, rest.phase)) := by
  obtain ⟨image, later, _, reads, takes⟩ := exists_takes answer
  rw [← reads.phase]
  cases takes with
  | select _ | column _ _ | source _ => rfl
  | @tableSource _ word words _ =>
    -- the last one is reported with the end of the statement
    cases words <;> rfl

theorem tableSource_of_next (answer : lexer.next = (.ok (some token), rest))
    (behind : lexer.phase = .tableSource ∨ lexer.phase = .finished) :
    token.kind = .tableSource ∧ (rest.phase = .tableSource ∨ rest.phase = .finished) := by
  obtain ⟨image, later, before, reads, takes⟩ := exists_takes answer
  rw [← before.phase] at behind
  rw [← reads.phase]
  cases takes with
  | select _ | column _ _ | source _ => simp at behind
  | @tableSource _ word words _ => cases words <;> simp

theorem lexical_of_classify {keywords : KeywordRule} {phase : Phase} {word : Lexeme}
    {error : QueryError} (refused : classify keywords phase word = .error error) :
    error.category = .lexical := by
  unfold classify at refused
  split at refused
  · cases refused
    rfl
  · split at refused <;> cases refused
    rfl
  · split at refused <;> cases refused
  · cases refused
  · cases refused

/-- The three ways in which a request is answered. Only the end of a statement finishes it without a
token, and a failure leaves the phase as it is. -/
theorem next_cases (lexer : Lexer) :
    (∃ token rest, lexer.next = (.ok (some token), rest)) ∨
      (∃ rest, lexer.next = (.ok none, rest) ∧ rest.phase = .finished) ∨
      ∃ error rest, lexer.next = (.error error, rest) ∧ error.category = .lexical ∧
        rest.phase = lexer.phase := by
  unfold next
  split
  · exact .inr (.inr ⟨_, _, rfl, rfl, rfl⟩)
  · next text unread =>
    split
    · next finished => exact .inr (.inl ⟨_, rfl, finished⟩)
    · split
      · cases phase : lexer.phase with
        | start => exact .inr (.inr ⟨_, _, rfl, rfl, rfl⟩)
        | selectList | tableSource | finished => exact .inr (.inl ⟨_, rfl, rfl⟩)
      · split
        · next refused => exact .inr (.inr ⟨_, _, rfl, lexical_of_classify refused, rfl⟩)
        · exact .inl ⟨_, _, rfl⟩

theorem finished_of_next (answer : lexer.next = (.ok none, rest)) : rest.phase = .finished := by
  have cases := next_cases lexer
  rw [answer] at cases
  obtain ⟨_, _, same⟩ | ⟨_, same, finished⟩ | ⟨_, _, same, _⟩ := cases <;> cases same
  exact finished

theorem lexical_of_next {error : QueryError} (answer : lexer.next = (.error error, rest)) :
    error.category = .lexical := by
  have cases := next_cases lexer
  rw [answer] at cases
  obtain ⟨_, _, same⟩ | ⟨_, same, _⟩ | ⟨_, _, same, lexical, _⟩ := cases <;> cases same
  exact lexical

end Lexer

section Yields

open TokenSource (Yields)

variable {lexer rest : Lexer} {tokens : List (Token × Phase)} {stop : Except QueryError Unit}

theorem accept_of_yields (yields : Yields lexer tokens stop rest) :
    ∀ reported ∈ tokens, ∀ clauses : Clauses,
      clauses.accept reported.1 reported.2 = .ok (clauses.add reported) := by
  induction yields with
  | ended _ | failed _ => simp
  | token answer _ ih =>
    intro reported member clauses
    rcases List.mem_cons.mp member with rfl | member
    · exact Lexer.accept_of_next answer clauses
    · exact ih reported member clauses

theorem ofSource_eq_of_yields (yields : Yields lexer tokens stop rest) :
    Query.ofSource lexer =
      (stop.bind fun _ => Clauses.toQuery ⟨textsOf .column tokens, textsOf .tableSource tokens⟩,
        rest) := by
  have folded := TokenSource.fold_of_yields yields (accept_of_yields yields) {}
  rw [foldl_add] at folded
  rw [Query.ofSource, folded]
  cases stop <;> rfl

theorem ofSource_of_yields (yields : Yields lexer tokens stop rest) :
    (Query.ofSource lexer).1.map Query.parts =
        stop.bind (fun _ => verdictOfClauses (textsOf .column tokens) (textsOf .tableSource tokens)) ∧
      (Query.ofSource lexer).2 = rest := by
  rw [ofSource_eq_of_yields yields]
  cases stop with
  | error error => exact ⟨rfl, rfl⟩
  | ok _ => exact ⟨parts_toQuery _, rfl⟩

theorem stop_of_yields (yields : Yields lexer tokens stop rest) :
    (∀ error, stop = .error error → error.category = .lexical) ∧
      (stop = .ok () → rest.phase = .finished) := by
  induction yields with
  | ended answer => exact ⟨nofun, fun _ => Lexer.finished_of_next answer⟩
  | failed answer =>
    refine ⟨fun error same => ?_, nofun⟩
    cases same
    exact Lexer.lexical_of_next answer
  | token _ _ ih => exact ih

theorem columns_of_yields (yields : Yields lexer tokens stop rest)
    (behind : lexer.phase = .tableSource ∨ lexer.phase = .finished) :
    textsOf .column tokens = [] := by
  induction yields with
  | ended _ | failed _ => rfl
  | token answer _ ih =>
    obtain ⟨kind, behind⟩ := Lexer.tableSource_of_next answer behind
    simpa [textsOf, kind] using ih behind

theorem semantic_of_verdictOfClauses {columns tableSources : List String} {error : QueryError}
    (refused : verdictOfClauses columns tableSources = .error error) :
    error.category = .semantic := by
  unfold verdictOfClauses at refused
  split at refused <;> cases refused <;> rfl

theorem category_of_ofSource {error : QueryError}
    (refused : (Query.ofSource lexer).1 = .error error) : error.category ≠ .grammatical := by
  obtain ⟨tokens, stop, rest, yields⟩ := TokenSource.exists_yields lexer
  have judged := (ofSource_of_yields yields).1
  rw [refused] at judged
  cases stop with
  | error stop =>
    cases judged
    simp [(stop_of_yields yields).1 error rfl]
  | ok _ => simp [semantic_of_verdictOfClauses judged.symm]

theorem finished_of_ofSource {query : Query} (accepted : (Query.ofSource lexer).1 = .ok query) :
    (Query.ofSource lexer).2.phase = .finished := by
  obtain ⟨tokens, stop, rest, yields⟩ := TokenSource.exists_yields lexer
  obtain ⟨judged, left⟩ := ofSource_of_yields yields
  rw [accepted] at judged
  rw [left]
  cases stop with
  | error stop => cases judged
  | ok _ => exact (stop_of_yields yields).2 rfl

theorem emptySelectList_of_yields (yields : Yields lexer tokens (.ok ()) rest)
    (behind : lexer.phase = .tableSource ∨ lexer.phase = .finished) :
    (Query.ofSource lexer).1 = .error .emptySelectList := by
  have judged := (ofSource_of_yields yields).1
  rw [columns_of_yields yields behind] at judged
  cases result : (Query.ofSource lexer).1 with
  | error error =>
    rw [result] at judged
    cases judged
    rfl
  | ok query =>
    rw [result] at judged
    cases judged

theorem ofSource_of_closed (closed : lexer.isClosed = true) :
    Query.ofSource lexer = (.error .closedLexer, lexer) := by
  have answer : TokenSource.next lexer = (.error .closedLexer, lexer) := Lexer.next_of_closed closed
  rw [Query.ofSource, TokenSource.fold_eq, answer]
  rfl

end Yields

theorem QueryError.RefusesText.ne_closedLexer {error : QueryError} (refuses : error.RefusesText) :
    error ≠ .closedLexer := by
  rintro rfl
  exact refuses

/-- What is left of a statement makes up a query or not by the tokens still to come, whatever has
been asked before. A closed lexer has none to give. -/
theorem ofSource_after_requests (keywords : KeywordRule) (text : String) (requests : List Request) :
    let lexer := (Lexer.ofText keywords text).after requests
    let result := Query.ofSource lexer
    (∀ error, result.1 = .error error → error.category ≠ .grammatical) ∧
    (.close ∈ requests → result.1 = .error .closedLexer) ∧
    (.close ∉ requests →
      (∃ tokens stop rest, TokenSource.Yields lexer tokens stop rest) ∧
      (∀ tokens stop rest, TokenSource.Yields lexer tokens stop rest →
        result.1.map Query.parts = stop.bind (fun _ =>
          verdictOfClauses (textsOf .column tokens) (textsOf .tableSource tokens)) ∧
        (lexer.phase = .tableSource ∨ lexer.phase = .finished → stop = .ok () →
          result.1 = .error .emptySelectList)) ∧
      (∀ query, result.1 = .ok query → result.2.phase = .finished)) ∧
    ∀ error, Query.ofText keywords text = .error error →
      error.category ≠ .grammatical ∧ error ≠ .closedLexer := by
  intro lexer result
  refine ⟨fun _ => category_of_ofSource, fun asked => ?_, fun _ => ⟨TokenSource.exists_yields lexer,
    fun tokens stop rest yields => ⟨(ofSource_of_yields yields).1, fun behind ended => ?_⟩,
    fun _ => finished_of_ofSource⟩, fun error refused => ?_⟩
  · have closed : lexer.isClosed = true := by
      rw [Lexer.isClosed_after]
      simp [asked]
    exact congrArg Prod.fst (ofSource_of_closed closed)
  · subst ended
    exact emptySelectList_of_yields yields behind
  · have judged := parts_ofText keywords text
    rw [refused] at judged
    have allowed := (refusesText_of_verdict judged.symm).1
    exact ⟨category_of_ofSource refused, allowed.ne_closedLexer⟩

end Projection
