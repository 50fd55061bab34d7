import Projection.Proofs.DataFile
import Projection.Proofs.TokenList

/-! The modes look at a statement one behind the other: at its tokens, at its query and at its rows.
Each meets the errors of the one before it first, and only a statement that can be bound has its data
read. -/

set_option autoImplicit false

namespace Projection

theorem Origin.compile_eq_error {origin : Origin} {members : List Member} {identity : UInt64}
    {error : QueryError} (refused : origin.compile members identity = .error error) (other : UInt64) :
    origin.compile members other = .error error := by
  rw [compile] at refused ⊢
  cases parsed : origin.parsed with
  | error error =>
    rw [parsed] at refused
    exact refused
  | ok query =>
    rw [parsed] at refused
    -- the reasons for a refusal do not mention the identity
    have refused : query.compile members identity = .error error := refused
    rw [← failure?_eq_some_iff, failure?_compile] at refused
    simp only [failure?_synthesize] at refused
    change query.compile members other = .error error
    rw [← failure?_eq_some_iff, failure?_compile]
    simp only [failure?_synthesize, refused]

theorem Origin.compile_again {origin : Origin} {members : List Member} {identity : UInt64}
    {compiled : CompiledQuery} (made : origin.compile members identity = .ok compiled)
    (other : UInt64) :
    ∃ again, origin.compile members other = .ok again ∧ again.query = compiled.query := by
  cases remade : origin.compile members other with
  | error error =>
    rw [compile_eq_error remade identity] at made
    cases made
  | ok again =>
    obtain ⟨query, parsed, bound⟩ := exists_of_bind_eq_ok made
    obtain ⟨reread, reparsed, rebound⟩ := exists_of_bind_eq_ok remade
    cases parsed.symm.trans reparsed
    exact ⟨again, rfl, (bound_of_compile rebound).1.trans (bound_of_compile bound).1.symm⟩

theorem SampleData.failure_of_load {files : Files} {config : Config} {failure : Failure}
    (refused : load files config = .error failure) :
    failure = .unreadable ∨ ∃ fault, failure = .data fault := by
  unfold load at refused
  split at refused
  · cases refused
  · split at refused
    · cases refused
      exact .inl rfl
    · next text _ =>
      cases read : ofText text with
      | ok data =>
        rw [read] at refused
        cases refused
      | error fault =>
        rw [read] at refused
        cases refused
        exact .inr ⟨fault, rfl⟩

namespace Mode

variable {files : Files} {config : Config} {statement : String} {identity : UInt64}
  {error : QueryError} {failure : Failure}

theorem refused_of_tokens (refused : run files config statement .tokens = .error failure) :
    ∃ error, failure = .query error ∧ Query.ofText config.keywords statement = .error error := by
  rw [run, Listing.ofText] at refused
  cases drained : (TokenSource.drain (Lexer.ofText config.keywords statement)).1 with
  | ok tokens =>
    rw [drained] at refused
    cases refused
  | error error =>
    rw [drained] at refused
    cases refused
    exact ⟨error, rfl, (drain_eq_error_iff.mp drained).1⟩

theorem refused_of_parseOnly (refused : run files config statement .parseOnly = .error failure) :
    ∃ error, failure = .query error ∧ Query.ofText config.keywords statement = .error error := by
  rw [run] at refused
  cases parsed : Query.ofText config.keywords statement with
  | ok query =>
    rw [parsed] at refused
    cases refused
  | error error =>
    rw [parsed] at refused
    cases refused
    exact ⟨error, rfl, rfl⟩

theorem parseOnly_of_refused (refused : Query.ofText config.keywords statement = .error error)
    (files : Files) : run files config statement .parseOnly = .error (.query error) := by
  rw [run, refused]
  rfl

theorem execute_of_refused (refused : (Origin.statement config.keywords statement).compile
      SampleData.members identity = .error error) (files : Files) :
    run files config statement .execute = .error (.query error) := by
  have refused := Origin.compile_eq_error refused 0
  rw [Origin.compile, Origin.parsed] at refused
  cases parsed : Query.ofText config.keywords statement with
  | error reason =>
    rw [parsed] at refused
    cases refused
    simp only [run, executed, parsed]
    rfl
  | ok query =>
    rw [parsed] at refused
    have refused : query.compile SampleData.members 0 = .error error := refused
    simp only [run, executed, parsed, bind, Except.bind, Except.mapError, refused]

theorem execute_shows {compiled : CompiledQuery} {data : SampleData}
    (made : (Origin.statement config.keywords statement).compile SampleData.members identity =
      .ok compiled) (loaded : SampleData.load files config = .ok data) :
    run files config statement .execute =
      .ok ((Json.array (((data.toContext.scan compiled.query.tableSource).getD []).map fun element =>
        .object (element.select compiled.query.columns))).render config.style) := by
  obtain ⟨again, made, same⟩ := Origin.compile_again made 0
  obtain ⟨query, parsed, compiles⟩ := exists_of_bind_eq_ok made
  obtain ⟨_, elements, _, scanned, _⟩ := runsThrough_of_agrees data.agrees made
  rw [(bound_of_compile compiles).1] at same scanned
  rw [run_execute parsed compiles loaded scanned, ← same, scanned]
  rfl

theorem execute_of_bound {compiled : CompiledQuery}
    (made : (Origin.statement config.keywords statement).compile SampleData.members identity =
      .ok compiled) (files : Files) :
    ∃ textOf : SampleData → String,
      run files config statement .execute = (SampleData.load files config).map textOf := by
  refine ⟨fun data => (Json.array (((data.toContext.scan compiled.query.tableSource).getD []).map
    fun element => .object (element.select compiled.query.columns))).render config.style, ?_⟩
  cases loaded : SampleData.load files config with
  | ok data => exact execute_shows made loaded
  | error failure =>
    obtain ⟨again, made, _⟩ := Origin.compile_again made 0
    obtain ⟨query, parsed, compiles⟩ := exists_of_bind_eq_ok made
    have parsed : Query.ofText config.keywords statement = .ok query := parsed
    simp only [run, executed, parsed, bind, Except.bind, Except.mapError, compiles, loaded]
    rfl

/-- The modes agree on what is wrong with a statement, whatever files there are. Apart from that,
only missing or unfit data can stop the rows. -/
theorem run_modes_agree (config : Config) (statement : String) :
    (∀ files failure, run files config statement .tokens = .error failure →
      (∃ error, failure = .query error) ∧ ∀ others : Files,
        run others config statement .parseOnly = .error failure ∧
          run others config statement .execute = .error failure) ∧
    (∀ files failure, run files config statement .parseOnly = .error failure →
      (∃ error, failure = .query error) ∧ ∀ others : Files,
        run others config statement .execute = .error failure) ∧
    (∀ files text, run files config statement .execute = .ok text →
      ∃ query, run files config statement .parseOnly = .ok query) ∧
    (∀ files text, run files config statement .parseOnly = .ok text →
      ∃ listing, run files config statement .tokens = .ok listing) ∧
    (∀ (files others : Files) (data : Option Path),
      run others { config with data } statement .tokens = run files config statement .tokens ∧
        run others { config with data } statement .parseOnly =
          run files config statement .parseOnly) ∧
    (∀ identity error, (Origin.statement config.keywords statement).compile SampleData.members
        identity = .error error → ∀ (files : Files) (data : Option Path),
      run files { config with data } statement .execute = .error (.query error)) ∧
    ∀ files failure, run files config statement .execute = .error failure →
      (∃ error, failure = .query error ∧ ∀ identity,
        (Origin.statement config.keywords statement).compile SampleData.members identity =
          .error error) ∨
      (∀ identity, ∃ compiled, (Origin.statement config.keywords statement).compile
          SampleData.members identity = .ok compiled) ∧
        SampleData.load files config = .error failure ∧
          (failure = .unreadable ∨ ∃ fault, failure = .data fault) := by
  have of_refused : ∀ {error}, Query.ofText config.keywords statement = .error error →
      ∀ others : Files, run others config statement .execute = .error (.query error) := by
    intro error refused others
    have unbound : (Origin.statement config.keywords statement).compile SampleData.members 0 =
        .error error := by
      rw [Origin.compile, Origin.parsed, refused]
      rfl
    exact execute_of_refused unbound others
  refine ⟨fun files failure refused => ?_, fun files failure refused => ?_,
    fun files text printed => ?_, fun files text printed => ?_, fun _ _ _ => ⟨rfl, rfl⟩,
    fun identity error refused files data => ?_, fun files failure refused => ?_⟩
  · obtain ⟨error, rfl, unparsed⟩ := refused_of_tokens refused
    exact ⟨⟨error, rfl⟩, fun others =>
      ⟨parseOnly_of_refused unparsed others, of_refused unparsed others⟩⟩
  · obtain ⟨error, rfl, unparsed⟩ := refused_of_parseOnly refused
    exact ⟨⟨error, rfl⟩, of_refused unparsed⟩
  · cases parsed : run files config statement .parseOnly with
    | ok query => exact ⟨query, rfl⟩
    | error failure =>
      obtain ⟨error, rfl, refused⟩ := refused_of_parseOnly parsed
      rw [of_refused refused files] at printed
      cases printed
  · cases listed : run files config statement .tokens with
    | ok listing => exact ⟨listing, rfl⟩
    | error failure =>
      obtain ⟨error, rfl, refused⟩ := refused_of_tokens listed
      rw [parseOnly_of_refused refused files] at printed
      cases printed
  · exact @execute_of_refused { config with data } statement identity error refused files
  · cases bound : (Origin.statement config.keywords statement).compile SampleData.members 0 with
    | error error =>
      rw [execute_of_refused bound files] at refused
      cases refused
      exact .inl ⟨error, rfl, Origin.compile_eq_error bound⟩
    | ok compiled =>
      obtain ⟨textOf, executed⟩ := execute_of_bound bound files
      refine .inr ⟨fun identity => ?_, ?_⟩
      · cases bound_now : (Origin.statement config.keywords statement).compile
            SampleData.members identity with
        | ok compiled => exact ⟨compiled, rfl⟩
        | error error =>
          rw [Origin.compile_eq_error bound_now 0] at bound
          cases bound
      · cases loaded : SampleData.load files config with
        | ok data =>
          rw [executed, loaded] at refused
          cases refused
        | error reason =>
          rw [executed, loaded] at refused
          cases refused
          exact ⟨rfl, SampleData.failure_of_load loaded⟩

end Mode

end Projection
