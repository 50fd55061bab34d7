import Projection.Listing
import Projection.Proofs.Requests

set_option autoImplicit false

namespace Projection

namespace Replay

def ofTokens (tokens : List (Token × Phase)) : Replay :=
  { replies := tokens.map fun (token, phase) => .token token phase }

end Replay

section Drained

variable {lexer : Lexer} {tokens : List (Token × Phase)} {error : QueryError}

theorem semantic_of_toQuery {clauses : Clauses} (refused : clauses.toQuery = .error error) :
    error.category = .semantic := by
  have judged := parts_toQuery clauses
  rw [refused] at judged
  exact semantic_of_verdictOfClauses judged.symm

theorem drain_eq_error_iff :
    (TokenSource.drain lexer).1 = .error error ↔
      (Query.ofSource lexer).1 = .error error ∧ error.category = .lexical := by
  obtain ⟨tokens, stop, rest, yields⟩ := TokenSource.exists_yields lexer
  rw [TokenSource.drain_of_yields yields, ofSource_eq_of_yields yields]
  cases stop with
  | error stop =>
    constructor
    · rintro ⟨⟩
      exact ⟨rfl, (stop_of_yields yields).1 _ rfl⟩
    · rintro ⟨⟨⟩, _⟩
      rfl
  | ok _ =>
    constructor
    · rintro ⟨⟩
    · rintro ⟨refused, lexical⟩
      rw [semantic_of_toQuery refused] at lexical
      cases lexical

end Drained

end Projection
