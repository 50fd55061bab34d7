import Projection.Proofs.Requests

/-! Sources whose replies are known beforehand, whether or not a lexer could give them. The first
reply that is no token in its place decides: those before it only add their texts, and those behind
it are never asked for. -/

set_option autoImplicit false

namespace Projection

/-- The phases in which the kinds of tokens may be reported. -/
def inPlace : List (Phase × TokenKind) :=
  [(.selectList, .selectKeyword), (.selectList, .column), (.tableSource, .fromKeyword),
    (.tableSource, .tableSource), (.finished, .tableSource)]

theorem Clauses.accept_eq (clauses : Clauses) (token : Token) (phase : Phase) :
    clauses.accept token phase =
      if (phase, token.kind) ∈ inPlace then .ok (clauses.add (token, phase))
      else .error (.misplacedToken phase token.kind token.text) := by
  obtain ⟨kind, text⟩ := token
  cases kind <;> cases phase <;> rfl

namespace Reply

def stops : Reply → Bool
  | .token found phase => (phase, found.kind) ∉ inPlace
  | .done | .failure _ => true

def token? : Reply → Option (Token × Phase)
  | .token found phase => some (found, phase)
  | .done | .failure _ => none

end Reply

structure Metered (σ : Type) where
  source : σ
  requests : Nat := 0

namespace Metered

open TokenSource (Simulates)

variable {σ : Type} [TokenSource σ]

def next (metered : Metered σ) : Except QueryError (Option Token) × Metered σ :=
  let (answer, rest) := TokenSource.next metered.source
  (answer, ⟨rest, metered.requests + 1⟩)

instance : TokenSource (Metered σ) where
  next := next
  phase metered := TokenSource.phase metered.source
  size metered := TokenSource.size metered.source
  size_lt taken := by
    obtain ⟨answer, same⟩ := Prod.mk.inj taken
    rw [← same]
    exact TokenSource.size_lt (Prod.ext answer rfl)

theorem simulates_source : Simulates fun (metered : Metered σ) source => metered.source = source where
  answer same := same ▸ rfl
  phase same := same ▸ rfl
  step same := same ▸ rfl

theorem ofSource_source (metered : Metered σ) :
    Query.ofSource metered.source =
      ((Query.ofSource metered).1, (Query.ofSource metered).2.source) := by
  have related : metered.source = metered.source := rfl
  obtain ⟨folded, left⟩ := simulates_source.fold Clauses.accept {} related
  simp only [Query.ofSource, folded, left]

end Metered

def tokensBefore (replies : List Reply) : List (Token × Phase) :=
  (replies.take (replies.findIdx Reply.stops)).filterMap Reply.token?

def stopOf (replies : List Reply) : Except QueryError Unit :=
  match replies[replies.findIdx Reply.stops]? with
  | some (.failure error) => .error error
  | some (.token token phase) => .error (.misplacedToken phase token.kind token.text)
  | some .done | none => .ok ()

section Steps

variable {reply : Reply} {replies : List Reply}

theorem findIdx_of_stops (stops : reply.stops = true) :
    (reply :: replies).findIdx Reply.stops = 0 := by
  simp [List.findIdx_cons, stops]

theorem findIdx_of_goes_on (goes_on : reply.stops = false) :
    (reply :: replies).findIdx Reply.stops = replies.findIdx Reply.stops + 1 := by
  simp [List.findIdx_cons, goes_on]

theorem stopOf_of_goes_on (goes_on : reply.stops = false) :
    stopOf (reply :: replies) = stopOf replies := by
  rw [stopOf, findIdx_of_goes_on goes_on, List.getElem?_cons_succ, stopOf]

theorem tokensBefore_of_goes_on {token : Token} {phase : Phase}
    (goes_on : (Reply.token token phase).stops = false) :
    tokensBefore (.token token phase :: replies) = (token, phase) :: tokensBefore replies := by
  rw [tokensBefore, findIdx_of_goes_on goes_on]
  rfl

variable (clauses : Clauses) (phase : Phase) (requests : Nat)

theorem fold_of_stops (replies : List Reply) (stops : reply.stops = true) :
    ∃ last, TokenSource.fold Clauses.accept clauses
        (⟨⟨reply :: replies, phase⟩, requests⟩ : Metered Replay) =
      ((stopOf (reply :: replies)).map fun _ => clauses, ⟨⟨replies, last⟩, requests + 1⟩) := by
  rw [TokenSource.fold_eq, stopOf, findIdx_of_stops stops]
  cases reply with
  | done => exact ⟨phase, rfl⟩
  | failure error => exact ⟨phase, rfl⟩
  | token token reported =>
    have misplaced : (reported, token.kind) ∉ inPlace := by simpa [Reply.stops] using stops
    have refused := clauses.accept_eq token reported
    rw [if_neg misplaced] at refused
    refine ⟨reported, ?_⟩
    simp only [TokenSource.next, Metered.next, Replay.next, TokenSource.phase, refused]
    rfl

theorem fold_of_goes_on {token : Token} {reported : Phase}
    (goes_on : (Reply.token token reported).stops = false) :
    TokenSource.fold Clauses.accept clauses
        (⟨⟨.token token reported :: replies, phase⟩, requests⟩ : Metered Replay) =
      TokenSource.fold Clauses.accept (clauses.add (token, reported))
        ⟨⟨replies, reported⟩, requests + 1⟩ := by
  have fits : (reported, token.kind) ∈ inPlace := by simpa [Reply.stops] using goes_on
  have accepted := clauses.accept_eq token reported
  rw [if_pos fits] at accepted
  rw [TokenSource.fold_eq]
  simp only [TokenSource.next, Metered.next, Replay.next, TokenSource.phase, accepted]

end Steps

theorem fold_replies (replies : List Reply) (clauses : Clauses) (phase : Phase) (requests : Nat) :
    let stop := replies.findIdx Reply.stops
    ∃ last, TokenSource.fold Clauses.accept clauses
        (⟨⟨replies, phase⟩, requests⟩ : Metered Replay) =
      ((stopOf replies).map fun _ => (tokensBefore replies).foldl Clauses.add clauses,
        ⟨⟨replies.drop (stop + 1), last⟩, requests + (stop + 1)⟩) := by
  induction replies generalizing clauses phase requests with
  | nil => exact ⟨phase, by rw [TokenSource.fold_eq]; rfl⟩
  | cons reply replies ih =>
    cases stops : reply.stops with
    | true =>
      obtain ⟨last, folded⟩ := fold_of_stops clauses phase requests replies stops
      refine ⟨last, ?_⟩
      rw [folded, tokensBefore, findIdx_of_stops stops]
      rfl
    | false =>
      cases reply with
      | done | failure _ => cases stops
      | token token reported =>
        obtain ⟨last, folded⟩ := ih (clauses.add (token, reported)) reported (requests + 1)
        refine ⟨last, ?_⟩
        rw [fold_of_goes_on clauses phase requests stops, folded, stopOf_of_goes_on stops,
          tokensBefore_of_goes_on stops, findIdx_of_goes_on stops, List.foldl_cons,
          List.drop_succ_cons, Nat.add_assoc, Nat.add_comm 1]

theorem ofSource_replies (replies : List Reply) (phase : Phase) :
    let stop := replies.findIdx Reply.stops
    let tokens := tokensBefore replies
    ∃ last, Query.ofSource (⟨⟨replies, phase⟩, 0⟩ : Metered Replay) =
      ((stopOf replies).bind fun _ =>
          Clauses.toQuery ⟨textsOf .column tokens, textsOf .tableSource tokens⟩,
        ⟨⟨replies.drop (stop + 1), last⟩, stop + 1⟩) := by
  obtain ⟨last, folded⟩ := fold_replies replies {} phase 0
  rw [foldl_add, Nat.zero_add] at folded
  refine ⟨last, ?_⟩
  rw [Query.ofSource, folded]
  cases stopOf replies <;> rfl

/-- The first reply that stops is the last one asked for. A failure is handed on, and a token out of
place is refused, whatever came before; only the end lets the texts of the tokens be judged. -/
theorem first_stop_decides (replies : List Reply) (phase : Phase) :
    let stop := replies.findIdx Reply.stops
    let tokens := tokensBefore replies
    ∃ (result : Except QueryError Query) (last : Phase),
      Query.ofSource (⟨⟨replies, phase⟩, 0⟩ : Metered Replay) =
        (result, ⟨⟨replies.drop (stop + 1), last⟩, stop + 1⟩) ∧
      Query.ofSource (⟨replies, phase⟩ : Replay) = (result, ⟨replies.drop (stop + 1), last⟩) ∧
      (∀ error, replies[stop]? = some (.failure error) → result = .error error) ∧
      (∀ token reported, replies[stop]? = some (.token token reported) →
        (reported, token.kind) ∉ inPlace ∧
          result = .error (.misplacedToken reported token.kind token.text)) ∧
      (replies[stop]? = some .done ∨ replies[stop]? = none →
        result.map Query.parts =
          verdictOfClauses (textsOf .column tokens) (textsOf .tableSource tokens)) ∧
      ∀ error, result = .error error → error.category = .semantic →
        replies[stop]? = some .done ∨ replies[stop]? = none ∨
          replies[stop]? = some (.failure error) := by
  intro stop tokens
  obtain ⟨last, made⟩ := ofSource_replies replies phase
  have unmetered := (⟨⟨replies, phase⟩, 0⟩ : Metered Replay).ofSource_source
  rw [made] at unmetered
  refine ⟨_, last, made, unmetered, fun error failed => ?_, fun token reported found => ⟨?_, ?_⟩,
    fun ended => ?_, fun error refused semantic => ?_⟩
  · rw [stopOf, failed]
    rfl
  · obtain ⟨within, here⟩ := List.getElem?_eq_some_iff.mp found
    have stops := List.findIdx_getElem (w := within)
    rw [here] at stops
    simpa [Reply.stops] using stops
  · rw [stopOf, found]
    rfl
  · have judged : stopOf replies = .ok () := by
      rw [stopOf]
      rcases ended with ended | ended <;> rw [ended]
    rw [judged]
    exact parts_toQuery _
  · rw [stopOf] at refused
    cases found : replies[stop]? with
    | none => exact .inr (.inl rfl)
    | some reply =>
      rw [found] at refused
      cases reply with
      | done => exact .inl rfl
      | failure other =>
        cases refused
        exact .inr (.inr rfl)
      | token token reported =>
        cases refused
        cases semantic

-- The clauses may come in any order, and the failure behind the end is not met.
example :
    let replies : List Reply := [.token ⟨.tableSource, "T"⟩ .finished, .token ⟨.column, "A"⟩ .selectList,
      .done, .failure .closedLexer]
    let (result, rest) := Query.ofSource (⟨⟨replies, .start⟩, 0⟩ : Metered Replay)
    (result.map Query.parts, rest.requests) = (.ok (["A"], "T"), 3) := by decide +kernel

end Projection
