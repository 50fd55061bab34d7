import Mathlib.Order.Lattice
import Projection.Proofs.Requests

/-! The life of a lexer. Whatever is asked of it and in which order, its phase does not go back and
it never returns to text that it has read. Finished or closed, it is spent: a finished lexer gives
no token any more, a closed one refuses every request, and neither changes but by being closed. -/

set_option autoImplicit false

namespace Projection

namespace Phase

def place (phase : Phase) : Nat := all.idxOf phase

theorem place_injective : Function.Injective place := by
  intro a b same
  cases a <;> cases b <;> first | rfl | exact absurd same (by decide)

instance : LinearOrder Phase := LinearOrder.lift' place place_injective

theorem le_finished (phase : Phase) : phase ≤ .finished := by cases phase <;> decide

end Phase

namespace Lexeme

theorem skipSeparators_suffix (text : List Char) : skipSeparators text <:+ text :=
  List.dropWhile_suffix isSeparator

theorem ofBracket_suffix (text : List Char) : (ofBracket text).2 <:+ text := by
  unfold ofBracket
  have closing := List.dropWhile_suffix (l := text) (· != ']')
  split
  · exact List.nil_suffix
  · next c rest found =>
    rw [found] at closing
    exact (skipSeparators_suffix rest).trans ((List.suffix_cons c rest).trans closing)

theorem ofHead_suffix (c : Char) (text : List Char) : (ofHead c text).2 <:+ text := by
  unfold ofHead
  split
  · exact ofBracket_suffix text
  · exact List.dropWhile_suffix _

theorem next_suffix (text : List Char) : (next text).2 <:+ text := by
  have start := skipSeparators_suffix text
  unfold next
  split
  · exact List.nil_suffix
  · next c rest found =>
    rw [found] at start
    exact (ofHead_suffix c rest).trans ((List.suffix_cons c rest).trans start)

end Lexeme

namespace Lexer

theorem lookAhead_suffix (token : Token) (phase : Phase) (rest : List Char) :
    (lookAhead token phase rest).2 <:+ rest := by
  unfold lookAhead
  split
  · split
    · exact List.nil_suffix
    · next found => exact Lexeme.skipSeparators_suffix rest
  · exact List.suffix_rfl

/-- What no request undoes. -/
structure Leads (earlier later : Lexer) : Prop where
  keywords : later.keywords = earlier.keywords
  phase : earlier.phase ≤ later.phase
  unread : ∀ rest, later.unread = some rest → ∃ text, earlier.unread = some text ∧ rest <:+ text

namespace Leads

theorem refl (lexer : Lexer) : Leads lexer lexer :=
  ⟨rfl, le_rfl, fun rest unread => ⟨rest, unread, List.suffix_rfl⟩⟩

theorem trans {first second third : Lexer} (before : Leads first second)
    (after : Leads second third) : Leads first third where
  keywords := after.keywords.trans before.keywords
  phase := before.phase.trans after.phase
  unread rest unread := by
    obtain ⟨middle, unread, last⟩ := after.unread rest unread
    obtain ⟨text, unread, first⟩ := before.unread middle unread
    exact ⟨text, unread, last.trans first⟩

end Leads

theorem phase_le_next (lexer : Lexer) : lexer.phase ≤ lexer.next.2.phase := by
  obtain ⟨token, rest, answer⟩ | ⟨rest, answer, finished⟩ | ⟨error, rest, answer, _, same⟩ :=
    next_cases lexer
  · obtain ⟨image, later, before, reads, takes⟩ := exists_takes answer
    rw [answer, ← before.phase, ← reads.phase]
    cases takes with
    | select _ => exact (by decide : Phase.start ≤ .selectList)
    | column _ _ => exact le_rfl
    | source _ => exact (by decide : Phase.selectList ≤ .tableSource)
    | tableSource _ =>
      simp only
      split
      · exact Phase.le_finished _
      · exact le_rfl
  · rw [answer, finished]
    exact Phase.le_finished _
  · rw [answer, same]

theorem keywords_next (lexer : Lexer) : lexer.next.2.keywords = lexer.keywords := by
  unfold next
  split
  · rfl
  · split
    · rfl
    · split
      · rfl
      · split <;> rfl

theorem unread_next {lexer : Lexer} {text : List Char} (unread : lexer.unread = some text) :
    ∃ rest, lexer.next.2.unread = some rest ∧ rest <:+ text := by
  have ahead := Lexeme.next_suffix text
  unfold next
  rw [unread]
  simp only
  split
  · exact ⟨text, unread, List.suffix_rfl⟩
  · split
    · next rest found =>
      rw [found] at ahead
      exact ⟨rest, rfl, ahead⟩
    · next word rest found =>
      rw [found] at ahead
      split
      · exact ⟨rest, rfl, ahead⟩
      · next token phase _ => exact ⟨_, rfl, (lookAhead_suffix token phase rest).trans ahead⟩

theorem leads_next (lexer : Lexer) : Leads lexer lexer.next.2 := by
  refine ⟨keywords_next lexer, phase_le_next lexer, fun rest left => ?_⟩
  cases unread : lexer.unread with
  | none =>
    rw [next_of_closed (by simp [isClosed, unread]), unread] at left
    cases left
  | some text =>
    obtain ⟨found, same, behind⟩ := unread_next unread
    cases left.symm.trans same
    exact ⟨text, rfl, behind⟩

theorem leads_ask (lexer : Lexer) (request : Request) : Leads lexer (lexer.ask request) := by
  cases request with
  | next => exact leads_next lexer
  | tokenize =>
    exact TokenSource.fold_preserves (fun source reached => reached.trans (leads_next source)) _ []
      (.refl lexer)
  | close => exact ⟨rfl, le_rfl, nofun⟩

theorem leads_after (lexer : Lexer) (requests : List Request) :
    Leads lexer (lexer.after requests) := by
  induction requests generalizing lexer with
  | nil => exact .refl lexer
  | cons request requests ih => exact (leads_ask lexer request).trans (ih _)

theorem finished_of_leads {earlier later : Lexer} (leads : Leads earlier later)
    (finished : earlier.phase = .finished) : later.phase = .finished :=
  le_antisymm (Phase.le_finished _) (finished ▸ leads.phase)

section Closed

variable {lexer : Lexer}

theorem drain_of_closed (closed : lexer.isClosed = true) :
    TokenSource.drain lexer = (.error .closedLexer, lexer) :=
  TokenSource.drain_of_yields (.failed (next_of_closed closed))

theorem after_of_closed (closed : lexer.isClosed = true) (requests : List Request) :
    lexer.after requests = lexer := by
  have unread : lexer.unread = none := Option.isNone_iff_eq_none.mp closed
  have kept : ∀ request, lexer.ask request = lexer := by
    intro request
    cases request with
    | next => simp only [ask, next_of_closed closed]
    | tokenize => simp only [ask, drain_of_closed closed]
    | close => simp only [ask, close, ← unread]
  induction requests with
  | nil => rfl
  | cons request requests ih =>
    rw [after, List.foldl_cons, kept]
    exact ih

end Closed

section Finished

variable {lexer : Lexer}

theorem next_of_finished (finished : lexer.phase = .finished) (opened : lexer.isClosed = false) :
    lexer.next = (.ok none, lexer) := by
  cases unread : lexer.unread with
  | none => simp [isClosed, unread] at opened
  | some text => simp only [next, unread, if_pos finished]

theorem drain_of_finished (finished : lexer.phase = .finished) (opened : lexer.isClosed = false) :
    TokenSource.drain lexer = (.ok [], lexer) :=
  TokenSource.drain_of_yields (.ended (next_of_finished finished opened))

theorem after_of_finished (finished : lexer.phase = .finished) (opened : lexer.isClosed = false)
    {requests : List Request} (unclosed : .close ∉ requests) : lexer.after requests = lexer := by
  induction requests with
  | nil => rfl
  | cons request requests ih =>
    obtain ⟨apart, unclosed⟩ := not_or.mp (mt List.mem_cons.mpr unclosed)
    have kept : lexer.ask request = lexer := by
      cases request with
      | next => simp only [ask, next_of_finished finished opened]
      | tokenize => simp only [ask, drain_of_finished finished opened]
      | close => exact absurd rfl apart
    rw [after, List.foldl_cons, kept]
    exact ih unclosed

end Finished

/-- The tokens that a request hands out, each with the phase reported after it. What a failed
request has read is lost. -/
def handsOut (lexer : Lexer) : Request → List (Token × Phase)
  | .next =>
    match lexer.next.1 with
    | .ok (some token) => [(token, lexer.next.2.phase)]
    | _ => []
  | .tokenize =>
    match (TokenSource.drain lexer).1 with
    | .ok tokens => tokens
    | .error _ => []
  | .close => []

def handedOut : Lexer → List Request → List (Token × Phase)
  | _, [] => []
  | lexer, request :: requests =>
    lexer.handsOut request ++ (lexer.ask request).handedOut requests

def Spent (lexer : Lexer) : Prop := lexer.isClosed = true ∨ lexer.phase = .finished

/-- What is known of reported tokens: one that ends the statement is a table source, and nothing
comes behind it. -/
structure EndsOnce (tokens : List (Token × Phase)) : Prop where
  tableSource : ∀ reported ∈ tokens, reported.2 = .finished → reported.1.kind = .tableSource
  last : tokens.Pairwise fun earlier _ => earlier.2 ≠ .finished

section HandedOut

open TokenSource (Yields)

variable {lexer rest : Lexer} {tokens : List (Token × Phase)} {stop : Except QueryError Unit}

theorem tableSource_of_finished {token : Token} (answer : lexer.next = (.ok (some token), rest))
    (finished : rest.phase = .finished) : token.kind = .tableSource := by
  obtain ⟨image, later, _, reads, takes⟩ := exists_takes answer
  rw [← reads.phase] at finished
  cases takes with
  | select _ | column _ _ | source _ => cases finished
  | tableSource _ => rfl

theorem next_ne_token_of_spent (spent : lexer.Spent) (token : Token) :
    lexer.next.1 ≠ .ok (some token) := by
  by_cases closed : lexer.isClosed = true
  · simp [next_of_closed closed]
  · have finished := spent.resolve_left closed
    simp [next_of_finished finished (Bool.not_eq_true _ ▸ closed)]

theorem eq_nil_of_yields_spent (yields : Yields lexer tokens stop rest) (spent : lexer.Spent) :
    tokens = [] := by
  cases yields with
  | ended _ | failed _ => rfl
  | token answer _ => exact absurd (congrArg Prod.fst answer) (next_ne_token_of_spent spent _)

theorem spent_ask (spent : lexer.Spent) (request : Request) : (lexer.ask request).Spent := by
  obtain closed | finished := spent
  · exact .inl (by rw [isClosed_ask, closed, Bool.true_or])
  · exact .inr (finished_of_leads (leads_ask lexer request) finished)

theorem handsOut_next {token : Token} (answer : lexer.next = (.ok (some token), rest)) :
    lexer.handsOut .next = [(token, rest.phase)] := by
  simp only [handsOut, answer]

theorem handsOut_tokenize (yields : Yields lexer tokens stop rest) :
    lexer.handsOut .tokenize = if stop = .ok () then tokens else [] := by
  rw [handsOut, TokenSource.drain_of_yields yields]
  cases stop <;> rfl

theorem handsOut_of_spent (spent : lexer.Spent) (request : Request) :
    lexer.handsOut request = [] := by
  cases request with
  | next =>
    simp only [handsOut]
    split
    · next token answer => exact absurd answer (next_ne_token_of_spent spent token)
    · rfl
  | tokenize =>
    obtain ⟨tokens, stop, rest, yields⟩ := TokenSource.exists_yields lexer
    rw [handsOut_tokenize yields, eq_nil_of_yields_spent yields spent, ite_self]
  | close => rfl

theorem handedOut_of_spent (spent : lexer.Spent) (requests : List Request) :
    lexer.handedOut requests = [] := by
  induction requests generalizing lexer with
  | nil => rfl
  | cons request requests ih =>
    rw [handedOut, handsOut_of_spent spent request, ih (spent_ask spent request)]
    rfl

theorem leads_of_yields (yields : Yields lexer tokens stop rest) : Leads lexer rest := by
  induction yields with
  | @ended lexer rest answer | @failed lexer rest error answer =>
    have leads := leads_next lexer
    rwa [show lexer.next = _ from answer] at leads
  | @token lexer middle rest token tokens stop answer behind ih =>
    have leads := leads_next lexer
    rw [show lexer.next = _ from answer] at leads
    exact leads.trans ih

theorem endsOnce_of_yields (yields : Yields lexer tokens stop rest) : EndsOnce tokens := by
  induction yields with
  | ended _ | failed _ => exact ⟨by simp, .nil⟩
  | @token lexer middle rest token tokens stop answer behind ih =>
    refine ⟨fun reported member finished => ?_, List.pairwise_cons.mpr ⟨?_, ih.last⟩⟩
    · rcases List.mem_cons.mp member with rfl | member
      · exact tableSource_of_finished answer finished
      · exact ih.tableSource reported member finished
    · intro later member finished
      rw [eq_nil_of_yields_spent behind (.inr finished)] at member
      cases member

theorem finished_of_yields (yields : Yields lexer tokens stop rest) :
    ∀ reported ∈ tokens, reported.2 = .finished → rest.phase = .finished := by
  induction yields with
  | ended _ | failed _ => simp
  | token _ behind ih =>
    intro reported member finished
    rcases List.mem_cons.mp member with rfl | member
    · exact finished_of_leads (leads_of_yields behind) finished
    · exact ih reported member finished

theorem endsOnce_handsOut (lexer : Lexer) (request : Request) :
    EndsOnce (lexer.handsOut request) ∧
      ∀ reported ∈ lexer.handsOut request, reported.2 = .finished → (lexer.ask request).Spent := by
  cases request with
  | next =>
    by_cases token : ∃ token, lexer.next.1 = .ok (some token)
    · obtain ⟨token, given⟩ := token
      have answer : lexer.next = (.ok (some token), lexer.next.2) := Prod.ext given rfl
      rw [handsOut_next answer]
      refine ⟨⟨fun reported member finished => ?_, List.pairwise_singleton _ _⟩,
        fun reported member finished => ?_⟩
      · obtain rfl := List.mem_singleton.mp member
        exact tableSource_of_finished answer finished
      · obtain rfl := List.mem_singleton.mp member
        exact .inr finished
    · have nothing : lexer.handsOut .next = [] := by
        simp only [handsOut]
        split
        · next found given => exact absurd ⟨found, given⟩ token
        · rfl
      rw [nothing]
      exact ⟨⟨by simp, .nil⟩, by simp⟩
  | tokenize =>
    obtain ⟨tokens, stop, rest, yields⟩ := TokenSource.exists_yields lexer
    have reached : (lexer.ask .tokenize).phase = rest.phase := by
      rw [ask, TokenSource.drain_of_yields yields]
    rw [handsOut_tokenize yields, Spent, reached]
    split
    · exact ⟨endsOnce_of_yields yields, fun reported member finished =>
        .inr (finished_of_yields yields reported member finished)⟩
    · exact ⟨⟨by simp, .nil⟩, by simp⟩
  | close => exact ⟨⟨by simp [handsOut], .nil⟩, by simp [handsOut]⟩

theorem endsOnce_handedOut (lexer : Lexer) (requests : List Request) :
    EndsOnce (lexer.handedOut requests) := by
  induction requests generalizing lexer with
  | nil => exact ⟨by simp [handedOut], .nil⟩
  | cons request requests ih =>
    obtain ⟨now, spent⟩ := endsOnce_handsOut lexer request
    have later := ih (lexer.ask request)
    rw [handedOut]
    refine ⟨fun reported member finished => ?_, List.pairwise_append.mpr ⟨now.last, later.last, ?_⟩⟩
    · rcases List.mem_append.mp member with member | member
      · exact now.tableSource reported member finished
      · exact later.tableSource reported member finished
    · intro reported given other behind finished
      rw [handedOut_of_spent (spent reported given finished)] at behind
      cases behind

end HandedOut

-- The comma behind the table source is no word, so that source is reported with the end.
example : (ofText {} "select a from b,").handedOut [.next, .next, .tokenize, .next, .close, .next] =
    [(⟨.selectKeyword, "select"⟩, .selectList), (⟨.column, "a"⟩, .selectList),
      (⟨.fromKeyword, "from"⟩, .tableSource), (⟨.tableSource, "b"⟩, .finished)] := by
  decide +kernel

/-- Whatever is asked of a lexer, it moves forward only, and once it is finished or closed it stays
what it is. A token reported with the end of the statement is a table source and the last of all. -/
theorem every_run_moves_forward (keywords : KeywordRule) (text : String) (requests : List Request) :
    let lexer := (ofText keywords text).after requests
    (∀ later, Leads lexer (lexer.after later) ∧ (lexer.after later).keywords = keywords) ∧
    (∀ error, lexer.next.1 = .error error → lexer.next.2.phase = lexer.phase) ∧
    (∀ tokens rest, TokenSource.drain lexer = (.ok tokens, rest) →
      rest.phase = .finished ∧ TokenSource.Yields lexer tokens (.ok ()) rest) ∧
    (lexer.phase = .finished → .close ∉ requests → ∀ later, .close ∉ later →
      (lexer.after later).next.1 = .ok none ∧
        (TokenSource.drain (lexer.after later)).1 = .ok []) ∧
    (.close ∈ requests → ∀ later,
      (lexer.after later).next.1 = .error .closedLexer ∧
        (TokenSource.drain (lexer.after later)).1 = .error .closedLexer ∧
        (lexer.after later).isClosed = true ∧ (lexer.after later).phase = lexer.phase) ∧
    EndsOnce ((ofText keywords text).handedOut requests) := by
  intro lexer
  have closed_iff : lexer.isClosed = decide (.close ∈ requests) := by
    rw [isClosed_after]
    rfl
  refine ⟨fun later => ⟨leads_after lexer later, ?_⟩, fun error refused => ?_,
    fun tokens rest drained => ?_, fun finished opened later unclosed => ?_,
    fun asked later => ?_, endsOnce_handedOut _ requests⟩
  · exact (leads_after lexer later).keywords.trans (leads_after _ requests).keywords
  · obtain ⟨token, rest, answer⟩ | ⟨rest, answer, _⟩ | ⟨found, rest, answer, _, same⟩ :=
      next_cases lexer
    · simp [answer] at refused
    · simp [answer] at refused
    · rw [answer]
      exact same
  · have yields := TokenSource.yields_of_drain drained
    exact ⟨(stop_of_yields yields).2 rfl, yields⟩
  · have opened : lexer.isClosed = false := by simp [closed_iff, opened]
    rw [after_of_finished finished opened unclosed, next_of_finished finished opened,
      drain_of_finished finished opened]
    exact ⟨rfl, rfl⟩
  · have closed : lexer.isClosed = true := by simp [closed_iff, asked]
    rw [after_of_closed closed, next_of_closed closed, drain_of_closed closed]
    exact ⟨rfl, rfl, closed, rfl⟩

end Lexer

end Projection
