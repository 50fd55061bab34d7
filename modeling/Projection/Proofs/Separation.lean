import Projection.Proofs.Canonical
import Projection.Proofs.Requests

/-! What separators are for. Putting one text behind another joins their lists of words, unless the
last word of the first runs into the second. So it makes no difference which separators stand
between two words, and how many: no run of requests can tell the texts apart. -/

set_option autoImplicit false

namespace Projection

namespace Writing

def indent (gap : List Char) : Writing → Writing
  | done trailing => done (gap ++ trailing)
  | word first item rest => word (gap ++ first) item rest

def append : Writing → Writing → Writing
  | done trailing, behind => behind.indent trailing
  | word gap item rest, behind => word gap item (rest.append behind)

def Closed (writing : Writing) : Prop := ∀ item ∈ writing.items, item.unclosed? = none

/-- The last word ends by itself. -/
def EndsBracketed (writing : Writing) : Prop :=
  ∃ name, writing.items.getLast? = some (.bracketed name)

@[simp] theorem text_indent (gap : List Char) (writing : Writing) :
    (writing.indent gap).text = gap ++ writing.text := by
  cases writing <;> simp [indent, text]

@[simp] theorem items_indent (gap : List Char) (writing : Writing) :
    (writing.indent gap).items = writing.items := by
  cases writing <;> rfl

@[simp] theorem text_append (front behind : Writing) :
    (front.append behind).text = front.text ++ behind.text := by
  induction front with
  | done trailing => simp [append, text]
  | word gap item rest ih => simp [append, text, ih]

@[simp] theorem items_append (front behind : Writing) :
    (front.append behind).items = front.items ++ behind.items := by
  induction front with
  | done trailing => simp [append, items]
  | word gap item rest ih => simp [append, items, ih]

theorem proper_indent {gap : List Char} {writing : Writing} (separate : ∀ c ∈ gap, c ∈ separators)
    (proper : writing.Proper) : (writing.indent gap).Proper := by
  have both : ∀ tail : List Char, (∀ c ∈ tail, c ∈ separators) →
      ∀ c ∈ gap ++ tail, c ∈ separators := by
    intro tail inside c member
    rcases List.mem_append.mp member with member | member
    · exact separate c member
    · exact inside c member
  cases writing with
  | done trailing => exact both trailing proper
  | word first item rest => exact ⟨both first proper.1, proper.2⟩

theorem apart_indent {gap : List Char} (some_gap : gap ≠ []) (writing : Writing) :
    (writing.indent gap).Apart := by
  cases writing with
  | done trailing => trivial
  | word first item rest => simp [indent, Apart, some_gap]

@[simp] theorem indent_nil (writing : Writing) : writing.indent [] = writing := by
  cases writing <;> rfl

theorem follows_append {item : Lexeme} {rest behind : Writing} (closed : item.unclosed? = none)
    (follows : Follows item rest) (meets : rest = done [] → Follows item behind) :
    Follows item (rest.append behind) := by
  cases rest with
  | done trailing =>
    cases trailing with
    | nil => simpa [append] using meets rfl
    | cons c trailing => exact follows_of_apart closed (apart_indent (by simp) behind)
  | word gap next rest =>
    cases item with
    | unclosed text => cases closed
    | bare text | bracketed text => exact follows

theorem proper_append {front behind : Writing} (proper : front.Proper) (closed : front.Closed)
    (other : behind.Proper) (meets : behind.Apart ∨ front.items = [] ∨ front.EndsBracketed) :
    (front.append behind).Proper := by
  induction front with
  | done trailing => exact proper_indent proper other
  | word gap item rest ih =>
    obtain ⟨separate, spelled, follows, rest_proper⟩ := proper
    have first_closed : item.unclosed? = none := closed item (by simp [items])
    have rest_closed : rest.Closed := fun next member => closed next (by simp [items, member])
    have last : rest = done [] → Follows item behind := by
      rintro rfl
      rcases meets with apart | none_left | ⟨name, ends⟩
      · exact follows_of_apart first_closed apart
      · cases none_left
      · obtain rfl : item = .bracketed name := by simpa [items] using ends
        trivial
    have rest_meets : behind.Apart ∨ rest.items = [] ∨ rest.EndsBracketed := by
      rcases meets with apart | none_left | ⟨name, ends⟩
      · exact .inl apart
      · cases none_left
      · cases left : rest.items with
        | nil => exact .inr (.inl rfl)
        | cons next words =>
          refine .inr (.inr ⟨name, ?_⟩)
          simpa [items, left] using ends
    exact ⟨separate, spelled, follows_append first_closed follows last,
      ih rest_proper rest_closed rest_meets⟩

end Writing

theorem Lexeme.ofText_around {front gap back : List Char} {writing : Writing}
    (is_of : writing.IsOf front) (closed : writing.Closed) (separate : ∀ c ∈ gap, c ∈ separators)
    (enough : gap ≠ [] ∨ front = [] ∨ back = [] ∨ writing.EndsBracketed) :
    ofText (front ++ gap ++ back) = ofText front ++ ofText back := by
  obtain ⟨other, other_is_of⟩ := Writing.exists_isOf back
  have meets : (other.indent gap).Apart ∨ writing.items = [] ∨ writing.EndsBracketed := by
    rcases enough with some_gap | rfl | rfl | ends
    · exact .inl (Writing.apart_indent some_gap other)
    · exact .inr (.inl (by rw [is_of.items_eq, ofText_nil]))
    · cases other with
      | done trailing => exact .inl trivial
      | word first item rest =>
        have no_items := other_is_of.items_eq
        rw [ofText_nil] at no_items
        cases no_items
    · exact .inr (.inr ends)
  have proper := Writing.proper_append is_of.proper closed
    (Writing.proper_indent separate other_is_of.proper) meets
  have words := Writing.ofText_text proper
  rw [Writing.text_append, Writing.text_indent, Writing.items_append, Writing.items_indent,
    is_of.text_eq, other_is_of.text_eq, is_of.items_eq, other_is_of.items_eq] at words
  rw [List.append_assoc, words]

inductive Response where
  | token (result : Except QueryError (Option Token))
  | tokens (result : Except QueryError (List (Token × Phase)))
  | closed

structure Report where
  response : Response
  phase : Phase
  isClosed : Bool

namespace Lexer

def respond (lexer : Lexer) : Request → Response
  | .next => .token lexer.next.1
  | .tokenize => .tokens (TokenSource.drain lexer).1
  | .close => .closed

def reports : Lexer → List Request → List Report
  | _, [] => []
  | lexer, request :: requests =>
    let rest := lexer.ask request
    ⟨lexer.respond request, rest.phase, rest.isClosed⟩ :: rest.reports requests

/-- Two lexers with the same words left to read, or one and the same lexer. -/
def Alike (a b : Lexer) : Prop := a = b ∨ ∃ image, a.Reads image ∧ b.Reads image

theorem simulates_alike : TokenSource.Simulates Alike where
  answer alike := by
    obtain rfl | ⟨image, first, second⟩ := alike
    · rfl
    · exact (next_of_reads first).1.trans (next_of_reads second).1.symm
  phase alike := by
    obtain rfl | ⟨image, first, second⟩ := alike
    · rfl
    · exact first.phase.symm.trans second.phase
  step alike := by
    obtain rfl | ⟨image, first, second⟩ := alike
    · exact .inl rfl
    · exact .inr ⟨image.next.2, (next_of_reads first).2, (next_of_reads second).2⟩

theorem isClosed_of_alike {a b : Lexer} (alike : Alike a b) : a.isClosed = b.isClosed := by
  obtain rfl | ⟨image, first, second⟩ := alike
  · rfl
  · obtain ⟨text, unread, _⟩ := first.words
    obtain ⟨otherText, otherUnread, _⟩ := second.words
    simp [isClosed, unread, otherUnread]

theorem close_of_alike {a b : Lexer} (alike : Alike a b) : a.close = b.close := by
  obtain rfl | ⟨image, first, second⟩ := alike
  · rfl
  · have keywords := first.keywords.symm.trans second.keywords
    have phase := first.phase.symm.trans second.phase
    simp [close, keywords, phase]

theorem ask_of_alike {a b : Lexer} (alike : Alike a b) (request : Request) :
    a.respond request = b.respond request ∧ Alike (a.ask request) (b.ask request) := by
  cases request with
  | next => exact ⟨congrArg Response.token (simulates_alike.answer alike), simulates_alike.step alike⟩
  | tokenize =>
    obtain ⟨same, rest⟩ := simulates_alike.fold
      (fun tokens token phase => .ok (tokens ++ [(token, phase)])) [] alike
    exact ⟨congrArg Response.tokens same, rest⟩
  | close => exact ⟨rfl, .inl (close_of_alike alike)⟩

theorem reports_of_alike {a b : Lexer} (alike : Alike a b) (requests : List Request) :
    a.reports requests = b.reports requests := by
  induction requests generalizing a b with
  | nil => rfl
  | cons request requests ih =>
    obtain ⟨same, rest⟩ := ask_of_alike alike request
    have phase : (a.ask request).phase = (b.ask request).phase := simulates_alike.phase rest
    simp only [reports, same, phase, isClosed_of_alike rest, ih rest]

theorem alike_ofText (keywords : KeywordRule) {text otherText : String}
    (same : Lexeme.ofText text.toList = Lexeme.ofText otherText.toList) :
    Alike (ofText keywords text) (ofText keywords otherText) := by
  have reads := reads_ofText keywords text
  rw [same] at reads
  exact .inr ⟨_, reads, reads_ofText keywords otherText⟩

end Lexer

theorem ofSource_of_alike {a b : Lexer} (alike : Lexer.Alike a b) :
    (Query.ofSource a).1 = (Query.ofSource b).1 := by
  obtain ⟨same, _⟩ := Lexer.simulates_alike.fold Clauses.accept {} alike
  simp only [Query.ofSource, same]

/-- Any separators between two words do as well as any others, and none are needed where the words
are apart without them. -/
theorem separators_only_separate (keywords : KeywordRule) {front gap otherGap back : String}
    {writing : Writing} (is_of : writing.IsOf front.toList) (closed : writing.Closed)
    (separate : ∀ c ∈ gap.toList, c ∈ separators)
    (otherSeparate : ∀ c ∈ otherGap.toList, c ∈ separators)
    (enough : (gap ≠ "" ∧ otherGap ≠ "") ∨ front = "" ∨ back = "" ∨ writing.EndsBracketed) :
    (∀ requests : List Request,
      (Lexer.ofText keywords (front ++ gap ++ back)).reports requests =
        (Lexer.ofText keywords (front ++ otherGap ++ back)).reports requests) ∧
      Query.ofText keywords (front ++ gap ++ back) =
        Query.ofText keywords (front ++ otherGap ++ back) := by
  have words : ∀ between : String, (∀ c ∈ between.toList, c ∈ separators) →
      (between ≠ "" ∨ front = "" ∨ back = "" ∨ writing.EndsBracketed) →
      Lexeme.ofText (front ++ between ++ back).toList =
        Lexeme.ofText front.toList ++ Lexeme.ofText back.toList := by
    intro between inside suffices_here
    rw [String.toList_append, String.toList_append]
    exact Lexeme.ofText_around is_of closed inside (by simpa using suffices_here)
  have same := (words gap separate (by tauto)).trans (words otherGap otherSeparate (by tauto)).symm
  have alike := Lexer.alike_ofText keywords same
  exact ⟨Lexer.reports_of_alike alike, ofSource_of_alike alike⟩

/-- A bracket that the next word touches, and one with a line break behind it. -/
theorem separators_only_separate_bracket :
    ∃ writing : Writing, writing.IsOf "SELECT [a b]".toList ∧ writing.Closed ∧
      writing.EndsBracketed ∧
      (Lexer.ofText ⟨true⟩ ("SELECT [a b]" ++ "" ++ "c FROM d")).reports [.next, .next, .tokenize, .close] =
        (Lexer.ofText ⟨true⟩ ("SELECT [a b]" ++ ",\r\n" ++ "c FROM d")).reports
          [.next, .next, .tokenize, .close] ∧
      Query.ofText ⟨true⟩ ("SELECT [a b]" ++ ",\r\n" ++ "c FROM d") =
        .ok ⟨["a b", "c"], "d", by simp⟩ := by
  have is_of : (Writing.word [] (.bare "SELECT") <| .word [' '] (.bracketed "a b") <|
      .done []).IsOf "SELECT [a b]".toList :=
    ⟨by simp [Writing.Proper, Writing.Follows, Lexeme.Proper, separators], by decide⟩
  have closed : (Writing.word [] (.bare "SELECT") <| .word [' '] (.bracketed "a b") <|
      .done []).Closed := by simp [Writing.Closed, Writing.items, Lexeme.unclosed?]
  have ends : (Writing.word [] (.bare "SELECT") <| .word [' '] (.bracketed "a b") <|
      .done []).EndsBracketed := ⟨"a b", rfl⟩
  obtain ⟨reports, read⟩ := @separators_only_separate ⟨true⟩ "SELECT [a b]" "" ",\r\n" "c FROM d" _
    is_of closed (by simp) (by simp [separators]) (.inr (.inr (.inr ends)))
  refine ⟨_, is_of, closed, ends, reports _, ?_⟩
  rw [← read]
  decide +kernel

end Projection
