import Projection.Proofs.Statement

/-! The case of the two keywords. A statement whose keywords may be written in any case says what it
says with both of them in capital letters. No other word changes, and none moves. -/

set_option autoImplicit false

namespace Projection

namespace Writing

def capitalFrom : Writing → Writing
  | done trailing => done trailing
  | word gap item rest =>
    if KeywordRule.Marks ⟨false⟩ "FROM" item then word gap (.bare "FROM") rest
    else word gap item rest.capitalFrom

/-- Both keywords in capital letters. A statement has none if its first word is not SELECT. -/
def capital : Writing → Writing
  | done trailing => done trailing
  | word gap item rest =>
    if KeywordRule.Marks ⟨false⟩ "SELECT" item then word gap (.bare "SELECT") rest.capitalFrom
    else word gap item rest

inductive RecasedFrom : Writing → Writing → Prop where
  | same (writing : Writing) : RecasedFrom writing writing
  | divider {gap : List Char} {a b : String} {rest : Writing}
      (spells : KeywordRule.Spells ⟨false⟩ "FROM" a) (recased : KeywordRule.Spells ⟨false⟩ "FROM" b) :
    RecasedFrom (word gap (.bare a) rest) (word gap (.bare b) rest)
  | word {gap : List Char} {item : Lexeme} {a b : Writing}
      (other : ¬KeywordRule.Marks ⟨false⟩ "FROM" item) (behind : RecasedFrom a b) :
    RecasedFrom (word gap item a) (word gap item b)

/-- The writings differ in nothing but the case of their keywords. -/
inductive Recased : Writing → Writing → Prop where
  | same (writing : Writing) : Recased writing writing
  | select {gap : List Char} {a b : String} {front back : Writing}
      (spells : KeywordRule.Spells ⟨false⟩ "SELECT" a)
      (recased : KeywordRule.Spells ⟨false⟩ "SELECT" b) (behind : RecasedFrom front back) :
    Recased (word gap (.bare a) front) (word gap (.bare b) back)

theorem follows_bare_iff (a b : String) (rest : Writing) :
    Follows (.bare a) rest ↔ Follows (.bare b) rest := by
  cases rest <;> exact Iff.rfl

theorem follows_capitalFrom {item : Lexeme} {rest : Writing} (follows : Follows item rest) :
    Follows item rest.capitalFrom := by
  cases rest with
  | done trailing => exact follows
  | word gap next rest =>
    unfold capitalFrom
    cases item with
    | bare text => split <;> exact follows
    | bracketed text => trivial
    | unclosed text => cases follows

theorem proper_capitalFrom {writing : Writing} (proper : writing.Proper) :
    writing.capitalFrom.Proper := by
  induction writing with
  | done trailing => exact proper
  | word gap item rest ih =>
    obtain ⟨separate, spelled, follows, behind⟩ := proper
    unfold capitalFrom
    split
    · next marks =>
      obtain ⟨name, rfl, _⟩ := KeywordRule.eq_bare_of_marks marks
      have keyword : (Lexeme.bare "FROM").Proper := by simp [Lexeme.Proper, separators]
      exact ⟨separate, keyword, (follows_bare_iff name "FROM" rest).mp follows, behind⟩
    · exact ⟨separate, spelled, follows_capitalFrom follows, ih behind⟩

theorem proper_capital {writing : Writing} (proper : writing.Proper) : writing.capital.Proper := by
  cases writing with
  | done trailing => exact proper
  | word gap item rest =>
    obtain ⟨separate, spelled, follows, behind⟩ := proper
    simp only [capital]
    split
    · next marks =>
      obtain ⟨name, rfl, _⟩ := KeywordRule.eq_bare_of_marks marks
      have keyword : (Lexeme.bare "SELECT").Proper := by simp [Lexeme.Proper, separators]
      have moved := (follows_bare_iff name "SELECT" rest).mp follows
      exact ⟨separate, keyword, follows_capitalFrom moved, proper_capitalFrom behind⟩
    · exact ⟨separate, spelled, follows, behind⟩

example : (word [] (.bare "select") <| word [','] (.bracketed "from") <| word [] (.bare "From") <|
    word ['\n'] (.bare "from") <| done []).capital.text = "SELECT,[from]FROM\nfrom".toList := by decide

theorem capitalFrom_eq_of_recased {a b : Writing} (recased : RecasedFrom a b) :
    a.capitalFrom = b.capitalFrom := by
  induction recased with
  | same writing => rfl
  | divider spells recased =>
    rw [capitalFrom, capitalFrom, if_pos (show KeywordRule.Marks _ _ (.bare _) from spells),
      if_pos (show KeywordRule.Marks _ _ (.bare _) from recased)]
  | word other _ ih => rw [capitalFrom, capitalFrom, if_neg other, if_neg other, ih]

theorem capital_eq_of_recased {a b : Writing} (recased : Recased a b) : a.capital = b.capital := by
  cases recased with
  | same => rfl
  | select spells recased behind =>
    rw [capital, capital, if_pos (show KeywordRule.Marks _ _ (.bare _) from spells),
      if_pos (show KeywordRule.Marks _ _ (.bare _) from recased), capitalFrom_eq_of_recased behind]

end Writing

namespace KeywordRule

theorem marks_of_sensitive {keyword : String} {word : Lexeme} (marks : Marks ⟨true⟩ keyword word) :
    Marks ⟨false⟩ keyword word := by
  obtain ⟨name, rfl, spells⟩ := eq_bare_of_marks marks
  have same : name.toList = keyword.toList := (forall₂_writes_iff rfl).mp spells
  obtain rfl := String.toList_inj.mp same
  exact spells_self ⟨false⟩ name

end KeywordRule

section Verdict

open Writing

theorem findSome?_capitalFrom (writing : Writing) :
    writing.capitalFrom.items.findSome? Lexeme.unclosed? =
      writing.items.findSome? Lexeme.unclosed? := by
  induction writing with
  | done trailing => rfl
  | word gap item rest ih =>
    unfold capitalFrom
    split
    · next marks =>
      obtain ⟨name, rfl, _⟩ := KeywordRule.eq_bare_of_marks marks
      rfl
    · rw [items, items, List.findSome?_cons, List.findSome?_cons, ih]

theorem split_capitalFrom (writing : Writing) :
    writing.capitalFrom.items.takeWhile (¬KeywordRule.Marks ⟨true⟩ "FROM" ·) =
        writing.items.takeWhile (¬KeywordRule.Marks ⟨false⟩ "FROM" ·) ∧
      (writing.capitalFrom.items.dropWhile (¬KeywordRule.Marks ⟨true⟩ "FROM" ·)).tail =
        (writing.items.dropWhile (¬KeywordRule.Marks ⟨false⟩ "FROM" ·)).tail := by
  induction writing with
  | done trailing => exact ⟨rfl, rfl⟩
  | word gap item rest ih =>
    by_cases marks : KeywordRule.Marks ⟨false⟩ "FROM" item
    · have capital : KeywordRule.Marks ⟨true⟩ "FROM" (.bare "FROM") :=
        KeywordRule.spells_self ⟨true⟩ "FROM"
      simp [capitalFrom, items, marks, capital]
    · have other : ¬KeywordRule.Marks ⟨true⟩ "FROM" item := mt KeywordRule.marks_of_sensitive marks
      simpa [capitalFrom, items, marks, other] using ih

theorem verdict_capital (writing : Writing) :
    verdict ⟨true⟩ writing.capital.items = verdict ⟨false⟩ writing.items := by
  cases writing with
  | done trailing => rfl
  | word gap item rest =>
    by_cases marks : KeywordRule.Marks ⟨false⟩ "SELECT" item
    · obtain ⟨name, rfl, _⟩ := KeywordRule.eq_bare_of_marks marks
      have capital : KeywordRule.Marks ⟨true⟩ "SELECT" (.bare "SELECT") :=
        KeywordRule.spells_self ⟨true⟩ "SELECT"
      obtain ⟨columns, sources⟩ := split_capitalFrom rest
      simp only [Writing.capital, if_pos marks, items, verdict, if_pos capital, verdictOfRest,
        findSome?_capitalFrom, columns, sources]
    · have other : ¬KeywordRule.Marks ⟨true⟩ "SELECT" item := mt KeywordRule.marks_of_sensitive marks
      cases item <;> simp [Writing.capital, items, verdict, marks, other]

end Verdict

theorem ofText_eq_of_verdict {keywords otherKeywords : KeywordRule} {text otherText : String}
    (same : verdict keywords (Lexeme.ofText text.toList) =
      verdict otherKeywords (Lexeme.ofText otherText.toList)) :
    Query.ofText keywords text = Query.ofText otherKeywords otherText := by
  rw [← parts_ofText, ← parts_ofText] at same
  cases read : Query.ofText keywords text <;>
    cases otherRead : Query.ofText otherKeywords otherText <;>
    simp_all [Except.map, Query.parts_inj]

theorem ofText_eq_ofText_capital {text : String} {writing : Writing}
    (is_of : writing.IsOf text.toList) :
    Query.ofText ⟨false⟩ text = Query.ofText ⟨true⟩ (String.ofList writing.capital.text) := by
  apply ofText_eq_of_verdict
  rw [String.toList_ofList, Writing.ofText_text (Writing.proper_capital is_of.proper),
    ← is_of.items_eq, verdict_capital]

/-- Without regard to case a statement is read as the one with both keywords in capital letters. So
the case of the keywords makes no difference, and a statement that has them in capital letters is
read alike under both rules. -/
theorem ofText_ignores_keyword_case (text : String) :
    ∃ writing : Writing, writing.IsOf text.toList ∧
      (∀ other : Writing, other.IsOf text.toList → other = writing) ∧
      writing.capital.IsOf writing.capital.text ∧
      Query.ofText ⟨false⟩ text = Query.ofText ⟨true⟩ (String.ofList writing.capital.text) ∧
      (∀ (recasedText : String) (recased : Writing), recased.IsOf recasedText.toList →
        Writing.Recased writing recased →
        Query.ofText ⟨false⟩ recasedText = Query.ofText ⟨false⟩ text) ∧
      (String.ofList writing.capital.text = text →
        ∀ keywords otherKeywords : KeywordRule,
          Query.ofText keywords text = Query.ofText otherKeywords text) := by
  obtain ⟨writing, is_of, unique⟩ := Writing.existsUnique_isOf text.toList
  have read := ofText_eq_ofText_capital is_of
  refine ⟨writing, is_of, unique, ⟨Writing.proper_capital is_of.proper, rfl⟩, read, ?_, ?_⟩
  · intro recasedText recased recased_is_of differ
    rw [read, ofText_eq_ofText_capital recased_is_of, Writing.capital_eq_of_recased differ]
  · intro capital
    rw [capital] at read
    have either : ∀ keywords : KeywordRule,
        Query.ofText keywords text = Query.ofText ⟨true⟩ text := by
      rintro ⟨_ | _⟩
      · exact read
      · rfl
    intro keywords otherKeywords
    rw [either keywords, either otherKeywords]

end Projection
