import Projection.Proofs.Statement

/-! One text for each query that has any. A name without a closing bracket stands in brackets, any
other one bare. Names that hold a closing bracket and could not stand bare either cannot be written
at all, since a bracketed word has no escape. -/

set_option autoImplicit false

namespace Projection

def Writable (name : String) : Prop :=
  ']' ∉ name.toList ∨ (∀ c ∈ name.toList, c ∉ separators) ∧ name.toList.head? ≠ some '['

def Lexeme.ofName (name : String) : Lexeme :=
  if ']' ∈ name.toList then .bare name else .bracketed name

def writeName (name : String) : String :=
  if ']' ∈ name.toList then name else "[" ++ name ++ "]"

namespace Query

def names (query : Query) : List String := query.columns ++ [query.tableSource]

def canonical (query : Query) : String :=
  "SELECT " ++ ", ".intercalate (query.columns.map writeName) ++ " FROM " ++
    writeName query.tableSource

end Query

theorem toList_writeName (name : String) : (writeName name).toList = (Lexeme.ofName name).written := by
  unfold writeName Lexeme.ofName
  split <;> simp [Lexeme.written]

namespace Lexeme

@[simp] theorem text_ofName (name : String) : (ofName name).text = name := by
  unfold ofName
  split <;> rfl

@[simp] theorem unclosed?_ofName (name : String) : (ofName name).unclosed? = none := by
  unfold ofName
  split <;> rfl

theorem proper_ofName {name : String} (writable : Writable name) : (ofName name).Proper := by
  unfold ofName
  split
  · next closing =>
    rcases writable with free | ⟨inside, start⟩
    · exact absurd closing free
    · exact ⟨List.ne_nil_of_mem closing, inside, start⟩
  · next free => exact free

theorem writable_text {word : Lexeme} (proper : word.Proper) (closed : word.unclosed? = none) :
    Writable word.text := by
  cases word with
  | unclosed text => cases closed
  | bare text => exact .inr proper.2
  | bracketed text => exact .inl proper

end Lexeme

theorem KeywordRule.not_marks_ofName (keywords : KeywordRule) (name : String) :
    ¬keywords.Marks "FROM" (Lexeme.ofName name) := by
  unfold Lexeme.ofName
  split
  · next closing =>
    intro spells
    obtain ⟨letter, inside, writes⟩ := exists_letter_of_writes spells closing
    have letters : letter = 'F' ∨ letter = 'R' ∨ letter = 'O' ∨ letter = 'M' := by
      simpa using inside
    rcases letters with rfl | rfl | rfl | rfl <;> simp [Writes] at writes
  · exact id

namespace Writing

def listed (gap : List Char) : List Lexeme → Writing → Writing
  | [], rest => rest
  | form :: forms, rest => word gap form (listed [',', ' '] forms rest)

theorem items_listed (gap : List Char) (forms : List Lexeme) (rest : Writing) :
    (listed gap forms rest).items = forms ++ rest.items := by
  induction forms generalizing gap with
  | nil => rfl
  | cons form forms ih => simp [listed, items, ih]

theorem text_listed (gap : List Char) {forms : List Lexeme} (some_form : forms ≠ []) (rest : Writing) :
    (listed gap forms rest).text =
      gap ++ [',', ' '].intercalate (forms.map Lexeme.written) ++ rest.text := by
  induction forms generalizing gap with
  | nil => exact absurd rfl some_form
  | cons form forms ih =>
    cases forms with
    | nil => simp [listed, text]
    | cons second forms =>
      have behind := ih [',', ' '] (by simp)
      rw [listed, text, behind]
      simp [List.intercalate]

def Apart : Writing → Prop
  | done _ => True
  | word gap _ _ => gap ≠ []

theorem follows_of_apart {item : Lexeme} {rest : Writing} (closed : item.unclosed? = none)
    (apart : rest.Apart) : Follows item rest := by
  cases item with
  | unclosed text => cases closed
  | bracketed text => trivial
  | bare text =>
    cases rest with
    | done trailing => trivial
    | word gap next rest => exact apart

theorem proper_listed {gap : List Char} {forms : List Lexeme} {rest : Writing}
    (separate : ∀ c ∈ gap, c ∈ separators) (some_gap : gap ≠ [])
    (spelled : ∀ form ∈ forms, form.Proper ∧ form.unclosed? = none)
    (proper : rest.Proper) (apart : rest.Apart) :
    (listed gap forms rest).Proper ∧ (listed gap forms rest).Apart := by
  induction forms generalizing gap with
  | nil => exact ⟨proper, apart⟩
  | cons form forms ih =>
    obtain ⟨form_proper, closed⟩ := spelled form List.mem_cons_self
    have others : ∀ form ∈ forms, form.Proper ∧ form.unclosed? = none :=
      fun form member => spelled form (List.mem_cons_of_mem _ member)
    have comma : ∀ c ∈ [',', ' '], c ∈ separators := by simp [separators]
    obtain ⟨behind, behind_apart⟩ := ih comma (by simp) others
    exact ⟨⟨separate, form_proper, follows_of_apart closed behind_apart, behind⟩, some_gap⟩

end Writing

namespace Query

def writing (query : Query) : Writing :=
  .word [] (.bare "SELECT") <| .listed [' '] (query.columns.map Lexeme.ofName) <|
    .word [' '] (.bare "FROM") <| .word [' '] (Lexeme.ofName query.tableSource) <| .done []

theorem text_writing (query : Query) : query.writing.text = query.canonical.toList := by
  have some_form : query.columns.map Lexeme.ofName ≠ [] := by simpa using query.columns_ne_nil
  have forms : query.columns.map (String.toList ∘ writeName) =
      query.columns.map (Lexeme.written ∘ Lexeme.ofName) := by
    simp [toList_writeName]
  simp [writing, canonical, Writing.text, Writing.text_listed _ some_form, toList_writeName, forms,
    String.toList_intercalate, Lexeme.written]

theorem proper_writing {query : Query} (writable : ∀ name ∈ query.names, Writable name) :
    query.writing.Proper := by
  have columns : ∀ form ∈ query.columns.map Lexeme.ofName,
      form.Proper ∧ form.unclosed? = none := by
    intro form member
    obtain ⟨name, column, rfl⟩ := List.mem_map.mp member
    exact ⟨Lexeme.proper_ofName (writable name (by simp [names, column])), by simp⟩
  have source : (Lexeme.ofName query.tableSource).Proper :=
    Lexeme.proper_ofName (writable query.tableSource (by simp [names]))
  have select : (Lexeme.bare "SELECT").Proper := by simp [Lexeme.Proper, separators]
  have fromKeyword : (Lexeme.bare "FROM").Proper := by simp [Lexeme.Proper, separators]
  have blank : ∀ c ∈ [' '], c ∈ separators := by simp [separators]
  -- from the last word to the first: nothing stands behind the table source
  have ends : Writing.Follows (Lexeme.ofName query.tableSource) (.done []) :=
    Writing.follows_of_apart (by simp) trivial
  have divided : Writing.Follows (.bare "FROM") <|
      .word [' '] (Lexeme.ofName query.tableSource) <| .done [] := by simp [Writing.Follows]
  have behind : (Writing.word [' '] (.bare "FROM") <|
      .word [' '] (Lexeme.ofName query.tableSource) <| .done []).Proper :=
    ⟨blank, fromKeyword, divided, blank, source, ends, by simp [Writing.Proper]⟩
  have some_gap : [' '] ≠ [] := by simp
  obtain ⟨listed, apart⟩ := Writing.proper_listed blank some_gap columns behind some_gap
  exact ⟨by simp, select, Writing.follows_of_apart rfl apart, listed⟩

theorem selects_writing (keywords : KeywordRule) (query : Query) :
    Selects keywords query.writing.items query.columns query.tableSource := by
  have texts : (query.columns.map Lexeme.ofName).map Lexeme.text = query.columns := by
    simp [Function.comp_def]
  have columns : ∀ form ∈ query.columns.map Lexeme.ofName,
      form.unclosed? = none ∧ ¬keywords.Marks "FROM" form := by
    intro form member
    obtain ⟨name, _, rfl⟩ := List.mem_map.mp member
    exact ⟨Lexeme.unclosed?_ofName name, keywords.not_marks_ofName name⟩
  have selects := Selects.intro (keywords.spells_self "SELECT")
    (by simpa using query.columns_ne_nil) columns (keywords.spells_self "FROM")
    (Lexeme.unclosed?_ofName query.tableSource)
  rw [texts, Lexeme.text_ofName] at selects
  simpa [writing, Writing.items, Writing.items_listed] using selects

theorem ofText_canonical {query : Query} (writable : ∀ name ∈ query.names, Writable name)
    (keywords : KeywordRule) : ofText keywords query.canonical = .ok query := by
  rw [ofText_eq_ok_iff, ← text_writing, Writing.ofText_text (proper_writing writable)]
  exact verdict_of_selects (selects_writing keywords query)

theorem writable_of_ofText {keywords : KeywordRule} {text : String} {query : Query}
    (accepted : ofText keywords text = .ok query) : ∀ name ∈ query.names, Writable name := by
  obtain ⟨writing, is_of⟩ := Writing.exists_isOf text.toList
  rw [ofText_eq_ok_iff, ← is_of.items_eq] at accepted
  intro name member
  obtain ⟨word, written, closed, rfl⟩ := exists_word_of_selects (selects_of_verdict accepted) member
  exact Lexeme.writable_text (Writing.proper_of_mem_items is_of.proper written) closed

example : canonical ⟨["a, b", "x[1]", ""], "FROM", by simp⟩ =
    "SELECT [a, b], x[1], [] FROM [FROM]" := by decide +kernel

/-- The queries that have a text are those of writable names, and each reads back from its canonical
text under either rule for keywords. -/
theorem exists_text_iff_writable (query : Query) (keywords : KeywordRule) :
    ((∃ text, ofText keywords text = .ok query) ↔ ∀ name ∈ query.names, Writable name) ∧
    ((∀ name ∈ query.names, Writable name) → ofText keywords query.canonical = .ok query) ∧
    ∀ text, ofText keywords text = .ok query →
      ∀ other : KeywordRule, ofText other query.canonical = .ok query := by
  refine ⟨⟨?_, ?_⟩, fun writable => ofText_canonical writable keywords, ?_⟩
  · rintro ⟨text, accepted⟩
    exact writable_of_ofText accepted
  · intro writable
    exact ⟨query.canonical, ofText_canonical writable keywords⟩
  · intro text accepted other
    exact ofText_canonical (writable_of_ofText accepted) other

end Query

end Projection
