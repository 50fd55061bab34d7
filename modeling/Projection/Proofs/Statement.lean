import Projection.Query
import Projection.Proofs.WordLexer

/-! What a statement says, read off its words. A refused statement has one verdict, and the verdicts
have a fixed order: the first word is judged before any bracket behind it, an open bracket before
the clauses, and the columns before the table sources. The accepted statements are exactly those of
the grammar `Selects`. -/

set_option autoImplicit false

namespace Projection

def Query.parts (query : Query) : List String × String := (query.columns, query.tableSource)

def verdictOfClauses : List String → List String → Except QueryError (List String × String)
  | [], _ => .error .emptySelectList
  | _, [] => .error .missingTableSource
  | columns, [tableSource] => .ok (columns, tableSource)
  | _, tableSources => .error (.multipleTableSources tableSources)

/-- The verdict on the words behind SELECT. Only the first bare FROM ends the select list. -/
def verdictOfRest (keywords : KeywordRule) (words : List Lexeme) :
    Except QueryError (List String × String) :=
  match words.findSome? Lexeme.unclosed? with
  | some text => .error (.unterminatedIdentifier text)
  | none =>
    verdictOfClauses ((words.takeWhile (¬keywords.Marks "FROM" ·)).map Lexeme.text)
      ((words.dropWhile (¬keywords.Marks "FROM" ·)).tail.map Lexeme.text)

def verdict (keywords : KeywordRule) : List Lexeme → Except QueryError (List String × String)
  | [] => .error (.unexpectedStart "")
  | .unclosed text :: _ => .error (.unterminatedIdentifier text)
  | first :: words =>
    if keywords.Marks "SELECT" first then verdictOfRest keywords words
    else .error (.unexpectedStart first.text)

/-- The words of a statement that selects these columns from this table source. -/
inductive Selects (keywords : KeywordRule) : List Lexeme → List String → String → Prop where
  | intro {first divider : String} {forms : List Lexeme} {source : Lexeme}
      (select : keywords.Spells "SELECT" first) (some_column : forms ≠ [])
      (columns : ∀ form ∈ forms, form.unclosed? = none ∧ ¬keywords.Marks "FROM" form)
      (fromKeyword : keywords.Spells "FROM" divider) (closed : source.unclosed? = none) :
    Selects keywords (.bare first :: (forms ++ [.bare divider, source])) (forms.map Lexeme.text)
      source.text

variable {keywords : KeywordRule}

section Fold

open TokenSource WordLexer

theorem fold_tableSource (clauses : Clauses) (words : List Lexeme) {phase : Phase}
    (reached : phase = .tableSource ∨ phase = .finished ∧ words = []) :
    (fold Clauses.accept clauses (⟨keywords, words, phase⟩ : WordLexer)).1 =
      match words.findSome? Lexeme.unclosed? with
      | some text => .error (.unterminatedIdentifier text)
      | none =>
        .ok { clauses with tableSources := clauses.tableSources ++ words.map Lexeme.text } := by
  -- the last word leads on to the end, every other one back to the same phase
  induction words generalizing clauses phase with
  | nil =>
    rw [fold_eq]
    rcases reached with rfl | ⟨rfl, _⟩ <;> simp [TokenSource.next, WordLexer.next]
  | cons word words ih =>
    obtain rfl : phase = .tableSource := by simpa using reached
    rw [List.findSome?_cons]
    cases closed : word.unclosed? with
    | some text =>
      obtain rfl := Lexeme.unclosed?_eq_some_iff.mp closed
      rw [fold_eq]
      rfl
    | none =>
      have accepted : clauses.accept ⟨.tableSource, word.text⟩
          (if words = [] then .finished else .tableSource) =
          .ok { clauses with tableSources := clauses.tableSources ++ [word.text] } := by
        split <;> rfl
      rw [fold_of_takes (.tableSource closed) accepted, ih _ (by split <;> simp [*]), List.map_cons]
      simp only [List.append_assoc, List.singleton_append]

theorem fold_selectList (clauses : Clauses) (words : List Lexeme) :
    (fold Clauses.accept clauses (⟨keywords, words, .selectList⟩ : WordLexer)).1 =
      match words.findSome? Lexeme.unclosed? with
      | some text => .error (.unterminatedIdentifier text)
      | none => .ok
        { columns := clauses.columns ++ (words.takeWhile (¬keywords.Marks "FROM" ·)).map Lexeme.text
          tableSources := clauses.tableSources ++
            (words.dropWhile (¬keywords.Marks "FROM" ·)).tail.map Lexeme.text } := by
  induction words generalizing clauses with
  | nil =>
    rw [fold_eq]
    simp [TokenSource.next, WordLexer.next]
  | cons word words ih =>
    rw [List.findSome?_cons]
    cases closed : word.unclosed? with
    | some text =>
      obtain rfl := Lexeme.unclosed?_eq_some_iff.mp closed
      rw [fold_eq]
      rfl
    | none =>
      by_cases marks : keywords.Marks "FROM" word
      · rw [fold_of_takes (.source marks) (show clauses.accept _ _ = .ok clauses from rfl),
          fold_tableSource clauses words (.inl rfl)]
        simp [marks]
      · have accepted : clauses.accept ⟨.column, word.text⟩ .selectList =
            .ok { clauses with columns := clauses.columns ++ [word.text] } := rfl
        rw [fold_of_takes (.column closed marks) accepted, ih]
        simp [marks]

theorem parts_toQuery (clauses : Clauses) :
    clauses.toQuery.map Query.parts = verdictOfClauses clauses.columns clauses.tableSources := by
  obtain ⟨columns, tableSources⟩ := clauses
  cases columns with
  | nil => rfl
  | cons column columns =>
    cases tableSources with
    | nil => rfl
    | cons source sources => cases sources <;> rfl

theorem verdict_of_fold (words : List Lexeme) :
    ((fold Clauses.accept {} (ofWords keywords words)).1.bind fun clauses =>
      verdictOfClauses clauses.columns clauses.tableSources) = verdict keywords words := by
  cases words with
  | nil =>
    rw [fold_eq]
    rfl
  | cons first words =>
    by_cases select : keywords.Marks "SELECT" first
    · rw [ofWords, fold_of_takes (.select select) (show Clauses.accept {} _ _ = .ok {} from rfl),
        fold_selectList]
      obtain ⟨name, rfl, _⟩ := KeywordRule.eq_bare_of_marks select
      simp only [verdict, if_pos select, verdictOfRest]
      cases words.findSome? Lexeme.unclosed? <;> rfl
    · rw [fold_eq]
      cases first with
      | unclosed name => rfl
      | bare name | bracketed name =>
        simp [ofWords, TokenSource.next, WordLexer.next, verdict, select]
        rfl

end Fold

theorem parts_ofText (keywords : KeywordRule) (text : String) :
    (Query.ofText keywords text).map Query.parts =
      verdict keywords (Lexeme.ofText text.toList) := by
  have folded := Lexer.simulates_reads.fold Clauses.accept {} (Lexer.reads_ofText keywords text)
  rw [← verdict_of_fold, ← folded.1, Query.ofText, Query.ofSource]
  cases TokenSource.fold Clauses.accept {} (Lexer.ofText keywords text) with
  | mk result rest =>
    cases result with
    | error error => rfl
    | ok clauses => exact parts_toQuery clauses

theorem Query.parts_inj {a b : Query} : a.parts = b.parts ↔ a = b := by
  cases a
  cases b
  simp [Query.parts]

theorem ofText_eq_ok_iff {text : String} {query : Query} :
    Query.ofText keywords text = .ok query ↔
      verdict keywords (Lexeme.ofText text.toList) = .ok query.parts := by
  rw [← parts_ofText]
  cases Query.ofText keywords text with
  | error error => simp [Except.map]
  | ok found => simp [Except.map, Query.parts_inj]

example : verdict {} [.bare "Select", .bracketed "FROM", .bare "frOM", .bare "from"] =
    .ok (["FROM"], "from") := by decide

theorem verdictOfClauses_eq_ok {columns tableSources : List String} {result : List String × String}
    (accepted : verdictOfClauses columns tableSources = .ok result) :
    columns ≠ [] ∧ columns = result.1 ∧ tableSources = [result.2] := by
  cases columns with
  | nil => cases accepted
  | cons column columns =>
    cases tableSources with
    | nil => cases accepted
    | cons source sources =>
      cases sources with
      | nil =>
        cases accepted
        simp
      | cons _ _ => cases accepted

theorem eq_append_of_behind {words rest : List Lexeme} {divider : Lexeme}
    (behind : words.dropWhile (¬keywords.Marks "FROM" ·) = divider :: rest) :
    words = words.takeWhile (¬keywords.Marks "FROM" ·) ++ divider :: rest ∧
      keywords.Marks "FROM" divider := by
  have stop := List.head?_dropWhile_not (fun word => decide (¬keywords.Marks "FROM" word)) words
  rw [behind] at stop
  rw [← behind, List.takeWhile_append_dropWhile]
  exact ⟨rfl, by simpa using stop⟩

theorem selects_of_verdict {words : List Lexeme} {columns : List String} {tableSource : String}
    (accepted : verdict keywords words = .ok (columns, tableSource)) :
    Selects keywords words columns tableSource := by
  cases words with
  | nil => cases accepted
  | cons first words =>
    by_cases select : keywords.Marks "SELECT" first
    · obtain ⟨name, rfl, spells⟩ := KeywordRule.eq_bare_of_marks select
      simp only [verdict, if_pos select, verdictOfRest] at accepted
      cases closed : words.findSome? Lexeme.unclosed? with
      | some _ => simp [closed] at accepted
      | none =>
        rw [closed] at accepted
        obtain ⟨some_column, rfl, sources⟩ := verdictOfClauses_eq_ok accepted
        have all_closed := List.findSome?_eq_none_iff.mp closed
        generalize behind : words.dropWhile (¬keywords.Marks "FROM" ·) = rest at sources
        match rest, sources with
        | [], sources => cases sources
        | divider :: rest, sources =>
          obtain ⟨source, rfl, rfl⟩ := List.map_eq_singleton_iff.mp sources
          obtain ⟨cut, divides⟩ := eq_append_of_behind behind
          obtain ⟨divider, rfl, fromKeyword⟩ := KeywordRule.eq_bare_of_marks divides
          have columns : ∀ form ∈ words.takeWhile (¬keywords.Marks "FROM" ·),
              form.unclosed? = none ∧ ¬keywords.Marks "FROM" form := by
            intro form member
            exact ⟨all_closed form (List.takeWhile_subset _ member),
              by simpa using List.mem_takeWhile_imp member⟩
          have source_closed := all_closed source (by rw [cut]; simp)
          have selects := Selects.intro spells (by simpa using some_column) columns fromKeyword
            source_closed
          rwa [← cut] at selects
    · cases first <;> simp [verdict, select] at accepted

theorem verdict_of_selects {words : List Lexeme} {columns : List String} {tableSource : String}
    (selects : Selects keywords words columns tableSource) :
    verdict keywords words = .ok (columns, tableSource) := by
  obtain @⟨first, divider, forms, source, select, some_column, columns, fromKeyword, closed⟩ :=
    selects
  have all_closed : (forms ++ [.bare divider, source]).findSome? Lexeme.unclosed? = none := by
    rw [List.findSome?_eq_none_iff]
    intro word member
    simp only [List.mem_append, List.mem_cons, List.not_mem_nil, or_false] at member
    rcases member with member | rfl | rfl
    · exact (columns word member).1
    · rfl
    · exact closed
  have inside : ∀ form ∈ forms, decide (¬keywords.Marks "FROM" form) = true := by
    intro form member
    simpa using (columns form member).2
  have stop : ∀ word ∈ ([.bare divider, source] : List Lexeme).head?,
      decide (¬keywords.Marks "FROM" word) = false := by
    have divides : keywords.Marks "FROM" (.bare divider) := fromKeyword
    simpa using divides
  have select : keywords.Marks "SELECT" (.bare first) := select
  simp only [verdict, if_pos select, verdictOfRest, all_closed, takeWhile_append_stop inside stop,
    dropWhile_append_stop inside stop, List.tail_cons, List.map_cons, List.map_nil]
  cases forms with
  | nil => exact absurd rfl some_column
  | cons form forms => rfl

theorem exists_word_of_selects {words : List Lexeme} {columns : List String}
    {tableSource name : String} (selects : Selects keywords words columns tableSource)
    (member : name ∈ columns ++ [tableSource]) :
    ∃ word ∈ words, word.unclosed? = none ∧ word.text = name := by
  obtain @⟨first, divider, forms, source, _, _, closed, _, source_closed⟩ := selects
  rcases List.mem_append.mp member with member | member
  · obtain ⟨form, inside, rfl⟩ := List.mem_map.mp member
    exact ⟨form, by simp [inside], (closed form inside).1, rfl⟩
  · obtain rfl := List.mem_singleton.mp member
    exact ⟨source, by simp, source_closed, rfl⟩

/-- The accepted statements are those of the grammar, and no text can be cut into words twice. -/
theorem ofText_accepts_iff_selects (keywords : KeywordRule) (text : String) (columns : List String)
    (tableSource : String) :
    ((∃ query, Query.ofText keywords text = .ok query ∧ query.columns = columns ∧
          query.tableSource = tableSource) ↔
        ∃ writing : Writing, writing.IsOf text.toList ∧
          Selects keywords writing.items columns tableSource) ∧
      ∃! writing : Writing, writing.IsOf text.toList := by
  have judged := parts_ofText keywords text
  obtain ⟨writing, is_of, unique⟩ := Writing.existsUnique_isOf text.toList
  refine ⟨⟨?_, ?_⟩, writing, is_of, unique⟩
  · rintro ⟨query, accepted, rfl, rfl⟩
    refine ⟨writing, is_of, selects_of_verdict ?_⟩
    rw [is_of.items_eq, ← judged, accepted]
    rfl
  · rintro ⟨writing, is_of, selects⟩
    have accepted := verdict_of_selects selects
    rw [is_of.items_eq, ← judged] at accepted
    cases result : Query.ofText keywords text with
    | error error => simp [result, Except.map] at accepted
    | ok query =>
      simp only [result, Except.map, Query.parts, Except.ok.injEq, Prod.mk.injEq] at accepted
      exact ⟨query, rfl, accepted⟩

def QueryError.RefusesText : QueryError → Prop
  | unexpectedStart _ | unterminatedIdentifier _ | emptySelectList | missingTableSource
  | multipleTableSources _ => True
  | _ => False

theorem refusesText_of_verdictOfClauses {columns tableSources : List String} {error : QueryError}
    (refused : verdictOfClauses columns tableSources = .error error) :
    error.RefusesText ∧ ∀ name, error ≠ .unterminatedIdentifier name := by
  unfold verdictOfClauses at refused
  split at refused <;> cases refused <;> exact ⟨trivial, nofun⟩

theorem refusesText_of_verdict {words : List Lexeme} {error : QueryError}
    (refused : verdict keywords words = .error error) :
    error.RefusesText ∧ ∀ name, error = .unterminatedIdentifier name → .unclosed name ∈ words := by
  cases words with
  | nil =>
    cases refused
    exact ⟨trivial, nofun⟩
  | cons first words =>
    by_cases select : keywords.Marks "SELECT" first
    · obtain ⟨start, rfl, _⟩ := KeywordRule.eq_bare_of_marks select
      simp only [verdict, if_pos select, verdictOfRest] at refused
      cases unclosed : words.findSome? Lexeme.unclosed? with
      | some text =>
        rw [unclosed] at refused
        obtain ⟨word, member, found⟩ := List.exists_of_findSome?_eq_some unclosed
        obtain rfl := Lexeme.unclosed?_eq_some_iff.mp found
        cases refused
        refine ⟨trivial, fun name same => ?_⟩
        cases same
        exact List.mem_cons_of_mem _ member
      | none =>
        rw [unclosed] at refused
        obtain ⟨allowed, closed⟩ := refusesText_of_verdictOfClauses refused
        exact ⟨allowed, fun name same => absurd same (closed name)⟩
    · cases first with
      | unclosed text =>
        cases refused
        refine ⟨trivial, fun name same => ?_⟩
        cases same
        exact List.mem_cons_self
      | bare text | bracketed text =>
        simp only [verdict, if_neg select] at refused
        cases refused
        exact ⟨trivial, nofun⟩

theorem suffix_of_unclosed_mem {writing : Writing} (proper : writing.Proper) {name : String}
    (member : .unclosed name ∈ writing.items) : '[' :: name.toList <:+ writing.text := by
  induction writing with
  | done trailing => cases member
  | word gap item rest ih =>
    rw [Writing.items, List.mem_cons] at member
    rw [Writing.text, ← List.append_assoc]
    rcases member with rfl | member
    · rw [show rest = .done [] from proper.2.2.1, Writing.text, List.append_nil]
      exact List.suffix_append gap _
    · exact (ih proper.2.2.2 member).trans (List.suffix_append _ _)

/-- Every text has its verdict, an open bracket is reported with all the text behind it, and no
other error comes up. -/
theorem ofText_gives_verdict (keywords : KeywordRule) (text : String) :
    ∃ writing : Writing, writing.IsOf text.toList ∧
      (∀ other : Writing, other.IsOf text.toList → other = writing) ∧
      (Query.ofText keywords text).map Query.parts = verdict keywords writing.items ∧
      ∀ error, Query.ofText keywords text = .error error →
        error.RefusesText ∧
          ∀ name, error = .unterminatedIdentifier name → '[' :: name.toList <:+ text.toList := by
  have judged := parts_ofText keywords text
  obtain ⟨writing, is_of, unique⟩ := Writing.existsUnique_isOf text.toList
  rw [← is_of.items_eq] at judged
  refine ⟨writing, is_of, unique, judged, fun error refused => ?_⟩
  rw [refused] at judged
  obtain ⟨allowed, behind_bracket⟩ := refusesText_of_verdict judged.symm
  refine ⟨allowed, fun name same => ?_⟩
  rw [← is_of.text_eq]
  exact suffix_of_unclosed_mem is_of.proper (behind_bracket name same)

end Projection
