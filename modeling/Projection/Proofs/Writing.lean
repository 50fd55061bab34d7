import Mathlib.Data.List.TakeWhile
import Projection.Lexeme

/-! How a text is written as a line of words. A writing gives each word with the separators before
it; a bare word needs one between itself and the next, a bracket ends itself. Every text has exactly
one proper writing, and its words are the items of the text. -/

set_option autoImplicit false

namespace Projection

def separators : List Char := ['\r', '\n', '\t', ' ', ',']

theorem isSeparator_iff {c : Char} : isSeparator c = true ↔ c ∈ separators := by
  simp [isSeparator, separators, or_assoc]

theorem isSeparator_eq_false_iff {c : Char} : isSeparator c = false ↔ c ∉ separators := by
  rw [← isSeparator_iff, Bool.not_eq_true]

namespace Lexeme

def written : Lexeme → List Char
  | bare text => text.toList
  | bracketed text => '[' :: text.toList ++ [']']
  | unclosed text => '[' :: text.toList

def Proper : Lexeme → Prop
  | bare text =>
    text.toList ≠ [] ∧ (∀ c ∈ text.toList, c ∉ separators) ∧ text.toList.head? ≠ some '['
  | bracketed text | unclosed text => ']' ∉ text.toList

end Lexeme

/-- The words of a text, each behind its separators, and the separators at the end. -/
inductive Writing where
  | done (trailing : List Char)
  | word (gap : List Char) (item : Lexeme) (rest : Writing)
  deriving DecidableEq, Repr

namespace Writing

def text : Writing → List Char
  | done trailing => trailing
  | word gap item rest => gap ++ (item.written ++ rest.text)

def items : Writing → List Lexeme
  | done _ => []
  | word _ item rest => item :: rest.items

/-- What may come directly behind an item. Another word needs a separator behind a bare one, and
nothing at all is left behind a bracket that is never closed. -/
def Follows : Lexeme → Writing → Prop
  | .bare _, word gap _ _ => gap ≠ []
  | .bare _, done _ | .bracketed _, _ => True
  | .unclosed _, rest => rest = done []

def Proper : Writing → Prop
  | done trailing => ∀ c ∈ trailing, c ∈ separators
  | word gap item rest =>
    (∀ c ∈ gap, c ∈ separators) ∧ item.Proper ∧ Follows item rest ∧ rest.Proper

structure IsOf (writing : Writing) (text : List Char) : Prop where
  proper : writing.Proper
  text_eq : writing.text = text

end Writing

theorem takeWhile_append_stop {α : Type} {p : α → Bool} {front back : List α}
    (all : ∀ c ∈ front, p c) (stop : ∀ c ∈ back.head?, p c = false) :
    (front ++ back).takeWhile p = front := by
  rw [List.takeWhile_append_of_pos all]
  cases back with
  | nil => simp
  | cons c back => simp [stop c (by simp)]

theorem dropWhile_append_stop {α : Type} {p : α → Bool} {front back : List α}
    (all : ∀ c ∈ front, p c) (stop : ∀ c ∈ back.head?, p c = false) :
    (front ++ back).dropWhile p = back := by
  rw [List.dropWhile_append_of_pos all]
  cases back with
  | nil => simp
  | cons c back => simp [stop c (by simp)]

theorem skipSeparators_append {gap rest : List Char} (separate : ∀ c ∈ gap, c ∈ separators) :
    skipSeparators (gap ++ rest) = skipSeparators rest :=
  List.dropWhile_append_of_pos fun c hc => isSeparator_iff.mpr (separate c hc)

theorem skipSeparators_eq_nil_iff {text : List Char} :
    skipSeparators text = [] ↔ ∀ c ∈ text, c ∈ separators := by
  simp only [skipSeparators, List.dropWhile_eq_nil_iff, isSeparator_iff]

theorem not_mem_separators_of_skipSeparators {text rest : List Char} {c : Char}
    (left : skipSeparators text = c :: rest) : c ∉ separators := by
  have stop := List.head?_dropWhile_not isSeparator text
  rw [skipSeparators] at left
  rw [left] at stop
  exact isSeparator_eq_false_iff.mp (by simpa using stop)

theorem skipSeparators_cons {c : Char} {rest : List Char} (word : c ∉ separators) :
    skipSeparators (c :: rest) = c :: rest :=
  List.dropWhile_cons_of_neg (by simpa [isSeparator_iff] using word)

@[simp] theorem skipSeparators_skipSeparators (text : List Char) :
    skipSeparators (skipSeparators text) = skipSeparators text := by
  cases left : skipSeparators text with
  | nil => rfl
  | cons c rest => exact skipSeparators_cons (not_mem_separators_of_skipSeparators left)

namespace Lexeme

theorem exists_written_eq_cons {item : Lexeme} (proper : item.Proper) :
    ∃ c rest, item.written = c :: rest ∧ c ∉ separators := by
  cases item with
  | bare text =>
    obtain ⟨ne_nil, inside, _⟩ := proper
    obtain ⟨c, rest, eq⟩ := List.exists_cons_of_ne_nil ne_nil
    exact ⟨c, rest, eq, inside c (by simp [eq])⟩
  | bracketed text => exact ⟨'[', text.toList ++ [']'], rfl, by decide⟩
  | unclosed text => exact ⟨'[', text.toList, rfl, by decide⟩

theorem ofBracket_closed {name rest : List Char} (inside : ']' ∉ name) :
    ofBracket (name ++ ']' :: rest) = (bracketed (String.ofList name), skipSeparators rest) := by
  have all : ∀ c ∈ name, (c != ']') = true := by
    intro c hc
    simpa using fun same : c = ']' => inside (same ▸ hc)
  have stop : ∀ c ∈ (']' :: rest).head?, (c != ']') = false := by simp
  simp only [ofBracket, dropWhile_append_stop all stop, takeWhile_append_stop all stop]

theorem ofBracket_unclosed {name : List Char} (inside : ']' ∉ name) :
    ofBracket name = (unclosed (String.ofList name), []) := by
  have all : name.dropWhile (· != ']') = [] := by
    rw [List.dropWhile_eq_nil_iff]
    intro c hc
    simpa using fun same : c = ']' => inside (same ▸ hc)
  simp only [ofBracket, all]

theorem ofHead_bare {c : Char} {word rest : List Char} (start : c ≠ '[')
    (inside : ∀ c ∈ word, c ∉ separators) (stop : ∀ c ∈ rest.head?, c ∈ separators) :
    ofHead c (word ++ rest) = (bare (String.ofList (c :: word)), rest) := by
  have all : ∀ c ∈ word, (!isSeparator c) = true := by
    intro c hc
    simpa [isSeparator_eq_false_iff] using inside c hc
  have stop : ∀ c ∈ rest.head?, (!isSeparator c) = false := by
    intro c hc
    simpa [isSeparator_iff] using stop c hc
  simp only [ofHead, if_neg start, dropWhile_append_stop all stop, takeWhile_append_stop all stop]

theorem next_eq_none {text : List Char} (separate : ∀ c ∈ text, c ∈ separators) :
    next text = (none, []) := by
  simp only [next, skipSeparators_eq_nil_iff.mpr separate]

theorem next_of_head {gap rest : List Char} {c : Char} (separate : ∀ c ∈ gap, c ∈ separators)
    (word : c ∉ separators) :
    next (gap ++ c :: rest) = (some (ofHead c rest).1, (ofHead c rest).2) := by
  simp only [next, skipSeparators_append separate, skipSeparators_cons word]

theorem next_skipSeparators (text : List Char) : next (skipSeparators text) = next text := by
  simp only [next, skipSeparators_skipSeparators]

theorem ofText_eq (text : List Char) :
    ofText text = match (next text).1 with
      | none => []
      | some item => item :: ofText (next text).2 := by
  rw [ofText]
  split <;> simp [*]

@[simp] theorem ofText_nil : ofText [] = [] := by
  rw [ofText_eq, next_eq_none (by simp)]

@[simp] theorem ofText_skipSeparators (text : List Char) :
    ofText (skipSeparators text) = ofText text := by
  rw [ofText_eq, ofText_eq text, next_skipSeparators]

theorem ofText_eq_nil_iff {text : List Char} : ofText text = [] ↔ skipSeparators text = [] := by
  rw [ofText_eq, next]
  cases skipSeparators text <;> simp

theorem eq_nil_of_next {text rest : List Char} (found : next text = (none, rest)) : rest = [] := by
  unfold next at found
  split at found
  · exact (congrArg Prod.snd found).symm
  · cases found

end Lexeme

namespace Writing

def Stops : Lexeme → List Char → Prop
  | .bare _, after => ∀ c ∈ after.head?, c ∈ separators
  | .bracketed _, _ => True
  | .unclosed _, after => after = []

theorem follows_iff_stops {item : Lexeme} {rest : Writing} (proper : rest.Proper) :
    Follows item rest ↔ Stops item rest.text := by
  cases rest with
  | done trailing =>
    cases item with
    | bare name =>
      have stops : Stops (.bare name) (done trailing).text :=
        fun c head => proper c (List.mem_of_mem_head? head)
      exact ⟨fun _ => stops, fun _ => trivial⟩
    | bracketed _ => exact Iff.rfl
    | unclosed _ => simp [Follows, Stops, text]
  | word gap next rest =>
    obtain ⟨c, tail, eq, start⟩ := Lexeme.exists_written_eq_cons proper.2.1
    cases item with
    | bare _ =>
      cases gap with
      | nil => simp [Follows, Stops, text, eq, start]
      | cons d gap => simp [Follows, Stops, text, proper.1 d (by simp)]
    | bracketed _ => exact Iff.rfl
    | unclosed _ => simp [Follows, Stops, text, eq]

theorem next_text {gap : List Char} {item : Lexeme} {rest : Writing}
    (proper : (word gap item rest).Proper) :
    (Lexeme.next (word gap item rest).text).1 = some item ∧
      skipSeparators (Lexeme.next (word gap item rest).text).2 = skipSeparators rest.text := by
  obtain ⟨separate, spelled, follows, proper⟩ := proper
  cases item with
  | bare name =>
    obtain ⟨ne_nil, inside, start⟩ := spelled
    obtain ⟨c, tail, eq⟩ := List.exists_cons_of_ne_nil ne_nil
    simp only [eq, List.head?_cons, ne_eq, Option.some.injEq] at start
    rw [eq] at inside
    have tail_inside : ∀ c ∈ tail, c ∉ separators := fun c hc => inside c (by simp [hc])
    have head := Lexeme.ofHead_bare start tail_inside ((follows_iff_stops proper).mp follows)
    simp only [text, Lexeme.written, eq, List.cons_append,
      Lexeme.next_of_head separate (inside c (by simp)), head]
    simp [← eq]
  | bracketed name =>
    have bracket : '[' ∉ separators := by decide
    simp [text, Lexeme.written, Lexeme.next_of_head separate bracket, Lexeme.ofHead,
      Lexeme.ofBracket_closed spelled]
  | unclosed name =>
    have bracket : '[' ∉ separators := by decide
    subst follows
    simp [text, Lexeme.written, Lexeme.next_of_head separate bracket, Lexeme.ofHead,
      Lexeme.ofBracket_unclosed spelled]

theorem ofText_text {writing : Writing} (proper : writing.Proper) :
    Lexeme.ofText writing.text = writing.items := by
  induction writing with
  | done trailing =>
    rw [Lexeme.ofText_eq, text, Lexeme.next_eq_none proper]
    rfl
  | word gap item rest ih =>
    obtain ⟨found, left⟩ := next_text proper
    rw [Lexeme.ofText_eq, found, items, ← ih proper.2.2.2]
    simp only [List.cons.injEq, true_and]
    rw [← Lexeme.ofText_skipSeparators, left, Lexeme.ofText_skipSeparators]

theorem proper_of_mem_items {writing : Writing} (proper : writing.Proper) {item : Lexeme}
    (member : item ∈ writing.items) : item.Proper := by
  induction writing with
  | done trailing => cases member
  | word gap first rest ih =>
    rcases List.mem_cons.mp member with rfl | member
    · exact proper.2.1
    · exact ih proper.2.2.2 member

theorem takeWhile_text {gap : List Char} {item : Lexeme} {rest : Writing}
    (proper : (word gap item rest).Proper) :
    (word gap item rest).text.takeWhile isSeparator = gap := by
  obtain ⟨c, tail, eq, start⟩ := Lexeme.exists_written_eq_cons proper.2.1
  apply takeWhile_append_stop fun c hc => isSeparator_iff.mpr (proper.1 c hc)
  intro d head
  simp only [eq, List.cons_append, List.head?_cons, Option.mem_some_iff] at head
  exact isSeparator_eq_false_iff.mpr (head ▸ start)

theorem eq_of_text_eq {a b : Writing} (proper_a : a.Proper) (proper_b : b.Proper)
    (same : a.text = b.text) : a = b := by
  induction a generalizing b with
  | done trailing =>
    cases b with
    | done trailing' => exact congrArg done same
    | word gap item rest =>
      have found := (next_text proper_b).1
      rw [← same, text, Lexeme.next_eq_none proper_a] at found
      cases found
  | word gap item rest ih =>
    cases b with
    | done trailing =>
      have found := (next_text proper_a).1
      rw [same, text, Lexeme.next_eq_none proper_b] at found
      cases found
    | word gap' item' rest' =>
      have same_gap : gap = gap' := by
        rw [← takeWhile_text proper_a, same, takeWhile_text proper_b]
      have same_item : item = item' := by
        have found := (next_text proper_a).1
        rw [same, (next_text proper_b).1] at found
        exact (Option.some.inj found).symm
      subst same_gap same_item
      have same_rest : rest.text = rest'.text :=
        List.append_cancel_left (List.append_cancel_left same)
      rw [ih proper_a.2.2.2 proper_b.2.2.2 same_rest]

theorem exists_item {c : Char} (start : c ∉ separators) (tail : List Char) :
    ∃ (item : Lexeme) (after : List Char), item.Proper ∧ item.written ++ after = c :: tail ∧
      Stops item after ∧ after.length ≤ tail.length := by
  by_cases bracket : c = '['
  · subst bracket
    by_cases closed : ']' ∈ tail
    · obtain ⟨name, after, rfl, inside⟩ := List.eq_append_cons_of_mem closed
      refine ⟨.bracketed (String.ofList name), after, ?_, ?_, trivial, ?_⟩
      · simpa [Lexeme.Proper] using inside
      · simp [Lexeme.written]
      · simp; omega
    · refine ⟨.unclosed (String.ofList tail), [], ?_, ?_, rfl, Nat.zero_le _⟩
      · simpa [Lexeme.Proper] using closed
      · simp [Lexeme.written]
  · refine ⟨.bare (String.ofList (c :: tail.takeWhile (!isSeparator ·))),
      tail.dropWhile (!isSeparator ·), ?_, ?_, ?_, (List.dropWhile_suffix _).length_le⟩
    · refine ⟨by simp, ?_, by simpa using bracket⟩
      intro d member
      rw [String.toList_ofList, List.mem_cons] at member
      rcases member with rfl | member
      · exact start
      · simpa [isSeparator_eq_false_iff] using List.mem_takeWhile_imp member
    · simp [Lexeme.written]
    · intro d head
      have stop := List.head?_dropWhile_not (!isSeparator ·) tail
      rw [Option.mem_def.mp head] at stop
      simpa [isSeparator_iff] using stop

theorem exists_isOf (text : List Char) : ∃ writing : Writing, writing.IsOf text := by
  -- the rest behind the first item is shorter than the text
  induction size : text.length using Nat.strong_induction_on generalizing text with
  | _ size ih =>
    subst size
    have shorter := skipSeparators_length_le text
    have cut : text.takeWhile isSeparator ++ skipSeparators text = text :=
      List.takeWhile_append_dropWhile
    have gap : ∀ c ∈ text.takeWhile isSeparator, c ∈ separators :=
      fun c hc => isSeparator_iff.mp (List.mem_takeWhile_imp hc)
    cases left : skipSeparators text with
    | nil => exact ⟨done text, skipSeparators_eq_nil_iff.mp left, rfl⟩
    | cons c tail =>
      obtain ⟨item, after, spelled, eq, stops, no_longer⟩ :=
        exists_item (not_mem_separators_of_skipSeparators left) tail
      rw [left, List.length_cons] at shorter
      obtain ⟨rest, proper, rfl⟩ := ih after.length (by omega) after rfl
      refine ⟨word (text.takeWhile isSeparator) item rest,
        ⟨gap, spelled, (follows_iff_stops proper).mpr stops, proper⟩, ?_⟩
      rw [Writing.text, eq, ← left, cut]

theorem existsUnique_isOf (text : List Char) : ∃! writing : Writing, writing.IsOf text := by
  obtain ⟨writing, is_of⟩ := exists_isOf text
  refine ⟨writing, is_of, fun other other_is_of => ?_⟩
  exact eq_of_text_eq other_is_of.proper is_of.proper (other_is_of.text_eq.trans is_of.text_eq.symm)

theorem IsOf.items_eq {writing : Writing} {text : List Char} (is_of : writing.IsOf text) :
    writing.items = Lexeme.ofText text := by
  rw [← is_of.text_eq, ofText_text is_of.proper]

end Writing

end Projection
