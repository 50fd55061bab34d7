import Mathlib.Data.List.Forall2
import Projection.Json.Container
import Projection.Json.Writer
import Projection.Proofs.Json.Reads

set_option autoImplicit false

namespace Projection.Json

variable {α σ : Type}

namespace Style

def others (style : Style) (level : Nat) (closing : Char) : List (List Char) → List Char
  | [] => style.gap level ++ [closing]
  | part :: parts =>
    ',' :: (style.gap (level + 1) ++ (part ++ style.others level closing parts))

def contents (style : Style) (level : Nat) (closing : Char) : List (List Char) → List Char
  | [] => [closing]
  | part :: parts => style.gap (level + 1) ++ (part ++ style.others level closing parts)

def list (style : Style) (level : Nat) (items : List (List Char)) : List Char :=
  '[' :: style.contents level ']' items

def entry (style : Style) (entry : String × List Char) : List Char :=
  Quoted.write entry.1 ++ (style.colon ++ entry.2)

def object (style : Style) (level : Nat) (entries : List (String × List Char)) : List Char :=
  '{' :: style.contents level '}' (entries.map style.entry)

variable (style : Style) (level : Nat)

theorem writeItems_eq (items : List Json) :
    writeItems style level items = style.others level ']' (items.map (write style (level + 1))) := by
  induction items with
  | nil => rw [writeItems, List.map_nil, others]
  | cons item items ih => rw [writeItems, ih, List.map_cons, others, List.append_assoc]

theorem write_array (items : List Json) :
    write style level (.array items) = style.list level (items.map (write style (level + 1))) := by
  cases items with
  | nil => rw [write, List.map_nil, list, contents]
  | cons item items => rw [write, writeItems_eq, List.map_cons, list, contents, List.append_assoc]

theorem writeEntries_eq (entries : List (String × Json)) :
    writeEntries style level entries = style.others level '}'
      (entries.map fun (key, value) => style.entry (key, write style (level + 1) value)) := by
  induction entries with
  | nil => rw [writeEntries, List.map_nil, others]
  | cons first entries ih => simp [writeEntries, ih, others, entry]

theorem write_object (entries : List (String × Json)) :
    write style level (.object entries) =
      style.object level (entries.map fun (key, value) => (key, write style (level + 1) value)) := by
  cases entries with
  | nil => rw [write, List.map_nil, object, List.map_nil, contents]
  | cons first entries =>
    simp [write, writeEntries_eq, object, contents, entry, Function.comp_def]

theorem isBlank_gap : ∀ c ∈ style.gap level, isBlank c = true := by
  cases style with
  | compact => simp [gap]
  | pretty => simp [gap, isBlank]

theorem entry_append (key : String) (text rest : List Char) :
    style.entry (key, text) ++ rest = Quoted.write key ++ (style.colon ++ (text ++ rest)) := by
  rw [entry, List.append_assoc, List.append_assoc]

theorem colon_eq : ∃ blanks, style.colon = ':' :: blanks ∧ ∀ c ∈ blanks, isBlank c = true := by
  cases style with
  | compact => exact ⟨[], rfl, by simp⟩
  | pretty => exact ⟨[' '], rfl, by simp [isBlank]⟩

theorem skipBlanks_colon : ∃ blanks, (∀ c ∈ blanks, isBlank c = true) ∧
    ∀ rest, skipBlanks (style.colon ++ rest) = ':' :: (blanks ++ rest) := by
  obtain ⟨blanks, written, all⟩ := style.colon_eq
  refine ⟨blanks, all, fun rest => ?_⟩
  rw [written]
  rfl

theorem ends_others {closing : Char} (closes : closing ∈ [',', ']', '}'])
    (parts : List (List Char)) (rest : List Char) :
    Ends (style.others level closing parts ++ rest) := by
  cases parts with
  | cons part parts => simp [Ends, others]
  | nil =>
    cases style with
    | compact =>
      intro c first
      cases first
      exact .inr closes
    | pretty => simp [Ends, others, gap, isBlank]

theorem skipBlanks_others (closing : Char) (part : List Char) (parts : List (List Char))
    (rest : List Char) :
    skipBlanks (style.others level closing (part :: parts) ++ rest) =
      ',' :: (style.gap (level + 1) ++ (part ++ (style.others level closing parts ++ rest))) := by
  rw [others, List.cons_append, List.append_assoc, List.append_assoc]
  rfl

theorem contents_append (closing : Char) (part : List Char) (parts : List (List Char))
    (rest : List Char) :
    style.contents level closing (part :: parts) ++ rest =
      style.gap (level + 1) ++ (part ++ (style.others level closing parts ++ rest)) := by
  rw [contents, List.append_assoc, List.append_assoc]

end Style

theorem skipBlanks_mark {blanks : List Char} (all : ∀ c ∈ blanks, isBlank c = true) {mark : Char}
    (solid : isBlank mark = false) (rest : List Char) :
    skipBlanks (blanks ++ mark :: rest) = mark :: rest := by
  rw [skipBlanks_append all]
  exact List.dropWhile_cons_of_neg (by simp [solid])

section Lists

variable {item : Reader α}

theorem took_takeItems_closing {text rest : List Char} (found : skipBlanks text = ']' :: rest) :
    Took (takeItems item text) [] rest := by
  unfold takeItems
  split
  · next none_left =>
    rw [none_left] at found
    cases found
  · next c tail start =>
    rw [start] at found
    cases found
    rw [if_pos rfl]
    exact ⟨_, rfl⟩

theorem takeItems_comma {text behind : List Char} (found : skipBlanks text = ',' :: behind) :
    ∃ no_longer : behind.length ≤ text.length, takeItems item text =
      match item.afterBlanks behind with
      | .error fault => .error fault
      | .ok first => (takeItems item first.rest).map fun others =>
        (first.andThen (others.map (first.value :: ·))).within no_longer := by
  refine ⟨Nat.le_of_lt (length_lt_of_skipBlanks found), ?_⟩
  rw [takeItems]
  split
  · next none_left =>
    rw [none_left] at found
    cases found
  · next c tail start =>
    rw [start] at found
    cases found
    exact (if_neg (by decide)).trans (if_pos rfl)

theorem took_takeItems_comma {text behind middle rest : List Char} {value : α} {values : List α}
    (found : skipBlanks text = ',' :: behind) (first : Took (item.afterBlanks behind) value middle)
    (others : Took (takeItems item middle) values rest) :
    Took (takeItems item text) (value :: values) rest := by
  obtain ⟨_, first⟩ := first
  obtain ⟨_, others⟩ := others
  obtain ⟨_, unfolded⟩ := takeItems_comma found
  rw [unfolded, first]
  simp only [others]
  exact ⟨_, rfl⟩

theorem took_takeItems {texts : List (List Char)} {values : List α}
    (reads : List.Forall₂ item.Reads texts values) (style : Style) (level : Nat) (rest : List Char) :
    Took (takeItems item (style.others level ']' texts ++ rest)) values rest := by
  induction reads with
  | nil =>
    apply took_takeItems_closing
    rw [Style.others, List.append_assoc]
    exact skipBlanks_mark (style.isBlank_gap level) rfl rest
  | @cons text value texts values first _ ih =>
    have found := style.skipBlanks_others level ']' text texts rest
    have ends := style.ends_others level (show ']' ∈ [',', ']', '}'] by decide) texts rest
    exact took_takeItems_comma found (first.afterBlanks (style.isBlank_gap _) ends) ih

theorem took_takeList_closing {text rest : List Char} (found : skipBlanks text = ']' :: rest) :
    Took (takeList item text) [] rest := by
  unfold takeList
  split
  · next tail start =>
    rw [start] at found
    cases found
    exact ⟨_, rfl⟩
  · next other =>
    exact absurd found (other rest)

theorem takeList_first {text : List Char} (other : ∀ tail, skipBlanks text ≠ ']' :: tail) :
    takeList item text =
      match item.afterBlanks text with
      | .error fault => .error fault
      | .ok first => (takeItems item first.rest).map fun others =>
        first.andThen (others.map (first.value :: ·)) := by
  unfold takeList
  split
  · next tail start => exact absurd start (other tail)
  · rfl

theorem took_takeList_first {text middle rest : List Char} {value : α} {values : List α}
    (other : ∀ tail, skipBlanks text ≠ ']' :: tail)
    (first : Took (item.afterBlanks text) value middle)
    (others : Took (takeItems item middle) values rest) :
    Took (takeList item text) (value :: values) rest := by
  obtain ⟨_, first⟩ := first
  obtain ⟨_, others⟩ := others
  rw [takeList_first other, first]
  simp only [others]
  exact ⟨_, rfl⟩

theorem reads_list {texts : List (List Char)} {values : List α}
    (reads : List.Forall₂ item.Reads texts values) (style : Style) (level : Nat) :
    (takeListOf item).Reads (style.list level texts) values := by
  refine ⟨⟨'[', _, rfl, rfl, by decide⟩, fun rest _ => ?_⟩
  have took : Took (takeList item (style.contents level ']' texts ++ rest)) values rest := by
    cases reads with
    | nil => exact took_takeList_closing rfl
    | @cons text value texts values first others =>
      have ends := style.ends_others level (show ']' ∈ [',', ']', '}'] by decide) texts rest
      rw [Style.contents_append]
      refine took_takeList_first ?_ (first.afterBlanks (style.isBlank_gap _) ends)
        (took_takeItems others style level rest)
      rw [skipBlanks_append (style.isBlank_gap _), skipBlanks_of_starts first.starts]
      obtain ⟨c, tail, rfl, _, no_end⟩ := first.starts
      intro tail start
      exact no_end (List.cons.inj start).1
  exact took_map took fun _ => ⟨rfl, rfl⟩

end Lists

section Objects

variable {entry : σ → String → Reader σ}

/-- Entries that are read one after the other, each from the state that the ones before it leave. -/
inductive Folds (entry : σ → String → Reader σ) (style : Style) :
    σ → List (String × List Char) → σ → Prop
  | nil (state : σ) : Folds entry style state [] state
  | cons {state next last : σ} {key : String} {text : List Char}
      {entries : List (String × List Char)}
      (first : ∀ rest, Ends rest → Took (entry state key (style.colon ++ (text ++ rest))) next rest)
      (others : Folds entry style next entries last) :
      Folds entry style state ((key, text) :: entries) last

theorem takeEntry_written (style : Style) (state : σ) (key : String) (text rest : List Char)
    {blanks : List Char} (all : ∀ c ∈ blanks, isBlank c = true) :
    ∃ no_longer : (style.colon ++ (text ++ rest)).length ≤
        (blanks ++ (style.entry (key, text) ++ rest)).length,
      takeEntry entry state (blanks ++ (style.entry (key, text) ++ rest)) =
        (entry state key (style.colon ++ (text ++ rest))).map (·.within no_longer) := by
  have quoted := skipBlanks_mark all (show isBlank '"' = false from rfl)
    (key.toList.flatMap Quoted.escape ++ '"' :: (style.colon ++ (text ++ rest)))
  obtain ⟨_, quote⟩ := took_takeMark quoted
  obtain ⟨_, name⟩ := Quoted.took_take key (style.colon ++ (text ++ rest))
  rw [style.entry_append, Quoted.write_append]
  simp only [takeEntry, quote, name]
  exact ⟨by simp only [List.length_append, List.length_cons]; omega, rfl⟩

theorem took_takeEntry {style : Style} {state next : σ} {key : String} {text blanks rest : List Char}
    (all : ∀ c ∈ blanks, isBlank c = true)
    (took : Took (entry state key (style.colon ++ (text ++ rest))) next rest) :
    Took (takeEntry entry state (blanks ++ (style.entry (key, text) ++ rest))) next rest := by
  obtain ⟨_, unfolded⟩ := takeEntry_written style state key text rest all
  rw [unfolded]
  exact took_map took fun _ => ⟨rfl, rfl⟩

theorem took_takeEntries_closing {state : σ} {text rest : List Char}
    (found : skipBlanks text = '}' :: rest) : Took (takeEntries entry state text) state rest := by
  unfold takeEntries
  split
  · next none_left =>
    rw [none_left] at found
    cases found
  · next c tail start =>
    rw [start] at found
    cases found
    rw [if_pos rfl]
    exact ⟨_, rfl⟩

theorem takeEntries_comma {state : σ} {text behind : List Char}
    (found : skipBlanks text = ',' :: behind) :
    ∃ no_longer : behind.length ≤ text.length, takeEntries entry state text =
      match takeEntry entry state behind with
      | .error fault => .error fault
      | .ok next => (takeEntries entry next.value next.rest).map fun others =>
        (next.andThen others).within no_longer := by
  refine ⟨Nat.le_of_lt (length_lt_of_skipBlanks found), ?_⟩
  rw [takeEntries]
  split
  · next none_left =>
    rw [none_left] at found
    cases found
  · next c tail start =>
    rw [start] at found
    cases found
    exact (if_neg (by decide)).trans (if_pos rfl)

theorem took_takeEntries_comma {state next last : σ} {text behind middle rest : List Char}
    (found : skipBlanks text = ',' :: behind)
    (first : Took (takeEntry entry state behind) next middle)
    (others : Took (takeEntries entry next middle) last rest) :
    Took (takeEntries entry state text) last rest := by
  obtain ⟨_, first⟩ := first
  obtain ⟨_, others⟩ := others
  obtain ⟨_, unfolded⟩ := takeEntries_comma found
  rw [unfolded, first]
  simp only [others]
  exact ⟨_, rfl⟩

theorem took_takeEntries {style : Style} {state last : σ} {entries : List (String × List Char)}
    (folds : Folds entry style state entries last) (level : Nat) (rest : List Char) :
    Took (takeEntries entry state (style.others level '}' (entries.map style.entry) ++ rest)) last
      rest := by
  induction folds with
  | nil state =>
    apply took_takeEntries_closing
    rw [List.map_nil, Style.others, List.append_assoc]
    exact skipBlanks_mark (style.isBlank_gap level) rfl rest
  | @cons state next last key text entries first _ ih =>
    have found := style.skipBlanks_others level '}' (style.entry (key, text))
      (entries.map style.entry) rest
    have ends := style.ends_others level (show '}' ∈ [',', ']', '}'] by decide)
      (entries.map style.entry) rest
    exact took_takeEntries_comma found (took_takeEntry (style.isBlank_gap _) (first _ ends)) ih

theorem took_takeObject_closing {state : σ} {text rest : List Char}
    (found : skipBlanks text = '}' :: rest) : Took (takeObject entry state text) state rest := by
  unfold takeObject
  split
  · next tail start =>
    rw [start] at found
    cases found
    exact ⟨_, rfl⟩
  · next other =>
    exact absurd found (other rest)

theorem takeObject_first {state : σ} {text : List Char}
    (other : ∀ tail, skipBlanks text ≠ '}' :: tail) :
    takeObject entry state text =
      match takeEntry entry state text with
      | .error fault => .error fault
      | .ok next => (takeEntries entry next.value next.rest).map next.andThen := by
  unfold takeObject
  split
  · next tail start => exact absurd start (other tail)
  · rfl

theorem took_takeObject_first {state next last : σ} {text middle rest : List Char}
    (other : ∀ tail, skipBlanks text ≠ '}' :: tail)
    (first : Took (takeEntry entry state text) next middle)
    (others : Took (takeEntries entry next middle) last rest) :
    Took (takeObject entry state text) last rest := by
  obtain ⟨_, first⟩ := first
  obtain ⟨_, others⟩ := others
  rw [takeObject_first other, first]
  simp only [others]
  exact ⟨_, rfl⟩

theorem took_takeObject {style : Style} {state last : σ} {entries : List (String × List Char)}
    (folds : Folds entry style state entries last) (level : Nat) (rest : List Char) :
    Took (takeObject entry state (style.contents level '}' (entries.map style.entry) ++ rest)) last
      rest := by
  cases folds with
  | nil => exact took_takeObject_closing rfl
  | @cons _ next _ key text entries first others =>
    have ends := style.ends_others level (show '}' ∈ [',', ']', '}'] by decide)
      (entries.map style.entry) rest
    rw [List.map_cons, Style.contents_append]
    refine took_takeObject_first ?_ (took_takeEntry (style.isBlank_gap _) (first _ ends))
      (took_takeEntries others level rest)
    rw [skipBlanks_append (style.isBlank_gap _)]
    intro tail start
    cases start

end Objects

end Projection.Json
