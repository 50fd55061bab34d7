import Projection.Proofs.Json.Value

/-! Values that are nested deeper than the reader goes. The first list or object that is too deep is
refused where it opens, and with it every list and object around it. -/

set_option autoImplicit false

namespace Projection.Json

variable {α σ : Type} {fault : Fault}

/-- The reader refuses what stands in the text, whatever stands behind it. -/
structure Reader.Refuses (reader : Reader α) (text : List Char) (fault : Fault) : Prop where
  starts : Starts text
  refused : ∀ rest, Ends rest → reader (text ++ rest) = .error fault

theorem refused_afterBlanks {reader : Reader α} {text : List Char}
    (refused : reader (skipBlanks text) = .error fault) :
    reader.afterBlanks text = .error fault := by
  rw [Reader.afterBlanks, refused]
  rfl

theorem Reader.Refuses.afterBlanks {reader : Reader α} {text : List Char}
    (refuses : reader.Refuses text fault) {blanks rest : List Char}
    (all : ∀ c ∈ blanks, isBlank c = true) (ends : Ends rest) :
    reader.afterBlanks (blanks ++ (text ++ rest)) = .error fault := by
  apply refused_afterBlanks
  rw [skipBlanks_append all, skipBlanks_of_starts refuses.starts]
  exact refuses.refused rest ends

theorem readAll_of_refuses {reader : Reader α} {text : String} {written : List Char}
    (refuses : reader.Refuses written fault) (same : text.toList = written) :
    readAll reader text = .error fault := by
  have refused := refuses.refused [] (by simp [Ends])
  rw [← skipBlanks_of_starts refuses.starts, List.append_nil, ← same] at refused
  rw [readAll, refused_afterBlanks refused]

section Lists

variable {item : Reader α}

inductive BreaksOff (item : Reader α) (fault : Fault) : List (List Char) → Prop
  | here {text : List Char} {texts : List (List Char)} (refuses : item.Refuses text fault) :
      BreaksOff item fault (text :: texts)
  | later {text : List Char} {texts : List (List Char)} {value : α} (reads : item.Reads text value)
      (others : BreaksOff item fault texts) : BreaksOff item fault (text :: texts)

theorem refused_takeItems_first {text behind : List Char} (found : skipBlanks text = ',' :: behind)
    (refused : item.afterBlanks behind = .error fault) : takeItems item text = .error fault := by
  obtain ⟨_, unfolded⟩ := takeItems_comma found
  rw [unfolded, refused]

theorem refused_takeItems_others {text behind middle : List Char} {value : α}
    (found : skipBlanks text = ',' :: behind) (first : Took (item.afterBlanks behind) value middle)
    (refused : takeItems item middle = .error fault) : takeItems item text = .error fault := by
  obtain ⟨_, first⟩ := first
  obtain ⟨_, unfolded⟩ := takeItems_comma found
  rw [unfolded, first]
  simp only [refused]
  rfl

theorem refused_takeItems {texts : List (List Char)} (breaks : BreaksOff item fault texts)
    (style : Style) (level : Nat) (rest : List Char) :
    takeItems item (style.others level ']' texts ++ rest) = .error fault := by
  induction breaks with
  | @here text texts refuses =>
    have found := style.skipBlanks_others level ']' text texts rest
    have ends := style.ends_others level (show ']' ∈ [',', ']', '}'] by decide) texts rest
    exact refused_takeItems_first found (refuses.afterBlanks (style.isBlank_gap _) ends)
  | @later text texts value reads _ ih =>
    have found := style.skipBlanks_others level ']' text texts rest
    have ends := style.ends_others level (show ']' ∈ [',', ']', '}'] by decide) texts rest
    exact refused_takeItems_others found (reads.afterBlanks (style.isBlank_gap _) ends) ih

theorem refused_takeList_first {text : List Char} (other : ∀ tail, skipBlanks text ≠ ']' :: tail)
    (refused : item.afterBlanks text = .error fault) : takeList item text = .error fault := by
  rw [takeList_first other, refused]

theorem refused_takeList_others {text middle : List Char} {value : α}
    (other : ∀ tail, skipBlanks text ≠ ']' :: tail)
    (first : Took (item.afterBlanks text) value middle)
    (refused : takeItems item middle = .error fault) : takeList item text = .error fault := by
  obtain ⟨_, first⟩ := first
  rw [takeList_first other, first]
  simp only [refused]
  rfl

theorem skipBlanks_ne_closing {blanks text rest : List Char} (starts : Starts text)
    (all : ∀ c ∈ blanks, isBlank c = true) (tail : List Char) :
    skipBlanks (blanks ++ (text ++ rest)) ≠ ']' :: tail := by
  rw [skipBlanks_append all, skipBlanks_of_starts starts]
  obtain ⟨c, others, rfl, _, no_end⟩ := starts
  intro start
  exact no_end (List.cons.inj start).1

theorem refuses_list {texts : List (List Char)} (breaks : BreaksOff item fault texts)
    (style : Style) (level : Nat) :
    (takeListOf item).Refuses (style.list level texts) fault := by
  refine ⟨⟨'[', _, rfl, rfl, by decide⟩, fun rest _ => ?_⟩
  have refused : takeList item (style.contents level ']' texts ++ rest) = .error fault := by
    have blank := style.isBlank_gap (level + 1)
    cases breaks with
    | @here text texts refuses =>
      have ends := style.ends_others level (show ']' ∈ [',', ']', '}'] by decide) texts rest
      rw [Style.contents_append]
      exact refused_takeList_first (skipBlanks_ne_closing refuses.starts blank)
        (refuses.afterBlanks blank ends)
    | @later text texts value reads others =>
      have ends := style.ends_others level (show ']' ∈ [',', ']', '}'] by decide) texts rest
      rw [Style.contents_append]
      exact refused_takeList_others (skipBlanks_ne_closing reads.starts blank)
        (reads.afterBlanks blank ends) (refused_takeItems others style level rest)
  rw [Style.list, List.cons_append, takeListOf, refused]
  rfl

end Lists

section Objects

variable {entry : σ → String → Reader σ}

inductive Breaks (entry : σ → String → Reader σ) (style : Style) (fault : Fault) :
    σ → List (String × List Char) → Prop
  | here {state : σ} {key : String} {text : List Char} {entries : List (String × List Char)}
      (refused : ∀ rest, Ends rest →
        entry state key (style.colon ++ (text ++ rest)) = .error fault) :
      Breaks entry style fault state ((key, text) :: entries)
  | later {state next : σ} {key : String} {text : List Char} {entries : List (String × List Char)}
      (first : ∀ rest, Ends rest → Took (entry state key (style.colon ++ (text ++ rest))) next rest)
      (others : Breaks entry style fault next entries) :
      Breaks entry style fault state ((key, text) :: entries)

theorem refused_takeEntry {style : Style} {state : σ} {key : String} {text blanks rest : List Char}
    (all : ∀ c ∈ blanks, isBlank c = true)
    (refused : entry state key (style.colon ++ (text ++ rest)) = .error fault) :
    takeEntry entry state (blanks ++ (style.entry (key, text) ++ rest)) = .error fault := by
  obtain ⟨_, unfolded⟩ := takeEntry_written style state key text rest all
  rw [unfolded, refused]
  rfl

theorem refused_takeEntries_first {state : σ} {text behind : List Char}
    (found : skipBlanks text = ',' :: behind) (refused : takeEntry entry state behind = .error fault) :
    takeEntries entry state text = .error fault := by
  obtain ⟨_, unfolded⟩ := takeEntries_comma found
  rw [unfolded, refused]

theorem refused_takeEntries_others {state next : σ} {text behind middle : List Char}
    (found : skipBlanks text = ',' :: behind)
    (first : Took (takeEntry entry state behind) next middle)
    (refused : takeEntries entry next middle = .error fault) :
    takeEntries entry state text = .error fault := by
  obtain ⟨_, first⟩ := first
  obtain ⟨_, unfolded⟩ := takeEntries_comma found
  rw [unfolded, first]
  simp only [refused]
  rfl

theorem refused_takeEntries {style : Style} {state : σ} {entries : List (String × List Char)}
    (breaks : Breaks entry style fault state entries) (level : Nat) (rest : List Char) :
    takeEntries entry state (style.others level '}' (entries.map style.entry) ++ rest) =
      .error fault := by
  induction breaks with
  | @here state key text entries refused =>
    have found := style.skipBlanks_others level '}' (style.entry (key, text))
      (entries.map style.entry) rest
    have ends := style.ends_others level (show '}' ∈ [',', ']', '}'] by decide)
      (entries.map style.entry) rest
    exact refused_takeEntries_first found (refused_takeEntry (style.isBlank_gap _) (refused _ ends))
  | @later state next key text entries first _ ih =>
    have found := style.skipBlanks_others level '}' (style.entry (key, text))
      (entries.map style.entry) rest
    have ends := style.ends_others level (show '}' ∈ [',', ']', '}'] by decide)
      (entries.map style.entry) rest
    exact refused_takeEntries_others found (took_takeEntry (style.isBlank_gap _) (first _ ends)) ih

theorem refused_takeObject_first {state : σ} {text : List Char}
    (other : ∀ tail, skipBlanks text ≠ '}' :: tail)
    (refused : takeEntry entry state text = .error fault) :
    takeObject entry state text = .error fault := by
  rw [takeObject_first other, refused]

theorem refused_takeObject_others {state next : σ} {text middle : List Char}
    (other : ∀ tail, skipBlanks text ≠ '}' :: tail)
    (first : Took (takeEntry entry state text) next middle)
    (refused : takeEntries entry next middle = .error fault) :
    takeObject entry state text = .error fault := by
  obtain ⟨_, first⟩ := first
  rw [takeObject_first other, first]
  simp only [refused]
  rfl

theorem refused_takeObject {style : Style} {state : σ} {entries : List (String × List Char)}
    (breaks : Breaks entry style fault state entries) (level : Nat) (rest : List Char) :
    takeObject entry state (style.contents level '}' (entries.map style.entry) ++ rest) =
      .error fault := by
  have blank := style.isBlank_gap (level + 1)
  have no_end : ∀ (key : String) (text behind tail : List Char),
      skipBlanks (style.gap (level + 1) ++ (style.entry (key, text) ++ behind)) ≠ '}' :: tail := by
    intro key text behind tail start
    rw [skipBlanks_append blank] at start
    cases start
  cases breaks with
  | @here _ key text entries refused =>
    have ends := style.ends_others level (show '}' ∈ [',', ']', '}'] by decide)
      (entries.map style.entry) rest
    rw [List.map_cons, Style.contents_append]
    exact refused_takeObject_first (no_end _ _ _) (refused_takeEntry blank (refused _ ends))
  | @later _ next key text entries first others =>
    have ends := style.ends_others level (show '}' ∈ [',', ']', '}'] by decide)
      (entries.map style.entry) rest
    rw [List.map_cons, Style.contents_append]
    exact refused_takeObject_others (no_end _ _ _) (took_takeEntry blank (first _ ends))
      (refused_takeEntries others level rest)

end Objects

section Values

theorem breaksOff_of_one {item : Reader α} {texts : List (List Char)}
    (each : ∀ text ∈ texts, (∃ value, item.Reads text value) ∨ item.Refuses text fault)
    (one : ∃ text ∈ texts, item.Refuses text fault) : BreaksOff item fault texts := by
  induction texts with
  | nil =>
    obtain ⟨_, member, _⟩ := one
    cases member
  | cons text texts ih =>
    obtain ⟨first, others⟩ := List.forall_mem_cons.mp each
    rcases first with ⟨value, reads⟩ | refuses
    · obtain ⟨other, member, refuses⟩ := one
      rcases List.mem_cons.mp member with rfl | member
      · exact .here refuses
      · exact .later reads (ih others ⟨other, member, refuses⟩)
    · exact .here refuses

theorem refused_keepEntry {item : Reader Json} {text : List Char} (refuses : item.Refuses text fault)
    (style : Style) (state : List (String × Json)) (key : String) {rest : List Char}
    (ends : Ends rest) :
    keepEntry item state key (style.colon ++ (text ++ rest)) = .error fault := by
  obtain ⟨blanks, all, found⟩ := style.skipBlanks_colon
  obtain ⟨_, colon⟩ := took_takeMark (found (text ++ rest))
  simp only [keepEntry, takeColon, colon, refuses.afterBlanks all ends]
  rfl

theorem breaks_keepEntry {item : Reader Json} {style : Style} {level : Nat}
    {entries : List (String × Json)}
    (each : ∀ entry ∈ entries, item.Reads (write style level entry.2) entry.2 ∨
      item.Refuses (write style level entry.2) fault)
    (one : ∃ entry ∈ entries, item.Refuses (write style level entry.2) fault)
    (state : List (String × Json)) :
    Breaks (keepEntry item) style fault state
      (entries.map fun (key, value) => (key, write style level value)) := by
  induction entries generalizing state with
  | nil =>
    obtain ⟨_, member, _⟩ := one
    cases member
  | cons entry entries ih =>
    obtain ⟨first, others⟩ := List.forall_mem_cons.mp each
    rcases first with reads | refuses
    · obtain ⟨other, member, refuses⟩ := one
      rcases List.mem_cons.mp member with rfl | member
      · exact .here fun rest ends => refused_keepEntry refuses style state _ ends
      · exact .later (fun rest ends => took_keepEntry reads style state _ ends)
          (ih others ⟨other, member, refuses⟩ _)
    · exact .here fun rest ends => refused_keepEntry refuses style state _ ends

variable {limit : Nat} {style : Style} {level : Nat}

theorem refuses_items {items : List Json}
    (each : ∀ item ∈ items,
      (∃ image, (takeValue limit).Reads (write style (level + 1) item) image) ∨
        (takeValue limit).Refuses (write style (level + 1) item) fault)
    (one : ∃ item ∈ items, (takeValue limit).Refuses (write style (level + 1) item) fault) :
    (takeValue (limit + 1)).Refuses (write style level (.array items)) fault := by
  rw [Style.write_array]
  refine ⟨⟨'[', _, rfl, rfl, by decide⟩, fun rest ends => ?_⟩
  have breaks : BreaksOff (takeValue limit) fault (items.map (write style (level + 1))) := by
    refine breaksOff_of_one ?_ ?_
    · rw [List.forall_mem_map]
      exact each
    · obtain ⟨item, member, refuses⟩ := one
      exact ⟨_, List.mem_map_of_mem member, refuses⟩
  have refused := (refuses_list breaks style level).refused rest ends
  rw [Style.list, List.cons_append] at refused ⊢
  rw [takeValue_list, Reader.map, refused]
  rfl

theorem refuses_object {entries : List (String × Json)}
    (each : ∀ entry ∈ entries,
      (takeValue limit).Reads (write style (level + 1) entry.2) entry.2 ∨
        (takeValue limit).Refuses (write style (level + 1) entry.2) fault)
    (one : ∃ entry ∈ entries, (takeValue limit).Refuses (write style (level + 1) entry.2) fault) :
    (takeValue (limit + 1)).Refuses (write style level (.object entries)) fault := by
  rw [Style.write_object]
  refine ⟨⟨'{', _, rfl, rfl, by decide⟩, fun rest _ => ?_⟩
  have refused := refused_takeObject (breaks_keepEntry each one []) level rest
  rw [Style.object, List.cons_append, takeValue, refused]
  rfl

/-- No value comes back that is nested deeper than the reader goes. -/
theorem refuses_value {value : Json} (stored : value.Stored) (free : value.FloatFree)
    (deep : limit < value.depth) (style : Style) (level : Nat) :
    (takeValue limit).Refuses (write style level value) .malformed := by
  induction stored generalizing limit level with
  | null | bool | integer | float | string => simp [depth] at deep
  | @array items stored ih =>
    cases free with
    | array free =>
      cases limit with
      | zero =>
        rw [Style.write_array]
        refine ⟨⟨'[', _, rfl, rfl, by decide⟩, fun rest _ => ?_⟩
        rw [Style.list, List.cons_append, takeValue]
      | succ limit =>
        -- Items before the first one that is too deep are read, so both halves are needed.
        have inner := mt depth_array_le_iff.mpr (Nat.not_le_of_lt deep)
        simp only [not_forall, Nat.not_le, exists_prop] at inner
        obtain ⟨item, member, deep⟩ := inner
        refine refuses_items (fun item member => ?_)
          ⟨item, member, ih item member (free item member) deep (level + 1)⟩
        rcases Nat.lt_or_ge limit item.depth with deep | within
        · exact .inr (ih item member (free item member) deep (level + 1))
        · exact .inl ⟨item, reads_value (stored item member) (free item member) within style _⟩
  | @object entries once stored ih =>
    cases free with
    | object free =>
      cases limit with
      | zero =>
        rw [Style.write_object]
        refine ⟨⟨'{', _, rfl, rfl, by decide⟩, fun rest _ => ?_⟩
        rw [Style.object, List.cons_append, takeValue]
      | succ limit =>
        have inner := mt depth_object_le_iff.mpr (Nat.not_le_of_lt deep)
        simp only [not_forall, Nat.not_le, exists_prop] at inner
        obtain ⟨entry, member, deep⟩ := inner
        refine refuses_object (fun entry member => ?_)
          ⟨entry, member, ih entry member (free entry member) deep (level + 1)⟩
        rcases Nat.lt_or_ge limit entry.2.depth with deep | within
        · exact .inr (ih entry member (free entry member) deep (level + 1))
        · exact .inl (reads_value (stored entry member) (free entry member) within style _)

end Values

end Projection.Json
