import Projection.Json.Record
import Projection.Proofs.Json.Container

set_option autoImplicit false

namespace Projection.Json

/-- The text of a field, and its value; both are missing if the field is left out. -/
def Slot.Gives (slot : Slot) : List (List Char) → Option slot.Value → Prop
  | [], none => True
  | [text], some value => slot.read.Reads text value
  | _, _ => False

theorem Slot.Gives.perm {slot : Slot} {texts permuted : List (List Char)}
    {value : Option slot.Value} (gives : slot.Gives texts value) (same : texts.Perm permuted) :
    slot.Gives permuted value := by
  match texts, value, gives with
  | [], none, _ =>
    rw [same.nil_eq.symm]
    trivial
  | [text], some value, reads =>
    rw [← List.singleton_perm.mp same]
    exact reads

theorem Slot.Gives.of_append {slot : Slot} {texts : List (List Char)} {text : List Char}
    {value : Option slot.Value} (gives : slot.Gives (texts ++ [text]) value) :
    texts = [] ∧ ∃ content, value = some content ∧ slot.read.Reads text content := by
  cases texts with
  | nil =>
    cases value with
    | none => exact gives.elim
    | some content => exact ⟨rfl, content, rfl, gives⟩
  | cons first texts => cases texts <;> cases value <;> exact gives.elim

theorem took_behindColon {α : Type} {reader : Reader α} {text rest : List Char} {value : α}
    (reads : reader.Reads text value) (style : Style) (ends : Ends rest) :
    ∃ colon, takeColon (style.colon ++ (text ++ rest)) = .ok colon ∧
      Took (reader.afterBlanks colon.rest) value rest := by
  obtain ⟨blanks, all, found⟩ := style.skipBlanks_colon
  obtain ⟨_, colon⟩ := took_takeMark (found (text ++ rest))
  exact ⟨_, colon, reads.afterBlanks all ends⟩

namespace Draft

/-- The entries of each field give its value, and those of other names can be skipped. -/
def Fills : (slots : List Slot) → List (String × List Char) → Draft slots → Prop
  | [], entries, _ => ∀ entry ∈ entries, skipValue.Reads entry.2 ()
  | slot :: slots, entries, (value, others) =>
    slot.Gives ((entries.filter (·.1 == slot.name)).map Prod.snd) value ∧
      Fills slots (entries.filter (·.1 != slot.name)) others

theorem eq_empty_of_fills {slots : List Slot} {draft : Draft slots} (fills : Fills slots [] draft) :
    draft = empty slots := by
  induction slots with
  | nil => rfl
  | cons slot slots ih =>
    obtain ⟨value, others⟩ := draft
    obtain ⟨given, fills⟩ := fills
    cases value with
    | none => rw [empty, ih fills]
    | some value => exact given.elim

theorem Fills.perm {slots : List Slot} {draft : Draft slots}
    {entries permuted : List (String × List Char)} (fills : Fills slots entries draft)
    (same : entries.Perm permuted) : Fills slots permuted draft := by
  induction slots generalizing entries permuted with
  | nil => exact fun entry member => fills entry (same.mem_iff.mpr member)
  | cons slot slots ih =>
    obtain ⟨value, others⟩ := draft
    obtain ⟨given, fills⟩ := fills
    exact ⟨given.perm ((same.filter _).map _), ih fills (same.filter _)⟩

theorem took_takeField {slots : List Slot} {draft : Draft slots}
    {entries : List (String × List Char)} {key : String} {text : List Char}
    (fills : Fills slots (entries ++ [(key, text)]) draft) :
    ∃ before, Fills slots entries before ∧ ∀ (style : Style) (rest : List Char), Ends rest →
      Took (takeField slots before key (style.colon ++ (text ++ rest))) draft rest := by
  induction slots generalizing entries with
  | nil =>
    refine ⟨(), fun entry member => fills entry (List.mem_append_left _ member), ?_⟩
    intro style rest ends
    have skipped : skipValue.Reads text () := fills (key, text) (by simp)
    obtain ⟨colon, found, _, taken⟩ := took_behindColon skipped style ends
    simp only [takeField, found, taken]
    exact ⟨_, rfl⟩
  | cons slot slots ih =>
    obtain ⟨value, others⟩ := draft
    obtain ⟨given, fills⟩ := fills
    by_cases here : key = slot.name
    · have mine : (entries ++ [(key, text)]).filter (·.1 == slot.name) =
          entries.filter (·.1 == slot.name) ++ [(key, text)] := by simp [here]
      have foreign : (entries ++ [(key, text)]).filter (·.1 != slot.name) =
          entries.filter (·.1 != slot.name) := by simp [here]
      rw [mine, List.map_append] at given
      rw [foreign] at fills
      obtain ⟨none_before, content, rfl, reads⟩ := given.of_append
      refine ⟨(none, others), ⟨none_before ▸ trivial, fills⟩, fun style rest ends => ?_⟩
      obtain ⟨colon, found, _, taken⟩ := took_behindColon reads style ends
      simp only [takeField, if_pos here, Option.isSome_none, found, taken]
      exact ⟨_, rfl⟩
    · have mine : (entries ++ [(key, text)]).filter (·.1 == slot.name) =
          entries.filter (·.1 == slot.name) := by simp [here]
      have foreign : (entries ++ [(key, text)]).filter (·.1 != slot.name) =
          entries.filter (·.1 != slot.name) ++ [(key, text)] := by simp [here]
      rw [mine] at given
      rw [foreign] at fills
      obtain ⟨before, filled, took⟩ := ih fills
      refine ⟨(value, before), ⟨given, filled⟩, fun style rest ends => ?_⟩
      obtain ⟨_, taken⟩ := took style rest ends
      simp only [takeField, if_neg here, taken]
      exact ⟨_, rfl⟩

theorem folds_of_fills {slots : List Slot} {draft : Draft slots} (style : Style)
    {before entries : List (String × List Char)} (fills : Fills slots (before ++ entries) draft) :
    ∃ first, Fills slots before first ∧ Folds (takeField slots) style first entries draft := by
  -- The draft is known at the end only, so the entries move to the front part one by one.
  induction entries generalizing before with
  | nil =>
    rw [List.append_nil] at fills
    exact ⟨draft, fills, .nil draft⟩
  | cons entry entries ih =>
    rw [List.append_cons] at fills
    obtain ⟨next, fills, folds⟩ := ih fills
    obtain ⟨first, fills, took⟩ := took_takeField fills
    exact ⟨first, fills, .cons (took style) folds⟩

section Build

variable {slot : Slot} {slots : List Slot} {entries : List (String × List Char)}
  {draft : Draft slots}

theorem filters_of_fresh (fresh : ∀ entry ∈ entries, entry.1 ≠ slot.name) :
    entries.filter (·.1 == slot.name) = [] ∧ entries.filter (·.1 != slot.name) = entries := by
  simpa [List.filter_eq_nil_iff, List.filter_eq_self] using fresh

theorem Fills.absent (fills : Fills slots entries draft)
    (fresh : ∀ entry ∈ entries, entry.1 ≠ slot.name) :
    Fills (slot :: slots) entries (none, draft) := by
  obtain ⟨mine, foreign⟩ := filters_of_fresh fresh
  refine ⟨?_, ?_⟩
  · rw [mine]
    trivial
  · rw [foreign]
    exact fills

theorem Fills.given (fills : Fills slots entries draft)
    (fresh : ∀ entry ∈ entries, entry.1 ≠ slot.name) {text : List Char} {value : slot.Value}
    (reads : slot.read.Reads text value) :
    Fills (slot :: slots) ((slot.name, text) :: entries) (some value, draft) := by
  obtain ⟨mine, foreign⟩ := filters_of_fresh fresh
  refine ⟨?_, ?_⟩
  · rw [List.filter_cons_of_pos (by simp), mine]
    exact reads
  · rw [List.filter_cons_of_neg (by simp), foreign]
    exact fills

theorem fill?_given {filled : Filled slots} (complete : fill? slots draft = some filled)
    (value : slot.Value) : fill? (slot :: slots) (some value, draft) = some (value, filled) := by
  rw [fill?, complete]
  rfl

theorem fill?_absent {filled : Filled slots} (complete : fill? slots draft = some filled)
    {value : slot.Value} (missing : slot.absent = some value) :
    fill? (slot :: slots) (none, draft) = some (value, filled) := by
  rw [fill?, complete, missing]
  rfl

end Build

end Draft

theorem reads_takeRecord {slots : List Slot} {draft : Draft slots}
    {entries : List (String × List Char)} {filled : Filled slots}
    (fills : Draft.Fills slots entries draft) (complete : draft.fill? = some filled)
    (style : Style) (level : Nat) :
    (takeRecord slots).Reads (style.object level entries) filled := by
  refine ⟨⟨'{', _, rfl, rfl, by decide⟩, fun rest _ => ?_⟩
  obtain ⟨first, nothing, folds⟩ := Draft.folds_of_fills style (List.nil_append entries ▸ fills)
  rw [Draft.eq_empty_of_fills nothing] at folds
  obtain ⟨_, taken⟩ := took_takeObject folds level rest
  simp only [Style.object, List.cons_append, takeRecord, taken, complete]
  exact ⟨_, rfl⟩

end Projection.Json
