import Projection.Proofs.Execution
import Projection.Proofs.Json.Container
import Projection.Proofs.Json.Entries

/-! What can be asked of a record. Its values, the fields of its type and the columns of its query
go together one by one; the value of the first column of a name, which is looked up, and that of the
last one, which an object keeps, are the same because both are the element's answer. -/

set_option autoImplicit false

namespace Projection

namespace RecordType

/-- The values that an element answers with, one question after the other. It need not answer the
same question in the same way again. -/
def answers (type : RecordType) (answer : Nat → Element) : Except QueryError (List Json) :=
  type.fields.zipIdx.mapM fun (field, asked) => type.valueIn (answer asked) field

variable {type : RecordType} {answer : Nat → Element}

theorem length_of_answers {found : List Json} (answered : type.answers answer = .ok found) :
    found.length = type.fields.length :=
  (length_of_mapM answered).trans List.length_zipIdx

theorem answers_const (type : RecordType) (element : Element) :
    type.answers (fun _ => element) = type.fields.mapM (type.valueIn element) := by
  conv_rhs => rw [← List.zipIdx_map_fst 0 type.fields, List.mapM_map]
  rfl

def projectAnswers (type : RecordType) (answer : Nat → Element) : Except QueryError Record :=
  match answered : type.answers answer with
  | .error error => .error error
  | .ok found => .ok ⟨type, found, length_of_answers answered⟩

theorem projectAnswers_const (type : RecordType) (element : Element) :
    type.projectAnswers (fun _ => element) = type.project element := by
  have same := answers_const type element
  unfold projectAnswers project
  split <;> split <;> simp_all

theorem projectAnswers_eq_ok_iff {record : Record} :
    type.projectAnswers answer = .ok record ↔
      record.type = type ∧ type.answers answer = .ok record.values := by
  unfold projectAnswers
  split
  · next error refused => simp [refused]
  · next found answered =>
    constructor
    · intro made
      cases made
      exact ⟨rfl, answered⟩
    · rintro ⟨same, again⟩
      obtain ⟨_, values, _⟩ := record
      cases same
      cases answered.symm.trans again
      rfl

end RecordType

theorem exists_of_mem_mapM {α β : Type} {f : α → Except QueryError β} {items : List α}
    {results : List β} (succeeds : items.mapM f = .ok results) {result : β}
    (member : result ∈ results) : ∃ item ∈ items, f item = .ok result := by
  have each := forall₂_of_mapM succeeds
  clear succeeds
  induction each with
  | nil => cases member
  | @cons item _ items _ first _ ih =>
    rcases List.mem_cons.mp member with rfl | member
    · exact ⟨item, List.mem_cons_self, first⟩
    · obtain ⟨other, behind, made⟩ := ih member
      exact ⟨other, List.mem_cons_of_mem item behind, made⟩

inductive Rows.Gives : Rows → Except QueryError Record → Prop
  | now {rows : Rows} {row : Except QueryError Record} (next : rows.next.1 = some row) :
      Gives rows row
  | later {rows : Rows} {row : Except QueryError Record} (gives : Gives rows.next.2 row) :
      Gives rows row

theorem Rows.gives_iff {rows : Rows} {row : Except QueryError Record} :
    rows.Gives row ↔ ∃ element ∈ rows.pending, rows.type.project element = row := by
  constructor
  · intro gives
    induction gives with
    | @now rows row next =>
      obtain ⟨type, pending⟩ := rows
      cases pending with
      | nil => cases next
      | cons element pending => exact ⟨element, List.mem_cons_self, Option.some.inj next⟩
    | @later rows row _ ih =>
      obtain ⟨type, pending⟩ := rows
      cases pending with
      | nil => exact ih
      | cons first pending =>
        obtain ⟨element, member, projected⟩ := ih
        exact ⟨element, List.mem_cons_of_mem first member, projected⟩
  · obtain ⟨type, pending⟩ := rows
    rintro ⟨element, member, rfl⟩
    induction pending with
    | nil => cases member
    | cons first pending ih =>
      rcases List.mem_cons.mp member with rfl | member
      · exact .now rfl
      · exact .later (ih member)

namespace CompiledQuery

def Yields (compiled : CompiledQuery) (context : Context) (record : Record) : Prop :=
  ∃ rows, compiled.execute context = .ok rows ∧ rows.Gives (.ok record)

variable {compiled : CompiledQuery} {context : Context}

theorem type_of_execute {rows : Rows} (executed : compiled.execute context = .ok rows) :
    rows.type = compiled.type := by
  obtain ⟨_, _, rfl⟩ := exists_scan_of_execute executed
  rfl

theorem project_of_yields {record : Record} (yields : compiled.Yields context record) :
    ∃ element, compiled.type.project element = .ok record := by
  obtain ⟨rows, executed, gives⟩ := yields
  obtain ⟨element, _, projected⟩ := Rows.gives_iff.mp gives
  rw [type_of_execute executed] at projected
  exact ⟨element, projected⟩

theorem yields_of_mem_executeAll {records : List Record}
    (collected : compiled.executeAll context = .ok records) {record : Record}
    (member : record ∈ records) : compiled.Yields context record := by
  obtain ⟨rows, executed, collected⟩ := exists_of_bind_eq_ok collected
  obtain ⟨element, pending, projected⟩ := exists_of_mem_mapM collected member
  exact ⟨rows, executed, Rows.gives_iff.mpr ⟨element, pending, projected⟩⟩

end CompiledQuery

namespace Record

/-- A record has a value and a field for each column of a query, and everything that is asked of it
is about these. -/
structure Fits (record : Record) (compiled : CompiledQuery) : Prop where
  type : record.type = compiled.type
  some_column : 1 ≤ compiled.query.columns.length
  values : record.values.length = compiled.query.columns.length
  fields : record.type.fields.length = compiled.query.columns.length
  in_range : ∀ name place, record.type.position? name = some place → place < record.values.length
  get : ∀ name, record.get? name = (record.type.position? name).bind (record.values[·]?)
  found : ∀ name, (record.get? name).isSome ↔ name ∈ compiled.query.columns
  names : record.entries.map Prod.fst = compiled.query.columns
  entries : record.entries.map Prod.snd = record.values
  written : ∀ style level, Json.write style level record.written = style.object level
    (compiled.query.columns.zip (record.values.map (Json.write style (level + 1))))

theorem find?_zip_names (name : String) (fields : List Field) (values : List Json) :
    Json.find? name ((fields.map Field.name).zip values) =
      (fields.findIdx? (·.name == name)).bind (values[·]?) := by
  induction fields generalizing values with
  | nil => rfl
  | cons field fields ih =>
    cases values with
    | nil => simp [Json.find?]
    | cons value values =>
      rw [List.map_cons, List.zip_cons_cons, Json.find?_cons, ih, List.findIdx?_cons]
      by_cases here : field.name = name
      · simp [here]
      · have other : (field.name == name) = false := beq_false_of_ne here
        simp only [if_neg (Ne.symm here), other, Bool.false_eq_true, if_false, Option.bind_map]
        rfl

theorem keys_entries (record : Record) : Json.keys record.entries = record.type.names :=
  List.map_fst_zip (by simp [RecordType.names, record.length_values])

theorem values_entries (record : Record) : record.entries.map Prod.snd = record.values :=
  List.map_snd_zip (by simp [RecordType.names, record.length_values])

theorem fits_of_type {record : Record} {compiled : CompiledQuery}
    (same : record.type = compiled.type) : record.Fits compiled := by
  have names : record.type.names = compiled.query.columns := by rw [same, compiled.names_type]
  have columns : record.type.fields.length = compiled.query.columns.length := by
    rw [← names, RecordType.names, List.length_map]
  refine ⟨same, List.length_pos_iff.mpr compiled.query.columns_ne_nil,
    record.length_values.trans columns, columns, ?_, fun name => find?_zip_names name _ _, ?_,
    record.keys_entries.trans names, record.values_entries, ?_⟩
  · intro name place position
    rw [record.length_values]
    exact (List.findIdx?_eq_some_iff_findIdx_eq.mp position).1
  · intro name
    rw [get?, Json.isSome_find?_iff, record.keys_entries, names]
  · intro style level
    rw [written, Json.Style.write_object, entries, names, List.zip_map_right]
    rfl

end Record

section Agreement

variable {type : RecordType} {element : Element} {record : Record}

theorem type_of_project (projected : type.project element = .ok record) : record.type = type := by
  rw [← type.projectAnswers_const, RecordType.projectAnswers_eq_ok_iff] at projected
  exact projected.1

theorem map_some_values (projected : type.project element = .ok record) :
    record.values.map some = type.names.map element := by
  have shown := congrArg (List.map Prod.snd) (shows_of_project projected)
  rw [← record.values_entries]
  simpa [Function.comp_def] using shown

theorem answer_of_mem_entries (projected : type.project element = .ok record) :
    ∀ entry ∈ record.entries, element entry.1 = some entry.2 := by
  intro entry member
  have shown := List.mem_map_of_mem (f := fun entry => (entry.1, some entry.2)) member
  rw [shows_of_project projected] at shown
  obtain ⟨column, _, same⟩ := List.mem_map.mp shown
  obtain ⟨rfl, answer⟩ := Prod.mk.inj same
  exact answer

end Agreement

/-- Whatever its elements answer, a query gives records that have a value for each of its columns.
If elements give the same answer to the same question, the first value of a column and the last one
are the same, and a record and its object say the same. -/
theorem CompiledQuery.record_views_agree (compiled : CompiledQuery) :
    (∀ answer found, compiled.type.answers answer = .ok found →
      found.length = compiled.query.columns.length ∧
        ∃ record, compiled.type.projectAnswers answer = .ok record ∧ record.values = found) ∧
    (∀ answer record, compiled.type.projectAnswers answer = .ok record → record.Fits compiled) ∧
    (∀ element, compiled.type.projectAnswers (fun _ => element) = compiled.type.project element) ∧
    (∀ context records, compiled.executeAll context = .ok records →
      ∀ record ∈ records, compiled.Yields context record) ∧
    ∀ context record, compiled.Yields context record →
      record.Fits compiled ∧
      (∀ i j : Nat, compiled.query.columns[i]? = compiled.query.columns[j]? →
        record.values[i]? = record.values[j]?) ∧
      (∀ name, record.get? name = record.toObject.get? name) ∧
      ∃ entries, record.toObject = .object entries ∧
        Json.keys entries = compiled.query.columns.eraseDups ∧
        (Json.keys entries).Pairwise fun first second =>
          compiled.query.columns.idxOf first < compiled.query.columns.idxOf second := by
  refine ⟨fun answer found answered => ?_,
    fun answer record made => Record.fits_of_type (RecordType.projectAnswers_eq_ok_iff.mp made).1,
    compiled.type.projectAnswers_const, fun _ _ collected _ => yields_of_mem_executeAll collected,
    fun context record yields => ?_⟩
  · have length := RecordType.length_of_answers answered
    refine ⟨?_, ⟨compiled.type, found, length⟩,
      RecordType.projectAnswers_eq_ok_iff.mpr ⟨rfl, answered⟩, rfl⟩
    rw [length, ← compiled.names_type, RecordType.names, List.length_map]
  obtain ⟨element, projected⟩ := project_of_yields yields
  have fits := Record.fits_of_type (type_of_project projected)
  have keys : Json.keys (Json.ofEntries record.entries) = compiled.query.columns.eraseDups := by
    rw [Json.keys_ofEntries, record.keys_entries, fits.type, compiled.names_type]
  refine ⟨fits, fun i j same => ?_, fun name => ?_, _, rfl, keys,
    keys ▸ pairwise_idxOf_eraseDups _⟩
  · have answers := map_some_values projected
    rw [compiled.names_type] at answers
    have answered : (record.values.map some)[i]? = (record.values.map some)[j]? := by
      rw [answers, List.getElem?_map, List.getElem?_map, same]
    rw [List.getElem?_map, List.getElem?_map] at answered
    exact Option.map_injective (fun _ _ => Option.some.inj) answered
  · -- The first entry of a name and the last one hold the same answer.
    have answers := answer_of_mem_entries projected
    have reversed : ∀ entry ∈ record.entries.reverse, element entry.1 = some entry.2 :=
      fun entry member => answers entry (List.mem_reverse.mp member)
    rw [Record.toObject, Json.get?, Json.find?_ofEntries, Record.get?, Json.find?_of_answers answers,
      Json.find?_of_answers reversed]
    simp only [Json.mem_keys_reverse]

-- Answers that change come apart.
example :
    (RecordType.projectAnswers ⟨1, "Customer", [⟨"Name", .string⟩, ⟨"Name", .string⟩]⟩
        fun asked _ => some (.bool (asked == 0))).map
      (fun record => (record.get? "Name", record.toObject)) =
      .ok (some (.bool true), .object [("Name", .bool false)]) := by rfl

end Projection
