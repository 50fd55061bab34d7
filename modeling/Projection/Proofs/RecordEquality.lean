import Projection.Proofs.Json.Equality
import Projection.Proofs.Views

/-! Equality of records. Names and values decide it, place by place, and nothing else about the types
does. An object that a record is turned into says less: it forgets the order of the columns and how
often they come. So records of queries that select the same columns, but differently, are not equal
and have equal objects. -/

set_option autoImplicit false

namespace Projection

theorem forall₂_zip_names {α β : Type} {related : α → β → Prop} {as : List α} {bs : List β}
    (each : List.Forall₂ related as bs) (names : List String) :
    List.Forall₂ (fun x y => x.1 = y.1 ∧ related x.2 y.2) (names.zip as) (names.zip bs) := by
  induction each generalizing names with
  | nil => simp
  | cons first _ ih =>
    cases names with
    | nil => exact .nil
    | cons name names => exact .cons ⟨rfl, first⟩ (ih names)

namespace Record

variable {a b c : Record}

theorem same_iff : a.same b = true ↔
    a.type.names = b.type.names ∧ List.Forall₂ Json.Same a.values b.values := by
  rw [same, Bool.and_eq_true, beq_iff_eq, Json.sameItems_iff_forall₂, and_comm]
  simp only [Json.same_eq_true_iff]

theorem same_refl (a : Record) : a.same a = true :=
  same_iff.mpr ⟨rfl, List.forall₂_same.mpr fun value _ => .refl value⟩

theorem same_symm (equal : a.same b = true) : b.same a = true := by
  obtain ⟨names, values⟩ := same_iff.mp equal
  exact same_iff.mpr ⟨names.symm, (values.imp fun _ _ => Json.Same.symm).flip⟩

theorem same_trans (first : a.same b = true) (second : b.same c = true) : a.same c = true := by
  obtain ⟨names, values⟩ := same_iff.mp first
  obtain ⟨more_names, more_values⟩ := same_iff.mp second
  rw [List.forall₂_iff_get] at values more_values
  refine same_iff.mpr ⟨names.trans more_names, List.forall₂_iff_get.mpr
    ⟨values.1.trans more_values.1, fun i left right => ?_⟩⟩
  have middle : i < b.values.length := values.1 ▸ left
  exact (values.2 i left middle).trans (more_values.2 i middle right)

theorem entries_of_same (equal : a.same b = true) :
    List.Forall₂ (fun x y => x.1 = y.1 ∧ Json.Same x.2 y.2) a.entries b.entries := by
  obtain ⟨names, values⟩ := same_iff.mp equal
  rw [entries, entries, names]
  exact forall₂_zip_names values _

theorem get?_of_same (equal : a.same b = true) (name : String) :
    Option.Rel Json.Same (a.get? name) (b.get? name) :=
  Json.find?_rel (entries_of_same equal) name

theorem toObject_same_iff : Json.Same a.toObject b.toObject ↔ ∀ name, Option.Rel Json.Same
    (Json.find? name a.entries.reverse) (Json.find? name b.entries.reverse) := by
  rw [toObject, toObject, Json.same_object_iff_rel]
  simp only [Json.find?_ofEntries]

theorem toObject_of_same (equal : a.same b = true) : Json.Same a.toObject b.toObject :=
  toObject_same_iff.mpr
    (Json.find?_rel (List.forall₂_reverse_iff.mpr (entries_of_same equal)))

section Projected

variable {type other : RecordType} {element second : Element}

theorem get?_of_project (projected : type.project element = .ok a) (name : String) :
    a.get? name = if name ∈ a.type.names then element name else none := by
  rw [get?, Json.find?_of_answers (answer_of_mem_entries projected), a.keys_entries]

theorem find?_reverse_entries (projected : type.project element = .ok a) (name : String) :
    Json.find? name a.entries.reverse = a.get? name := by
  have answers : ∀ entry ∈ a.entries.reverse, element entry.1 = some entry.2 := fun entry member =>
    answer_of_mem_entries projected entry (List.mem_reverse.mp member)
  rw [get?_of_project projected, Json.find?_of_answers answers, ← a.keys_entries]
  simp only [Json.mem_keys_reverse]

theorem get?_eq_some_iff_mem (projected : type.project element = .ok a) {name : String}
    {value : Json} : a.get? name = some value ↔ (name, value) ∈ a.entries := by
  refine ⟨Json.mem_of_find?, fun member => ?_⟩
  have named : name ∈ a.type.names := a.keys_entries ▸ List.mem_map_of_mem member
  rw [get?_of_project projected, if_pos named]
  exact answer_of_mem_entries projected _ member

theorem map_get?_names (projected : type.project element = .ok a) :
    a.type.names.map a.get? = a.values.map some := by
  rw [map_some_values projected, type_of_project projected]
  refine List.map_congr_left fun name member => ?_
  rw [get?_of_project projected, type_of_project projected, if_pos member]

theorem toObject_same_iff_get? (projected : type.project element = .ok a)
    (also : other.project second = .ok b) : Json.Same a.toObject b.toObject ↔
      ∀ name, Option.Rel Json.Same (a.get? name) (b.get? name) := by
  rw [toObject_same_iff]
  simp only [find?_reverse_entries projected, find?_reverse_entries also]

theorem same_of_get? (projected : type.project element = .ok a)
    (also : other.project second = .ok b) (names : a.type.names = b.type.names)
    (answers : ∀ name, Option.Rel Json.Same (a.get? name) (b.get? name)) : a.same b = true := by
  have each : List.Forall₂ (Option.Rel Json.Same) (a.values.map some) (b.values.map some) := by
    rw [← map_get?_names projected, ← map_get?_names also, names, List.forall₂_map_left_iff,
      List.forall₂_map_right_iff, List.forall₂_same]
    exact fun name _ => answers name
  rw [List.forall₂_map_left_iff, List.forall₂_map_right_iff] at each
  exact same_iff.mpr ⟨names, each.imp fun _ _ => Option.rel_some_some.mp⟩

end Projected

end Record

/-- Equality of records is an equivalence. It holds if the records have the same names in the same
order, and equal values place by place; then they answer alike to every name and have equal objects.
Records of queries have equal objects if and only if they answer alike to every name, as they do if
one has the same fields as the other in another order or more often; of these, only records of the
same columns are equal. Objects within values are equal up to the order of their keys, and no integer
is equal to a float. -/
theorem records_equal_by_value :
    Equivalence (fun a b : Record => a.same b = true) ∧
    (∀ a b : Record, a.same b = true ↔
      a.type.names = b.type.names ∧ List.Forall₂ Json.Same a.values b.values) ∧
    (∀ a b : Record, a.same b = true → a.values.length = b.values.length ∧
      (∀ name, Option.Rel Json.Same (a.get? name) (b.get? name)) ∧
      Json.Same a.toObject b.toObject) ∧
    (∀ (compiled other : CompiledQuery) (context second : Context) (a b : Record),
      compiled.Yields context a → other.Yields second b →
      (Json.Same a.toObject b.toObject ↔
        ∀ name, Option.Rel Json.Same (a.get? name) (b.get? name)) ∧
      ((∀ entry, entry ∈ a.entries ↔ entry ∈ b.entries) → Json.Same a.toObject b.toObject) ∧
      (Json.Same a.toObject b.toObject →
        (a.same b = true ↔ compiled.query.columns = other.query.columns))) ∧
    (∀ x y : Json, x.same y = true ↔ Json.Same x y) ∧
    (∀ as bs : List (String × Json), (Json.keys as).Nodup → (Json.keys bs).Nodup →
      (Json.Same (.object as) (.object bs) ↔ ∃ ordered, as.Perm ordered ∧
        List.Forall₂ (fun x y => x.1 = y.1 ∧ Json.Same x.2 y.2) ordered bs)) ∧
    ∀ (n : Int) (x : Double), ¬Json.Same (.number (.integer n)) (.number (.float x)) := by
  refine ⟨⟨Record.same_refl, Record.same_symm, Record.same_trans⟩, fun _ _ => Record.same_iff,
    fun a b equal => ⟨(Record.same_iff.mp equal).2.length_eq, Record.get?_of_same equal,
      Record.toObject_of_same equal⟩, ?_, fun _ _ => Json.same_eq_true_iff,
    fun _ _ => Json.same_object_iff_perm, fun n x equal => by cases equal⟩
  intro compiled other context second a b yields also
  obtain ⟨_, projected⟩ := CompiledQuery.project_of_yields yields
  obtain ⟨_, again⟩ := CompiledQuery.project_of_yields also
  have objects := Record.toObject_same_iff_get? projected again
  have names : a.type.names = b.type.names ↔ compiled.query.columns = other.query.columns := by
    rw [type_of_project projected, type_of_project again, compiled.names_type, other.names_type]
  refine ⟨objects, fun fields => objects.mpr fun name => ?_, fun equal => ?_⟩
  · have answers : a.get? name = b.get? name := by
      ext value
      rw [Record.get?_eq_some_iff_mem projected, Record.get?_eq_some_iff_mem again, fields]
    rw [answers]
    cases b.get? name with
    | none => exact .none
    | some value => exact .some (.refl value)
  · rw [← names]
    exact ⟨fun same => (Record.same_iff.mp same).1,
      fun same => Record.same_of_get? projected again same (objects.mp equal)⟩

/-- The fields of one element in two orders, one of them twice, and of an element of another type
with the other zero and the keys of its object the other way round. -/
theorem records_equal_by_value_reordered :
    ∃ (compiled other again : CompiledQuery) (context second : Context) (a b c : Record),
      compiled.Yields context a ∧ other.Yields context b ∧ again.Yields second c ∧
      compiled.query.columns = ["a", "b"] ∧ other.query.columns = ["b", "a", "b"] ∧
      a.same b = false ∧ Json.Same a.toObject b.toObject ∧
      a.type.sameFields c.type = false ∧ a.values ≠ c.values ∧ a.same c = true ∧
      Json.Same a.toObject c.toObject := by
  let one : Json := .number (.integer 1)
  let zero (negative : Bool) : Json := .number (.float (.zero negative))
  let nested : Json := .object [("x", one), ("y", .null)]
  let turned : Json := .object [("y", .null), ("x", one)]
  let context : Context :=
    ⟨fun _ => some [fun name => some (if name = "a" then zero false else nested)]⟩
  let second : Context :=
    ⟨fun _ => some [fun name => some (if name = "a" then zero true else turned)]⟩
  let compiled : CompiledQuery :=
    ⟨⟨["a", "b"], "Things", by decide⟩, ⟨1, "Thing", [⟨"a", .float⟩, ⟨"b", .string⟩]⟩, rfl⟩
  let other : CompiledQuery := ⟨⟨["b", "a", "b"], "Things", by decide⟩,
    ⟨2, "Thing", [⟨"b", .string⟩, ⟨"a", .float⟩, ⟨"b", .string⟩]⟩, rfl⟩
  let again : CompiledQuery :=
    ⟨⟨["a", "b"], "Others", by decide⟩, ⟨3, "Other", [⟨"a", .bool⟩, ⟨"b", .bool⟩]⟩, rfl⟩
  let a : Record := ⟨compiled.type, [zero false, nested], rfl⟩
  let b : Record := ⟨other.type, [nested, zero false, nested], rfl⟩
  let c : Record := ⟨again.type, [zero true, turned], rfl⟩
  have yields_a : compiled.Yields context a := ⟨_, rfl, .now rfl⟩
  have yields_b : other.Yields context b := ⟨_, rfl, .now rfl⟩
  have yields_c : again.Yields second c := ⟨_, rfl, .now rfl⟩
  obtain ⟨_, equal_iff, agree, selected, _, reorder, _⟩ := records_equal_by_value
  obtain ⟨_, objects, columns⟩ := selected compiled other context context a b yields_a yields_b
  have fields : ∀ entry, entry ∈ a.entries ↔ entry ∈ b.entries := by
    intro entry
    change entry ∈ [("a", zero false), ("b", nested)] ↔
      entry ∈ [("b", nested), ("a", zero false), ("b", nested)]
    simp only [List.mem_cons, List.not_mem_nil, or_false]
    tauto
  have same_object := objects fields
  have zeros : Json.Same (zero false) (zero true) := .float (.inr ⟨rfl, rfl⟩)
  have turn : Json.Same nested turned := (reorder _ _ (by decide) (by decide)).mpr
    ⟨_, .swap _ _ _, List.forall₂_same.mpr fun entry _ => ⟨rfl, .refl entry.2⟩⟩
  have same : a.same c = true := (equal_iff a c).mpr ⟨rfl, .cons zeros (.cons turn .nil)⟩
  refine ⟨compiled, other, again, context, second, a, b, c, yields_a, yields_b, yields_c, rfl, rfl,
    ?_, same_object, by decide, ?_, same, (agree a c same).2.2⟩
  · exact Bool.eq_false_iff.mpr fun equal => absurd ((columns same_object).mp equal) (by decide)
  · simp [a, c, zero, Double.zero]

end Projection
