import Mathlib.Data.List.Basic
import Projection.FieldType

/-! The text of a field type. Marks are read from the outside: the last character tells an optional
type from the others, and of those only a list begins with a bracket. So a text is read back as the
type that it was written for, and no other text is read. -/

set_option autoImplicit false

namespace Projection.FieldType

variable {written : List Char} {type : FieldType}

theorem write_optional (content : FieldType) :
    (optional content).write = content.write ++ ['?'] := rfl

theorem write_list (item : FieldType) : (list item).write = '[' :: (item.write ++ [']']) := rfl

theorem read?_marked (content : List Char) :
    read? (content ++ ['?']) = (read? content).map optional := by
  rw [read?, if_pos List.getLast?_concat, List.dropLast_concat]

theorem read?_bracketed (item : List Char) :
    read? ('[' :: (item ++ [']'])) = (read? item).map list := by
  have closing : ('[' :: (item ++ [']'])).getLast? = some ']' := by
    rw [← List.cons_append, List.getLast?_concat]
  have unmarked : ('[' :: (item ++ [']'])).getLast? ≠ some '?' := by
    rw [closing]
    decide
  rw [read?, if_neg unmarked, if_pos ⟨rfl, closing⟩, List.tail_cons, List.dropLast_concat]

theorem read?_name (unmarked : written.getLast? ≠ some '?') (unopened : written.head? ≠ some '[') :
    read? written = ofName? written := by
  rw [read?, if_neg unmarked, if_neg fun brackets => unopened brackets.1]

theorem write_of_ofName? (found : ofName? written = some type) : type.write = written := by
  unfold ofName? at found
  split_ifs at found with is_bool is_integer is_float is_string <;> cases found
  · exact is_bool.symm
  · exact is_integer.symm
  · exact is_float.symm
  · exact is_string.symm

theorem read?_write (type : FieldType) : read? type.write = some type := by
  induction type with
  | bool | integer | float | string => exact read?_name (by decide) (by decide)
  | optional content ih =>
    rw [write_optional, read?_marked, ih]
    rfl
  | list item ih =>
    rw [write_list, read?_bracketed, ih]
    rfl

theorem write_of_read? (found : read? written = some type) : type.write = written := by
  induction written using read?.induct generalizing type with
  | case1 written marked ih =>
    rw [read?, if_pos marked] at found
    obtain ⟨content, inner, rfl⟩ := Option.map_eq_some_iff.mp found
    rw [write_optional, ih inner]
    exact List.dropLast_append_getLast? '?' marked
  | case2 written unmarked brackets ih =>
    rw [read?, if_neg unmarked, if_pos brackets] at found
    obtain ⟨item, inner, rfl⟩ := Option.map_eq_some_iff.mp found
    obtain ⟨opening, closing⟩ := brackets
    obtain ⟨behind, rfl⟩ := List.head?_eq_some_iff.mp opening
    have some_behind : behind ≠ [] := by
      rintro rfl
      cases closing
    rw [List.getLast?_cons_of_ne_nil some_behind] at closing
    rw [write_list, ih inner, List.tail_cons, List.dropLast_append_getLast? ']' closing]
  | case3 written unmarked unbracketed =>
    rw [read?, if_neg unmarked, if_neg unbracketed] at found
    exact write_of_ofName? found

theorem ofText?_eq_some_iff {text : String} : ofText? text = some type ↔ type.text = text := by
  constructor
  · intro found
    rw [FieldType.text, write_of_read? found, String.ofList_toList]
  · rintro rfl
    rw [ofText?, FieldType.text, String.toList_ofList, read?_write]

/-- Two types have one text only if they are the same type, however deep marks and brackets are
nested. The text is read back as this type, and what is read back as it is this text. -/
theorem types_told_by_text :
    (∀ a b : FieldType, a.text = b.text ↔ a = b) ∧
    ∀ (text : String) (type : FieldType), ofText? text = some type ↔ type.text = text := by
  refine ⟨fun a b => ⟨fun same => ?_, fun same => same ▸ rfl⟩, fun text type => ofText?_eq_some_iff⟩
  have first : ofText? a.text = some a := ofText?_eq_some_iff.mpr rfl
  have second : ofText? a.text = some b := ofText?_eq_some_iff.mpr same.symm
  exact Option.some.inj (first.symm.trans second)

-- A list of what may be missing, and a list that may be missing.
example : read? "[bool?]".toList = some (.list (.optional .bool)) ∧
    read? "[bool]?".toList = some (.optional (.list .bool)) := by
  decide +kernel

end Projection.FieldType
