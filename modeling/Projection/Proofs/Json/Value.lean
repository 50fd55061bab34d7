import Projection.Proofs.Json.Entries
import Projection.Proofs.Json.Figure
import Projection.Proofs.Json.Record

set_option autoImplicit false

namespace Projection.Json

/-- A value as it is kept in memory: integers have 64 bits, and an object has each key once. -/
inductive Stored : Json → Prop
  | null : Stored .null
  | bool (value : Bool) : Stored (.bool value)
  | integer {n : Int} (low : -9223372036854775808 ≤ n) (high : n < 18446744073709551616) :
      Stored (.number (.integer n))
  | float (x : Double) : Stored (.number (.float x))
  | string (s : String) : Stored (.string s)
  | array {items : List Json} (each : ∀ item ∈ items, Stored item) : Stored (.array items)
  | object {entries : List (String × Json)} (once : (keys entries).Nodup)
      (each : ∀ entry ∈ entries, Stored entry.2) : Stored (.object entries)

inductive FloatFree : Json → Prop
  | null : FloatFree .null
  | bool (value : Bool) : FloatFree (.bool value)
  | integer (n : Int) : FloatFree (.number (.integer n))
  | string (s : String) : FloatFree (.string s)
  | array {items : List Json} (each : ∀ item ∈ items, FloatFree item) : FloatFree (.array items)
  | object {entries : List (String × Json)} (each : ∀ entry ∈ entries, FloatFree entry.2) :
      FloatFree (.object entries)

mutual

def depth : Json → Nat
  | array items => depthOfItems items + 1
  | object entries => depthOfEntries entries + 1
  | _ => 0

def depthOfItems : List Json → Nat
  | [] => 0
  | item :: items => max (depth item) (depthOfItems items)

def depthOfEntries : List (String × Json) → Nat
  | [] => 0
  | (_, value) :: entries => max (depth value) (depthOfEntries entries)

end

theorem depthOfItems_le_iff {items : List Json} {limit : Nat} :
    depthOfItems items ≤ limit ↔ ∀ item ∈ items, item.depth ≤ limit := by
  induction items with
  | nil => simp [depthOfItems]
  | cons item items ih => simp only [depthOfItems, Nat.max_le, ih, List.forall_mem_cons]

theorem depthOfEntries_le_iff {entries : List (String × Json)} {limit : Nat} :
    depthOfEntries entries ≤ limit ↔ ∀ entry ∈ entries, entry.2.depth ≤ limit := by
  induction entries with
  | nil => simp [depthOfEntries]
  | cons entry entries ih => simp only [depthOfEntries, Nat.max_le, ih, List.forall_mem_cons]

theorem depth_array_le_iff {items : List Json} {limit : Nat} :
    (array items).depth ≤ limit + 1 ↔ ∀ item ∈ items, item.depth ≤ limit := by
  rw [depth, Nat.succ_le_succ_iff, depthOfItems_le_iff]

theorem depth_object_le_iff {entries : List (String × Json)} {limit : Nat} :
    (object entries).depth ≤ limit + 1 ↔ ∀ entry ∈ entries, entry.2.depth ≤ limit := by
  rw [depth, Nat.succ_le_succ_iff, depthOfEntries_le_iff]

section Readers

variable {limit : Nat}

theorem takeValue_list (text : List Char) :
    takeValue (limit + 1) ('[' :: text) =
      (takeListOf (takeValue limit)).map array ('[' :: text) := by
  rw [takeValue, Reader.map, takeListOf]
  cases takeList (takeValue limit) text <;> rfl

theorem takeValue_string (text : List Char) :
    takeValue limit ('"' :: text) = takeString.map string ('"' :: text) := by
  rw [takeValue, Reader.map, takeString]
  cases Quoted.take text <;> rfl

theorem takeValue_number {c : Char} (first : c = '-' ∨ c.isDigit = true) (text : List Char) :
    takeValue limit (c :: text) = takeNumberAs (fun value => some (number value)) (c :: text) := by
  have other : ∀ mark ∈ ['n', 't', 'f', '"', '[', '{'], c ≠ mark := by
    rintro mark member rfl
    simp only [List.mem_cons, List.not_mem_nil, or_false] at member
    rcases member with rfl | rfl | rfl | rfl | rfl | rfl <;> simp at first
  rw [takeValue] <;> intro rest start <;>
    exact other _ (by decide) (List.cons.inj start).1

theorem Reader.Reads.of_same {α : Type} {reader other : Reader α} {text : List Char} {value : α}
    (reads : other.Reads text value) (same : ∀ rest, reader (text ++ rest) = other (text ++ rest)) :
    reader.Reads text value where
  starts := reads.starts
  took rest ends := by
    rw [same]
    exact reads.took rest ends

theorem took_keepEntry {item : Reader Json} {text : List Char} {value : Json}
    (reads : item.Reads text value) (style : Style) (state : List (String × Json)) (key : String)
    {rest : List Char} (ends : Ends rest) :
    Took (keepEntry item state key (style.colon ++ (text ++ rest))) (insert key value state)
      rest := by
  obtain ⟨colon, found, _, taken⟩ := took_behindColon reads style ends
  simp only [keepEntry, found, taken]
  exact ⟨_, rfl⟩

theorem folds_keepEntry {item : Reader Json} {style : Style} {level : Nat}
    {entries : List (String × Json)}
    (each : ∀ entry ∈ entries, item.Reads (write style level entry.2) entry.2)
    (state : List (String × Json)) :
    Folds (keepEntry item) style state
      (entries.map fun (key, value) => (key, write style level value))
      (entries.foldl (fun built (key, value) => insert key value built) state) := by
  induction entries generalizing state with
  | nil => exact .nil state
  | cons entry entries ih =>
    obtain ⟨first, others⟩ := List.forall_mem_cons.mp each
    exact .cons (fun rest ends => took_keepEntry first style state _ ends) (ih others _)

theorem reads_object {style : Style} {level : Nat} {entries : List (String × Json)}
    (each : ∀ entry ∈ entries,
      (takeValue limit).Reads (write style (level + 1) entry.2) entry.2) :
    (takeValue (limit + 1)).Reads (write style level (.object entries))
      (.object (ofEntries entries)) := by
  rw [Style.write_object]
  refine ⟨⟨'{', _, rfl, rfl, by decide⟩, fun rest _ => ?_⟩
  have took := took_takeObject (folds_keepEntry each []) level rest
  rw [Style.object, List.cons_append, takeValue]
  exact took_map took fun _ => ⟨rfl, rfl⟩

theorem reads_items {style : Style} {level : Nat} {items images : List Json}
    (each : List.Forall₂ (fun item image =>
      (takeValue limit).Reads (write style (level + 1) item) image) items images) :
    (takeValue (limit + 1)).Reads (write style level (.array items)) (.array images) := by
  rw [Style.write_array]
  have reads := (reads_list (List.forall₂_map_left_iff.mpr each) style level).map array
  exact reads.of_same fun rest => takeValue_list _

theorem reads_name (c : Char) (tail : String) {value : Json}
    (starts : isBlank c = false ∧ c ≠ ']')
    (same : ∀ text, takeValue limit (c :: text) = takeName c tail value text) :
    (takeValue limit).Reads (c :: tail.toList) value where
  starts := ⟨c, _, rfl, starts⟩
  took rest _ := by
    rw [List.cons_append, same]
    exact took_takeName c tail value rest

theorem reads_integer {n : Int} (low : -9223372036854775808 ≤ n)
    (high : n < 18446744073709551616) :
    (takeValue limit).Reads (Digits.ofInt n) (.number (.integer n)) := by
  have reads : (takeNumberAs fun value => some (number value)).Reads (Figure.ofInt n).text
      (.number (.integer n)) :=
    Figure.reads_takeNumberAs _ (Figure.toNumber?_ofInt low high) rfl
  obtain ⟨c, tail, same, first⟩ := (Figure.ofInt n).text_eq_cons
  rw [same] at reads
  rw [← Figure.text_ofInt, same]
  exact reads.of_same fun rest => takeValue_number first _

/-- A stored value without floats comes back if it is nested no deeper than the reader goes. -/
theorem reads_value {value : Json} (stored : value.Stored) (free : value.FloatFree)
    (within : value.depth ≤ limit) (style : Style) (level : Nat) :
    (takeValue limit).Reads (write style level value) value := by
  -- One level in, the reader may go one level less deep, and so may the parts.
  induction stored generalizing limit level with
  | null =>
    rw [write]
    exact reads_name 'n' "ull" (by decide) fun text => by rw [takeValue]
  | bool value =>
    cases value with
    | true =>
      rw [write]
      exact reads_name 't' "rue" (by decide) fun text => by rw [takeValue]
    | false =>
      rw [write]
      exact reads_name 'f' "alse" (by decide) fun text => by rw [takeValue]
  | integer low high =>
    rw [write]
    exact reads_integer low high
  | float x => cases free
  | string s =>
    rw [write]
    exact ((reads_string s).map string).of_same fun rest => takeValue_string _
  | @array items each ih =>
    cases free with
    | array free =>
      cases limit with
      | zero => simp [depth] at within
      | succ limit =>
        have inner := depth_array_le_iff.mp within
        refine reads_items (List.forall₂_same.mpr fun item member => ?_)
        exact ih item member (free item member) (inner item member) (level + 1)
  | @object entries once each ih =>
    cases free with
    | object free =>
      cases limit with
      | zero => simp [depth] at within
      | succ limit =>
        have inner := depth_object_le_iff.mp within
        have reads : (takeValue (limit + 1)).Reads (write style level (.object entries))
            (.object (ofEntries entries)) := by
          refine reads_object fun entry member => ?_
          exact ih entry member (free entry member) (inner entry member) (level + 1)
        rwa [ofEntries_eq_self once] at reads

end Readers

end Projection.Json
