import Projection.Proofs.Json.Sameness

/-! Equality of values as a relation. It is an equivalence, though values are compared from left to
right and an object's entries are looked up on the right. Two objects that have each key once are
equal if and only if the entries of the one, in the order of the other, are equal place by place. -/

set_option autoImplicit false

namespace Projection

theorem isSome_eq_of_rel {α β : Type} {related : α → β → Prop} {a : Option α} {b : Option β}
    (rel : Option.Rel related a b) : a.isSome = b.isSome := by cases rel <;> rfl

theorem Double.same_iff {x y : Double} :
    x.same y = true ↔ x = y ∨ x.isZero = true ∧ y.isZero = true := by
  simp [same, or_comm]

namespace Json

/-- The places of an object's entries do not count. An integer is not equal to any float; zeros are
equal whatever their signs. -/
inductive Same : Json → Json → Prop
  | null : Same .null .null
  | bool (value : Bool) : Same (.bool value) (.bool value)
  | integer (n : Int) : Same (.number (.integer n)) (.number (.integer n))
  | float {x y : Double} (equal : x = y ∨ x.isZero = true ∧ y.isZero = true) :
      Same (.number (.float x)) (.number (.float y))
  | string (s : String) : Same (.string s) (.string s)
  | array {as bs : List Json} (length : as.length = bs.length)
      (each : ∀ (i : Nat) (left : i < as.length) (right : i < bs.length), Same as[i] bs[i]) :
      Same (.array as) (.array bs)
  | object {as bs : List (String × Json)} (known : ∀ key, key ∈ keys as ↔ key ∈ keys bs)
      (each : ∀ key a b, find? key as = some a → find? key bs = some b → Same a b) :
      Same (.object as) (.object bs)

variable {a b c : Json} {as bs : List (String × Json)}

theorem find?_eq_none_iff {key : String} : find? key as = none ↔ key ∉ keys as := by
  rw [← isSome_find?_iff, Bool.not_eq_true, Option.isSome_eq_false_iff, Option.isNone_iff_eq_none]

theorem exists_find?_of_mem {key : String} (known : key ∈ keys as) :
    ∃ value, find? key as = some value :=
  Option.isSome_iff_exists.mp (isSome_find?_iff.mpr known)

theorem mem_keys_of_find? {key : String} (found : find? key as = some a) : key ∈ keys as :=
  isSome_find?_iff.mp (Option.isSome_iff_exists.mpr ⟨a, found⟩)

theorem mem_of_find? {key : String} (found : find? key as = some a) : (key, a) ∈ as := by
  obtain ⟨before, after, rfl, _⟩ := List.lookup_eq_some_iff.mp found
  exact List.mem_append_right before List.mem_cons_self

theorem same_object_iff_rel :
    Same (.object as) (.object bs) ↔ ∀ key, Option.Rel Same (find? key as) (find? key bs) := by
  constructor
  · intro equal key
    cases equal with
    | object known each =>
      by_cases here : key ∈ keys as
      · obtain ⟨a, found⟩ := exists_find?_of_mem here
        obtain ⟨b, also⟩ := exists_find?_of_mem ((known key).mp here)
        rw [found, also]
        exact .some (each key a b found also)
      · rw [find?_eq_none_iff.mpr here, find?_eq_none_iff.mpr (mt (known key).mpr here)]
        exact .none
  · intro rel
    refine .object (fun key => ?_) fun key a b found also => ?_
    · rw [← isSome_find?_iff, ← isSome_find?_iff, isSome_eq_of_rel (rel key)]
    · have answers := rel key
      rw [found, also] at answers
      cases answers with
      | some equal => exact equal

section Decided

theorem Same.of_same (decided : same a b = true) : Same a b := by
  induction a using Json.induct generalizing b with
  | null =>
    cases b <;> first | exact .null | simp [same] at decided
  | bool value =>
    cases b with
    | bool other =>
      rw [same, beq_iff_eq] at decided
      exact decided ▸ .bool value
    | _ => simp [same] at decided
  | number value =>
    cases b with
    | number other =>
      rw [same] at decided
      cases value with
      | integer m =>
        cases other with
        | integer n =>
          obtain rfl : m = n := beq_iff_eq.mp decided
          exact .integer m
        | float y => cases decided
      | float x =>
        cases other with
        | integer n => cases decided
        | float y => exact .float (Double.same_iff.mp decided)
    | _ => simp [same] at decided
  | string s =>
    cases b with
    | string t =>
      rw [same, beq_iff_eq] at decided
      exact decided ▸ .string s
    | _ => simp [same] at decided
  | array items ih =>
    cases b with
    | array others =>
      rw [same, sameItems_iff_forall₂, List.forall₂_iff_get] at decided
      exact .array decided.1 fun i left right =>
        ih _ (List.getElem_mem left) (decided.2 i left right)
    | _ => simp [same] at decided
  | object entries ih =>
    cases b with
    | object others =>
      obtain ⟨each, known⟩ := same_object_iff.mp decided
      refine .object (fun key => ⟨fun here => ?_, known key⟩) fun key a b found also => ?_
      · obtain ⟨a, found⟩ := exists_find?_of_mem here
        obtain ⟨b, also, _⟩ := each key a found
        exact mem_keys_of_find? also
      · obtain ⟨_, there, equal⟩ := each key a found
        cases also.symm.trans there
        exact ih (key, a) (mem_of_find? found) equal
    | _ => simp [same] at decided

theorem Same.same (equal : Same a b) : Json.same a b = true := by
  induction equal with
  | null => rw [Json.same]
  | bool value => rw [Json.same, beq_self_eq_true]
  | integer n => rw [Json.same, Number.same_refl]
  | float equal =>
    rw [Json.same]
    exact Double.same_iff.mpr equal
  | string s => rw [Json.same, beq_self_eq_true]
  | array length _ ih =>
    rw [Json.same, sameItems_iff_forall₂, List.forall₂_iff_get]
    exact ⟨length, ih⟩
  | object known _ ih =>
    refine same_object_iff.mpr ⟨fun key a found => ?_, fun key => (known key).mpr⟩
    obtain ⟨b, also⟩ := exists_find?_of_mem ((known key).mp (mem_keys_of_find? found))
    exact ⟨b, also, ih key a b found also⟩

theorem same_eq_true_iff : same a b = true ↔ Same a b := ⟨Same.of_same, Same.same⟩

end Decided

namespace Same

theorem refl (a : Json) : Same a a := of_same (same_refl a)

theorem symm (equal : Same a b) : Same b a := by
  induction equal with
  | null => exact .null
  | bool value => exact .bool value
  | integer n => exact .integer n
  | float equal => exact .float (equal.imp Eq.symm And.symm)
  | string s => exact .string s
  | array length _ ih => exact .array length.symm fun i left right => ih i right left
  | object known _ ih =>
    exact .object (fun key => (known key).symm) fun key b a also found => ih key a b found also

theorem trans (first : Same a b) (second : Same b c) : Same a c := by
  induction first generalizing c with
  | null | bool | integer | string => exact second
  | float equal =>
    cases second with
    | float also =>
      rcases equal with rfl | ⟨zero, same⟩
      · exact .float also
      · rcases also with rfl | ⟨_, last⟩
        · exact .float (.inr ⟨zero, same⟩)
        · exact .float (.inr ⟨zero, last⟩)
  | array length _ ih =>
    cases second with
    | array also each =>
      exact .array (length.trans also) fun i left right =>
        ih i left (length ▸ left) (each i (length ▸ left) right)
  | object known _ ih =>
    cases second with
    | object also each =>
      refine .object (fun key => (known key).trans (also key)) fun key a c found last => ?_
      obtain ⟨b, middle⟩ := exists_find?_of_mem ((known key).mp (mem_keys_of_find? found))
      exact ih key a b found middle (each key b c middle last)

end Same

section Entries

theorem find?_rel (each : List.Forall₂ (fun a b => a.1 = b.1 ∧ Same a.2 b.2) as bs)
    (key : String) : Option.Rel Same (find? key as) (find? key bs) := by
  induction each with
  | nil => exact .none
  | @cons a b as bs first _ ih =>
    obtain ⟨same_key, equal⟩ := first
    rw [find?_cons, find?_cons, same_key]
    split
    · exact .some equal
    · exact ih

theorem find?_of_mem (once : (keys as).Nodup) {entry : String × Json} (member : entry ∈ as) :
    find? entry.1 as = some entry.2 := by
  obtain ⟨before, after, rfl⟩ := List.append_of_mem member
  refine List.lookup_eq_some_iff.mpr ⟨before, after, rfl, fun other earlier => ?_⟩
  rw [keys, List.map_append, List.nodup_append] at once
  exact bne_iff_ne.mpr (once.2.2 _ (List.mem_map_of_mem earlier) _ List.mem_cons_self).symm

theorem find?_eq_some_iff_mem (once : (keys as).Nodup) {key : String} :
    find? key as = some a ↔ (key, a) ∈ as := ⟨mem_of_find?, find?_of_mem once⟩

theorem find?_of_perm (once : (keys as).Nodup) (perm : as.Perm bs) (key : String) :
    find? key as = find? key bs := by
  have again : (keys bs).Nodup := (perm.map Prod.fst).nodup_iff.mp once
  ext value
  rw [find?_eq_some_iff_mem once, find?_eq_some_iff_mem again, perm.mem_iff]

def under (entries : List (String × Json)) (keys : List String) : List (String × Json) :=
  keys.map fun key => (key, (find? key entries).getD .null)

theorem under_keys (once : (keys as).Nodup) : under as (keys as) = as := by
  rw [under, keys, List.map_map]
  refine (List.map_congr_left fun entry member => ?_).trans (List.map_id as)
  rw [Function.comp_apply, find?_of_mem once member]
  rfl

theorem same_object_iff_perm (once : (keys as).Nodup) (also : (keys bs).Nodup) :
    Same (.object as) (.object bs) ↔ ∃ ordered, as.Perm ordered ∧
      List.Forall₂ (fun a b => a.1 = b.1 ∧ Same a.2 b.2) ordered bs := by
  constructor
  · intro equal
    cases equal with
    | object known each =>
      have perm : (keys as).Perm (keys bs) := (List.perm_ext_iff_of_nodup once also).mpr known
      refine ⟨under as (keys bs), ?_, ?_⟩
      · have moved := perm.map fun key => (key, (find? key as).getD .null)
        rwa [← under, ← under, under_keys once] at moved
      · nth_rewrite 2 [← under_keys also]
        rw [under, under, List.forall₂_map_left_iff, List.forall₂_map_right_iff, List.forall₂_same]
        intro key here
        obtain ⟨b, there⟩ := exists_find?_of_mem here
        obtain ⟨a, found⟩ := exists_find?_of_mem ((known key).mpr here)
        rw [found, there]
        exact ⟨rfl, each key a b found there⟩
  · rintro ⟨ordered, perm, each⟩
    refine same_object_iff_rel.mpr fun key => ?_
    rw [find?_of_perm once perm]
    exact find?_rel each key

end Entries

end Json

end Projection
