import Mathlib.Data.List.Forall2
import Projection.Proofs.Json.Blanks
import Projection.Proofs.Json.Entries

set_option autoImplicit false

namespace Projection.Json

theorem Number.same_refl (number : Number) : number.same number = true := by
  cases number with
  | integer n => exact beq_self_eq_true n
  | float x => exact x.same_refl

theorem sameItems_iff_forall₂ {as bs : List Json} :
    sameItems as bs = true ↔ List.Forall₂ (fun a b => same a b = true) as bs := by
  induction as generalizing bs with
  | nil => cases bs <;> simp [sameItems]
  | cons a as ih => cases bs <;> simp [sameItems, ih]

theorem sameEntries_cons_iff {seen : List String} {key : String} {a : Json}
    {as bs : List (String × Json)} :
    sameEntries seen ((key, a) :: as) bs = true ↔
      (key ∈ seen ∨ ∃ b, find? key bs = some b ∧ same a b = true) ∧
        sameEntries (key :: seen) as bs = true := by
  rw [sameEntries, Bool.and_eq_true, Bool.or_eq_true, List.contains_iff_mem]
  cases find? key bs <;> simp

theorem sameEntries_iff {seen : List String} {as bs : List (String × Json)} :
    sameEntries seen as bs = true ↔ ∀ key ∉ seen, ∀ a, find? key as = some a →
      ∃ b, find? key bs = some b ∧ same a b = true := by
  induction as generalizing seen with
  | nil => simp [sameEntries, find?]
  | cons entry as ih =>
    obtain ⟨first, value⟩ := entry
    rw [sameEntries_cons_iff, ih]
    constructor
    · rintro ⟨here, behind⟩ key unseen a found
      rw [find?_cons] at found
      split at found
      · next same_key =>
        cases found
        cases same_key
        exact here.resolve_left unseen
      · next other =>
        exact behind key (mt List.mem_cons.mp (not_or.mpr ⟨other, unseen⟩)) a found
    · -- an entry whose key came before is not the one that is found under it
      intro each
      refine ⟨?_, fun key unseen a found => ?_⟩
      · by_cases known : first ∈ seen
        · exact .inl known
        · exact .inr (each first known value (by rw [find?_cons, if_pos rfl]))
      · obtain ⟨other, unseen⟩ := not_or.mp (mt List.mem_cons.mpr unseen)
        exact each key unseen a (by rw [find?_cons, if_neg other, found])

theorem same_object_iff {as bs : List (String × Json)} :
    same (.object as) (.object bs) = true ↔
      (∀ key a, find? key as = some a → ∃ b, find? key bs = some b ∧ same a b = true) ∧
        ∀ key ∈ keys bs, key ∈ keys as := by
  rw [same, Bool.and_eq_true, sameEntries_iff]
  simp

theorem same_refl (value : Json) : same value value = true := by
  induction value using Json.induct with
  | null => rw [same]
  | bool value => rw [same, beq_self_eq_true]
  | number value => rw [same, value.same_refl]
  | string s => rw [same, beq_self_eq_true]
  | array items ih =>
    rw [same, sameItems_iff_forall₂, List.forall₂_same]
    exact ih
  | object entries ih =>
    refine same_object_iff.mpr ⟨fun key a found => ⟨a, found, ?_⟩, fun _ known => known⟩
    obtain ⟨before, after, rfl, _⟩ := List.lookup_eq_some_iff.mp found
    exact ih (key, a) (List.mem_append_right before List.mem_cons_self)

end Projection.Json
