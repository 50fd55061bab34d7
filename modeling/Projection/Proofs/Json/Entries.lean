import Mathlib.Data.List.Basic
import Mathlib.Data.List.Induction
import Projection.Json.Basic

set_option autoImplicit false

namespace Projection

theorem eraseDups_append_singleton (names : List String) (name : String) :
    (names ++ [name]).eraseDups =
      if name ∈ names then names.eraseDups else names.eraseDups ++ [name] := by
  by_cases known : name ∈ names <;>
    simp [List.eraseDups_append, List.eraseDups_cons, List.removeAll, known]

theorem pairwise_idxOf_eraseDups (names : List String) :
    names.eraseDups.Pairwise fun a b => names.idxOf a < names.idxOf b := by
  -- From the front to the back: a name that is new stands behind all that came before it.
  induction names using List.reverseRecOn with
  | nil => exact List.Pairwise.nil
  | append_singleton names name ih =>
    have before : names.eraseDups.Pairwise fun a b =>
        (names ++ [name]).idxOf a < (names ++ [name]).idxOf b := by
      refine ih.imp_of_mem fun left right less => ?_
      rw [List.mem_eraseDups] at left right
      rwa [List.idxOf_append_of_mem left, List.idxOf_append_of_mem right]
    rw [eraseDups_append_singleton]
    split
    · exact before
    · next new =>
      refine List.pairwise_append.mpr ⟨before, List.pairwise_singleton _ _, fun a old b last => ?_⟩
      rw [List.mem_eraseDups] at old
      rw [List.mem_singleton.mp last, List.idxOf_append_of_mem old,
        List.idxOf_append_of_notMem new]
      exact Nat.lt_of_lt_of_le (List.idxOf_lt_length_of_mem old) (Nat.le_add_right _ _)

namespace Json

variable {name key : String} {value : Json} {entries : List (String × Json)}

theorem insert_of_not_mem (fresh : key ∉ keys entries) :
    insert key value entries = entries ++ [(key, value)] := by
  induction entries with
  | nil => rfl
  | cons entry entries ih =>
    obtain ⟨other, fresh⟩ := not_or.mp (mt List.mem_cons.mpr fresh)
    rw [insert, if_neg (Ne.symm other), ih fresh, List.cons_append]

theorem keys_insert_of_mem (known : key ∈ keys entries) :
    keys (insert key value entries) = keys entries := by
  induction entries with
  | nil => cases known
  | cons entry entries ih =>
    by_cases here : entry.1 = key
    · rw [insert, if_pos here]
      exact congrArg (· :: keys entries) here.symm
    · have behind := (List.mem_cons.mp known).resolve_left (Ne.symm here)
      rw [insert, if_neg here]
      exact congrArg (entry.1 :: ·) (ih behind)

theorem find?_cons (entry : String × Json) :
    find? name (entry :: entries) = if name = entry.1 then some entry.2 else find? name entries := by
  unfold find?
  by_cases here : name = entry.1
  · rw [List.lookup_cons, here, beq_self_eq_true, if_pos rfl]
  · rw [List.lookup_cons, beq_false_of_ne here, if_neg here]

theorem isSome_find?_iff :
    (find? name entries).isSome ↔ name ∈ keys entries := by
  induction entries with
  | nil => simp [find?, keys]
  | cons entry entries ih =>
    rw [find?_cons]
    by_cases here : name = entry.1
    · simp [keys, here]
    · rw [if_neg here, ih]
      simp [keys, here]

theorem find?_insert :
    find? name (insert key value entries) = if name = key then some value else find? name entries := by
  induction entries with
  | nil => simp [insert, find?_cons]
  | cons entry entries ih =>
    by_cases here : entry.1 = key
    · rw [insert, if_pos here, find?_cons, find?_cons, here]
      split <;> rfl
    · rw [insert, if_neg here, find?_cons, find?_cons, ih]
      by_cases first : name = entry.1
      · simp [first, here]
      · simp [first]

theorem ofEntries_append_singleton (entry : String × Json) :
    ofEntries (entries ++ [entry]) = insert entry.1 entry.2 (ofEntries entries) :=
  List.foldl_append

theorem keys_append_singleton (entry : String × Json) :
    keys (entries ++ [entry]) = keys entries ++ [entry.1] := List.map_append

theorem keys_ofEntries (entries : List (String × Json)) :
    keys (ofEntries entries) = (keys entries).eraseDups := by
  induction entries using List.reverseRecOn with
  | nil => rfl
  | append_singleton entries entry ih =>
    have same : entry.1 ∈ keys (ofEntries entries) ↔ entry.1 ∈ keys entries := by
      rw [ih, List.mem_eraseDups]
    rw [ofEntries_append_singleton, keys_append_singleton, eraseDups_append_singleton, ← ih]
    split
    · next known => exact keys_insert_of_mem (same.mpr known)
    · next new => rw [insert_of_not_mem (mt same.mp new), keys_append_singleton]

theorem find?_ofEntries (name : String) (entries : List (String × Json)) :
    find? name (ofEntries entries) = find? name entries.reverse := by
  induction entries using List.reverseRecOn with
  | nil => rfl
  | append_singleton entries entry ih =>
    rw [ofEntries_append_singleton, find?_insert, ih, List.reverse_append, List.reverse_singleton,
      List.singleton_append, find?_cons]

theorem mem_keys_reverse : name ∈ keys entries.reverse ↔ name ∈ keys entries := by
  rw [keys, List.map_reverse, List.mem_reverse, keys]

theorem ofEntries_eq_self (once : (keys entries).Nodup) : ofEntries entries = entries := by
  induction entries using List.reverseRecOn with
  | nil => rfl
  | append_singleton entries entry ih =>
    rw [keys_append_singleton, List.nodup_append] at once
    rw [ofEntries_append_singleton, ih once.1]
    exact insert_of_not_mem fun known => once.2.2 _ known _ (List.mem_singleton_self _) rfl

theorem find?_of_answers {answer : String → Option Json}
    (answers : ∀ entry ∈ entries, answer entry.1 = some entry.2) :
    find? name entries = if name ∈ keys entries then answer name else none := by
  induction entries with
  | nil => rfl
  | cons entry entries ih =>
    obtain ⟨first, others⟩ := List.forall_mem_cons.mp answers
    have known : name ∈ keys (entry :: entries) ↔ name = entry.1 ∨ name ∈ keys entries :=
      List.mem_cons
    rw [find?_cons, ih others]
    by_cases here : name = entry.1
    · rw [if_pos here, if_pos (known.mpr (.inl here)), here, first]
    · rw [if_neg here]
      simp only [known, here, false_or]

end Json

end Projection
