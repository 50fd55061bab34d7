import Mathlib.Data.List.TakeWhile
import Projection.Config
import Projection.Proofs.Environment

set_option autoImplicit false

namespace Projection

namespace Environment

def assignAll? (environment : Environment) : List (String × String) → Option Environment
  | [] => some environment
  | (name, value) :: assignments =>
    (environment.setDefault? name value).bind fun after => assignAll? after assignments

/-- The text of a variable: what it is set to if that is UTF-8, or else what it is assigned first. -/
def textAfter (environment : Environment) (assignments : List (String × String)) (name : String) :
    Option String :=
  (environment.text? name).or (assignments.lookup name)

/-- No variable that has no text yet is first assigned one with NUL. -/
def Takes (environment : Environment) (assignments : List (String × String)) : Prop :=
  ∀ name value, environment.text? name = none → assignments.lookup name = some value →
    '\x00' ∉ value.toList

variable {environment after : Environment} {assignments : List (String × String)}

theorem text?_of_assignAll? (assigned : environment.assignAll? assignments = some after)
    (named : ∀ assignment ∈ assignments, IsName assignment.1) {name : String}
    (named_here : IsName name) :
    after.text? name = environment.textAfter assignments name := by
  induction assignments generalizing environment with
  | nil =>
    cases assigned
    simp [textAfter]
  | cons assignment assignments ih =>
    obtain ⟨first, value⟩ := assignment
    obtain ⟨named_first, named⟩ := List.forall_mem_cons.mp named
    obtain ⟨middle, set, assigned⟩ := Option.bind_eq_some_iff.mp assigned
    rw [ih assigned named, textAfter, textAfter, text?_of_setDefault? set named_first named_here,
      Option.or_assoc]
    by_cases same : name = first
    · simp [same]
    · simp [same, List.lookup_cons, beq_false_of_ne same]

theorem isSome_assignAll?_iff (named : ∀ assignment ∈ assignments, IsName assignment.1) :
    (environment.assignAll? assignments).isSome ↔ environment.Takes assignments := by
  induction assignments generalizing environment with
  | nil => simp [assignAll?, Takes]
  | cons assignment assignments ih =>
    obtain ⟨first, value⟩ := assignment
    obtain ⟨named_first, named⟩ := List.forall_mem_cons.mp named
    have named_of_lookup : ∀ {name text}, assignments.lookup name = some text → IsName name := by
      intro name text found
      obtain ⟨before, behind, rfl, _⟩ := List.lookup_eq_some_iff.mp found
      exact named (name, text) (by simp)
    rw [assignAll?]
    cases set : environment.setDefault? first value with
    | none =>
      obtain ⟨unset, nul⟩ := setDefault?_eq_none_iff.mp set
      have first_found : ((first, value) :: assignments).lookup first = some value := by simp
      exact ⟨nofun, fun takes => absurd nul (takes first value unset first_found)⟩
    | some middle =>
      rw [Option.bind_some, ih named]
      constructor
      · intro takes name text unset found
        by_cases same : name = first
        · subst same
          obtain rfl : value = text := by simpa using found
          intro nul
          rw [setDefault?_eq_none_iff.mpr ⟨unset, nul⟩] at set
          cases set
        · rw [List.lookup_cons, beq_false_of_ne same] at found
          refine takes name text ?_ found
          rw [text?_of_setDefault? set named_first (named_of_lookup found), unset, if_neg same]
          rfl
      · intro takes name text unset found
        rw [text?_of_setDefault? set named_first (named_of_lookup found), Option.or_eq_none_iff]
          at unset
        have other : name ≠ first := by
          rintro rfl
          simp at unset
        refine takes name text unset.1 ?_
        rw [List.lookup_cons, beq_false_of_ne other]
        exact found

end Environment

namespace EnvFile

def assignmentsOf (environment : Environment) : List (List Char) → List (String × String)
  | [] => []
  | line :: lines =>
    match Line.read environment line with
    | .empty => assignmentsOf environment lines
    | .assignment name value =>
      (name, value) :: (environment.setDefault? name value).elim []
        fun after => assignmentsOf after lines
    | .broken => []

theorem assignLines?_eq (environment : Environment) (lines : List (List Char)) :
    assignLines? environment lines = environment.assignAll? (assignmentsOf environment lines) := by
  induction lines generalizing environment with
  | nil => rfl
  | cons line lines ih =>
    rw [assignLines?, assignmentsOf]
    cases Line.read environment line with
    | empty => exact ih environment
    | broken => rfl
    | assignment name value =>
      simp only [Environment.assignAll?]
      cases environment.setDefault? name value with
      | none => rfl
      | some after => exact ih after

theorem isNameChar_of_isNameStart {c : Char} (starts : isNameStart c) : isNameChar c := by
  unfold isNameStart at starts
  unfold isNameChar Char.isAlphanum
  simp only [Bool.or_eq_true] at starts ⊢
  tauto

theorem isName_of_takeName {text name rest : List Char} (taken : takeName text = some (name, rest)) :
    Environment.IsName (String.ofList name) := by
  unfold takeName at taken
  split at taken
  · next starts =>
    cases taken
    constructor
    · cases text with
      | nil => simp at starts
      | cons c text =>
        have part : isNameChar c := isNameChar_of_isNameStart (by simpa using starts)
        simp [part]
    · rw [String.toList_ofList]
      intro mark
      have part := List.mem_takeWhile_imp mark
      revert part
      decide
  · cases taken

theorem isName_of_takeTarget {text name written : List Char}
    (taken : takeTarget text = some (name, written)) : Environment.IsName (String.ofList name) := by
  unfold takeTarget at taken
  split at taken
  · cases taken
  · next found =>
    cases taken
    exact isName_of_takeName found
  · split at taken
    · split at taken
      · next found =>
        cases taken
        exact isName_of_takeName found
      · cases taken
    · cases taken

theorem isName_of_read {environment : Environment} {line : List Char} {name value : String}
    (assigns : Line.read environment line = .assignment name value) :
    Environment.IsName name := by
  unfold Line.read at assigns
  simp only at assigns
  split at assigns
  · cases assigns
  · split at assigns
    · cases assigns
    · next name written target =>
      have named := isName_of_takeTarget target
      split at assigns
      · cases assigns
        exact named
      · split at assigns <;> cases assigns
        exact named

theorem isName_of_mem_assignmentsOf {environment : Environment} {lines : List (List Char)} :
    ∀ assignment ∈ assignmentsOf environment lines, Environment.IsName assignment.1 := by
  induction lines generalizing environment with
  | nil => simp [assignmentsOf]
  | cons line lines ih =>
    rw [assignmentsOf]
    cases assigns : Line.read environment line with
    | empty => exact ih
    | broken => simp
    | assignment name value =>
      refine List.forall_mem_cons.mpr ⟨isName_of_read assigns, ?_⟩
      cases environment.setDefault? name value with
      | none => simp
      | some after => exact ih

end EnvFile

end Projection
