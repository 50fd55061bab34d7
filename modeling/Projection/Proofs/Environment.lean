import Mathlib.Data.List.Basic
import Projection.Environment

set_option autoImplicit false

namespace Projection

namespace RawText

variable {name other : String}

theorem equalsSign_mem_utf8EncodeChar {c : Char} :
    equalsSign ∈ String.utf8EncodeChar c ↔ c = '=' := by
  have number : c = '=' ↔ c.val.toNat = 61 := by
    rw [← Char.val_inj, ← UInt32.toNat_inj]
    rfl
  rw [number, String.utf8EncodeChar]
  have mark : UInt8.toNat equalsSign = 61 := rfl
  split_ifs <;>
    simp only [List.mem_cons, List.not_mem_nil, or_false, ← UInt8.toNat_inj, mark,
      UInt8.toNat_ofNat'] <;>
    omega

theorem equalsSign_mem_bytes_ofString :
    equalsSign ∈ (ofString name).bytes ↔ '=' ∈ name.toList := by
  rw [bytes_ofString, List.mem_flatMap]
  simp only [equalsSign_mem_utf8EncodeChar, exists_eq_right]

theorem isPrefixOf?_marked {mark : UInt8} {front others : List UInt8} (free : mark ∉ front)
    (free_others : mark ∉ others) (rest : List UInt8) :
    (front ++ [mark]).isPrefixOf? (others ++ mark :: rest) =
      if others = front then some rest else none := by
  induction front generalizing others with
  | nil =>
    cases others with
    | nil => simp [List.isPrefixOf?]
    | cons d others =>
      simp [List.isPrefixOf?, List.ne_of_not_mem_cons free_others]
  | cons c front ih =>
    have apart : mark ≠ c := List.ne_of_not_mem_cons free
    have free := List.not_mem_of_not_mem_cons free
    cases others with
    | nil => simp [List.isPrefixOf?, Ne.symm apart]
    | cons d others =>
      have free_others := List.not_mem_of_not_mem_cons free_others
      by_cases same : c = d
      · simp [List.isPrefixOf?, same, ih free free_others]
      · simp [List.isPrefixOf?, same, Ne.symm same]

end RawText

namespace Environment

/-- What a variable can be called. -/
def IsName (name : String) : Prop := name ≠ "" ∧ '=' ∉ name.toList

instance (name : String) : Decidable (IsName name) :=
  inferInstanceAs (Decidable (name ≠ "" ∧ '=' ∉ name.toList))

variable {environment : Environment} {name other value : String} {rest : RawText}

theorem bytes_front (name : String) (rest : RawText) :
    (front name ++ rest).bytes = (RawText.ofString name).bytes ++ RawText.equalsSign :: rest.bytes :=
  List.append_assoc _ [RawText.equalsSign] rest.bytes

theorem behind?_front_append (named : IsName name) (named_other : IsName other) (rest : RawText) :
    (front other).behind? (front name ++ rest) = if other = name then some rest else none := by
  have apart : (RawText.ofString name).bytes = (RawText.ofString other).bytes ↔ other = name :=
    ⟨fun same => (RawText.ofString_inj.mp (congrArg RawText.mk same)).symm, fun same => same ▸ rfl⟩
  have found := RawText.isPrefixOf?_marked
    (mt RawText.equalsSign_mem_bytes_ofString.mp named_other.2)
    (mt RawText.equalsSign_mem_bytes_ofString.mp named.2) rest.bytes
  rw [RawText.behind?, bytes_front, show (front other).bytes = (RawText.ofString other).bytes ++
    [RawText.equalsSign] from rfl, found]
  by_cases same : other = name
  · rw [if_pos same, if_pos (apart.mpr same)]
    rfl
  · rw [if_neg same, if_neg (mt apart.mp same)]
    rfl

theorem eq_append_of_behind? {front raw : RawText} (found : front.behind? raw = some rest) :
    raw = front ++ rest := by
  obtain ⟨bytes, behind, rfl⟩ := Option.map_eq_some_iff.mp found
  exact congrArg RawText.mk (List.isPrefixOf?_eq_some_iff_append_eq.mp behind).symm

theorem get?_cons (named : IsName name) (first : RawText) (others : Environment) :
    get? (first :: others) name = ((front name).behind? first).or (others.get? name) := by
  rw [get?, get?, if_neg named.1, if_neg named.1, List.findSome?_cons]
  cases (front name).behind? first <;> rfl

theorem get?_set (named : IsName name) (named_other : IsName other) :
    (environment.set name value).get? other =
      if other = name then some (RawText.ofString value) else environment.get? other := by
  have here : ((front other).behind? (entry name value)) =
      if other = name then some (RawText.ofString value) else none :=
    behind?_front_append named named_other _
  induction environment with
  | nil =>
    rw [set, get?_cons named_other, here]
    split
    · rfl
    · rw [Option.none_or]
  | cons first others ih =>
    rw [set]
    split
    · next begins =>
      obtain ⟨rest, begins⟩ := Option.isSome_iff_exists.mp begins
      rw [get?_cons named_other, get?_cons named_other, here, eq_append_of_behind? begins,
        behind?_front_append named named_other]
      split <;> rfl
    · next apart =>
      rw [get?_cons named_other, get?_cons named_other, ih]
      split
      · next same =>
        rw [same, Option.not_isSome_iff_eq_none.mp apart]
        rfl
      · rfl

theorem text?_set (named : IsName name) (named_other : IsName other) :
    (environment.set name value).text? other =
      if other = name then some value else environment.text? other := by
  rw [text?, get?_set named named_other]
  split
  · exact RawText.toString?_ofString value
  · rfl

theorem text?_of_setDefault? {after : Environment}
    (assigned : environment.setDefault? name value = some after) (named : IsName name)
    (named_other : IsName other) : after.text? other =
      (environment.text? other).or (if other = name then some value else none) := by
  unfold setDefault? at assigned
  split at assigned
  · next known =>
    obtain ⟨text, known⟩ := Option.isSome_iff_exists.mp known
    cases assigned
    split
    · next same => rw [same, known, Option.some_or]
    · rw [Option.or_none]
  · next unknown =>
    split at assigned
    · cases assigned
    · cases assigned
      rw [text?_set named named_other]
      split
      · next same => rw [same, Option.not_isSome_iff_eq_none.mp unknown, Option.none_or]
      · rw [Option.or_none]

theorem setDefault?_eq_none_iff : environment.setDefault? name value = none ↔
    environment.text? name = none ∧ '\x00' ∈ value.toList := by
  unfold setDefault?
  split
  · next known => simp [Option.isSome_iff_ne_none.mp known]
  · next unknown =>
    rw [Option.not_isSome_iff_eq_none] at unknown
    split <;> simp [*]

end Environment

end Projection
