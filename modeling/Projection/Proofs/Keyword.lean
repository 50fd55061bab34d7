import Mathlib.Data.List.Forall2
import Projection.Token

set_option autoImplicit false

namespace Projection

theorem toNat_toLower (c : Char) :
    c.toLower.toNat = if 65 ≤ c.toNat ∧ c.toNat ≤ 90 then c.toNat + 32 else c.toNat := by
  have bounds : (c.val ≥ 'A'.val ∧ c.val ≤ 'Z'.val) ↔ 65 ≤ c.toNat ∧ c.toNat ≤ 90 := by
    simp only [ge_iff_le, UInt32.le_iff_toNat_le]
    exact Iff.rfl
  unfold Char.toLower
  split
  · next capital =>
    rw [if_pos (bounds.mp capital)]
    have small := (bounds.mp capital).2
    simp only [Char.toNat, UInt32.toNat_add] at small ⊢
    have offset : ('a'.val - 'A'.val).toNat = 32 := by decide
    rw [offset]
    omega
  · next other => rw [if_neg (mt bounds.mpr other)]

def IsCapital (c : Char) : Prop := 65 ≤ c.toNat ∧ c.toNat ≤ 90

instance (c : Char) : Decidable (IsCapital c) := inferInstanceAs (Decidable (_ ∧ _))

theorem toLower_eq_iff {letter c : Char} (capital : IsCapital letter) :
    c.toLower = letter.toLower ↔ c = letter ∨ c.toNat = letter.toNat + 32 := by
  unfold IsCapital at capital
  have by_number : ∀ a b : Char, a = b ↔ a.toNat = b.toNat := fun a b => Char.toNat_inj.symm
  rw [by_number, by_number c, toNat_toLower, toNat_toLower, if_pos capital]
  split <;> omega

namespace KeywordRule

/-- What may stand for a capital letter: the letter itself and, unless case counts, its small
letter. The number of a small ASCII letter is 32 higher. -/
def Writes (rule : KeywordRule) (letter written : Char) : Prop :=
  written = letter ∨ rule.caseSensitive = false ∧ written.toNat = letter.toNat + 32

def Spells (rule : KeywordRule) (keyword text : String) : Prop :=
  List.Forall₂ rule.Writes keyword.toList text.toList

def Marks (rule : KeywordRule) (keyword : String) : Lexeme → Prop
  | .bare text => rule.Spells keyword text
  | _ => False

instance (rule : KeywordRule) (letter written : Char) : Decidable (rule.Writes letter written) :=
  inferInstanceAs (Decidable (_ ∨ _))

instance (rule : KeywordRule) (keyword text : String) : Decidable (rule.Spells keyword text) :=
  inferInstanceAs (Decidable (List.Forall₂ rule.Writes keyword.toList text.toList))

instance (rule : KeywordRule) (keyword : String) :
    (word : Lexeme) → Decidable (rule.Marks keyword word)
  | .bare text => inferInstanceAs (Decidable (rule.Spells keyword text))
  | .bracketed _ | .unclosed _ => inferInstanceAs (Decidable False)

variable {rule : KeywordRule} {keyword : String}

theorem eq_bare_of_marks {word : Lexeme} (marks : rule.Marks keyword word) :
    ∃ name, word = .bare name ∧ rule.Spells keyword name := by
  cases word with
  | bare name => exact ⟨name, rfl, marks⟩
  | bracketed _ | unclosed _ => exact False.elim marks

theorem spells_self (rule : KeywordRule) (keyword : String) : rule.Spells keyword keyword :=
  List.forall₂_same.mpr fun _ _ => .inl rfl

theorem exists_letter_of_writes {letters text : List Char}
    (spells : List.Forall₂ rule.Writes letters text) {c : Char} (member : c ∈ text) :
    ∃ letter ∈ letters, rule.Writes letter c := by
  induction spells with
  | nil => cases member
  | cons first _ ih =>
    rcases List.mem_cons.mp member with rfl | member
    · exact ⟨_, List.mem_cons_self, first⟩
    · obtain ⟨letter, inside, writes⟩ := ih member
      exact ⟨letter, List.mem_cons_of_mem _ inside, writes⟩

theorem map_toLower_eq_iff (insensitive : rule.caseSensitive = false) {letters : List Char}
    (capital : ∀ letter ∈ letters, IsCapital letter) {text : List Char} :
    text.map Char.toLower = letters.map Char.toLower ↔ List.Forall₂ rule.Writes letters text := by
  induction letters generalizing text with
  | nil => cases text <;> simp
  | cons letter letters ih =>
    cases text with
    | nil => simp
    | cons c text =>
      have first := toLower_eq_iff (c := c) (capital letter (by simp))
      have capitals : ∀ letter ∈ letters, IsCapital letter := fun c hc => capital c (by simp [hc])
      simp [Writes, insensitive, first, ih capitals]

theorem forall₂_writes_iff (sensitive : rule.caseSensitive = true) {letters text : List Char} :
    List.Forall₂ rule.Writes letters text ↔ text = letters := by
  have same : rule.Writes = fun letter written => letter = written := by
    funext letter written
    simp [Writes, sensitive, eq_comm]
  rw [same, List.forall₂_eq_eq_eq, eq_comm]

theorem accepts_iff_marks (capital : ∀ letter ∈ keyword.toList, IsCapital letter) (word : Lexeme) :
    rule.accepts keyword word = true ↔ rule.Marks keyword word := by
  cases word with
  | bracketed _ => simp [accepts, Marks]
  | unclosed _ => simp [accepts, Marks]
  | bare text =>
    cases sensitive : rule.caseSensitive with
    | false =>
      simp only [accepts, sensitive, Bool.false_eq_true, if_false, beq_iff_eq, Marks, Spells,
        foldCase]
      exact map_toLower_eq_iff sensitive capital
    | true =>
      simp only [accepts, sensitive, if_true, beq_iff_eq, Marks, Spells]
      rw [forall₂_writes_iff sensitive, String.toList_inj]

theorem acceptsSelect_iff (rule : KeywordRule) (word : Lexeme) :
    rule.acceptsSelect word = true ↔ rule.Marks "SELECT" word :=
  accepts_iff_marks (by simp [IsCapital]) word

theorem acceptsFrom_iff (rule : KeywordRule) (word : Lexeme) :
    rule.acceptsFrom word = true ↔ rule.Marks "FROM" word :=
  accepts_iff_marks (by simp [IsCapital]) word

end KeywordRule

end Projection
