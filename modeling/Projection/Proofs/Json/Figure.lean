import Projection.Proofs.Json.Reads

set_option autoImplicit false

namespace Projection

structure Digits.Run where
  digits : List Char
  ne_nil : digits ≠ []
  all_digits : digits.all Char.isDigit = true

theorem Digits.Run.isDigit_of_mem (run : Run) {c : Char} (member : c ∈ run.digits) :
    c.isDigit = true := List.all_eq_true.mp run.all_digits c member

namespace Json

inductive Sign where
  | none
  | plus
  | minus
  deriving DecidableEq

def Sign.text : Sign → List Char
  | none => []
  | plus => ['+']
  | minus => ['-']

def Sign.apply : Sign → Nat → Int
  | minus, n => -n
  | _, n => n

structure Power where
  capital : Bool
  sign : Sign
  run : Digits.Run

namespace Power

def text (power : Power) : List Char :=
  (if power.capital then 'E' else 'e') :: (power.sign.text ++ power.run.digits)

def value (power : Power) : Int := power.sign.apply (Digits.toNat power.run.digits)

end Power

structure Figure where
  negative : Bool
  whole : Digits.Run
  leads : whole.digits.head? = some '0' → whole.digits = ['0']
  fraction : Option Digits.Run
  power : Option Power

namespace Figure

def fractionText : Option Digits.Run → List Char
  | none => []
  | some run => '.' :: run.digits

def powerText : Option Power → List Char
  | none => []
  | some power => power.text

def unsignedText (figure : Figure) : List Char :=
  figure.whole.digits ++ (fractionText figure.fraction ++ powerText figure.power)

def text (figure : Figure) : List Char :=
  if figure.negative then '-' :: figure.unsignedText else figure.unsignedText

def numeral (figure : Figure) : Numeral where
  negative := figure.negative
  whole := figure.whole.digits
  fraction := figure.fraction.map Digits.Run.digits
  exponent := figure.power.map Power.value

end Figure

section Stops

def Stops (rest : List Char) : Prop := ∀ c ∈ rest.head?, c.isDigit = false

theorem mem_of_isBlank {c : Char} (blank : isBlank c = true) : c ∈ [' ', '\n', '\t', '\r'] := by
  simpa [isBlank, or_assoc] using blank

theorem no_part_of_ends {c : Char} {rest : List Char} (ends : Ends (c :: rest)) :
    c.isDigit = false ∧ c ≠ '.' ∧ c ≠ 'e' ∧ c ≠ 'E' := by
  have no_part : ∀ c ∈ [' ', '\n', '\t', '\r'] ++ [',', ']', '}'],
      c.isDigit = false ∧ c ≠ '.' ∧ c ≠ 'e' ∧ c ≠ 'E' := by simp
  rcases ends c rfl with blank | mark
  · exact no_part c (List.mem_append_left _ (mem_of_isBlank blank))
  · exact no_part c (List.mem_append_right _ mark)

theorem stops_of_ends {rest : List Char} (ends : Ends rest) : Stops rest := by
  cases rest with
  | nil => simp [Stops]
  | cons c rest => simpa [Stops] using (no_part_of_ends ends).1

theorem stops_power (power : Option Power) {rest : List Char} (ends : Ends rest) :
    Stops (Figure.powerText power ++ rest) := by
  cases power with
  | none => exact stops_of_ends ends
  | some power =>
    cases capital : power.capital <;> simp [Stops, Figure.powerText, Power.text, capital]

theorem stops_fraction (fraction : Option Digits.Run) (power : Option Power) {rest : List Char}
    (ends : Ends rest) :
    Stops (Figure.fractionText fraction ++ (Figure.powerText power ++ rest)) := by
  cases fraction with
  | none => exact stops_power power ends
  | some run => simp [Stops, Figure.fractionText]

end Stops

namespace Numeral

theorem took_takeDigits (run : Digits.Run) {rest : List Char} (stops : Stops rest) :
    Took (takeDigits (run.digits ++ rest)) run.digits rest := by
  obtain ⟨digits, ne_nil, all_digits⟩ := run
  cases digits with
  | nil => exact absurd rfl ne_nil
  | cons c digits =>
    obtain ⟨first, others⟩ := List.forall_mem_cons.mp (List.all_eq_true.mp all_digits)
    have none_taken : rest.takeWhile Char.isDigit = [] := by
      cases rest <;> simp_all [Stops]
    have none_dropped : rest.dropWhile Char.isDigit = rest := by
      cases rest <;> simp_all [Stops]
    have taken : (digits ++ rest).takeWhile Char.isDigit = digits := by
      rw [List.takeWhile_append_of_pos others, none_taken, List.append_nil]
    have dropped : (digits ++ rest).dropWhile Char.isDigit = rest := by
      rw [List.dropWhile_append_of_pos others, none_dropped]
    simp only [List.cons_append, takeDigits, first, if_true, taken, dropped]
    exact ⟨_, rfl⟩

theorem took_takeWhole (figure : Figure) {rest : List Char} (stops : Stops rest) :
    Took (takeWhole (figure.whole.digits ++ rest)) figure.whole.digits rest := by
  have took := took_takeDigits figure.whole stops
  by_cases zero : figure.whole.digits.head? = some '0'
  · rw [figure.leads zero] at took ⊢
    cases rest with
    | nil => exact took
    | cons c rest =>
      have no_digit : c.isDigit = false := stops c rfl
      simp only [List.cons_append, List.nil_append, takeWhole, no_digit]
      exact ⟨_, rfl⟩
  · have plain : takeWhole (figure.whole.digits ++ rest) =
        takeDigits (figure.whole.digits ++ rest) := by
      rw [takeWhole]
      intro d tail start
      obtain ⟨c, digits, same⟩ := List.exists_cons_of_ne_nil figure.whole.ne_nil
      rw [same] at start zero
      exact zero (congrArg some (List.cons.inj start).1)
    rw [plain]
    exact took

theorem left_takeFraction (fraction : Option Digits.Run) (power : Option Power) {rest : List Char}
    (ends : Ends rest) :
    Left (takeFraction (Figure.fractionText fraction ++ (Figure.powerText power ++ rest)))
      (fraction.map Digits.Run.digits) (Figure.powerText power ++ rest) := by
  cases fraction with
  | some run =>
    obtain ⟨shorter, taken⟩ := took_takeDigits run (stops_power power ends)
    simp only [Figure.fractionText, List.cons_append, takeFraction, taken]
    exact ⟨_, rfl⟩
  | none =>
    have no_point : ∀ tail, Figure.powerText power ++ rest ≠ '.' :: tail := by
      intro tail start
      cases power with
      | none =>
        rw [show rest = '.' :: tail from start] at ends
        exact (no_part_of_ends ends).2.1 rfl
      | some power =>
        cases capital : power.capital <;> simp [Figure.powerText, Power.text, capital] at start
    rw [Figure.fractionText, List.nil_append, takeFraction]
    · exact ⟨_, rfl⟩
    · exact no_point

theorem took_takePower (power : Power) {rest : List Char} (stops : Stops rest) :
    Took (takePower (power.sign.text ++ (power.run.digits ++ rest))) power.value rest := by
  have took := took_takeDigits power.run stops
  unfold Power.value
  cases power.sign with
  | minus => exact took_map took fun _ => ⟨rfl, rfl⟩
  | plus => exact took_map took fun _ => ⟨rfl, rfl⟩
  | none =>
    obtain ⟨c, digits, same⟩ := List.exists_cons_of_ne_nil power.run.ne_nil
    have is_digit : c.isDigit = true := power.run.isDigit_of_mem (same ▸ List.mem_cons_self)
    -- A digit is neither sign, so the third case of the reader applies.
    have unsigned : ∀ sign ∈ ['-', '+'], ∀ tail, power.run.digits ++ rest ≠ sign :: tail := by
      intro sign signed tail start
      rw [same] at start
      rw [(List.cons.inj start).1] at is_digit
      have no_digit : ∀ sign ∈ ['-', '+'], sign.isDigit = false := by simp
      rw [no_digit sign signed] at is_digit
      cases is_digit
    rw [Sign.text, List.nil_append, takePower]
    · exact took_map took fun _ => ⟨rfl, rfl⟩
    · exact unsigned '-' (by decide)
    · exact unsigned '+' (by decide)

theorem left_takeExponent (power : Option Power) {rest : List Char} (ends : Ends rest) :
    Left (takeExponent (Figure.powerText power ++ rest)) (power.map Power.value) rest := by
  cases power with
  | none =>
    cases rest with
    | nil => exact ⟨_, rfl⟩
    | cons c rest =>
      obtain ⟨_, _, small, capital⟩ := no_part_of_ends ends
      simp only [Figure.powerText, List.nil_append, takeExponent, small, capital]
      exact ⟨_, rfl⟩
  | some power =>
    obtain ⟨shorter, taken⟩ := took_takePower power (stops_of_ends ends)
    have marked : (if power.capital then 'E' else 'e') = 'e' ∨
        (if power.capital then 'E' else 'e') = 'E' := by
      cases power.capital <;> simp
    have written : Figure.powerText (some power) ++ rest =
        (if power.capital then 'E' else 'e') :: (power.sign.text ++ (power.run.digits ++ rest)) := by
      simp [Figure.powerText, Power.text]
    rw [written, takeExponent, if_pos marked, taken]
    exact ⟨_, rfl⟩

theorem took_takeUnsigned (figure : Figure) {rest : List Char} (ends : Ends rest) :
    Took (takeUnsigned figure.negative (figure.unsignedText ++ rest)) figure.numeral rest := by
  have stops := stops_fraction figure.fraction figure.power ends
  obtain ⟨_, whole⟩ := took_takeWhole figure stops
  obtain ⟨_, fraction⟩ := left_takeFraction figure.fraction figure.power ends
  obtain ⟨_, exponent⟩ := left_takeExponent figure.power ends
  rw [Figure.unsignedText, List.append_assoc, List.append_assoc, takeUnsigned, whole]
  simp only [bind, Except.bind, fraction, exponent]
  exact ⟨_, rfl⟩

end Numeral

namespace Figure

theorem unsignedText_eq_cons (figure : Figure) :
    ∃ c tail, figure.unsignedText = c :: tail ∧ c.isDigit = true := by
  obtain ⟨c, digits, same⟩ := List.exists_cons_of_ne_nil figure.whole.ne_nil
  have first := figure.whole.isDigit_of_mem (same ▸ List.mem_cons_self)
  rw [unsignedText, same]
  exact ⟨c, _, rfl, first⟩

theorem text_eq_cons (figure : Figure) :
    ∃ c tail, figure.text = c :: tail ∧ (c = '-' ∨ c.isDigit = true) := by
  unfold text
  split
  · exact ⟨'-', _, rfl, .inl rfl⟩
  · obtain ⟨c, tail, same, first⟩ := figure.unsignedText_eq_cons
    exact ⟨c, tail, same, .inr first⟩

theorem took_take (figure : Figure) {rest : List Char} (ends : Ends rest) :
    Took (Numeral.take (figure.text ++ rest)) figure.numeral rest := by
  have took := Numeral.took_takeUnsigned figure ends
  cases negative : figure.negative with
  | true =>
    rw [negative] at took
    rw [text, if_pos negative, List.cons_append]
    exact took_map took fun _ => ⟨rfl, rfl⟩
  | false =>
    rw [negative] at took
    obtain ⟨c, tail, same, first⟩ := figure.unsignedText_eq_cons
    have unsigned : Numeral.take (figure.unsignedText ++ rest) =
        Numeral.takeUnsigned false (figure.unsignedText ++ rest) := by
      rw [Numeral.take]
      intro tail start
      rw [same] at start
      rw [(List.cons.inj start).1] at first
      exact absurd first (by decide)
    rw [text, if_neg (by simp [negative]), unsigned]
    exact took

theorem reads_takeNumberAs {α : Type} (figure : Figure) {number : Number} {use : Number → Option α}
    {value : α} (is : figure.numeral.toNumber? = some number) (fits : use number = some value) :
    (takeNumberAs use).Reads figure.text value := by
  obtain ⟨c, tail, same, first⟩ := figure.text_eq_cons
  have no_digit : ∀ c ∈ [' ', '\n', '\t', '\r', ']'], c ≠ '-' ∧ c.isDigit = false := by simp
  have starts : c ∉ [' ', '\n', '\t', '\r', ']'] := by
    intro other
    obtain ⟨unsigned, no_digit⟩ := no_digit c other
    rcases first with rfl | first
    · exact unsigned rfl
    · rw [no_digit] at first
      cases first
  have solid : isBlank c = false ∧ c ≠ ']' := by
    refine ⟨Bool.eq_false_iff.mpr fun blank => starts ?_, fun closing => starts (by simp [closing])⟩
    exact List.mem_append_left [']'] (mem_of_isBlank blank)
  refine ⟨⟨c, tail, same, solid⟩, fun rest ends => ?_⟩
  have took := figure.took_take ends
  rw [same, List.cons_append] at took ⊢
  obtain ⟨shorter, taken⟩ := took
  have number_taken : takeNumber (c :: (tail ++ rest)) = .ok ⟨number, rest, shorter⟩ := by
    simp only [takeNumber, taken, is]
    rfl
  simp only [takeNumberAs, if_pos first, number_taken, fits]
  exact ⟨_, rfl⟩

theorem reads_takeDouble (figure : Figure) {number : Number}
    (is : figure.numeral.toNumber? = some number) :
    takeDouble.Reads figure.text number.toDouble :=
  figure.reads_takeNumberAs is rfl

end Figure

section Integers

theorem head?_ofNat_ne_zero {n : Nat} (positive : 0 < n) : (Digits.ofNat n).head? ≠ some '0' := by
  induction n using Nat.strongRecOn with
  | ind n ih =>
    rw [Digits.ofNat]
    split
    · next small =>
      have no_zero : ∀ d < 10, 0 < d → Digits.char d ≠ '0' := by decide
      simpa using no_zero n small positive
    · next large =>
      have longer := ih (n / 10) (by omega) (by omega)
      rw [List.head?_append]
      cases first : (Digits.ofNat (n / 10)).head? with
      | none => exact absurd (List.head?_eq_none_iff.mp first) (Digits.ofNat_ne_nil _)
      | some c =>
        rw [first] at longer
        exact longer

def Figure.ofInt (n : Int) : Figure where
  negative := n < 0
  whole := ⟨Digits.ofNat n.natAbs, Digits.ofNat_ne_nil _,
    List.all_eq_true.mpr fun _ => Digits.isDigit_of_mem_ofNat⟩
  leads zero := by
    by_cases none_left : n.natAbs = 0
    · change Digits.ofNat n.natAbs = ['0']
      rw [none_left, Digits.ofNat]
      rfl
    · exact absurd zero (head?_ofNat_ne_zero (Nat.pos_of_ne_zero none_left))
  fraction := none
  power := none

theorem Figure.text_ofInt (n : Int) : (ofInt n).text = Digits.ofInt n := by
  simp [text, ofInt, unsignedText, fractionText, powerText, Digits.ofInt]

theorem Figure.toNumber?_ofInt {n : Int} (low : -9223372036854775808 ≤ n)
    (high : n < 18446744073709551616) : (ofInt n).numeral.toNumber? = some (.integer n) := by
  have digits : Digits.toNat (Digits.ofNat n.natAbs) = n.natAbs := Digits.toNat_ofNat _
  simp only [Numeral.toNumber?, numeral, ofInt, Option.map_none, Option.isNone_none, digits]
  by_cases negative : n < 0
  · rw [if_neg (by simp [negative]), if_pos (by simp [negative]; omega)]
    simp only [Option.some.injEq, Number.integer.injEq]
    omega
  · rw [if_pos (by simp [negative]; omega)]
    simp only [Option.some.injEq, Number.integer.injEq]
    omega

theorem reads_takeInteger {low high : Int} (low_fits : -9223372036854775808 ≤ low)
    (high_fits : high < 18446744073709551616) (n : { n : Int // low ≤ n ∧ n ≤ high }) :
    (takeInteger low high).Reads (Digits.ofInt n.val) n := by
  obtain ⟨n, above, below⟩ := n
  rw [← Figure.text_ofInt]
  have is := Figure.toNumber?_ofInt (n := n) (by omega) (by omega)
  exact Figure.reads_takeNumberAs _ is (dif_pos ⟨above, below⟩)

end Integers

end Json

end Projection
