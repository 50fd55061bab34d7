set_option autoImplicit false

namespace Projection.Digits

def char (d : Nat) : Char := Char.ofNat (48 + d)

def value (c : Char) : Nat := c.toNat - 48

theorem value_char {d : Nat} (h : d < 10) : value (char d) = d := by
  match d, h with
  | 0, _ | 1, _ | 2, _ | 3, _ | 4, _ | 5, _ | 6, _ | 7, _ | 8, _ | 9, _ => rfl

theorem isDigit_char {d : Nat} (h : d < 10) : (char d).isDigit = true := by
  match d, h with
  | 0, _ | 1, _ | 2, _ | 3, _ | 4, _ | 5, _ | 6, _ | 7, _ | 8, _ | 9, _ => rfl

def ofNat (n : Nat) : List Char :=
  if n < 10 then [char n] else ofNat (n / 10) ++ [char (n % 10)]
termination_by n

def toNat (digits : List Char) : Nat := digits.foldl (fun n c => 10 * n + value c) 0

theorem toNat_append_singleton (digits : List Char) (c : Char) :
    toNat (digits ++ [c]) = 10 * toNat digits + value c := by
  simp [toNat, List.foldl_append]

theorem toNat_ofNat (n : Nat) : toNat (ofNat n) = n := by
  induction n using Nat.strongRecOn with
  | ind n ih =>
    rw [ofNat]
    split
    · next small => simp [toNat, value_char small]
    · next large =>
      rw [toNat_append_singleton, ih (n / 10) (by omega), value_char (by omega)]
      omega

theorem isDigit_of_mem_ofNat {n : Nat} {c : Char} (h : c ∈ ofNat n) : c.isDigit = true := by
  induction n using Nat.strongRecOn with
  | ind n ih =>
    rw [ofNat] at h
    split at h
    · next small => simp_all [isDigit_char small]
    · next large =>
      rcases List.mem_append.mp h with h | h
      · exact ih (n / 10) (by omega) h
      · rw [List.mem_singleton.mp h]
        exact isDigit_char (by omega)

theorem ofNat_ne_nil (n : Nat) : ofNat n ≠ [] := by
  rw [ofNat]
  split <;> simp

def ofInt (n : Int) : List Char :=
  if n < 0 then '-' :: ofNat n.natAbs else ofNat n.natAbs

def hexChar (d : Nat) : Char := if d < 10 then Char.ofNat (48 + d) else Char.ofNat (87 + d)

def hexValue? (c : Char) : Option Nat :=
  if c.isDigit then some (c.toNat - 48)
  else if 'a' ≤ c ∧ c ≤ 'f' then some (c.toNat - 87)
  else if 'A' ≤ c ∧ c ≤ 'F' then some (c.toNat - 55)
  else none

end Projection.Digits
