import Projection.Json.Quoted
import Projection.Json.Scalar

set_option autoImplicit false

namespace Projection.Json

variable {α β : Type}

def Took {text : List Char} (result : Except Fault (Taken α text)) (value : α) (rest : List Char) :
    Prop :=
  ∃ shorter, result = .ok ⟨value, rest, shorter⟩

def Left {text : List Char} (result : Except Fault (Remains α text)) (value : α)
    (rest : List Char) : Prop :=
  ∃ no_longer, result = .ok ⟨value, rest, no_longer⟩

def Ends (rest : List Char) : Prop :=
  ∀ c ∈ rest.head?, isBlank c = true ∨ c ∈ [',', ']', '}']

/-- A value starts where neither a blank nor the end of a list could stand. -/
def Starts (text : List Char) : Prop :=
  ∃ c tail, text = c :: tail ∧ isBlank c = false ∧ c ≠ ']'

structure Reader.Reads (reader : Reader α) (text : List Char) (value : α) : Prop where
  starts : Starts text
  took : ∀ rest, Ends rest → Took (reader (text ++ rest)) value rest

theorem took_map {text longer : List Char} {result : Except Fault (Taken α text)} {value : α}
    {rest : List Char} {f : Taken α text → Taken β longer} {image : β} {left : List Char}
    (took : Took result value rest)
    (same : ∀ shorter,
      (f ⟨value, rest, shorter⟩).value = image ∧ (f ⟨value, rest, shorter⟩).rest = left) :
    Took (result.map f) image left := by
  obtain ⟨shorter, rfl⟩ := took
  obtain ⟨rfl, rfl⟩ := same shorter
  exact ⟨(f ⟨value, rest, shorter⟩).shorter, rfl⟩

section Blanks

theorem skipBlanks_append {blanks rest : List Char} (all : ∀ c ∈ blanks, isBlank c = true) :
    skipBlanks (blanks ++ rest) = skipBlanks rest :=
  List.dropWhile_append_of_pos all

theorem skipBlanks_of_starts {text rest : List Char} (starts : Starts text) :
    skipBlanks (text ++ rest) = text ++ rest := by
  obtain ⟨c, tail, rfl, solid, _⟩ := starts
  exact List.dropWhile_cons_of_neg (by simp [solid])

theorem took_afterBlanks {reader : Reader α} {text rest : List Char} {value : α}
    (took : Took (reader (skipBlanks text)) value rest) :
    Took (reader.afterBlanks text) value rest :=
  took_map took fun _ => ⟨rfl, rfl⟩

theorem Reader.Reads.afterBlanks {reader : Reader α} {text : List Char} {value : α}
    (reads : reader.Reads text value) {blanks rest : List Char}
    (all : ∀ c ∈ blanks, isBlank c = true) (ends : Ends rest) :
    Took (reader.afterBlanks (blanks ++ (text ++ rest))) value rest := by
  apply took_afterBlanks
  rw [skipBlanks_append all, skipBlanks_of_starts reads.starts]
  exact reads.took rest ends

theorem Reader.Reads.map {reader : Reader α} {text : List Char} {value : α} (f : α → β)
    (reads : reader.Reads text value) : (reader.map f).Reads text (f value) where
  starts := reads.starts
  took rest ends := took_map (reads.took rest ends) fun _ => ⟨rfl, rfl⟩

theorem readAll_of_reads {reader : Reader α} {text : String} {written : List Char} {value : α}
    (reads : reader.Reads written value) (same : text.toList = written) :
    readAll reader text = .ok value := by
  have no_blanks : ∀ c ∈ ([] : List Char), isBlank c = true := by simp
  have ends : Ends [] := by simp [Ends]
  have took := reads.afterBlanks no_blanks ends
  rw [List.nil_append, List.append_nil, ← same] at took
  obtain ⟨shorter, taken⟩ := took
  rw [readAll, taken]
  rfl

end Blanks

section Marks

theorem took_takeMark {mark : Char} {text rest : List Char}
    (found : skipBlanks text = mark :: rest) : Took (takeMark mark text) () rest := by
  unfold takeMark
  split
  · next none_left =>
    rw [none_left] at found
    cases found
  · next c tail start =>
    rw [start] at found
    cases found
    rw [if_pos rfl]
    exact ⟨_, rfl⟩

theorem left_takeLiteral (literal rest : List Char) :
    Left (takeLiteral literal (literal ++ rest)) () rest := by
  induction literal with
  | nil => exact ⟨_, rfl⟩
  | cons c literal ih =>
    obtain ⟨no_longer, left⟩ := ih
    rw [List.cons_append, takeLiteral, if_pos rfl, left]
    exact ⟨_, rfl⟩

theorem took_takeName (c : Char) (tail : String) (value : α) (rest : List Char) :
    Took (takeName c tail value (tail.toList ++ rest)) value rest := by
  obtain ⟨no_longer, left⟩ := left_takeLiteral tail.toList rest
  rw [takeName, left]
  exact ⟨_, rfl⟩

end Marks

namespace Quoted

theorem hexValue?_hexChar : ∀ d < 16, Digits.hexValue? (Digits.hexChar d) = some d := by decide

theorem utf8ByteSize_ofList_ge (text : List Char) :
    text.length ≤ (String.ofList text).utf8ByteSize := by
  induction text with
  | nil => simp
  | cons c text ih =>
    have positive := c.utf8Size_pos
    rw [String.ofList_cons, String.utf8ByteSize_append, List.length_cons]
    simp only [String.utf8ByteSize_singleton]
    omega

theorem took_takeUnit {n : Nat} (small : n < 256) (rest : List Char) :
    Took (takeUnit ('0' :: '0' :: Digits.hexChar (n / 16) :: Digits.hexChar (n % 16) :: rest)) n
      rest := by
  have zero : Digits.hexValue? '0' = some 0 := by decide
  have high := hexValue?_hexChar (n / 16) (by omega)
  have low := hexValue?_hexChar (n % 16) (by omega)
  have enough := utf8ByteSize_ofList_ge ['0', '0', Digits.hexChar (n / 16), Digits.hexChar (n % 16)]
  have value : ((0 * 16 + 0) * 16 + n / 16) * 16 + n % 16 = n := by omega
  unfold takeUnit
  rw [if_neg (by simpa using enough)]
  simp only [zero, high, low, value]
  exact ⟨_, rfl⟩

theorem escape_cases (c : Char) :
    (escape c = [c] ∧ c ≠ '"' ∧ c ≠ '\\' ∧ ¬c.toNat < 32) ∨
      ∃ tail, escape c = '\\' :: tail ∧ ∀ rest, Took (takeEscape (tail ++ rest)) c rest := by
  have by_number : ∀ n, c.toNat = n → c = Char.ofNat n := by
    rintro n rfl
    exact (Char.ofNat_toNat c).symm
  by_cases quote : c = '"'
  · subst quote
    exact .inr ⟨['"'], rfl, fun rest => ⟨_, rfl⟩⟩
  by_cases backslash : c = '\\'
  · subst backslash
    exact .inr ⟨['\\'], rfl, fun rest => ⟨_, rfl⟩⟩
  by_cases feed : c = '\n'
  · subst feed
    exact .inr ⟨['n'], rfl, fun rest => ⟨_, rfl⟩⟩
  by_cases carriage : c = '\r'
  · subst carriage
    exact .inr ⟨['r'], rfl, fun rest => ⟨_, rfl⟩⟩
  by_cases tab : c = '\t'
  · subst tab
    exact .inr ⟨['t'], rfl, fun rest => ⟨_, rfl⟩⟩
  by_cases back : c.toNat = 8
  · obtain rfl := by_number 8 back
    exact .inr ⟨['b'], rfl, fun rest => ⟨_, rfl⟩⟩
  by_cases form : c.toNat = 12
  · obtain rfl := by_number 12 form
    exact .inr ⟨['f'], rfl, fun rest => ⟨_, rfl⟩⟩
  by_cases control : c.toNat < 32
  · refine .inr
      ⟨['u', '0', '0', Digits.hexChar (c.toNat / 16), Digits.hexChar (c.toNat % 16)], ?_, ?_⟩
    · simp [escape, quote, backslash, feed, carriage, tab, back, form, control]
    · intro rest
      have unit := took_takeUnit (show c.toNat < 256 by omega) rest
      have not_trailing : isTrailing c.toNat = false := by simp [isTrailing]; omega
      have not_leading : isLeading c.toNat = false := by simp [isLeading]; omega
      have named :
          Took ((takeUnit _).map fun unit => (unit.map Char.ofNat).behind (c := 'u')) c rest :=
        took_map unit fun _ => ⟨Char.ofNat_toNat c, rfl⟩
      obtain ⟨shorter, taken⟩ := unit
      rw [taken] at named
      simp only [List.cons_append, List.nil_append, takeEscape, taken, not_trailing, not_leading]
      exact named
  · refine .inl ⟨?_, quote, backslash, control⟩
    simp [escape, quote, backslash, feed, carriage, tab, back, form, control]

theorem took_takeBody (characters rest : List Char) :
    Took (takeBody (characters.flatMap escape ++ '"' :: rest)) characters rest := by
  induction characters with
  | nil =>
    rw [List.flatMap_nil, List.nil_append]
    unfold takeBody
    rw [if_pos rfl]
    exact ⟨_, rfl⟩
  | cons c characters ih =>
    rw [List.flatMap_cons, List.append_assoc]
    rcases escape_cases c with ⟨plain, quote, backslash, control⟩ | ⟨tail, escaped, means⟩
    · rw [plain, List.singleton_append]
      unfold takeBody
      rw [if_neg quote, if_neg backslash, if_neg control]
      exact took_map ih fun _ => ⟨rfl, rfl⟩
    · obtain ⟨shorter, taken⟩ := means (characters.flatMap escape ++ '"' :: rest)
      rw [escaped, List.cons_append]
      unfold takeBody
      rw [if_neg (by decide), if_pos rfl]
      simp only [taken]
      exact took_map ih fun _ => ⟨rfl, rfl⟩

theorem took_take (s : String) (rest : List Char) :
    Took (take (s.toList.flatMap escape ++ '"' :: rest)) s rest :=
  took_map (took_takeBody s.toList rest) fun _ => ⟨String.ofList_toList, rfl⟩

theorem write_append (s : String) (rest : List Char) :
    write s ++ rest = '"' :: (s.toList.flatMap escape ++ '"' :: rest) := by
  simp [write]

end Quoted

theorem starts_quoted (s : String) : Starts (Quoted.write s) :=
  ⟨'"', _, rfl, rfl, by decide⟩

theorem reads_string (s : String) : takeString.Reads (Quoted.write s) s where
  starts := starts_quoted s
  took rest _ := by
    rw [Quoted.write_append]
    exact took_map (Quoted.took_take s rest) fun _ => ⟨rfl, rfl⟩

section Optional

theorem takeOptional_of_ne {c : Char} (other : c ≠ 'n') (reader : Reader α) (tail : List Char) :
    takeOptional reader (c :: tail) = reader.map some (c :: tail) := by
  rw [takeOptional]
  intro rest start
  exact other (List.cons.inj start).1

/-- A missing value is written as `null`, so a text that is read as a value of its own must not
start like it. -/
theorem reads_some {reader : Reader α} {text : List Char} {value : α}
    (reads : reader.Reads text value) (other : text.head? ≠ some 'n') :
    (takeOptional reader).Reads text (some value) where
  starts := reads.starts
  took rest ends := by
    obtain ⟨c, tail, rfl, _, _⟩ := reads.starts
    have first : c ≠ 'n' := by simpa using other
    have took := (reads.map some).took rest ends
    rw [List.cons_append] at took ⊢
    rw [takeOptional_of_ne first]
    exact took

theorem reads_none (reader : Reader α) : (takeOptional reader).Reads "null".toList none where
  starts := ⟨'n', _, rfl, rfl, by decide⟩
  took rest _ := took_takeName 'n' "ull" none rest

end Optional

end Projection.Json
