import Projection.Proofs.Json.Container

set_option autoImplicit false

namespace Projection.Json

inductive Place where
  | outside
  | inside
  | escaped
  deriving DecidableEq, Repr

def Place.behind : Place → Char → Place
  | outside, c => if c = '"' then inside else outside
  | inside, c => if c = '"' then outside else if c = '\\' then escaped else inside
  | escaped, _ => inside

def squeezeFrom (place : Place) : List Char → List Char
  | [] => []
  | c :: rest =>
    if place = .outside ∧ isBlank c = true then squeezeFrom place rest
    else c :: squeezeFrom (place.behind c) rest

/-- A text without the blanks that stand outside of its strings. -/
def squeeze (text : String) : String := String.ofList (squeezeFrom .outside text.toList)

def Squeezes (text left : List Char) : Prop :=
  ∀ rest, squeezeFrom .outside (text ++ rest) = left ++ squeezeFrom .outside rest

def Solid (c : Char) : Prop := isBlank c = false ∧ c ≠ '"'

theorem Squeezes.append {first second left right : List Char} (before : Squeezes first left)
    (behind : Squeezes second right) : Squeezes (first ++ second) (left ++ right) := by
  intro rest
  rw [List.append_assoc, before, behind, List.append_assoc]

theorem Squeezes.cons {text left : List Char} (behind : Squeezes text left) {c : Char}
    (solid : Solid c) : Squeezes (c :: text) (c :: left) := by
  intro rest
  rw [List.cons_append, squeezeFrom, if_neg (by simp [solid.1]), Place.behind, if_neg solid.2,
    behind, List.cons_append]

theorem squeezes_blanks {blanks : List Char} (all : ∀ c ∈ blanks, isBlank c = true) :
    Squeezes blanks [] := by
  induction blanks with
  | nil => exact fun rest => rfl
  | cons c blanks ih =>
    obtain ⟨blank, others⟩ := List.forall_mem_cons.mp all
    intro rest
    rw [List.cons_append, squeezeFrom, if_pos ⟨rfl, blank⟩, ih others]

theorem squeezes_solid {text : List Char} (all : ∀ c ∈ text, Solid c) : Squeezes text text := by
  induction text with
  | nil => exact fun rest => rfl
  | cons c text ih =>
    obtain ⟨solid, others⟩ := List.forall_mem_cons.mp all
    exact (ih others).cons solid

section Strings

theorem squeezeFrom_inside {c : Char} (quote : c ≠ '"') (backslash : c ≠ '\\') (rest : List Char) :
    squeezeFrom .inside (c :: rest) = c :: squeezeFrom .inside rest := by
  rw [squeezeFrom, if_neg (by simp), Place.behind, if_neg quote, if_neg backslash]

theorem squeezeFrom_escape (c : Char) (rest : List Char) :
    squeezeFrom .inside ('\\' :: c :: rest) = '\\' :: c :: squeezeFrom .inside rest := by
  rw [squeezeFrom, if_neg (by simp), squeezeFrom, if_neg (by simp [Place.behind])]
  rfl

theorem hexChar_ne : ∀ d < 16, Digits.hexChar d ≠ '"' ∧ Digits.hexChar d ≠ '\\' := by decide

theorem squeezeFrom_escaped (c : Char) (rest : List Char) :
    squeezeFrom .inside (Quoted.escape c ++ rest) =
      Quoted.escape c ++ squeezeFrom .inside rest := by
  unfold Quoted.escape
  split_ifs with quote backslash feed carriage tab back form control
  all_goals try exact squeezeFrom_escape _ rest
  · obtain ⟨high, high'⟩ := hexChar_ne (c.toNat / 16) (by omega)
    obtain ⟨low, low'⟩ := hexChar_ne (c.toNat % 16) (by omega)
    simp only [List.cons_append, List.nil_append]
    rw [squeezeFrom_escape, squeezeFrom_inside (by decide) (by decide),
      squeezeFrom_inside (by decide) (by decide), squeezeFrom_inside high high',
      squeezeFrom_inside low low']
  · exact squeezeFrom_inside quote backslash rest

theorem squeezeFrom_body (characters rest : List Char) :
    squeezeFrom .inside (characters.flatMap Quoted.escape ++ '"' :: rest) =
      characters.flatMap Quoted.escape ++ '"' :: squeezeFrom .outside rest := by
  induction characters with
  | nil => rfl
  | cons c characters ih =>
    rw [List.flatMap_cons, List.append_assoc, squeezeFrom_escaped, ih, List.append_assoc]

theorem squeezes_quoted (s : String) : Squeezes (Quoted.write s) (Quoted.write s) := by
  intro rest
  rw [Quoted.write_append, Quoted.write_append, squeezeFrom, if_neg (by simp [isBlank])]
  exact congrArg ('"' :: ·) (squeezeFrom_body _ rest)

end Strings

section Numbers

theorem solid_mark : ∀ c ∈ ['0', '.', 'e', '-', '+'], Solid c := by simp [Solid, isBlank]

theorem solid_of_isDigit {c : Char} (digit : c.isDigit = true) : Solid c := by
  have no_digit : ∀ c ∈ [' ', '\n', '\t', '\r', '"'], c.isDigit = false := by simp
  have other : c ∉ [' ', '\n', '\t', '\r', '"'] := by
    intro member
    rw [no_digit c member] at digit
    cases digit
  simpa [Solid, isBlank, and_assoc] using other

theorem solid_ofNat (n : Nat) : ∀ c ∈ Digits.ofNat n, Solid c :=
  fun _ member => solid_of_isDigit (Digits.isDigit_of_mem_ofNat member)

theorem solid_toScientific (x : Decimal) : ∀ c ∈ x.toScientific.digits, Solid c := by
  intro c member
  have dropped := List.mem_reverse.mp member
  have kept := (List.dropWhile_sublist _).mem dropped
  exact solid_ofNat x.coefficient c (List.mem_reverse.mp kept)

theorem solid_replicate (count : Nat) : ∀ c ∈ List.replicate count '0', Solid c := by
  intro c member
  rw [List.eq_of_mem_replicate member]
  exact solid_mark '0' (by decide)

theorem solid_positional {digits : List Char} (solid : ∀ c ∈ digits, Solid c) (exponent : Int) :
    ∀ c ∈ FloatLayout.positional digits exponent, Solid c := by
  unfold FloatLayout.positional
  split
  · simp only [List.forall_mem_cons, List.forall_mem_append]
    exact ⟨solid_mark '0' (by decide), solid_mark '.' (by decide), solid_replicate _, solid⟩
  · have before : ∀ c ∈ digits.take (exponent.toNat + 1), Solid c :=
      fun c member => solid c (List.mem_of_mem_take member)
    have behind : ∀ c ∈ digits.drop (exponent.toNat + 1), Solid c :=
      fun c member => solid c (List.mem_of_mem_drop member)
    simp only [List.forall_mem_cons, List.forall_mem_append]
    refine ⟨⟨before, solid_replicate _⟩, solid_mark '.' (by decide), ?_⟩
    split
    · exact List.forall_mem_singleton.mpr (solid_mark '0' (by decide))
    · exact behind

theorem solid_scientific {digits : List Char} (solid : ∀ c ∈ digits, Solid c) (exponent : Int) :
    ∀ c ∈ FloatLayout.scientific digits exponent, Solid c := by
  have before : ∀ c ∈ digits.take 1, Solid c := fun c member => solid c (List.mem_of_mem_take member)
  have behind : ∀ c ∈ digits.drop 1, Solid c := fun c member => solid c (List.mem_of_mem_drop member)
  unfold FloatLayout.scientific
  simp only [List.forall_mem_cons, List.forall_mem_append]
  refine ⟨⟨before, ?_⟩, solid_mark 'e' (by decide), ?_, solid_ofNat _⟩
  · split
    · simp
    · exact List.forall_mem_cons.mpr ⟨solid_mark '.' (by decide), behind⟩
  · split
    · exact solid_mark '-' (by decide)
    · exact solid_mark '+' (by decide)

theorem solid_signed {text : List Char} (solid : ∀ c ∈ text, Solid c) (negative : Prop)
    [Decidable negative] : ∀ c ∈ (if negative then '-' :: text else text), Solid c := by
  split
  · exact List.forall_mem_cons.mpr ⟨solid_mark '-' (by decide), solid⟩
  · exact solid

theorem solid_float (layout : FloatLayout) (x : Double) : ∀ c ∈ layout.write x, Solid c := by
  have solid := solid_toScientific x.shortest
  refine solid_signed ?_ _
  split
  · simp [Solid, isBlank]
  · dsimp only
    split
    · exact solid_positional solid _
    · exact solid_scientific solid _

theorem solid_number (number : Number) : ∀ c ∈ number.write, Solid c := by
  cases number with
  | integer n => exact solid_signed (solid_ofNat _) _
  | float x => exact solid_float _ x

end Numbers

section Values

variable {style : Style} {level lower : Nat}

theorem squeezes_gap : Squeezes (style.gap level) [] := squeezes_blanks (style.isBlank_gap level)

theorem squeezes_others {closing : Char} (solid : Solid closing) {parts lefts : List (List Char)}
    (each : List.Forall₂ Squeezes parts lefts) :
    Squeezes (style.others level closing parts) (Style.compact.others lower closing lefts) := by
  induction each with
  | nil => exact squeezes_gap.append (squeezes_solid (List.forall_mem_singleton.mpr solid))
  | cons first _ ih => exact (squeezes_gap.append (first.append ih)).cons (by simp [Solid, isBlank])

theorem squeezes_contents {closing : Char} (solid : Solid closing) {parts lefts : List (List Char)}
    (each : List.Forall₂ Squeezes parts lefts) :
    Squeezes (style.contents level closing parts) (Style.compact.contents lower closing lefts) := by
  cases each with
  | nil => exact squeezes_solid (List.forall_mem_singleton.mpr solid)
  | cons first others => exact squeezes_gap.append (first.append (squeezes_others solid others))

theorem squeezes_entry {key : String} {text left : List Char} (value : Squeezes text left) :
    Squeezes (style.entry (key, text)) (Style.compact.entry (key, left)) := by
  obtain ⟨blanks, colon, all⟩ := style.colon_eq
  have mark : Squeezes style.colon Style.compact.colon := by
    rw [colon]
    exact (squeezes_blanks all).cons (by simp [Solid, isBlank])
  exact (squeezes_quoted key).append (mark.append value)

theorem induct {motive : Json → Prop} (null : motive .null) (bool : ∀ value, motive (.bool value))
    (number : ∀ value, motive (.number value)) (string : ∀ s, motive (.string s))
    (array : ∀ items, (∀ item ∈ items, motive item) → motive (.array items))
    (object : ∀ entries : List (String × Json), (∀ entry ∈ entries, motive entry.2) →
      motive (.object entries)) : ∀ value, motive value
  | .null => null
  | .bool value => bool value
  | .number value => number value
  | .string s => string s
  | .array items => array items fun item _ => induct null bool number string array object item
  | .object entries =>
    object entries fun entry _ => induct null bool number string array object entry.2
decreasing_by
  · have smaller := List.sizeOf_lt_of_mem ‹item ∈ items›
    rw [Json.array.sizeOf_spec]
    omega
  · have smaller := List.sizeOf_lt_of_mem ‹entry ∈ entries›
    have parts : sizeOf entry = 1 + sizeOf entry.1 + sizeOf entry.2 := by cases entry; rfl
    rw [Json.object.sizeOf_spec]
    omega

theorem squeezes_write (value : Json) (style : Style) (level lower : Nat) :
    Squeezes (write style level value) (write .compact lower value) := by
  -- On one line the level leaves no trace, so it need not be that of the other text.
  induction value using Json.induct generalizing level lower with
  | null =>
    rw [write, write]
    exact squeezes_solid (by simp [Solid, isBlank])
  | bool value =>
    cases value <;> rw [write, write] <;> exact squeezes_solid (by simp [Solid, isBlank])
  | number value =>
    rw [write, write]
    exact squeezes_solid (solid_number value)
  | string s =>
    rw [write, write]
    exact squeezes_quoted s
  | array items ih =>
    rw [Style.write_array, Style.write_array]
    refine (squeezes_contents (by simp [Solid, isBlank]) ?_).cons (by simp [Solid, isBlank])
    rw [List.forall₂_map_left_iff, List.forall₂_map_right_iff, List.forall₂_same]
    exact fun item member => ih item member _ _
  | object entries ih =>
    rw [Style.write_object, Style.write_object]
    refine (squeezes_contents (by simp [Solid, isBlank]) ?_).cons (by simp [Solid, isBlank])
    rw [List.map_map, List.map_map, List.forall₂_map_left_iff, List.forall₂_map_right_iff,
      List.forall₂_same]
    exact fun entry member => squeezes_entry (ih entry member _ _)

theorem squeeze_render (style : Style) (value : Json) :
    squeeze (render style value) = render .compact value := by
  have squeezed := squeezes_write value style 0 0 []
  rw [List.append_nil, squeezeFrom, List.append_nil] at squeezed
  rw [squeeze, render, String.toList_ofList, squeezed, render]

end Values

end Projection.Json
