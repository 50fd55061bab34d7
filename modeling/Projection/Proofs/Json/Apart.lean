import Projection.Proofs.Json.Value

/-! Texts that cannot be taken for each other. A value without floats is told from its text, and so
is the place where the text ends. The text is not read back for this: an object may have a key more
than once, and each of its entries is told in its place. -/

set_option autoImplicit false

namespace Projection.Json

theorem took_unique {α : Type} {text rest other : List Char}
    {result : Except Fault (Taken α text)} {a b : α} (first : Took result a rest)
    (second : Took result b other) : a = b ∧ rest = other := by
  obtain ⟨_, taken⟩ := first
  obtain ⟨_, again⟩ := second
  cases taken.symm.trans again
  exact ⟨rfl, rfl⟩

/-- What is printed for `a`, with an end behind it, is printed for nothing else of what is in
question, and ends in no other place. -/
def Tells {α : Type} (print : α → List Char) (among : α → Prop) (a : α) : Prop :=
  ∀ b, among b → ∀ rest other, Ends rest → Ends other →
    print a ++ rest = print b ++ other → a = b ∧ rest = other

section Scalars

theorem Quoted.append_inj {s t : String} {rest other : List Char}
    (same : write s ++ rest = write t ++ other) : s = t ∧ rest = other := by
  have first := took_take s rest
  rw [write_append, write_append] at same
  rw [(List.cons.inj same).2] at first
  exact took_unique first (took_take t other)

theorem ofInt_append_inj {m n : Int} {rest other : List Char} (ends : Ends rest)
    (also : Ends other) (same : Digits.ofInt m ++ rest = Digits.ofInt n ++ other) :
    m = n ∧ rest = other := by
  have first := (Figure.ofInt m).took_take ends
  have second := (Figure.ofInt n).took_take also
  rw [Figure.text_ofInt] at first second
  rw [same] at first
  obtain ⟨numerals, behind⟩ := took_unique first second
  have signs : decide (m < 0) = decide (n < 0) := congrArg Numeral.negative numerals
  have digits : Digits.ofNat m.natAbs = Digits.ofNat n.natAbs := congrArg Numeral.whole numerals
  have absolutes := congrArg Digits.toNat digits
  rw [Digits.toNat_ofNat, Digits.toNat_ofNat] at absolutes
  rw [decide_eq_decide] at signs
  exact ⟨by omega, behind⟩

end Scalars

namespace Style

variable {α : Type} {print : α → List Char} {among : α → Prop} (style : Style) (level : Nat)

theorem tells_entry {key : String} {a : α} (tells : Tells print among a) :
    Tells (fun entry : String × α => style.entry (entry.1, print entry.2))
      (fun entry => among entry.2) (key, a) := by
  rintro ⟨name, b⟩ member rest other ends also same
  simp only [entry_append] at same
  obtain ⟨rfl, values⟩ := Quoted.append_inj same
  obtain ⟨rfl, behind⟩ := tells b member rest other ends also (List.append_cancel_left values)
  exact ⟨rfl, behind⟩

theorem solid_of_closes {closing : Char} (closes : closing ∈ [']', '}']) :
    isBlank closing = false ∧ closing ≠ ',' := by
  have solid : ∀ c ∈ [']', '}'], isBlank c = false ∧ c ≠ ',' := by simp [isBlank]
  exact solid closing closes

theorem skipBlanks_others_nil {closing : Char} (solid : isBlank closing = false)
    (rest : List Char) :
    skipBlanks (style.others level closing [] ++ rest) = closing :: rest := by
  rw [others, List.append_assoc]
  exact skipBlanks_mark (style.isBlank_gap level) solid rest

theorem part_append_inj {closing : Char} (closes : closing ∈ [']', '}']) {a b : α}
    (tells : Tells print among a) (member : among b) {parts others : List (List Char)}
    {rest other : List Char}
    (same : style.gap (level + 1) ++ (print a ++ (style.others level closing parts ++ rest)) =
      style.gap (level + 1) ++ (print b ++ (style.others level closing others ++ other))) :
    a = b ∧ style.others level closing parts ++ rest =
      style.others level closing others ++ other := by
  have mark : closing ∈ [',', ']', '}'] := List.mem_cons_of_mem _ closes
  exact tells b member _ _ (style.ends_others level mark parts rest)
    (style.ends_others level mark others other) (List.append_cancel_left same)

theorem others_append_inj {closing : Char} (closes : closing ∈ [']', '}']) {as bs : List α}
    {rest other : List Char} (tells : ∀ a ∈ as, Tells print among a) (members : ∀ b ∈ bs, among b)
    (same : style.others level closing (as.map print) ++ rest =
      style.others level closing (bs.map print) ++ other) : as = bs ∧ rest = other := by
  have solid := solid_of_closes closes
  -- a comma follows where there are more parts, the closing mark where there are none
  have marks := congrArg skipBlanks same
  induction as generalizing bs with
  | nil =>
    cases bs with
    | nil => exact ⟨rfl, List.append_cancel_left same⟩
    | cons b bs =>
      rw [List.map_nil, List.map_cons, style.skipBlanks_others_nil level solid.1,
        skipBlanks_others] at marks
      exact absurd (List.cons.inj marks).1 solid.2
  | cons a as ih =>
    obtain ⟨first, behind⟩ := List.forall_mem_cons.mp tells
    cases bs with
    | nil =>
      rw [List.map_nil, List.map_cons, style.skipBlanks_others_nil level solid.1,
        skipBlanks_others] at marks
      exact absurd (List.cons.inj marks).1.symm solid.2
    | cons b bs =>
      obtain ⟨member, remaining⟩ := List.forall_mem_cons.mp members
      rw [List.map_cons, List.map_cons, skipBlanks_others, skipBlanks_others] at marks
      obtain ⟨rfl, left⟩ := style.part_append_inj level closes first member (List.cons.inj marks).2
      obtain ⟨rfl, ended⟩ := ih behind remaining left (congrArg skipBlanks left)
      exact ⟨rfl, ended⟩

def Opens (closing : Char) (part : List Char) : Prop :=
  ∃ c tail, part = c :: tail ∧ isBlank c = false ∧ c ≠ closing

theorem skipBlanks_contents_cons {closing : Char} {part : List Char} (opens : Opens closing part)
    (parts : List (List Char)) (rest : List Char) :
    ∃ c tail, skipBlanks (style.contents level closing (part :: parts) ++ rest) = c :: tail ∧
      c ≠ closing := by
  obtain ⟨c, tail, rfl, solid, other⟩ := opens
  rw [contents_append, List.cons_append, skipBlanks_mark (style.isBlank_gap _) solid]
  exact ⟨c, _, rfl, other⟩

theorem contents_append_inj {closing : Char} (closes : closing ∈ [']', '}']) {as bs : List α}
    {rest other : List Char} (tells : ∀ a ∈ as, Tells print among a) (members : ∀ b ∈ bs, among b)
    (opens : ∀ a ∈ as, Opens closing (print a)) (opened : ∀ b ∈ bs, Opens closing (print b))
    (same : style.contents level closing (as.map print) ++ rest =
      style.contents level closing (bs.map print) ++ other) : as = bs ∧ rest = other := by
  have closed : ∀ rest, skipBlanks (style.contents level closing [] ++ rest) = closing :: rest :=
    fun rest => List.dropWhile_cons_of_neg (by simp [(solid_of_closes closes).1])
  cases as with
  | nil =>
    cases bs with
    | nil => exact ⟨rfl, List.append_cancel_left same⟩
    | cons b bs =>
      have marks := congrArg skipBlanks same
      obtain ⟨c, tail, started, open_mark⟩ := style.skipBlanks_contents_cons level
        (opened b List.mem_cons_self) (bs.map print) other
      rw [List.map_nil, List.map_cons, closed, started] at marks
      exact absurd (List.cons.inj marks).1.symm open_mark
  | cons a as =>
    obtain ⟨first, behind⟩ := List.forall_mem_cons.mp tells
    cases bs with
    | nil =>
      have marks := congrArg skipBlanks same
      obtain ⟨c, tail, started, open_mark⟩ := style.skipBlanks_contents_cons level
        (opens a List.mem_cons_self) (as.map print) rest
      rw [List.map_nil, List.map_cons, closed, started] at marks
      exact absurd (List.cons.inj marks).1 open_mark
    | cons b bs =>
      obtain ⟨member, remaining⟩ := List.forall_mem_cons.mp members
      rw [List.map_cons, List.map_cons, contents_append, contents_append] at same
      obtain ⟨rfl, left⟩ := style.part_append_inj level closes first member same
      obtain ⟨rfl, ended⟩ := style.others_append_inj level closes behind remaining left
      exact ⟨rfl, ended⟩

end Style

section Values

/-- What the texts of a kind of values start with; the zero stands for all that numbers start
with. -/
def initial : Json → Char
  | null => 'n'
  | bool true => 't'
  | bool false => 'f'
  | number _ => '0'
  | string _ => '"'
  | array _ => '['
  | object _ => '{'

def initialOf (c : Char) : Char := if c = '-' ∨ c.isDigit then '0' else c

theorem initial_mem (value : Json) : value.initial ∈ ['n', 't', 'f', '0', '"', '[', '{'] := by
  cases value with
  | bool value => cases value <;> simp [initial]
  | _ => simp [initial]

theorem write_eq_cons {value : Json} (free : value.FloatFree) (style : Style) (level : Nat) :
    ∃ c tail, write style level value = c :: tail ∧ initialOf c = value.initial := by
  cases free with
  | null => exact ⟨'n', _, by rw [write]; rfl, rfl⟩
  | bool value =>
    cases value with
    | true => exact ⟨'t', _, by rw [write]; rfl, rfl⟩
    | false => exact ⟨'f', _, by rw [write]; rfl, rfl⟩
  | integer n =>
    obtain ⟨c, tail, same, first⟩ := (Figure.ofInt n).text_eq_cons
    rw [Figure.text_ofInt] at same
    exact ⟨c, tail, by rw [write]; exact same, if_pos first⟩
  | string s => exact ⟨'"', _, by rw [write]; rfl, rfl⟩
  | array each => exact ⟨'[', _, by rw [Style.write_array]; rfl, rfl⟩
  | object each => exact ⟨'{', _, by rw [Style.write_object]; rfl, rfl⟩

inductive Alike : Json → Json → Prop
  | null : Alike .null .null
  | bool (value : Bool) : Alike (.bool value) (.bool value)
  | number (m n : Number) : Alike (.number m) (.number n)
  | string (s t : String) : Alike (.string s) (.string t)
  | array (items others : List Json) : Alike (.array items) (.array others)
  | object (entries others : List (String × Json)) : Alike (.object entries) (.object others)

theorem alike_of_initial_eq {a b : Json} (same : a.initial = b.initial) : Alike a b := by
  match a, b, same with
  | null, null, _ => exact .null
  | bool true, bool true, _ => exact .bool true
  | bool false, bool false, _ => exact .bool false
  | number m, number n, _ => exact .number m n
  | string s, string t, _ => exact .string s t
  | array items, array others, _ => exact .array items others
  | object entries, object others, _ => exact .object entries others

theorem alike_of_append {a b : Json} (free : a.FloatFree) (also : b.FloatFree) {style : Style}
    {level : Nat} {rest other : List Char}
    (same : write style level a ++ rest = write style level b ++ other) : Alike a b := by
  obtain ⟨c, tail, first, start⟩ := write_eq_cons free style level
  obtain ⟨d, behind, second, begun⟩ := write_eq_cons also style level
  rw [first, second] at same
  apply alike_of_initial_eq
  rw [← start, ← begun, (List.cons.inj same).1]

theorem opens_write {value : Json} (free : value.FloatFree) (style : Style) (level : Nat) :
    Style.Opens ']' (write style level value) := by
  obtain ⟨c, tail, same, start⟩ := write_eq_cons free style level
  have never : ∀ c ∈ [' ', '\n', '\t', '\r'] ++ [']'],
      initialOf c ∉ ['n', 't', 'f', '0', '"', '[', '{'] := by simp [initialOf]
  have solid : c ∉ [' ', '\n', '\t', '\r'] ++ [']'] := fun member =>
    never c member (start ▸ value.initial_mem)
  refine ⟨c, tail, same, Bool.eq_false_iff.mpr fun blank => solid ?_, fun closing => solid ?_⟩
  · exact List.mem_append_left _ (mem_of_isBlank blank)
  · exact List.mem_append_right _ (List.mem_singleton.mpr closing)

theorem write_object_eq (style : Style) (level : Nat) (entries : List (String × Json)) :
    write style level (.object entries) = '{' :: style.contents level '}'
      (entries.map fun entry => style.entry (entry.1, write style (level + 1) entry.2)) := by
  rw [Style.write_object, Style.object, List.map_map]
  rfl

/-- A value without floats is told from its text. -/
theorem tells_write {a : Json} (free : a.FloatFree) (style : Style) (level : Nat) :
    Tells (write style level) FloatFree a := by
  -- The first characters leave one kind for both values; their parts are told by induction.
  have bracket : ']' ∈ [']', '}'] := by simp
  have brace : '}' ∈ [']', '}'] := by simp
  induction free generalizing level with
  | null =>
    intro b also rest other _ _ same
    cases alike_of_append .null also same
    exact ⟨rfl, List.append_cancel_left same⟩
  | bool value =>
    intro b also rest other _ _ same
    cases alike_of_append (.bool value) also same
    exact ⟨rfl, List.append_cancel_left same⟩
  | integer m =>
    intro b also rest other ends ended same
    cases alike_of_append (.integer m) also same
    cases also with
    | integer n =>
      rw [write, write] at same
      obtain ⟨rfl, behind⟩ := ofInt_append_inj ends ended same
      exact ⟨rfl, behind⟩
  | string s =>
    intro b also rest other _ _ same
    cases alike_of_append (.string s) also same with
    | string s t =>
      rw [write, write] at same
      obtain ⟨rfl, behind⟩ := Quoted.append_inj same
      exact ⟨rfl, behind⟩
  | array each ih =>
    intro b also rest other _ _ same
    cases alike_of_append (.array each) also same
    cases also with
    | array members =>
      rw [Style.write_array, Style.write_array] at same
      obtain ⟨rfl, behind⟩ := style.contents_append_inj level bracket
        (fun item member => ih item member (level + 1)) members
        (fun item member => opens_write (each item member) style (level + 1))
        (fun item member => opens_write (members item member) style (level + 1))
        (List.cons.inj same).2
      exact ⟨rfl, behind⟩
  | object each ih =>
    intro b also rest other _ _ same
    cases alike_of_append (.object each) also same
    cases also with
    | object members =>
      rw [write_object_eq, write_object_eq] at same
      have opens : ∀ entry : String × Json,
          Style.Opens '}' (style.entry (entry.1, write style (level + 1) entry.2)) :=
        fun entry => ⟨'"', _, rfl, rfl, by decide⟩
      obtain ⟨rfl, behind⟩ := style.contents_append_inj level brace
        (fun entry member => style.tells_entry (ih entry member (level + 1))) members
        (fun entry _ => opens entry) (fun entry _ => opens entry) (List.cons.inj same).2
      exact ⟨rfl, behind⟩

theorem render_eq_iff_of_floatFree {a b : Json} (free : a.FloatFree) (also : b.FloatFree)
    (style : Style) : a.render style = b.render style ↔ a = b := by
  refine ⟨fun same => ?_, fun same => same ▸ rfl⟩
  have ends : Ends [] := by simp [Ends]
  have texts : write style 0 a ++ [] = write style 0 b ++ [] := by
    rw [String.ofList_injective same]
  exact (tells_write free style 0 b also [] [] ends ends texts).1

end Values

end Projection.Json
