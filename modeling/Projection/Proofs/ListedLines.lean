import Mathlib.Data.List.Basic
import Projection.Listing
import Projection.Proofs.WordLexer

/-! The listing of tokens as a text that is read again. A line is told from both its ends: its first
word is the kind, its last word is the phase, and what stands between its first and its last
quotation mark is the text, whatever marks, blanks and names that text holds itself. Only a line feed
inside a text breaks its line in two. -/

set_option autoImplicit false

namespace Projection

theorem TokenKind.ofName?_name (kind : TokenKind) : ofName? kind.name = some kind := by
  cases kind <;> rfl

theorem Phase.ofName?_name (phase : Phase) : ofName? phase.name = some phase := by
  cases phase <;> rfl

theorem WordLexer.next_start_ne (keywords : KeywordRule) (words : List Lexeme) :
    (next ⟨keywords, words, .start⟩).1 ≠ .ok none := by
  cases words with
  | nil => simp [next]
  | cons word words =>
    cases word with
    | unclosed name => simp [next]
    | bare name | bracketed name =>
      simp only [next]
      split <;> simp

namespace Text

variable {mark : Char} {front back : List Char}

def beforeFirst (mark : Char) (text : List Char) : List Char := text.takeWhile (· != mark)

def behindFirst (mark : Char) (text : List Char) : List Char := (text.dropWhile (· != mark)).tail

def beforeLast (mark : Char) (text : List Char) : List Char :=
  (behindFirst mark text.reverse).reverse

def behindLast (mark : Char) (text : List Char) : List Char :=
  (beforeFirst mark text.reverse).reverse

theorem beforeFirst_append (free : mark ∉ front) :
    beforeFirst mark (front ++ mark :: back) = front :=
  takeWhile_append_stop (fun c member => bne_iff_ne.mpr (ne_of_mem_of_not_mem member free))
    (by simp)

theorem behindFirst_append (free : mark ∉ front) :
    behindFirst mark (front ++ mark :: back) = back := by
  have found : (front ++ mark :: back).dropWhile (· != mark) = mark :: back :=
    dropWhile_append_stop (fun c member => bne_iff_ne.mpr (ne_of_mem_of_not_mem member free))
      (by simp)
  rw [behindFirst, found, List.tail_cons]

theorem reverse_append_cons (front back : List Char) (mark : Char) :
    (front ++ mark :: back).reverse = back.reverse ++ mark :: front.reverse := by simp

theorem beforeLast_append (free : mark ∉ back) :
    beforeLast mark (front ++ mark :: back) = front := by
  rw [beforeLast, reverse_append_cons, behindFirst_append (mt List.mem_reverse.mp free),
    List.reverse_reverse]

theorem behindLast_append (free : mark ∉ back) :
    behindLast mark (front ++ mark :: back) = back := by
  rw [behindLast, reverse_append_cons, beforeFirst_append (mt List.mem_reverse.mp free),
    List.reverse_reverse]

theorem length_splitOn (mark : Char) (text : List Char) :
    (text.splitOn mark).length = text.count mark + 1 := by
  induction text with
  | nil => rfl
  | cons c text ih =>
    rw [List.splitOn_cons_eq_if_modifyHead, List.count_cons]
    split
    · rw [List.length_cons, ih]
    · rw [List.length_modifyHead, ih, Nat.add_zero]

end Text

namespace Listing

/-- A line is read from its two ends towards the quotation marks. -/
def readLine? (line : List Char) : Option (Token × Phase) := do
  let kind ← TokenKind.ofName? (String.ofList (Text.beforeFirst ' ' line))
  let phase ← Phase.ofName? (String.ofList (Text.behindLast ' ' line))
  return (⟨kind, String.ofList (Text.beforeLast '\'' (Text.behindFirst '\'' line))⟩, phase)

def read? (listing : List Char) : Option (List (Token × Phase)) :=
  (listing.splitOn '\n').mapM readLine?

def opening (kind : TokenKind) : List Char :=
  kind.name.toList ++ ' ' :: List.replicate (16 - kind.name.toList.length) ' '

def ending (blanks : Nat) (phase : Phase) : List Char :=
  List.replicate blanks ' ' ++ " ->".toList ++ ' ' :: phase.name.toList

theorem line_eq (token : Token) (phase : Phase) :
    line token phase = opening token.kind ++ '\'' ::
      (token.text.toList ++ '\'' :: ending (20 - (token.text.toList.length + 2)) phase) := by
  have shift (n : Nat) (rest : List Char) :
      List.replicate n ' ' ++ ' ' :: rest = ' ' :: (List.replicate n ' ' ++ rest) := by
    rw [List.append_cons, ← List.replicate_succ', List.replicate_succ, List.cons_append]
  simp [line, padRight, opening, ending, shift]

theorem exists_line_eq (token : Token) (phase : Phase) :
    ∃ front, line token phase = front ++ ' ' :: phase.name.toList := by
  refine ⟨opening token.kind ++ '\'' :: (token.text.toList ++ '\'' ::
    (List.replicate (20 - (token.text.toList.length + 2)) ' ' ++ " ->".toList)), ?_⟩
  simp only [line_eq, ending, List.append_assoc, List.cons_append]

theorem solid_name (kind : TokenKind) (phase : Phase) :
    ' ' ∉ kind.name.toList ∧ ' ' ∉ phase.name.toList := by
  cases kind <;> cases phase <;> decide

theorem plain_opening (kind : TokenKind) : '\'' ∉ opening kind ∧ '\n' ∉ opening kind := by
  cases kind <;> decide

theorem plain_ending (blanks : Nat) (phase : Phase) :
    '\'' ∉ ending blanks phase ∧ '\n' ∉ ending blanks phase := by
  cases phase <;> simp [ending, Phase.name]

theorem readLine?_line (token : Token) (phase : Phase) :
    readLine? (line token phase) = some (token, phase) := by
  obtain ⟨solid_kind, solid_phase⟩ := solid_name token.kind phase
  have first : Text.beforeFirst ' ' (line token phase) = token.kind.name.toList := by
    rw [line_eq, opening, List.append_assoc]
    exact Text.beforeFirst_append solid_kind
  have last : Text.behindLast ' ' (line token phase) = phase.name.toList := by
    obtain ⟨front, ended⟩ := exists_line_eq token phase
    rw [ended, Text.behindLast_append solid_phase]
  have quoted :
      Text.beforeLast '\'' (Text.behindFirst '\'' (line token phase)) = token.text.toList := by
    rw [line_eq, Text.behindFirst_append (plain_opening token.kind).1,
      Text.beforeLast_append (plain_ending _ phase).1]
  simp only [readLine?, first, last, quoted, String.ofList_toList, TokenKind.ofName?_name,
    Phase.ofName?_name, Option.bind_eq_bind, Option.bind_some]
  rfl

section Lines

variable {tokens : List (Token × Phase)}

theorem count_line (token : Token) (phase : Phase) :
    (line token phase).count '\n' = token.text.toList.count '\n' := by
  have before := List.count_eq_zero.mpr (plain_opening token.kind).2
  have behind := fun blanks => List.count_eq_zero.mpr (plain_ending blanks phase).2
  rw [line_eq, List.count_append, before, List.count_cons_of_ne (by decide), List.count_append,
    List.count_cons_of_ne (by decide), behind, Nat.zero_add, Nat.add_zero]

theorem splitOn_join {lines : List (List Char)} (some_line : lines ≠ []) :
    (join lines).splitOn '\n' = lines.flatMap (·.splitOn '\n') := by
  induction lines with
  | nil => exact absurd rfl some_line
  | cons first others ih =>
    cases others with
    | nil => rw [join, List.flatMap_singleton]
    | cons second others =>
      rw [List.flatMap_cons, ← ih (List.cons_ne_nil second others)]
      exact List.splitOn_append_cons_self first (join (second :: others))

theorem splitOn_ofTokens (some_token : tokens ≠ []) :
    (ofTokens tokens).splitOn '\n' =
      tokens.flatMap fun reported => (line reported.1 reported.2).splitOn '\n' := by
  rw [ofTokens, splitOn_join (mt List.map_eq_nil_iff.mp some_token), List.flatMap_map]

def texts (tokens : List (Token × Phase)) : List Char :=
  tokens.flatMap fun reported => reported.1.text.toList

theorem length_splitOn_ofTokens (some_token : tokens ≠ []) :
    ((ofTokens tokens).splitOn '\n').length = tokens.length + (texts tokens).count '\n' := by
  rw [splitOn_ofTokens some_token]
  clear some_token
  induction tokens with
  | nil => rfl
  | cons reported tokens ih =>
    rw [texts] at ih ⊢
    rw [List.flatMap_cons, List.length_append, ih, Text.length_splitOn, count_line,
      List.length_cons, List.flatMap_cons, List.count_append]
    omega

theorem read?_ofTokens (some_token : tokens ≠ [])
    (unbroken : ∀ reported ∈ tokens, '\n' ∉ reported.1.text.toList) :
    read? (ofTokens tokens) = some tokens := by
  have each : ∀ reported ∈ tokens, (line reported.1 reported.2).splitOn '\n' =
      [line reported.1 reported.2] := by
    intro reported member
    have none_inside := List.count_eq_zero.mpr (unbroken reported member)
    rw [← count_line _ reported.2, List.count_eq_zero] at none_inside
    exact List.splitOn_eq_singleton none_inside
  have back : (readLine? ∘ fun reported => line reported.1 reported.2) = pure :=
    funext fun reported => readLine?_line reported.1 reported.2
  rw [read?, splitOn_ofTokens some_token, List.flatMap_congr each, ← List.map_eq_flatMap,
    List.mapM_map, back, List.mapM_pure, List.map_id']
  rfl

end Lines

section Statements

variable {keywords : KeywordRule} {text : String} {tokens : List (Token × Phase)}

theorem ofText_eq_map (keywords : KeywordRule) (text : String) :
    ofText keywords text = (TokenSource.drain (Lexer.ofText keywords text)).1.map fun tokens =>
      String.ofList (ofTokens tokens) := rfl

theorem ne_nil_of_drain
    (drained : (TokenSource.drain (Lexer.ofText keywords text)).1 = .ok tokens) : tokens ≠ [] := by
  rintro rfl
  cases TokenSource.yields_of_drain (Prod.ext drained rfl) with
  | ended answer =>
    have same := (Lexer.next_of_reads (Lexer.reads_ofText keywords text)).1
    exact WordLexer.next_start_ne _ _ (same.symm.trans (congrArg Prod.fst answer))

end Statements

end Listing

/-- A statement has a listing if and only if it can be cut into tokens, and otherwise both fail with
the same error. The lines of the listing are as many as the tokens and the line feeds in their texts
together. Where no text holds a line feed, the tokens with their phases are read back from the
listing, so statements that have one listing have the same tokens in the same phases. -/
theorem listings_tell_tokens :
    (∀ (keywords : KeywordRule) (text : String),
      let drained := (TokenSource.drain (Lexer.ofText keywords text)).1
      (∀ error, drained = .error error ↔ Listing.ofText keywords text = .error error) ∧
      ∀ tokens, drained = .ok tokens → ∃ listing, Listing.ofText keywords text = .ok listing ∧
        (listing.toList.splitOn '\n').length =
          tokens.length + (Listing.texts tokens).count '\n' ∧
        ((∀ reported ∈ tokens, '\n' ∉ reported.1.text.toList) →
          Listing.read? listing.toList = some tokens)) ∧
    ∀ (keywords rule : KeywordRule) (text other : String) (tokens others : List (Token × Phase)),
      (TokenSource.drain (Lexer.ofText keywords text)).1 = .ok tokens →
      (TokenSource.drain (Lexer.ofText rule other)).1 = .ok others →
      (∀ reported ∈ tokens ++ others, '\n' ∉ reported.1.text.toList) →
      (Listing.ofText keywords text = Listing.ofText rule other ↔ tokens = others) := by
  refine ⟨fun keywords text => ⟨fun error => ?_, fun tokens drained => ?_⟩, ?_⟩
  · rw [Listing.ofText_eq_map]
    cases (TokenSource.drain (Lexer.ofText keywords text)).1 <;> simp [Except.map]
  · have some_token := Listing.ne_nil_of_drain drained
    refine ⟨String.ofList (Listing.ofTokens tokens), ?_, ?_, fun unbroken => ?_⟩
    · rw [Listing.ofText_eq_map, drained]
      rfl
    · rw [String.toList_ofList, Listing.length_splitOn_ofTokens some_token]
    · rw [String.toList_ofList, Listing.read?_ofTokens some_token unbroken]
  · intro keywords rule text other tokens others drained also unbroken
    obtain ⟨first, second⟩ := List.forall_mem_append.mp unbroken
    rw [Listing.ofText_eq_map, Listing.ofText_eq_map, drained, also]
    refine ⟨fun same => ?_, fun same => same ▸ rfl⟩
    have listings := String.ofList_injective (Except.ok.inj same)
    have back := Listing.read?_ofTokens (Listing.ne_nil_of_drain drained) first
    rw [listings, Listing.read?_ofTokens (Listing.ne_nil_of_drain also) second] at back
    exact (Option.some.inj back).symm

/-- A name that ends like a line, and the words it would be without its brackets. -/
theorem listings_tell_tokens_arrow :
    let start : Token × Phase := (⟨.selectKeyword, "SELECT"⟩, .selectList)
    let tokens : List (Token × Phase) := [start, (⟨.column, "a' -> End"⟩, .selectList)]
    ∃ listing, Listing.ofText {} "SELECT [a' -> End]" = .ok listing ∧
      (listing.toList.splitOn '\n').length = 2 ∧ Listing.read? listing.toList = some tokens ∧
      Listing.ofText {} "SELECT a' -> End" ≠ .ok listing := by
  intro start tokens
  have drained : (TokenSource.drain (Lexer.ofText {} "SELECT [a' -> End]")).1 = .ok tokens := by
    decide +kernel
  have apart : (TokenSource.drain (Lexer.ofText {} "SELECT a' -> End")).1 =
      .ok (start :: ["a'", "->", "End"].map fun name => (⟨.column, name⟩, .selectList)) := by
    decide +kernel
  obtain ⟨statements, told⟩ := listings_tell_tokens
  obtain ⟨listing, listed, lines, back⟩ := (statements {} "SELECT [a' -> End]").2 tokens drained
  refine ⟨listing, listed, lines.trans (by decide), back (by decide), fun same => ?_⟩
  have tokens_eq := (told _ _ _ _ _ _ drained apart (by decide)).mp (listed.trans same.symm)
  exact absurd tokens_eq (by decide)

end Projection
