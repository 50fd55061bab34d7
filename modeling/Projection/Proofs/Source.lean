import Projection.Lexer

set_option autoImplicit false

namespace Projection.TokenSource

variable {σ τ β : Type} [TokenSource σ] [TokenSource τ]

def skip : Nat → σ → σ
  | 0, source => source
  | requests + 1, source => skip requests (next source).2

theorem fold_eq (step : β → Token → Phase → Except QueryError β) (state : β) (source : σ) :
    fold step state source =
      match (next source).1 with
      | .error error => (.error error, (next source).2)
      | .ok none => (.ok state, (next source).2)
      | .ok (some token) =>
        match step state token (phase (next source).2) with
        | .error error => (.error error, (next source).2)
        | .ok state => fold step state (next source).2 := by
  rw [fold]
  split
  · next failed => simp [failed]
  · next ended => simp [ended]
  · next token rest taken =>
    cases accepted : step state token (phase rest) <;> simp [taken, accepted]

/-- What a source hands out from now on: its tokens with the phases reported after them, how they
stop, and the source as it is then. -/
inductive Yields : σ → List (Token × Phase) → Except QueryError Unit → σ → Prop where
  | ended {source rest : σ} (answer : next source = (.ok none, rest)) :
    Yields source [] (.ok ()) rest
  | failed {source rest : σ} {error : QueryError} (answer : next source = (.error error, rest)) :
    Yields source [] (.error error) rest
  | token {source middle rest : σ} {token : Token} {tokens : List (Token × Phase)}
      {stop : Except QueryError Unit} (answer : next source = (.ok (some token), middle))
      (behind : Yields middle tokens stop rest) :
    Yields source ((token, phase middle) :: tokens) stop rest

theorem exists_yields (source : σ) : ∃ tokens stop rest, Yields source tokens stop rest := by
  induction bound : size source using Nat.strongRecOn generalizing source with
  | ind bound ih =>
    subst bound
    match answer : next source with
    | (.error error, rest) => exact ⟨[], _, rest, .failed answer⟩
    | (.ok none, rest) => exact ⟨[], _, rest, .ended answer⟩
    | (.ok (some token), middle) =>
      obtain ⟨tokens, stop, rest, behind⟩ := ih _ (size_lt answer) middle rfl
      exact ⟨_, stop, rest, .token answer behind⟩

theorem fold_of_yields {step : β → Token → Phase → Except QueryError β}
    {taken : β → Token × Phase → β} {source rest : σ} {tokens : List (Token × Phase)}
    {stop : Except QueryError Unit} (yields : Yields source tokens stop rest)
    (accepts : ∀ reported ∈ tokens, ∀ state,
      step state reported.1 reported.2 = .ok (taken state reported)) (state : β) :
    fold step state source = (stop.map fun _ => tokens.foldl taken state, rest) := by
  induction yields generalizing state with
  | ended answer => simp [fold_eq, answer, Except.map]
  | failed answer => simp [fold_eq, answer, Except.map]
  | token answer behind ih =>
    have first := accepts _ List.mem_cons_self state
    simp only at first
    rw [fold_eq]
    simp only [answer, first]
    rw [ih fun reported member => accepts reported (List.mem_cons_of_mem _ member), List.foldl_cons]

theorem drain_of_yields {source rest : σ} {tokens : List (Token × Phase)}
    {stop : Except QueryError Unit} (yields : Yields source tokens stop rest) :
    drain source = (stop.map fun _ => tokens, rest) := by
  have kept : tokens.foldl (fun taken reported => taken ++ [reported]) [] = tokens := by
    rw [List.foldl_append_eq_append, ← List.flatMap_def, List.flatMap_singleton', List.nil_append]
  have folded := @fold_of_yields σ (List (Token × Phase)) _
    (fun taken token phase => .ok (taken ++ [(token, phase)]))
    (fun taken reported => taken ++ [reported]) source rest tokens stop yields (fun _ _ _ => rfl) []
  rwa [kept] at folded

theorem yields_of_drain {source rest : σ} {tokens : List (Token × Phase)}
    (drained : drain source = (.ok tokens, rest)) : Yields source tokens (.ok ()) rest := by
  obtain ⟨found, stop, later, yields⟩ := exists_yields source
  rw [drain_of_yields yields] at drained
  cases stop with
  | error error => cases drained
  | ok _ =>
    cases drained
    exact yields

theorem fold_preserves {holds : σ → Prop} (preserved : ∀ source, holds source → holds (next source).2)
    (step : β → Token → Phase → Except QueryError β) (state : β) {source : σ}
    (start : holds source) : holds (fold step state source).2 := by
  induction bound : size source using Nat.strongRecOn generalizing source state with
  | ind bound ih =>
    subst bound
    have later := preserved source start
    rw [fold_eq]
    match answer : next source with
    | (.error error, rest) => simpa [answer] using later
    | (.ok none, rest) => simpa [answer] using later
    | (.ok (some token), middle) =>
      rw [answer] at later
      simp only
      cases step state token (phase middle) with
      | error error => exact later
      | ok state => exact ih _ (size_lt answer) state later rfl

/-- Related sources give the same answer and report the same phase, and stay related. -/
structure Simulates (related : σ → τ → Prop) : Prop where
  answer {source : σ} {image : τ} : related source image → (next source).1 = (next image).1
  phase {source : σ} {image : τ} : related source image → phase source = phase image
  step {source : σ} {image : τ} : related source image → related (next source).2 (next image).2

namespace Simulates

variable {related : σ → τ → Prop} {source : σ} {image : τ}

theorem skip (simulates : Simulates related) (start : related source image) (requests : Nat) :
    related (skip requests source) (TokenSource.skip requests image) := by
  induction requests generalizing source image with
  | zero => exact start
  | succ requests ih => exact ih (simulates.step start)

theorem fold (simulates : Simulates related) (step : β → Token → Phase → Except QueryError β)
    (state : β) (start : related source image) :
    (fold step state source).1 = (TokenSource.fold step state image).1 ∧
      related (TokenSource.fold step state source).2 (TokenSource.fold step state image).2 := by
  -- only the first source has to get smaller, since the second gives the same answers
  induction bound : size source using Nat.strongRecOn generalizing source image state with
  | ind bound ih =>
    subst bound
    have same := simulates.answer start
    have later := simulates.step start
    rw [fold_eq, fold_eq step state image, ← same, ← simulates.phase later]
    cases answer : (next source).1 with
    | error error => exact ⟨rfl, later⟩
    | ok found =>
      cases found with
      | none => exact ⟨rfl, later⟩
      | some token =>
        have shorter : size (next source).2 < size source := size_lt (Prod.ext answer rfl)
        cases accepted : step state token (TokenSource.phase (next source).2) with
        | error error => simpa [accepted] using later
        | ok state => simpa [accepted] using ih _ shorter state later rfl

end Simulates

end Projection.TokenSource
