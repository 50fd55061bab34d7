import Projection.Proofs.Binding
import Projection.Proofs.History

/-! Where the queries of a session come from. Each goes back to one compilation of the past, by way
of clones or none, and is what was compiled there. Only compilations that succeed draw identities,
one after the other as far as 64 bits go, and then from zero on. -/

set_option autoImplicit false

namespace Projection

namespace Step

def origin? : Step → Option Origin
  | compile _ keywords text => some (.statement keywords text)
  | compileParts _ columns tableSource => (Query.ofParts columns tableSource).toOption.map .query
  | _ => none

def compiled? (members : List Member) (identity : UInt64) (step : Step) : Option CompiledQuery :=
  step.origin?.bind fun origin => (origin.compile members identity).toOption

end Step

/-- The identity of the next result type: one more for each compilation that succeeded. -/
def identityAt (start : Session) : List Step → UInt64
  | [] => start.nextIdentity
  | step :: past =>
    let identity := identityAt start past
    if (step.compiled? (membersAt start past) identity).isSome then identity + 1 else identity

def compiledBy (start : Session) : List Step → Option CompiledQuery
  | [] => none
  | step :: past => step.compiled? (membersAt start past) (identityAt start past)

/-- How many compilations of a past have succeeded. -/
def compilations (start : Session) : List Step → Nat
  | [] => 0
  | step :: past =>
    compilations start past + if (compiledBy start (step :: past)).isSome then 1 else 0

/-- The past up to the compilation that a name's query goes back to. -/
def birthAt (start : Session) : List Step → String → Option (List Step)
  | [], _ => none
  | .clone source copy :: past, name =>
    if copy = name then (birthAt start past source).or (birthAt start past name)
    else birthAt start past name
  | step :: past, name =>
    if step.target? = some name ∧ (compiledBy start (step :: past)).isSome then some (step :: past)
    else birthAt start past name

/-- A query that is what the latest step of a past has compiled. -/
inductive BornOf (start : Session) : List Step → CompiledQuery → Prop
  | intro {step : Step} {past : List Step} {origin : Origin} {compiled : CompiledQuery}
      (compiles : step.origin? = some origin)
      (made : origin.compile (membersAt start past) (identityAt start past) = .ok compiled) :
    BornOf start (step :: past) compiled

structure Descends (start : Session) (past : List Step) (session : Session) : Prop where
  members : session.members = membersAt start past
  nextIdentity : session.nextIdentity = identityAt start past
  queries (name : String) : session.queries name = (birthAt start past name).bind (compiledBy start)

section Births

variable {start : Session} {past birth other : List Step} {name : String}
  {compiled second : CompiledQuery}

theorem toOption_eq_some_iff {α : Type} {result : Except QueryError α} {value : α} :
    result.toOption = some value ↔ result = .ok value := by
  cases result <;> simp [Except.toOption]

theorem bornOf_iff_compiledBy :
    BornOf start birth compiled ↔ compiledBy start birth = some compiled := by
  constructor
  · rintro ⟨compiles, made⟩
    rw [compiledBy, Step.compiled?, compiles]
    exact toOption_eq_some_iff.mpr made
  · intro by_birth
    cases birth with
    | nil => cases by_birth
    | cons step past =>
      obtain ⟨origin, compiles, made⟩ := Option.bind_eq_some_iff.mp by_birth
      exact .intro compiles (toOption_eq_some_iff.mp made)

theorem identityAt_cons (start : Session) (step : Step) (past : List Step) :
    identityAt start (step :: past) =
      if (compiledBy start (step :: past)).isSome then identityAt start past + 1
      else identityAt start past := rfl

theorem Origin.identity_of_compile {members : List Member} {identity : UInt64} {origin : Origin}
    (made : origin.compile members identity = .ok compiled) :
    compiled.type.identity = identity := by
  obtain ⟨query, _, bound⟩ := exists_of_bind_eq_ok made
  obtain ⟨_, entity, _, synthesized⟩ := bound_of_compile bound
  exact (synthesize_eq_ok_iff.mp synthesized).1

theorem identity_of_bornOf (born : BornOf start birth compiled) :
    identityAt start birth = compiled.type.identity + 1 := by
  have by_birth := bornOf_iff_compiledBy.mp born
  obtain ⟨_, made⟩ := born
  rw [identityAt_cons, by_birth, Origin.identity_of_compile made]
  rfl

theorem identityAt_eq (start : Session) (past : List Step) :
    identityAt start past = start.nextIdentity + UInt64.ofNat (compilations start past) := by
  induction past with
  | nil => exact (UInt64.add_zero start.nextIdentity).symm
  | cons step past ih =>
    rw [identityAt_cons, compilations, ih]
    split
    · rw [UInt64.ofNat_add, UInt64.add_assoc]
      rfl
    · rfl

theorem add_ofNat_eq_iff_mod_eq {counter : UInt64} {m n : Nat} :
    counter + UInt64.ofNat m = counter + UInt64.ofNat n ↔ m % UInt64.size = n % UInt64.size := by
  rw [UInt64.add_right_inj, ← UInt64.toNat_inj, UInt64.toNat_ofNat', UInt64.toNat_ofNat']

theorem identity_eq_iff_mod_eq (born : BornOf start birth compiled)
    (other_born : BornOf start other second) :
    compiled.type.identity = second.type.identity ↔
      compilations start birth % UInt64.size = compilations start other % UInt64.size := by
  rw [← UInt64.add_left_inj 1, ← identity_of_bornOf born, ← identity_of_bornOf other_born,
    identityAt_eq, identityAt_eq, add_ofNat_eq_iff_mod_eq]

theorem compilations_le_of_suffix (older : birth <:+ past) :
    compilations start birth ≤ compilations start past := by
  induction past with
  | nil => rw [List.suffix_nil.mp older]
  | cons step past ih =>
    rcases List.suffix_cons_iff.mp older with rfl | older
    · exact Nat.le_refl _
    · exact (ih older).trans (Nat.le_add_right _ _)

theorem compilations_le_length (start : Session) (past : List Step) :
    compilations start past ≤ past.length := by
  induction past with
  | nil => exact Nat.le_refl 0
  | cons step past ih =>
    rw [compilations, List.length_cons]
    exact Nat.add_le_add ih (by split <;> decide)

theorem compilations_of_bornOf {step : Step} (born : BornOf start (step :: past) compiled) :
    compilations start (step :: past) = compilations start past + 1 := by
  rw [compilations, bornOf_iff_compiledBy.mp born]
  rfl

theorem compilations_pos_of_bornOf (born : BornOf start birth compiled) :
    0 < compilations start birth := by
  cases birth with
  | nil => cases born
  | cons step past =>
    rw [compilations_of_bornOf born]
    exact Nat.succ_pos _

theorem compilations_lt_of_suffix (later : BornOf start other second) (older : birth <:+ other)
    (apart : birth ≠ other) : compilations start birth < compilations start other := by
  cases other with
  | nil => cases later
  | cons step past =>
    have older := (List.suffix_cons_iff.mp older).resolve_left apart
    rw [compilations_of_bornOf later]
    exact Nat.lt_succ_of_le (compilations_le_of_suffix older)

theorem compilations_eq_iff_birth_eq (born : BornOf start birth compiled)
    (other_born : BornOf start other second) (one : birth <:+ past) (two : other <:+ past) :
    compilations start birth = compilations start other ↔ birth = other := by
  constructor
  · intro same
    by_contra apart
    rcases List.suffix_or_suffix_of_suffix one two with older | older
    · exact absurd same (compilations_lt_of_suffix other_born older apart).ne
    · exact absurd same.symm (compilations_lt_of_suffix born older (Ne.symm apart)).ne
  · rintro rfl
    rfl

theorem identity_eq_iff_birth_eq (few : compilations start past ≤ UInt64.size)
    (born : BornOf start birth compiled) (other_born : BornOf start other second)
    (one : birth <:+ past) (two : other <:+ past) :
    compiled.type.identity = second.type.identity ↔ birth = other := by
  have some_birth := compilations_pos_of_bornOf born
  have some_other := compilations_pos_of_bornOf other_born
  have within := (compilations_le_of_suffix one).trans few
  have within_other := (compilations_le_of_suffix two).trans few
  rw [identity_eq_iff_mod_eq born other_born,
    ← compilations_eq_iff_birth_eq born other_born one two]
  rw [show UInt64.size = 18446744073709551616 from rfl] at within within_other ⊢
  omega

theorem birthAt_cons {step : Step} (original : ∀ source copy, step ≠ .clone source copy) :
    birthAt start (step :: past) name =
      if step.target? = some name ∧ (compiledBy start (step :: past)).isSome then some (step :: past)
      else birthAt start past name := by
  cases step with
  | clone source copy => exact absurd rfl (original source copy)
  | _ => rfl

theorem birth_of_birthAt (found : birthAt start past name = some birth) :
    birth <:+ past ∧ ∃ compiled, BornOf start birth compiled := by
  induction past generalizing name with
  | nil => cases found
  | cons step past ih =>
    have behind {name : String} (found : birthAt start past name = some birth) :
        birth <:+ step :: past ∧ ∃ compiled, BornOf start birth compiled :=
      ⟨(ih found).1.trans (List.suffix_cons _ _), (ih found).2⟩
    unfold birthAt at found
    split at found
    · cases found
    · next here =>
      cases here
      split at found
      · rcases Option.or_eq_some_iff.mp found with cloned | ⟨_, kept⟩
        · exact behind cloned
        · exact behind kept
      · exact behind found
    · next here =>
      cases here
      split at found
      · next compiles =>
        cases found
        obtain ⟨compiled, by_birth⟩ := Option.isSome_iff_exists.mp compiles.2
        exact ⟨List.suffix_refl _, compiled, bornOf_iff_compiledBy.mpr by_birth⟩
      · exact behind found

end Births

namespace Session

variable {start session : Session} {past : List Step}

theorem store_nextIdentity (session : Session) (name : String)
    (result : Except QueryError CompiledQuery) :
    (session.store name result).2.nextIdentity =
      if result.toOption.isSome then session.nextIdentity + 1 else session.nextIdentity := by
  cases result <;> rfl

theorem descends_store (descends : Descends start past session) {step : Step} {name : String}
    {result : Except QueryError CompiledQuery}
    (members : membersAt start (step :: past) = membersAt start past)
    (original : ∀ source copy, step ≠ .clone source copy) (target : step.target? = some name)
    (compiles : compiledBy start (step :: past) = result.toOption) :
    Descends start (step :: past) (session.store name result).2 := by
  refine ⟨?_, ?_, fun other => ?_⟩
  · rw [store_members, members, descends.members]
  · rw [store_nextIdentity, identityAt_cons, compiles, descends.nextIdentity]
  · rw [store_queries, birthAt_cons original, target, descends.queries]
    by_cases here : name = other
    · cases made : result.toOption <;> simp [here, compiles, made]
    · simp [here]

theorem descends_of_idle (descends : Descends start past session) {step : Step} {after : Session}
    (members : after.members = membersAt start (step :: past))
    (identity : after.nextIdentity = session.nextIdentity)
    (queries : after.queries = session.queries)
    (original : ∀ source copy, step ≠ .clone source copy) (idle : step.origin? = none) :
    Descends start (step :: past) after := by
  have nothing : compiledBy start (step :: past) = none := by
    rw [compiledBy, Step.compiled?, idle]
    rfl
  refine ⟨members, ?_, fun name => ?_⟩
  · rw [identity, descends.nextIdentity, identityAt_cons, nothing]
    rfl
  · rw [queries, descends.queries, birthAt_cons original, nothing]
    simp

theorem descends_step (descends : Descends start past session) (step : Step) :
    Descends start (step :: past) (session.step step).2 := by
  have kept : step.Reads → (session.step step).2 = session :=
    fun reads => step_of_reads reads session
  cases step with
  | compile name keywords statement =>
    refine descends_store descends rfl nofun rfl ?_
    rw [descends.members, descends.nextIdentity]
    rfl
  | compileParts name columns tableSource =>
    refine descends_store descends rfl nofun rfl ?_
    rw [descends.members, descends.nextIdentity, compiledBy, Step.compiled?, Step.origin?]
    cases Query.ofParts columns tableSource <;> rfl
  | change _ _ _ => exact descends_of_idle descends descends.members rfl rfl nofun rfl
  | describe _ => exact descends_of_idle descends rfl rfl rfl nofun rfl
  | compareTypes _ _ | execute _ _ | render _ _ _ | iterate _ _ _ | compareRows _ _ _ _ =>
    rw [kept trivial]
    exact descends_of_idle descends descends.members rfl rfl nofun rfl
  | clone source copy =>
    have cloned := descends.queries source
    cases found : birthAt start past source with
    | none =>
      rw [found] at cloned
      simp only [Session.step, cloned]
      refine ⟨descends.members, descends.nextIdentity, fun name => ?_⟩
      rw [birthAt, found, Option.none_or, ite_self]
      exact descends.queries name
    | some birth =>
      obtain ⟨_, compiled, born⟩ := birth_of_birthAt found
      rw [found, Option.bind_some, bornOf_iff_compiledBy.mp born] at cloned
      simp only [Session.step, cloned]
      refine ⟨descends.members, descends.nextIdentity, fun name => ?_⟩
      simp only [keep, birthAt, found, Option.some_or, descends.queries name, eq_comm (a := copy)]
      split
      · exact (bornOf_iff_compiledBy.mp born).symm
      · rfl

theorem descends_run (descends : Descends start past session) (steps : List Step) :
    Descends start (steps.reverse ++ past) (session.run steps).2 := by
  induction steps generalizing session past with
  | nil => exact descends
  | cons first steps ih =>
    rw [List.reverse_cons, List.append_assoc]
    exact ih (descends_step descends first)

theorem descends_countingFrom (counter : UInt64) (members : List Member) (steps : List Step) :
    Descends (countingFrom counter members) steps.reverse
      ((countingFrom counter members).run steps).2 := by
  have fresh : Descends (countingFrom counter members) [] (countingFrom counter members) :=
    ⟨rfl, rfl, fun _ => rfl⟩
  simpa using descends_run fresh steps

theorem exists_birth {compiled : CompiledQuery} {name : String}
    (descends : Descends start past session) (stored : session.queries name = some compiled) :
    ∃ birth, birthAt start past name = some birth ∧ birth <:+ past ∧
      BornOf start birth compiled := by
  rw [descends.queries] at stored
  obtain ⟨birth, found, by_birth⟩ := Option.bind_eq_some_iff.mp stored
  exact ⟨birth, found, (birth_of_birthAt found).1, bornOf_iff_compiledBy.mpr by_birth⟩

end Session

end Projection
