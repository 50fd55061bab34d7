import Projection.Proofs.Interchange

/-! Where result types come from. One counter of 64 bits numbers the types that are made, over
whatever contexts, and each call that makes a type draws the next number. A clone has the type of
the query that it was taken from. As long as the counter has not come round, two types have the same
number if and only if they go back to one call. -/

set_option autoImplicit false

namespace Projection

inductive Call where
  | compile (origin : Origin) (members : List Member)
  | synthesize (columns : List String) (entity : EntityType)
  | clone (number : Nat)

inductive Given where
  | type (made : RecordType)
  | query (compiled : CompiledQuery)
  | failed (error : QueryError)
  | nothing

namespace Given

def query? : Given → Option CompiledQuery
  | query compiled => some compiled
  | _ => none

def type? : Given → Option RecordType
  | type made => some made
  | query compiled => some compiled.type
  | _ => none

def ofResult {α : Type} (give : α → Given) : Except QueryError α → Given
  | .error error => failed error
  | .ok value => give value

theorem exists_of_type? {α : Type} {give : α → Given} {result : Except QueryError α}
    {type : RecordType} (given : (ofResult give result).type? = some type) :
    ∃ value, result = .ok value ∧ (give value).type? = some type := by
  cases result with
  | error error => cases given
  | ok value => exact ⟨value, rfl, given⟩

end Given

/-- The counter, and what the calls have given, in their order. -/
structure Ledger where
  counter : UInt64
  given : List Given

namespace Ledger

def opened (counter : UInt64) : Ledger := ⟨counter, []⟩

def query? (ledger : Ledger) (number : Nat) : Option CompiledQuery :=
  ledger.given[number]?.bind Given.query?

def type? (ledger : Ledger) (number : Nat) : Option RecordType :=
  ledger.given[number]?.bind Given.type?

def answer (ledger : Ledger) : Call → Given
  | .compile origin members => .ofResult .query (origin.compile members ledger.counter)
  | .synthesize columns entity =>
    .ofResult .type (RecordType.synthesize ledger.counter columns entity)
  | .clone number =>
    match ledger.query? number with
    | some compiled => .query compiled
    | none => .nothing

/-- A call draws the next number if it is no clone and does not fail. -/
def draws (ledger : Ledger) : Call → Bool
  | .clone _ => false
  | call => (ledger.answer call).type?.isSome

def call (ledger : Ledger) (call : Call) : Ledger where
  counter := if ledger.draws call then ledger.counter + 1 else ledger.counter
  given := ledger.given ++ [ledger.answer call]

def run (ledger : Ledger) (calls : List Call) : Ledger := calls.foldl Ledger.call ledger

def drawn (ledger : Ledger) : List Call → Nat
  | [] => 0
  | first :: calls => (if ledger.draws first then 1 else 0) + (ledger.call first).drawn calls

end Ledger

/-- The call that a query or a type goes back to, by way of clones or none. -/
inductive GoesBack (calls : List Call) : Nat → Nat → Prop
  | self {number : Nat} {call : Call} (here : calls[number]? = some call)
      (original : ∀ other, call ≠ .clone other) : GoesBack calls number number
  | clone {copy number birth : Nat} (here : calls[copy]? = some (.clone number))
      (back : GoesBack calls number birth) : GoesBack calls copy birth

namespace Ledger

variable {ledger : Ledger} {calls : List Call}

section Runs

theorem run_append (ledger : Ledger) (before after : List Call) :
    ledger.run (before ++ after) = (ledger.run before).run after := List.foldl_append

theorem drawn_append (ledger : Ledger) (before after : List Call) :
    ledger.drawn (before ++ after) = ledger.drawn before + (ledger.run before).drawn after := by
  induction before generalizing ledger with
  | nil => simp [drawn, run]
  | cons first before ih =>
    rw [List.cons_append, drawn, drawn, ih, Nat.add_assoc]
    rfl

theorem drawn_le_of_part (ledger : Ledger) {early calls : List Call} (part : early <+: calls) :
    ledger.drawn early ≤ ledger.drawn calls := by
  obtain ⟨later, rfl⟩ := part
  rw [drawn_append]
  exact Nat.le_add_right _ _

theorem given_prefix_run (ledger : Ledger) (calls : List Call) :
    ledger.given <+: (ledger.run calls).given := by
  induction calls generalizing ledger with
  | nil => exact List.prefix_refl _
  | cons first calls ih => exact (List.prefix_append _ _).trans (ih (ledger.call first))

theorem length_given_run (ledger : Ledger) (calls : List Call) :
    (ledger.run calls).given.length = ledger.given.length + calls.length := by
  induction calls generalizing ledger with
  | nil => rfl
  | cons first calls ih =>
    have longer := ih (ledger.call first)
    simp only [call, List.length_append, List.length_singleton] at longer
    rw [List.length_cons, Nat.add_comm calls.length 1, ← Nat.add_assoc]
    exact longer

theorem counter_call (ledger : Ledger) (call : Call) :
    (ledger.call call).counter =
      ledger.counter + UInt64.ofNat (if ledger.draws call then 1 else 0) := by
  simp only [Ledger.call]
  split
  · rfl
  · exact (UInt64.add_zero ledger.counter).symm

theorem counter_run (ledger : Ledger) (calls : List Call) :
    (ledger.run calls).counter = ledger.counter + UInt64.ofNat (ledger.drawn calls) := by
  induction calls generalizing ledger with
  | nil => exact (UInt64.add_zero ledger.counter).symm
  | cons first calls ih =>
    have later := ih (ledger.call first)
    rwa [counter_call, UInt64.add_assoc, ← UInt64.ofNat_add] at later

end Runs

def Makes (counter : UInt64) (calls : List Call) (number : Nat) (type : RecordType) : Prop :=
  ∃ call, calls[number]? = some call ∧ (∀ other, call ≠ .clone other) ∧
    ((opened counter).run calls).type? number = some type

section Lineages

variable {counter : UInt64} {number birth : Nat} {type : RecordType}

theorem given_run_take (ledger : Ledger) (calls : List Call) (number : Nat) :
    (ledger.run (calls.take number)).given <+: (ledger.run calls).given := by
  have kept := given_prefix_run (ledger.run (calls.take number)) (calls.drop number)
  rwa [← run_append, List.take_append_drop] at kept

theorem given_run_at (counter : UInt64) {call : Call} (here : calls[number]? = some call) :
    ((opened counter).run calls).given[number]? =
      some (((opened counter).run (calls.take number)).answer call) := by
  obtain ⟨within, rfl⟩ := List.getElem?_eq_some_iff.mp here
  have before : ((opened counter).run (calls.take number)).given.length = number := by
    rw [length_given_run, List.length_take_of_le within.le]
    exact Nat.zero_add number
  obtain ⟨after, same⟩ := given_run_take (opened counter) calls (number + 1)
  rw [List.take_succ_eq_append_getElem within, run_append] at same
  rw [← same, run, List.foldl_cons, List.foldl_nil, Ledger.call, List.append_assoc,
    List.getElem?_append_right before.le, before, Nat.sub_self]
  rfl

theorem type?_run_at (counter : UInt64) {call : Call} (here : calls[number]? = some call) :
    ((opened counter).run calls).type? number =
      (((opened counter).run (calls.take number)).answer call).type? := by
  rw [type?, given_run_at counter here, Option.bind_some]

theorem type?_of_query? {compiled : CompiledQuery} (found : ledger.query? number = some compiled) :
    ledger.type? number = some compiled.type := by
  obtain ⟨given, there, is⟩ := Option.bind_eq_some_iff.mp found
  rw [type?, there, Option.bind_some]
  cases given with
  | query compiled =>
    cases is
    rfl
  | _ => cases is

theorem query?_of_kept {ledger later : Ledger} {compiled : CompiledQuery}
    (kept : ledger.given <+: later.given) (found : ledger.query? number = some compiled) :
    number < ledger.given.length ∧ later.query? number = some compiled := by
  obtain ⟨given, there, is⟩ := Option.bind_eq_some_iff.mp found
  obtain ⟨early, _⟩ := List.getElem?_eq_some_iff.mp there
  obtain ⟨after, same⟩ := kept
  refine ⟨early, ?_⟩
  rw [query?, ← same, List.getElem?_append_left early]
  exact found

theorem type?_of_clone {copy : Nat} (here : calls[copy]? = some (.clone number))
    (found : ((opened counter).run calls).type? copy = some type) :
    number < copy ∧ ((opened counter).run calls).type? number = some type := by
  obtain ⟨within, _⟩ := List.getElem?_eq_some_iff.mp here
  rw [type?_run_at counter here, answer] at found
  split at found
  · next compiled original =>
    cases found
    obtain ⟨early, kept⟩ := query?_of_kept (given_run_take _ calls copy) original
    rw [length_given_run, List.length_take_of_le within.le] at early
    exact ⟨(Nat.zero_add copy).subst early, type?_of_query? kept⟩
  · cases found

theorem makes_of_goesBack (back : GoesBack calls number birth)
    (found : ((opened counter).run calls).type? number = some type) :
    Makes counter calls birth type := by
  induction back with
  | self here original => exact ⟨_, here, original, found⟩
  | clone here _ ih => exact ih (type?_of_clone here found).2

theorem type_eq_of_goesBack {a b : Nat} {x y : RecordType} (back : GoesBack calls a birth)
    (again : GoesBack calls b birth) (found : ((opened counter).run calls).type? a = some x)
    (also : ((opened counter).run calls).type? b = some y) : x = y := by
  obtain ⟨_, _, _, first⟩ := makes_of_goesBack back found
  obtain ⟨_, _, _, second⟩ := makes_of_goesBack again also
  exact Option.some.inj (first.symm.trans second)

theorem exists_goesBack (found : ((opened counter).run calls).type? number = some type) :
    ∃ birth, GoesBack calls number birth := by
  induction number using Nat.strongRecOn with
  | ind number ih =>
    cases here : calls[number]? with
    | none =>
      have beyond : ((opened counter).run calls).given.length ≤ number := by
        rw [length_given_run]
        exact (Nat.zero_add _).trans_le (List.getElem?_eq_none_iff.mp here)
      rw [type?, List.getElem?_eq_none beyond] at found
      cases found
    | some call =>
      cases call with
      | clone source =>
        obtain ⟨earlier, original⟩ := type?_of_clone here found
        obtain ⟨birth, back⟩ := ih source earlier original
        exact ⟨birth, .clone here back⟩
      | _ => exact ⟨number, .self here nofun⟩

theorem goesBack_unique {other : Nat} (back : GoesBack calls number birth)
    (again : GoesBack calls number other) : birth = other := by
  induction back with
  | self here original =>
    cases again with
    | self _ _ => rfl
    | clone cloned _ => exact absurd (Option.some.inj (here.symm.trans cloned)) (original _)
  | clone here _ ih =>
    cases again with
    | self cloned original => exact absurd (Option.some.inj (cloned.symm.trans here)) (original _)
    | clone cloned again =>
      cases Option.some.inj (here.symm.trans cloned)
      exact ih again

end Lineages

section Numbers

variable {counter : UInt64} {birth other : Nat} {x y : RecordType}

theorem draws_eq {call : Call} (original : ∀ other, call ≠ .clone other) :
    ledger.draws call = (ledger.answer call).type?.isSome := by
  cases call with
  | clone number => exact absurd rfl (original number)
  | _ => rfl

theorem identity_of_answer {call : Call} {type : RecordType}
    (original : ∀ other, call ≠ .clone other) (given : (ledger.answer call).type? = some type) :
    type.identity = ledger.counter := by
  cases call with
  | clone number => exact absurd rfl (original number)
  | compile origin members =>
    obtain ⟨compiled, made, is⟩ := Given.exists_of_type? given
    cases is
    exact Origin.identity_of_compile made
  | synthesize columns entity =>
    obtain ⟨made, synthesized, is⟩ := Given.exists_of_type? given
    cases is
    exact (synthesize_eq_ok_iff.mp synthesized).1

theorem identity_of_makes (makes : Makes counter calls birth x) :
    x.identity = counter + UInt64.ofNat ((opened counter).drawn (calls.take birth)) := by
  obtain ⟨call, here, original, found⟩ := makes
  rw [type?_run_at counter here] at found
  rw [identity_of_answer original found]
  exact counter_run (opened counter) (calls.take birth)

theorem drawn_lt_of_makes (makes : Makes counter calls birth x) {later : Nat}
    (earlier : birth < later) :
    (opened counter).drawn (calls.take birth) < (opened counter).drawn (calls.take later) := by
  obtain ⟨call, here, original, found⟩ := makes
  obtain ⟨within, rfl⟩ := List.getElem?_eq_some_iff.mp here
  rw [type?_run_at counter here] at found
  have next : (opened counter).drawn (calls.take (birth + 1)) =
      (opened counter).drawn (calls.take birth) + 1 := by
    rw [List.take_succ_eq_append_getElem within, drawn_append, drawn, draws_eq original, found]
    rfl
  have grows := drawn_le_of_part (opened counter)
    (List.take_prefix_take_left (l := calls) (show birth + 1 ≤ later from earlier))
  omega

theorem identity_ne_of_lt (few : (opened counter).drawn calls < UInt64.size)
    (makes : Makes counter calls birth x) (also : Makes counter calls other y)
    (earlier : birth < other) : x.identity ≠ y.identity := by
  -- both numbers are drawn in one turn of the counter
  have before := drawn_lt_of_makes makes earlier
  have within : (opened counter).drawn (calls.take other) < UInt64.size :=
    (drawn_le_of_part _ (List.take_prefix other calls)).trans_lt few
  rw [identity_of_makes makes, identity_of_makes also, Ne, add_ofNat_eq_iff_mod_eq]
  rw [show UInt64.size = 18446744073709551616 from rfl] at within ⊢
  omega

theorem birth_eq_of_identity_eq (few : (opened counter).drawn calls < UInt64.size)
    (makes : Makes counter calls birth x) (also : Makes counter calls other y)
    (same : x.identity = y.identity) : birth = other := by
  rcases Nat.lt_trichotomy birth other with earlier | here | later
  · exact absurd same (identity_ne_of_lt few makes also earlier)
  · exact here
  · exact absurd same.symm (identity_ne_of_lt few also makes later)

end Numbers

end Ledger

section Identities

open Ledger

theorem call_of_failed {ledger : Ledger} {call : Call} {error : QueryError}
    (failed : ledger.answer call = .failed error) :
    (ledger.call call).counter = ledger.counter ∧
      ∀ number, (ledger.call call).type? number = ledger.type? number := by
  have idle : ledger.draws call = false := by
    cases call with
    | clone number => rfl
    | compile _ _ | synthesize _ _ => exact congrArg (fun given => given.type?.isSome) failed
  refine ⟨by rw [Ledger.call, idle]; rfl, fun number => ?_⟩
  rw [type?, Ledger.call, failed, List.getElem?_append]
  split
  · rfl
  · next beyond =>
    rw [type?, List.getElem?_eq_none (Nat.le_of_not_lt beyond)]
    cases number - ledger.given.length <;> rfl

/-- Every type goes back to one call that made it. Two types have the same identity if and only if
they go back to the same call, and then they are one type, which the records of a query have too. A
call that fails makes no type, and no call touches those that are there. -/
theorem type_identity_follows_lineage (counter : UInt64) (calls : List Call)
    (few : (opened counter).drawn calls < UInt64.size) :
    let ledger := (opened counter).run calls
    (∀ number type, ledger.type? number = some type →
      ∃ birth, GoesBack calls number birth ∧ Makes counter calls birth type ∧
        ∀ other, GoesBack calls number other → other = birth) ∧
    (∀ a b x y, ledger.type? a = some x → ledger.type? b = some y →
      (x.identity = y.identity ↔ ∃ birth, GoesBack calls a birth ∧ GoesBack calls b birth) ∧
      (x.identity = y.identity → x = y)) ∧
    (∀ number compiled, ledger.query? number = some compiled →
      ledger.type? number = some compiled.type ∧
        ∀ context record, compiled.Yields context record → record.type = compiled.type) ∧
    (∀ early, early <+: calls → ((opened counter).run early).given <+: ledger.given) ∧
    ∀ call error, ledger.answer call = .failed error →
      (ledger.call call).counter = ledger.counter ∧
        ∀ number, (ledger.call call).type? number = ledger.type? number := by
  intro ledger
  have births : ∀ number type, ledger.type? number = some type →
      ∃ birth, GoesBack calls number birth ∧ Makes counter calls birth type ∧
        ∀ other, GoesBack calls number other → other = birth := by
    intro number type found
    obtain ⟨birth, back⟩ := exists_goesBack found
    exact ⟨birth, back, makes_of_goesBack back found, fun other again => goesBack_unique again back⟩
  refine ⟨births, fun a b x y found also => ?_, fun number compiled found => ?_, ?_,
    fun call error => call_of_failed⟩
  · obtain ⟨birth, back, makes, _⟩ := births a x found
    obtain ⟨other, again, makes_other, _⟩ := births b y also
    have common (same : x.identity = y.identity) : GoesBack calls b birth :=
      birth_eq_of_identity_eq few makes makes_other same ▸ again
    refine ⟨⟨fun same => ⟨birth, back, common same⟩, ?_⟩, fun same => ?_⟩
    · rintro ⟨shared, first, second⟩
      rw [type_eq_of_goesBack first second found also]
    · exact type_eq_of_goesBack back (common same) found also
  · refine ⟨type?_of_query? found, fun context record yields => ?_⟩
    obtain ⟨element, projected⟩ := CompiledQuery.project_of_yields yields
    exact type_of_project projected
  · rintro early ⟨later, rfl⟩
    have kept := given_prefix_run ((opened counter).run early) later
    rwa [← run_append] at kept

/-- A counter that comes round, a query with its clones, two calls that fail, and the same columns
compiled and synthesized again. -/
theorem type_identity_follows_lineage_wrapped :
    let counter : UInt64 := 18446744073709551615
    let query : Origin := .query ⟨["Name"], "Customers", by decide⟩
    let calls : List Call := [.compile query SampleData.members, .clone 0, .clone 1,
      .compile (.query ⟨["Name"], "Company", by decide⟩) SampleData.members,
      .synthesize ["Nickname"] Layout.customer.entityType, .compile query SampleData.members,
      .synthesize ["Name"] Layout.customer.entityType]
    let ledger := (opened counter).run calls
    ∃ x y z w : RecordType, ledger.type? 0 = some x ∧ ledger.type? 2 = some y ∧
      ledger.type? 5 = some z ∧ ledger.type? 6 = some w ∧ ledger.type? 3 = none ∧
      ledger.type? 4 = none ∧ x.sameFields z = true ∧ x.sameFields w = true ∧
      x = y ∧ x.identity ≠ z.identity ∧ z.identity ≠ w.identity := by
  intro counter query calls ledger
  have few : (opened counter).drawn calls < UInt64.size := by decide
  obtain ⟨_, identities, _⟩ := type_identity_follows_lineage counter calls few
  let name : List Field := [⟨"Name", .string⟩]
  have first : ledger.type? 0 = some ⟨18446744073709551615, "Customer", name⟩ := rfl
  have copied : ledger.type? 2 = some ⟨18446744073709551615, "Customer", name⟩ := rfl
  have again : ledger.type? 5 = some ⟨0, "Customer", name⟩ := by decide +kernel
  have apart : ledger.type? 6 = some ⟨1, "Customer", name⟩ := by decide +kernel
  -- each of the calls that are no clones is where its own type comes from
  have compiled : GoesBack calls 0 0 := .self rfl nofun
  have compiled_again : GoesBack calls 5 5 := .self rfl nofun
  have synthesized : GoesBack calls 6 6 := .self rfl nofun
  have shared : ∃ birth, GoesBack calls 0 birth ∧ GoesBack calls 2 birth :=
    ⟨0, compiled, .clone rfl (.clone rfl compiled)⟩
  have one := (identities _ _ _ _ first copied).2 ((identities _ _ _ _ first copied).1.mpr shared)
  refine ⟨_, _, _, _, first, copied, again, apart, rfl, rfl, rfl, rfl, one, fun same => ?_,
    fun same => ?_⟩
  · obtain ⟨birth, back, other⟩ := (identities _ _ _ _ first again).1.mp same
    cases (goesBack_unique back compiled).symm.trans (goesBack_unique other compiled_again)
  · obtain ⟨birth, back, other⟩ := (identities _ _ _ _ again apart).1.mp same
    cases (goesBack_unique back compiled_again).symm.trans (goesBack_unique other synthesized)

end Identities

end Projection
