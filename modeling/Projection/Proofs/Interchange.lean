import Projection.Proofs.Json.Sameness
import Projection.Proofs.Lineage
import Projection.Proofs.Views
import Projection.SampleData

/-! Queries that can stand for each other. What was compiled from equal queries against the same
members has the same columns and fields and gives the same over every context, row by row and as
text. Only the identities of the result types tell apart what was compiled apart. -/

set_option autoImplicit false

namespace Projection

inductive Together {α β : Type} (related : α → β → Prop) :
    Except QueryError α → Except QueryError β → Prop
  | failed (error : QueryError) : Together related (.error error) (.error error)
  | succeeded {a : α} {b : β} (each : related a b) : Together related (.ok a) (.ok b)

theorem Together.imp {α β : Type} {related coarser : α → β → Prop}
    (weaken : ∀ {a : α} {b : β}, related a b → coarser a b) {left : Except QueryError α}
    {right : Except QueryError β} (together : Together related left right) :
    Together coarser left right := by
  cases together with
  | failed error => exact .failed error
  | succeeded each => exact .succeeded (weaken each)

theorem together_of_map_eq {α β γ : Type} {f : α → γ} {g : β → γ} {left : Except QueryError α}
    {right : Except QueryError β} (same : left.map f = right.map g) :
    Together (fun a b => f a = g b) left right := by
  match left, right with
  | .error _, .error _ =>
    cases same
    exact .failed _
  | .ok _, .ok _ => exact .succeeded (Except.ok.inj same)
  | .error _, .ok _ | .ok _, .error _ => cases same

/-- Nothing but the identities of their types tells the queries apart. -/
structure CompiledQuery.Interchanges (a b : CompiledQuery) : Prop where
  tableSource : a.query.tableSource = b.query.tableSource
  columns : a.query.columns = b.query.columns
  source : a.type.source = b.type.source
  fields : a.type.sameFields b.type = true
  rows : ∀ context, Together
    (fun left right => List.Forall₂ (Together fun x y => x.same y = true)
      (left.pending.map left.type.project) (right.pending.map right.type.project))
    (a.execute context) (b.execute context)
  records : ∀ context, Together (List.Forall₂ fun x y => x.same y = true)
    (a.executeAll context) (b.executeAll context)
  text : ∀ context style,
    (a.execute context).bind (Rows.render style) = (b.execute context).bind (Rows.render style)

namespace Record

theorem same_of_entries {a b : Record} (entries : a.entries = b.entries) : a.same b = true := by
  have names : a.type.names = b.type.names := by
    rw [← a.keys_entries, ← b.keys_entries, entries]
  have values : a.values = b.values := by rw [← a.values_entries, ← b.values_entries, entries]
  rw [same, names, values, beq_self_eq_true, Bool.and_true, Json.sameItems_iff_forall₂,
    List.forall₂_same]
  exact fun value _ => value.same_refl

theorem same_of_map_entries {as bs : List Record}
    (entries : as.map Record.entries = bs.map Record.entries) :
    List.Forall₂ (fun x y => x.same y = true) as bs := by
  have each : List.Forall₂ (· = ·) (as.map Record.entries) (bs.map Record.entries) := by
    rw [entries, List.forall₂_same]
    exact fun _ _ => rfl
  rw [List.forall₂_map_left_iff, List.forall₂_map_right_iff] at each
  exact each.imp fun _ _ => same_of_entries

end Record

theorem entries_project (type : RecordType) (element : Element) :
    (type.project element).map Record.entries =
      match element.lacks? type.names with
      | some column => .error (.unknownField column type.source)
      | none => .ok (element.select type.names) := by
  have failed := failure?_project type element
  cases gap : element.lacks? type.names with
  | some column =>
    rw [gap] at failed
    rw [failure?_eq_some_iff.mp failed]
    rfl
  | none =>
    rw [gap] at failed
    obtain ⟨record, projected⟩ := failure?_eq_none_iff.mp failed
    rw [projected, Except.map, select_of_shows (shows_of_project projected)]

namespace CompiledQuery

variable {a b : CompiledQuery}

theorem together_execute (same : a.frozen = b.frozen) (context : Context) :
    Together (fun left right => List.Forall₂ (Together fun x y => x.entries = y.entries)
        (left.pending.map left.type.project) (right.pending.map right.type.project))
      (a.execute context) (b.execute context) := by
  obtain ⟨query, source, _⟩ := Frozen.mk.inj same
  unfold execute
  rw [query]
  cases context.scan b.query.tableSource with
  | none => exact .failed _
  | some elements =>
    refine .succeeded ?_
    rw [List.forall₂_map_left_iff, List.forall₂_map_right_iff, List.forall₂_same]
    intro element _
    apply together_of_map_eq
    rw [entries_project, entries_project, a.names_type, b.names_type, query, source]

theorem entries_executeAll_eq (same : a.frozen = b.frozen) (context : Context) :
    (a.executeAll context).map (List.map Record.entries) =
      (b.executeAll context).map (List.map Record.entries) := by
  obtain ⟨query, source, _⟩ := Frozen.mk.inj same
  unfold executeAll execute
  rw [query]
  cases context.scan b.query.tableSource with
  | none => rfl
  | some elements =>
    simp only [Except.bind]
    rw [entries_collect, entries_collect, query, source]

theorem interchanges_of_frozen (same : a.frozen = b.frozen) : a.Interchanges b := by
  obtain ⟨query, source, fields⟩ := Frozen.mk.inj same
  refine ⟨by rw [query], by rw [query], source, ?_, fun context => ?_, fun context => ?_,
    fun context style => ?_⟩
  · rw [RecordType.sameFields, fields, beq_self_eq_true]
  · exact (together_execute same context).imp fun rows =>
      rows.imp fun _ _ row => row.imp Record.same_of_entries
  · exact (together_of_map_eq (entries_executeAll_eq same context)).imp Record.same_of_map_entries
  · rw [Session.render_eq, Session.render_eq, entries_executeAll_eq same]

end CompiledQuery

theorem Origin.frozen_compile_eq {members : List Member} {a b : Origin} (same : a.parsed = b.parsed)
    (i j : UInt64) : (a.compile members i).map CompiledQuery.frozen =
      (b.compile members j).map CompiledQuery.frozen := by
  unfold compile
  rw [same]
  cases b.parsed with
  | error error => rfl
  | ok query =>
    simp only [Except.bind]
    rw [frozen_compile, frozen_compile]

theorem freeze_of_bornOf {start : Session} {birth : List Step} {compiled : CompiledQuery}
    (born : BornOf start birth compiled) :
    compiled.query.freeze (membersAt start birth) = .ok compiled.frozen := by
  cases born with
  | @intro step past origin _ compiles made =>
    have members : membersAt start (step :: past) = membersAt start past := by
      cases step with
      | describe _ => cases compiles
      | _ => rfl
    obtain ⟨query, _, made⟩ := exists_of_bind_eq_ok made
    obtain ⟨rfl, _⟩ := bound_of_compile made
    rw [members, ← frozen_compile _ _ (identityAt start past), made]
    rfl

/-- Equal queries compile alike: both fail with the same error, or both give what can stand for the
other. In a session that holds for the queries under all names at all times, kept or cloned. Two of
them share their identity if and only if the compilations they go back to have numbers that 64 bits
do not tell apart, so up to 2 ^ 64 compilations if and only if they go back to the same one. -/
theorem equal_queries_interchange :
    (∀ (members : List Member) (a b : Origin) (i j : UInt64), a.parsed = b.parsed →
      Together CompiledQuery.Interchanges (a.compile members i) (b.compile members j)) ∧
    ∀ (members : List Member) (counter : UInt64) (steps early late : List Step) (a b : String)
      (x y : CompiledQuery), early <+: steps → late <+: steps →
      let start := Session.countingFrom counter members
      (start.run early).2.queries a = some x → (start.run late).2.queries b = some y →
      ∃ first second, birthAt start early.reverse a = some first ∧
        birthAt start late.reverse b = some second ∧
        BornOf start first x ∧ BornOf start second y ∧
        (x.type.identity = y.type.identity ↔
          compilations start first % UInt64.size = compilations start second % UInt64.size) ∧
        (compilations start steps.reverse ≤ UInt64.size →
          (x.type.identity = y.type.identity ↔ first = second)) ∧
        (membersAt start first = membersAt start second → x.query = y.query →
          x.Interchanges y) := by
  refine ⟨fun members a b i j same => ?_, ?_⟩
  · exact (together_of_map_eq (Origin.frozen_compile_eq same i j)).imp
      CompiledQuery.interchanges_of_frozen
  · intro members counter steps early late a b x y early_part late_part start kept_early kept_late
    obtain ⟨first, found_first, past_first, born_first⟩ :=
      Session.exists_birth (Session.descends_countingFrom counter members early) kept_early
    obtain ⟨second, found_second, past_second, born_second⟩ :=
      Session.exists_birth (Session.descends_countingFrom counter members late) kept_late
    -- both births lie in the past of the whole run
    have one := past_first.trans (List.reverse_suffix.mpr early_part)
    have two := past_second.trans (List.reverse_suffix.mpr late_part)
    refine ⟨first, second, found_first, found_second, born_first, born_second,
      identity_eq_iff_mod_eq born_first born_second,
      fun few => identity_eq_iff_birth_eq few born_first born_second one two,
      fun same_members same_query => ?_⟩
    apply CompiledQuery.interchanges_of_frozen
    have frozen := freeze_of_bornOf born_first
    rw [same_query, same_members, freeze_of_bornOf born_second] at frozen
    exact (Except.ok.inj frozen).symm

/-- Two ways to write one query, compiled as the counter comes round, and a clone. -/
theorem equal_queries_interchange_cloned :
    let last : UInt64 := 18446744073709551615
    let start := Session.countingFrom last SampleData.members
    let steps : List Step := [.compile "first" {} "select Name from Customers",
      .compile "second" ⟨true⟩ "SELECT ,[Name] FROM [Customers]", .clone "first" "copy"]
    ∃ (x y : CompiledQuery) (birth other : List Step),
      (start.run steps).2.queries "first" = some x ∧
      (start.run steps).2.queries "second" = some y ∧
      (start.run steps).2.queries "copy" = some x ∧
      birthAt start steps.reverse "first" = some birth ∧
      birthAt start steps.reverse "copy" = some birth ∧
      birthAt start steps.reverse "second" = some other ∧
      compilations start steps.reverse ≤ UInt64.size ∧
      x.type.identity = last ∧ y.type.identity = 0 ∧ birth ≠ other ∧ x.Interchanges y := by
  intro last start steps
  let query : Query := ⟨["Name"], "Customers", by decide⟩
  have first : Query.ofText {} "select Name from Customers" = .ok query := by decide +kernel
  have second : Query.ofText ⟨true⟩ "SELECT ,[Name] FROM [Customers]" = .ok query := by
    decide +kernel
  let x : CompiledQuery := ⟨query, ⟨last, "Customer", [⟨"Name", .string⟩]⟩, rfl⟩
  let y : CompiledQuery := ⟨query, ⟨last + 1, "Customer", [⟨"Name", .string⟩]⟩, rfl⟩
  have kept : (start.run steps).2.queries "first" = some x ∧
      (start.run steps).2.queries "second" = some y ∧
      (start.run steps).2.queries "copy" = some x := by
    simp only [steps, Session.run, Session.step, first, second]
    exact ⟨rfl, rfl, rfl⟩
  obtain ⟨kept_first, kept_second, kept_copy⟩ := kept
  have few : compilations start steps.reverse ≤ UInt64.size :=
    (compilations_le_length start steps.reverse).trans (by decide)
  obtain ⟨alike, traced⟩ := equal_queries_interchange
  have whole := List.prefix_refl steps
  obtain ⟨birth, other, found, found_second, _, _, _, identities, _⟩ :=
    traced _ _ _ _ _ _ _ _ _ whole whole kept_first kept_second
  obtain ⟨_, cloned, found_first, found_copy, _, _, _, copied, _⟩ :=
    traced _ _ _ _ _ _ _ _ _ whole whole kept_first kept_copy
  cases found.symm.trans found_first
  cases (copied few).mp rfl
  have apart : x.type.identity ≠ y.type.identity := by decide
  refine ⟨x, y, birth, other, kept_first, kept_second, kept_copy, found, found_copy, found_second,
    few, rfl, by decide, mt (identities few).mpr apart, ?_⟩
  have interchange := alike SampleData.members (.statement {} "select Name from Customers")
    (.statement ⟨true⟩ "SELECT ,[Name] FROM [Customers]") last (last + 1)
    (first.trans second.symm)
  rw [Origin.compile, Origin.compile, Origin.parsed, Origin.parsed, first, second] at interchange
  cases interchange with
  | succeeded each => exact each

end Projection
