import Projection.Proofs.Execution
import Projection.Session

/-! A session is its history. Pasts are lists of steps, the latest first. What a name stands for is
fixed by the step that gave it, with the members described before that step, and what is stored in a
place is the effect of the changes of that place. Running a query reads both and alters neither. -/

set_option autoImplicit false

namespace Projection

/-- What compiling fixes: the columns and the table source, and from which entity type they come. -/
structure Frozen where
  query : Query
  source : String
  fields : List Field
  deriving DecidableEq

def CompiledQuery.frozen (compiled : CompiledQuery) : Frozen :=
  ⟨compiled.query, compiled.type.source, compiled.type.fields⟩

def Query.freeze (query : Query) (members : List Member) : Except QueryError Frozen :=
  (Member.collection members query.tableSource).bind fun entity =>
    (query.columns.mapM entity.resolve).map fun fields => ⟨query, entity.name, fields⟩

def Element.select (columns : List String) (element : Element) : List (String × Json) :=
  columns.filterMap fun column => (element column).map fun value => (column, value)

def Frozen.project (frozen : Frozen) : Option (List StoredRow) →
    Except QueryError (List (List (String × Json)))
  | none => .error (.unknownTableSource frozen.query.tableSource)
  | some rows =>
    let elements := rows.map StoredRow.toElement
    match elements.findSome? (·.lacks? frozen.query.columns) with
    | some column => .error (.unknownField column frozen.source)
    | none => .ok (elements.map (·.select frozen.query.columns))

theorem select_of_shows {record : Record} {columns : List String} {element : Element}
    (shows : record.Shows columns element) : record.entries = element.select columns := by
  have picked := congrArg (List.filterMap fun entry : String × Option Json =>
    entry.2.map fun value => (entry.1, value)) shows
  simpa [List.filterMap_map, Function.comp_def, Element.select] using picked

theorem entries_of_forall₂ {type : RecordType} {elements : List Element} {records : List Record}
    (each : List.Forall₂ (fun element record => type.project element = .ok record) elements records) :
    records.map Record.entries = elements.map (·.select type.names) := by
  induction each with
  | nil => rfl
  | cons first _ ih => simp [select_of_shows (shows_of_project first), ih]

theorem entries_collect (compiled : CompiledQuery) (elements : List Element) :
    (Rows.collect ⟨compiled.type, elements⟩).map (List.map Record.entries) =
      match elements.findSome? (·.lacks? compiled.query.columns) with
      | some column => .error (.unknownField column compiled.type.source)
      | none => .ok (elements.map (·.select compiled.query.columns)) := by
  have failed := failure?_collect compiled.type elements
  rw [compiled.names_type] at failed
  cases gap : elements.findSome? (·.lacks? compiled.query.columns) with
  | some column =>
    rw [gap] at failed
    rw [failure?_eq_some_iff.mp failed]
    rfl
  | none =>
    rw [gap] at failed
    obtain ⟨records, collected⟩ := failure?_eq_none_iff.mp failed
    have selected := entries_of_forall₂ (forall₂_of_mapM collected)
    rw [collected, Except.map, selected, compiled.names_type]

theorem entries_executeAll (compiled : CompiledQuery) (store : Store) :
    (compiled.executeAll store.toContext).map (List.map Record.entries) =
      compiled.frozen.project (store compiled.query.tableSource) := by
  unfold CompiledQuery.executeAll CompiledQuery.execute Store.toContext
  cases stored : store compiled.query.tableSource with
  | none =>
    simp only [stored]
    rfl
  | some rows =>
    simp only [stored]
    exact entries_collect compiled _

theorem frozen_compile (query : Query) (members : List Member) (identity : UInt64) :
    (query.compile members identity).map CompiledQuery.frozen = query.freeze members := by
  unfold Query.compile Query.freeze
  cases Member.collection members query.tableSource with
  | error error => rfl
  | ok entity =>
    -- the type that is made has the resolved fields, whatever its identity
    have fields : (RecordType.synthesize identity query.columns entity).map (fun type =>
        Frozen.mk query type.source type.fields) =
          (query.columns.mapM entity.resolve).map fun fields => ⟨query, entity.name, fields⟩ := by
      unfold RecordType.synthesize
      cases query.columns.mapM entity.resolve <;> rfl
    simp only [Except.bind, ← fields]
    split
    · next failed =>
      simp only [failed]
      rfl
    · next made =>
      simp only [made]
      rfl

def Change.effect (rows : Option (List StoredRow)) : Change → Option (List StoredRow)
  | push row => some (rows.getD [] ++ [row])
  | insert index row => some ((rows.getD []).take index ++ row :: (rows.getD []).drop index)
  | remove index => some ((rows.getD []).eraseIdx index)
  | replace rows => some rows
  | drop => none

theorem Change.apply_eq (store : Store) (member other : String) (change : Change) :
    change.apply store member other =
      if other = member then change.effect (store member) else store other := by
  cases change <;> rfl

namespace Step

def target? : Step → Option String
  | compile name _ _ | compileParts name _ _ | clone _ name => some name
  | _ => none

def Reads : Step → Prop
  | compareTypes _ _ | execute _ _ | render _ _ _ | iterate _ _ _ | compareRows _ _ _ _ => True
  | _ => False

end Step

def membersAt (start : Session) : List Step → List Member
  | [] => start.members
  | .describe members :: _ => members
  | _ :: past => membersAt start past

def rowsAt (start : Session) (context member : String) : List Step → Option (List StoredRow)
  | [] => start.contexts context member
  | .change changed place change :: past =>
    if changed = context ∧ place = member then change.effect (rowsAt start context member past)
    else rowsAt start context member past
  | _ :: past => rowsAt start context member past

/-- What a name stands for. A compilation that fails leaves it with what it had. -/
def queryAt (start : Session) : List Step → String → Option Frozen
  | [], name => (start.queries name).map CompiledQuery.frozen
  | .compile target keywords text :: past, name =>
    if target = name then
      ((Query.ofText keywords text).bind (·.freeze (membersAt start past))).toOption.or
        (queryAt start past name)
    else queryAt start past name
  | .compileParts target columns tableSource :: past, name =>
    if target = name then
      ((Query.ofParts columns tableSource).bind (·.freeze (membersAt start past))).toOption.or
        (queryAt start past name)
    else queryAt start past name
  | .clone source copy :: past, name =>
    if copy = name then (queryAt start past source).or (queryAt start past name)
    else queryAt start past name
  | _ :: past, name => queryAt start past name

/-- A session is what its past makes of it. -/
structure Recalls (start : Session) (past : List Step) (session : Session) : Prop where
  members : session.members = membersAt start past
  rows (context member : String) :
    session.contexts context member = rowsAt start context member past
  queries (name : String) : (session.queries name).map CompiledQuery.frozen = queryAt start past name

namespace Session

theorem store_queries (session : Session) (name other : String)
    (result : Except QueryError CompiledQuery) :
    (session.store name result).2.queries other =
      if name = other then result.toOption.or (session.queries other) else session.queries other := by
  cases result with
  | error error => simp [store, Except.toOption]
  | ok compiled => simp [store, keep, Except.toOption, eq_comm (a := name)]

theorem store_members (session : Session) (name : String) (result : Except QueryError CompiledQuery) :
    (session.store name result).2.members = session.members := by
  cases result <;> rfl

theorem store_contexts (session : Session) (name : String)
    (result : Except QueryError CompiledQuery) :
    (session.store name result).2.contexts = session.contexts := by
  cases result <;> rfl

theorem step_of_reads {step : Step} (reads : step.Reads) (session : Session) :
    (session.step step).2 = session := by
  cases step with
  | compareTypes _ _ | execute _ _ | render _ _ _ | compareRows _ _ _ _ => rfl
  | iterate names order context =>
    simp only [Session.step]
    split <;> rfl
  | compile _ _ _ | compileParts _ _ _ | clone _ _ | change _ _ _ | describe _ => cases reads

variable {start session : Session} {past : List Step}

theorem toOption_compile (parsed : Except QueryError Query) (members : List Member) (identity : UInt64) :
    (parsed.bind (·.compile members identity)).toOption.map CompiledQuery.frozen =
      (parsed.bind (·.freeze members)).toOption := by
  cases parsed with
  | error error => rfl
  | ok query =>
    simp only [Except.bind]
    rw [← frozen_compile query members identity]
    cases query.compile members identity <;> rfl

theorem recalls_store (recalls : Recalls start past session) {step : Step} {name : String}
    {parsed : Except QueryError Query} (members : membersAt start (step :: past) = membersAt start past)
    (rows : ∀ context member, rowsAt start context member (step :: past) =
      rowsAt start context member past)
    (queries : ∀ other, queryAt start (step :: past) other =
      if name = other then
        (parsed.bind (·.freeze (membersAt start past))).toOption.or (queryAt start past other)
      else queryAt start past other) :
    Recalls start (step :: past)
      (session.store name (parsed.bind (·.compile session.members session.nextIdentity))).2 := by
  refine ⟨?_, fun context member => ?_, fun other => ?_⟩
  · rw [store_members, members, recalls.members]
  · rw [store_contexts, rows, recalls.rows]
  · rw [store_queries, queries, ← recalls.queries, ← recalls.members, ← toOption_compile]
    split
    · exact Option.map_or
    · rfl

theorem recalls_step (recalls : Recalls start past session) (step : Step) :
    Recalls start (step :: past) (session.step step).2 := by
  have kept : step.Reads → (session.step step).2 = session :=
    fun reads => step_of_reads reads session
  cases step with
  | compile name keywords statement =>
    exact recalls_store recalls rfl (fun _ _ => rfl) fun _ => rfl
  | compileParts name columns tableSource =>
    exact recalls_store recalls rfl (fun _ _ => rfl) fun _ => rfl
  | clone name copy =>
    have cloned := recalls.queries name
    cases found : session.queries name with
    | none =>
      rw [found] at cloned
      simp only [Session.step, found]
      refine ⟨recalls.members, recalls.rows, fun other => ?_⟩
      simp [queryAt, ← cloned, recalls.queries]
    | some compiled =>
      rw [found] at cloned
      simp only [Session.step, found]
      refine ⟨recalls.members, recalls.rows, fun other => ?_⟩
      simp only [keep, queryAt, ← cloned, ← recalls.queries other, eq_comm (a := copy)]
      split <;> simp
  | change context member change =>
    refine ⟨recalls.members, fun other place => ?_, recalls.queries⟩
    simp only [Session.step, setContext, rowsAt]
    by_cases here : context = other
    · subst here
      simp only [if_true, Change.apply_eq, recalls.rows, true_and, eq_comm (a := place)]
      split
      · next same => rw [same]
      · rfl
    · simp [here, Ne.symm here, recalls.rows]
  | describe members => exact ⟨rfl, recalls.rows, recalls.queries⟩
  | compareTypes _ _ | execute _ _ | render _ _ _ | iterate _ _ _ | compareRows _ _ _ _ =>
    rw [kept trivial]
    exact ⟨recalls.members, recalls.rows, recalls.queries⟩

theorem recalls_run (recalls : Recalls start past session) (steps : List Step) :
    Recalls start (steps.reverse ++ past) (session.run steps).2 := by
  induction steps generalizing session past with
  | nil => exact recalls
  | cons first steps ih =>
    -- the latest step comes first, so the past grows at its front
    rw [List.reverse_cons, List.append_assoc]
    exact ih (recalls_step recalls first)

end Session

def Answer.shown : Answer → Option (Except QueryError (List (List (String × Json))))
  | rows _ records => some (.ok (records.map Record.entries))
  | failed error => some (.error error)
  | _ => none

def Answer.printed : Answer → Option (Except QueryError String)
  | text output => some (.ok output)
  | failed error => some (.error error)
  | _ => none

namespace Session

theorem shown_execute (session : Session) (name place : String) :
    (session.step (.execute name place)).1.shown =
      ((session.queries name).map CompiledQuery.frozen).map fun frozen =>
        frozen.project (session.contexts place frozen.query.tableSource) := by
  simp only [step, withQuery]
  cases session.queries name with
  | none => rfl
  | some compiled =>
    simp only [Option.map_some]
    rw [show compiled.frozen.query = compiled.query from rfl, ← entries_executeAll, context]
    cases compiled.executeAll (session.contexts place).toContext <;> rfl

theorem render_eq (compiled : CompiledQuery) (context : Context) (style : Json.Style) :
    (compiled.execute context).bind (Rows.render style) =
      ((compiled.executeAll context).map (List.map Record.entries)).map fun records =>
        (Json.array (records.map .object)).render style := by
  unfold CompiledQuery.executeAll
  cases compiled.execute context with
  | error error => rfl
  | ok rows =>
    simp only [Except.bind, Rows.render]
    cases rows.collect with
    | error error => rfl
    | ok records =>
      have written : records.map Record.written = (records.map Record.entries).map .object := by
        simp [Record.written]
      simp only [Except.map, Record.listToJson, written]

theorem printed_render (session : Session) (name place : String) (style : Json.Style) :
    (session.step (.render name place style)).1.printed =
      ((session.queries name).map CompiledQuery.frozen).map fun frozen =>
        (frozen.project (session.contexts place frozen.query.tableSource)).map fun records =>
          (Json.array (records.map .object)).render style := by
  simp only [step, withQuery]
  cases session.queries name with
  | none => rfl
  | some compiled =>
    simp only [Option.map_some]
    rw [show compiled.frozen.query = compiled.query from rfl, ← entries_executeAll, ← render_eq,
      context]
    cases (compiled.execute (session.contexts place).toContext).bind (Rows.render style) <;> rfl

end Session

structure Spares (session : Session) (step : Step) : Prop where
  queries (name : String) : step.target? ≠ some name →
    (session.step step).2.queries name = session.queries name
  rows : (∀ context member change, step ≠ .change context member change) →
    (session.step step).2.contexts = session.contexts
  refused (error : QueryError) : (session.step step).1 = .failed error →
    (session.step step).2 = session
  reading : step.Reads → (session.step step).2 = session

namespace Session

theorem store_failed {session : Session} {name : String} {result : Except QueryError CompiledQuery}
    {error : QueryError} (failed : (session.store name result).1 = .failed error) :
    (session.store name result).2 = session := by
  cases result with
  | error _ => rfl
  | ok _ => cases failed

theorem spares_step (session : Session) (step : Step) : Spares session step := by
  by_cases reads : step.Reads
  · have kept := step_of_reads reads session
    exact ⟨fun _ _ => by rw [kept], fun _ => by rw [kept], fun _ _ => kept, fun _ => kept⟩
  · refine ⟨fun name other => ?_, fun unchanged => ?_, fun error failed => ?_,
      fun now => absurd now reads⟩
    · cases step with
      | compile target _ _ | compileParts target _ _ =>
        rw [Session.step, store_queries, if_neg (by simpa [Step.target?] using other)]
      | clone source copy =>
        have apart : ¬name = copy := by simpa [Step.target?, eq_comm] using other
        simp only [Session.step]
        cases session.queries source <;> simp [keep, apart]
      | change _ _ _ | describe _ => rfl
      | _ => exact absurd trivial reads
    · cases step with
      | compile _ _ _ | compileParts _ _ _ => exact store_contexts _ _ _
      | clone source copy =>
        simp only [Session.step]
        cases session.queries source <;> rfl
      | change context member change => exact absurd rfl (unchanged context member change)
      | describe _ => rfl
      | _ => exact absurd trivial reads
    · cases step with
      | compile _ _ _ | compileParts _ _ _ => exact store_failed failed
      | clone source copy =>
        simp only [Session.step] at failed
        cases found : session.queries source <;> simp [found] at failed
      | change _ _ _ | describe _ => cases failed
      | _ => exact absurd trivial reads

theorem queryAt_append (start : Session) {name : String} {later : List Step}
    (other : ∀ step ∈ later, step.target? ≠ some name) (past : List Step) :
    queryAt start (later ++ past) name = queryAt start past name := by
  induction later with
  | nil => rfl
  | cons step later ih =>
    have behind := ih fun step member => other step (List.mem_cons_of_mem _ member)
    have apart := other step List.mem_cons_self
    cases step <;> simp_all [queryAt, Step.target?]

theorem rowsAt_append (start : Session) {context member : String} {later : List Step}
    (elsewhere : ∀ change, .change context member change ∉ later) (past : List Step) :
    rowsAt start context member (later ++ past) = rowsAt start context member past := by
  induction later with
  | nil => rfl
  | cons step later ih =>
    have behind := ih fun change inside => elsewhere change (List.mem_cons_of_mem _ inside)
    cases step with
    | change changed place change =>
      have apart : ¬(changed = context ∧ place = member) := by
        rintro ⟨rfl, rfl⟩
        exact elsewhere change List.mem_cons_self
      rw [List.cons_append, rowsAt, if_neg apart, behind]
    | _ => exact behind

/-- Whatever has happened in a session, a query gives what was fixed when it was compiled over the
rows that its own context and member have now, run by its name or kept elsewhere. -/
theorem run_freezes_queries (start : Session) (steps : List Step) :
    let session := (start.run steps).2
    let past := steps.reverse
    Recalls start past session ∧
    (∀ name place, (session.step (.execute name place)).1.shown =
      (queryAt start past name).map fun frozen =>
        frozen.project (rowsAt start place frozen.query.tableSource past)) ∧
    (∀ name place style, (session.step (.render name place style)).1.printed =
      (queryAt start past name).map fun frozen =>
        (frozen.project (rowsAt start place frozen.query.tableSource past)).map fun records =>
          (Json.array (records.map .object)).render style) ∧
    (∀ (compiled : CompiledQuery) place,
      (compiled.executeAll (session.context place)).map (List.map Record.entries) =
        compiled.frozen.project (rowsAt start place compiled.query.tableSource past)) ∧
    (∀ later name, (∀ step ∈ later, step.target? ≠ some name) →
      queryAt start (later ++ past) name = queryAt start past name) ∧
    (∀ later place member, (∀ change, .change place member change ∉ later) →
      rowsAt start place member (later ++ past) = rowsAt start place member past) ∧
    ∀ step, Spares session step := by
  intro session past
  have recalls : Recalls start past session := by
    have fresh : Recalls start [] start := ⟨rfl, fun _ _ => rfl, fun _ => rfl⟩
    simpa using recalls_run fresh steps
  refine ⟨recalls, fun name place => ?_, fun name place style => ?_, fun compiled place => ?_,
    fun _ _ other => queryAt_append start other past,
    fun _ _ _ elsewhere => rowsAt_append start elsewhere past, spares_step session⟩
  · rw [shown_execute, recalls.queries]
    simp only [recalls.rows]
  · rw [printed_render, recalls.queries]
    simp only [recalls.rows]
  · rw [Session.context, entries_executeAll, recalls.rows]

end Session

end Projection
