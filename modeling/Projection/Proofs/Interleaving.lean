import Projection.Proofs.Execution
import Projection.Session

/-! Several queries that run over one context at the same time. Each counts its own advances only,
so the others can neither delay its rows nor take them away; a row that fails is a row like any
other, and the rows still to come are those not yet asked for. -/

set_option autoImplicit false

namespace Projection

namespace Rows

def skip (rows : Rows) (advances : Nat) : Rows := { rows with pending := rows.pending.drop advances }

def turn (rows : Rows) (advances : Nat) : Turn where
  row := rows.pending[advances]?.map rows.type.project
  left := (rows.skip (advances + 1)).sizeHint

theorem next_eq (rows : Rows) :
    rows.next = (rows.pending[0]?.map rows.type.project, rows.skip 1) := by
  obtain ⟨type, pending⟩ := rows
  cases pending <;> rfl

theorem turn_skip (rows : Rows) (done advances : Nat) :
    (rows.skip done).turn advances = rows.turn (done + advances) := by
  simp [turn, skip, Nat.add_assoc]

end Rows

/-- The turns of one of the running queries, out of those of an order. -/
def turnsOf {count : Nat} (index : Fin count) (order : List (Fin count)) (turns : List Turn) :
    List Turn :=
  ((order.zip turns).filter (·.1 = index)).map Prod.snd

section TurnsOf

variable {count : Nat} {index other : Fin count} {order : List (Fin count)} {turn : Turn}
  {turns : List Turn}

theorem turnsOf_cons_self :
    turnsOf index (index :: order) (turn :: turns) = turn :: turnsOf index order turns := by
  simp [turnsOf]

theorem turnsOf_cons_of_ne (apart : other ≠ index) :
    turnsOf index (other :: order) (turn :: turns) = turnsOf index order turns := by
  simp [turnsOf, apart]

end TurnsOf

namespace Rows

theorem map_turn_range_succ (rows : Rows) (advances : Nat) :
    (List.range (advances + 1)).map rows.turn =
      rows.turn 0 :: (List.range advances).map (rows.skip 1).turn := by
  rw [List.range_succ_eq_map, List.map_cons, List.map_map]
  congr 2
  funext done
  rw [turn_skip, Nat.add_comm]
  rfl

theorem countP_turns (rows : Rows) (advances : Nat) :
    ((List.range advances).map rows.turn).countP (·.row.isSome) =
      min advances rows.pending.length := by
  induction advances with
  | zero => simp
  | succ advances ih =>
    rw [List.range_succ, List.map_append, List.countP_append, ih]
    by_cases within : advances < rows.pending.length
    · simp [turn, within]
      omega
    · simp [turn, within]
      omega

end Rows

namespace Session

theorem advance_cons {running : List Rows} {index : Nat} {rows : Rows}
    (found : running[index]? = some rows) (order : List Nat) :
    advance running (index :: order) =
      rows.turn 0 :: advance (running.set index (rows.skip 1)) order := by
  simp only [advance, found, Rows.next_eq]
  rfl

theorem advance_alone (rows : Rows) (advances : Nat) :
    advance [rows] (List.replicate advances 0) = (List.range advances).map rows.turn := by
  induction advances generalizing rows with
  | zero => rfl
  | succ advances ih =>
    have first : [rows][0]? = some rows := rfl
    rw [List.replicate_succ, advance_cons first, rows.map_turn_range_succ, ← ih]
    rfl

variable {count : Nat} {running : List Rows}

theorem length_advance (length : running.length = count) (order : List (Fin count)) :
    (advance running (order.map Fin.val)).length = order.length := by
  induction order generalizing running with
  | nil => rfl
  | cons first order ih =>
    have found := List.getElem?_eq_getElem (length ▸ first.isLt : first.val < running.length)
    rw [List.map_cons, advance_cons found, List.length_cons, List.length_cons,
      ih (by rw [List.length_set, length])]

theorem turnsOf_advance (length : running.length = count) {index : Fin count} {rows : Rows}
    (found : running[index.val]? = some rows) (order : List (Fin count)) :
    turnsOf index order (advance running (order.map Fin.val)) =
      (List.range (order.count index)).map rows.turn := by
  -- the rows that have been advanced are put back as what they have left
  induction order generalizing running rows with
  | nil => rfl
  | cons first order ih =>
    by_cases same : first = index
    · subst same
      have left : (running.set first.val (rows.skip 1))[first.val]? = some (rows.skip 1) := by
        rw [List.getElem?_set_self (length ▸ first.isLt)]
      rw [List.map_cons, advance_cons found, turnsOf_cons_self, List.count_cons_self,
        rows.map_turn_range_succ, ih (by rw [List.length_set, length]) left]
    · have front := List.getElem?_eq_getElem (length ▸ first.isLt : first.val < running.length)
      have left : (running.set first.val (running[first.val].skip 1))[index.val]? = some rows := by
        rw [List.getElem?_set_ne (mt Fin.ext same), found]
      rw [List.map_cons, advance_cons front, turnsOf_cons_of_ne same, List.count_cons_of_ne same,
        ih (by rw [List.length_set, length]) left]

end Session

section Family

variable {context : Context}

theorem getElem?_of_opened {family : List CompiledQuery} {running : List Rows}
    (opened : family.mapM (·.execute context) = .ok running) (index : Fin family.length) :
    ∃ rows, running[index.val]? = some rows ∧ family[index].execute context = .ok rows := by
  have within : index.val < running.length := by rw [length_of_mapM opened]; exact index.isLt
  refine ⟨running[index.val], List.getElem?_eq_getElem within, ?_⟩
  exact (forall₂_of_mapM opened).get index.isLt within

theorem shows_or_lacks (compiled : CompiledQuery) (element : Element) :
    (∃ record, compiled.type.project element = .ok record ∧
        record.Shows compiled.query.columns element) ∨
      ∃ column, element.lacks? compiled.query.columns = some column ∧
        compiled.type.project element = .error (.unknownField column compiled.type.source) := by
  have failed := failure?_project compiled.type element
  rw [compiled.names_type] at failed
  cases gap : element.lacks? compiled.query.columns with
  | none =>
    rw [gap] at failed
    obtain ⟨record, projected⟩ := failure?_eq_none_iff.mp failed
    exact .inl ⟨record, projected, compiled.names_type ▸ shows_of_project projected⟩
  | some column =>
    rw [gap] at failed
    exact .inr ⟨column, rfl, failure?_eq_some_iff.mp failed⟩

/-- In whatever order running queries are advanced, each gives the rows of its own elements one
after the other, as if it ran alone, and then the end, and has left what it has not yet given. -/
theorem advances_are_independent (context : Context) (family : List CompiledQuery)
    (running : List Rows) (opened : family.mapM (·.execute context) = .ok running)
    (order : List (Fin family.length)) :
    let turns := Session.advance running (order.map Fin.val)
    turns.length = order.length ∧
    ∀ index : Fin family.length,
      ∃ elements, context.scan family[index].query.tableSource = some elements ∧
        let type := family[index].type
        (running[index.val]?.map Rows.sizeHint = some ⟨elements.length, elements.length⟩) ∧
        (turnsOf index order turns = (List.range (order.count index)).map fun done =>
          ⟨elements[done]?.map type.project,
            ⟨elements.length - (done + 1), elements.length - (done + 1)⟩⟩) ∧
        (turnsOf index order turns =
          Session.advance [⟨type, elements⟩] (List.replicate (order.count index) 0)) ∧
        ((turnsOf index order turns).countP (·.row.isSome) =
          min (order.count index) elements.length) ∧
        ∀ element ∈ elements,
          (∃ record, type.project element = .ok record ∧
              record.Shows family[index].query.columns element) ∨
            ∃ column, element.lacks? family[index].query.columns = some column ∧
              type.project element = .error (.unknownField column type.source) := by
  intro turns
  have length := length_of_mapM opened
  refine ⟨Session.length_advance length order, fun index => ?_⟩
  obtain ⟨rows, found, executed⟩ := getElem?_of_opened opened index
  obtain ⟨elements, scanned, rfl⟩ := exists_scan_of_execute executed
  have given : turnsOf index order turns = _ := Session.turnsOf_advance length found order
  refine ⟨elements, scanned, ?_, ?_, ?_, ?_, fun element _ => shows_or_lacks family[index] element⟩
  · rw [found]
    rfl
  · rw [given]
    refine List.map_congr_left fun done _ => ?_
    simp only [Rows.turn, Rows.skip, Rows.sizeHint, List.length_drop]
  · rw [given, Session.advance_alone]
  · rw [given, Rows.countP_turns]

theorem advances_are_independent_nameless :
    ∃ (names ages : CompiledQuery) (context : Context) (running : List Rows),
      (Origin.statement {} "select Name from Customers").compile SampleData.members 1 = .ok names ∧
      (Origin.statement {} "select Age from Customers").compile SampleData.members 2 = .ok ages ∧
      [names, ages].mapM (·.execute context) = .ok running ∧
      (turnsOf (0 : Fin 2) [0, 1, 0, 0] (Session.advance running [0, 1, 0, 0])).map
          (fun turn => (turn.row.map failure?, turn.left)) =
        [(some (some (.unknownField "Name" "Customer")), ⟨1, 1⟩), (some none, ⟨0, 0⟩),
          (none, ⟨0, 0⟩)] := by
  have first : Query.ofText {} "select Name from Customers" =
      .ok ⟨["Name"], "Customers", by decide⟩ := by decide +kernel
  have second : Query.ofText {} "select Age from Customers" =
      .ok ⟨["Age"], "Customers", by decide⟩ := by decide +kernel
  let names : CompiledQuery :=
    ⟨⟨["Name"], "Customers", by decide⟩, ⟨1, "Customer", [⟨"Name", .string⟩]⟩, rfl⟩
  let ages : CompiledQuery :=
    ⟨⟨["Age"], "Customers", by decide⟩, ⟨2, "Customer", [⟨"Age", .integer⟩]⟩, rfl⟩
  let customers : List Element :=
    [fun name => if name = "Age" then some (.bool true) else none, fun _ => some .null]
  obtain ⟨_, each⟩ := advances_are_independent ⟨fun _ => some customers⟩ [names, ages]
    [⟨names.type, customers⟩, ⟨ages.type, customers⟩] rfl [0, 1, 0, 0]
  obtain ⟨elements, scanned, _, given, _⟩ := each 0
  cases scanned
  refine ⟨names, ages, ⟨fun _ => some customers⟩, _, ?_, ?_, rfl,
    (congrArg (List.map _) given).trans rfl⟩
  · rw [Origin.compile, Origin.parsed, first]
    rfl
  · rw [Origin.compile, Origin.parsed, second]
    rfl

end Family

end Projection
