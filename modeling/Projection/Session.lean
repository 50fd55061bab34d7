import Projection.Description

/-! A session compiles queries, keeps them by name and runs them over contexts whose rows change
between the runs. A compiled query keeps the type it was given, whatever happens to the members
later, and reads the rows that are stored when it runs. -/

set_option autoImplicit false

namespace Projection

abbrev StoredRow := List (String × Json)

def StoredRow.toElement (row : StoredRow) : Element := fun name => Json.find? name row

def Store := String → Option (List StoredRow)

namespace Store

def empty : Store := fun _ => none

def put (store : Store) (name : String) (rows : Option (List StoredRow)) : Store :=
  fun other => if other = name then rows else store other

def rows (store : Store) (name : String) : List StoredRow := (store name).getD []

def toContext (store : Store) : Context where
  scan name := (store name).map fun rows => rows.map StoredRow.toElement

end Store

inductive Change where
  | push (row : StoredRow)
  /-- An index beyond the end is the end. -/
  | insert (index : Nat) (row : StoredRow)
  | remove (index : Nat)
  | replace (rows : List StoredRow)
  | drop

def Change.apply (store : Store) (member : String) : Change → Store
  | push row => store.put member (some (store.rows member ++ [row]))
  | insert index row =>
    store.put member (some ((store.rows member).take index ++ row :: (store.rows member).drop index))
  | remove index => store.put member (some ((store.rows member).eraseIdx index))
  | replace rows => store.put member (some rows)
  | drop => store.put member none

structure Session where
  members : List Member
  contexts : String → Store
  queries : String → Option CompiledQuery
  /-- The identity of the next result type. After the last number comes zero. -/
  nextIdentity : UInt64

inductive Step where
  | compile (query : String) (keywords : KeywordRule) (statement : String)
  | compileParts (query : String) (columns : List String) (tableSource : String)
  | clone (query copy : String)
  | compareTypes (a b : String)
  | execute (query context : String)
  | render (query context : String) (style : Json.Style)
  /-- Runs several queries at once and takes their next rows in the given order. -/
  | iterate (queries : List String) (order : List Nat) (context : String)
  | compareRows (a aContext b bContext : String)
  | change (context member : String) (change : Change)
  | describe (members : List Member)

structure Turn where
  row : Option (Except QueryError Record)
  left : SizeHint

inductive Answer where
  | failed (error : QueryError)
  | unknownQuery (name : String)
  | compiled (compiled : CompiledQuery)
  | types (sameIdentity sameFields sameQuery : Bool)
  | rows (type : RecordType) (records : List Record)
  | text (output : String)
  | turns (opened : List SizeHint) (turns : List Turn)
  | comparison (equal : Bool) (pairs : List Bool)
  | changed
  | described (members : List Member)

namespace Session

/-- Result types may have been made before the session. -/
def countingFrom (nextIdentity : UInt64) (members : List Member) : Session :=
  { members, contexts := fun _ => .empty, queries := fun _ => none, nextIdentity }

def ofMembers (members : List Member) : Session := countingFrom 1 members

def keep (session : Session) (name : String) (compiled : CompiledQuery) : Session :=
  { session with
    queries := fun other => if other = name then some compiled else session.queries other }

def setContext (session : Session) (name : String) (store : Store) : Session :=
  { session with
    contexts := fun other => if other = name then store else session.contexts other }

def context (session : Session) (name : String) : Context := (session.contexts name).toContext

def store (session : Session) (name : String) (result : Except QueryError CompiledQuery) :
    Answer × Session :=
  match result with
  | .error error => (.failed error, session)
  | .ok compiled =>
    (.compiled compiled, { session.keep name compiled with nextIdentity := session.nextIdentity + 1 })

def withQuery (session : Session) (name : String) (answer : CompiledQuery → Answer) : Answer :=
  match session.queries name with
  | none => .unknownQuery name
  | some compiled => answer compiled

def answerOf {α : Type} (answer : α → Answer) : Except QueryError α → Answer
  | .error error => .failed error
  | .ok value => answer value

def advance : List Rows → List Nat → List Turn
  | _, [] => []
  | running, index :: order =>
    match running[index]? with
    | none => advance running order
    | some rows =>
      let (row, rest) := rows.next
      ⟨row, rest.sizeHint⟩ :: advance (running.set index rest) order

/-- Starts the named queries; the first that cannot be started is the answer. -/
def open? (session : Session) (context : Context) : List String → Except Answer (List Rows)
  | [] => .ok []
  | name :: names =>
    match session.queries name with
    | none => .error (.unknownQuery name)
    | some compiled =>
      match compiled.execute context with
      | .error error => .error (.failed error)
      | .ok rows => (open? session context names).map (rows :: ·)

def pairs (a b : List Record) : List Bool := List.zipWith Record.same a b

def compareRows (a b : List Record) : Answer :=
  .comparison (a.length == b.length && (pairs a b).all id) (pairs a b)

def step (session : Session) : Step → Answer × Session
  | .compile name keywords statement =>
    session.store name
      ((Query.ofText keywords statement).bind (·.compile session.members session.nextIdentity))
  | .compileParts name columns tableSource =>
    session.store name
      ((Query.ofParts columns tableSource).bind (·.compile session.members session.nextIdentity))
  | .clone name copy =>
    match session.queries name with
    | none => (.unknownQuery name, session)
    | some compiled => (.compiled compiled, session.keep copy compiled)
  | .compareTypes a b =>
    (session.withQuery a fun a => session.withQuery b fun b =>
      .types (a.type.identity == b.type.identity) (a.type.sameFields b.type) (a.query == b.query),
      session)
  | .execute name context =>
    (session.withQuery name fun compiled =>
      answerOf (.rows compiled.type) (compiled.executeAll (session.context context)), session)
  | .render name context style =>
    (session.withQuery name fun compiled =>
      answerOf .text ((compiled.execute (session.context context)).bind (Rows.render style)), session)
  | .iterate names order context =>
    match session.open? (session.context context) names with
    | .error answer => (answer, session)
    | .ok running => (.turns (running.map Rows.sizeHint) (advance running order), session)
  | .compareRows a aContext b bContext =>
    (session.withQuery a fun a => session.withQuery b fun b =>
      answerOf id ((a.executeAll (session.context aContext)).bind fun aRows =>
        (b.executeAll (session.context bContext)).map (compareRows aRows)), session)
  | .change context member change =>
    (.changed, session.setContext context (change.apply (session.contexts context) member))
  | .describe members => (.described members, { session with members })

def run (session : Session) : List Step → List Answer × Session
  | [] => ([], session)
  | first :: steps =>
    let (answer, session) := session.step first
    let (answers, session) := session.run steps
    (answer :: answers, session)

end Session

end Projection
