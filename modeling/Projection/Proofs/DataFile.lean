import Projection.Mode
import Projection.Proofs.Agreement
import Projection.Proofs.Number.Reach
import Projection.Proofs.OrderText

set_option autoImplicit false

namespace Projection

/-- A text that is read as a value, wherever it stands. -/
structure Json.Written {α : Type} (reader : Json.Reader α) where
  text : List Char
  value : α
  reads : reader.Reads text value

namespace Json

variable {α : Type} {reader : Reader α}

def memberEntry (name : String) (member : Option (Written reader)) : List (String × List Char) :=
  member.toList.map fun written => (name, written.text)

theorem fst_of_mem_memberEntry {name : String} {member : Option (Written reader)}
    {entry : String × List Char} (found : entry ∈ memberEntry name member) : entry.1 = name := by
  obtain ⟨written, _, rfl⟩ := List.mem_map.mp found
  rfl

theorem Draft.Fills.member {slot : Slot} {slots : List Slot} {entries : List (String × List Char)}
    {draft : Draft slots} (fills : Fills slots entries draft)
    (fresh : ∀ entry ∈ entries, entry.1 ≠ slot.name) (member : Option (Written slot.read)) :
    Fills (slot :: slots) (memberEntry slot.name member ++ entries)
      (member.map Written.value, draft) := by
  cases member with
  | none => exact fills.absent fresh
  | some written => exact fills.given fresh written.reads

end Json

structure DataFile where
  style : Json.Style
  customers : Option (Json.Written (Json.takeListOf Layout.customer.read))
  orders : Option (Json.Written (Json.takeListOf Layout.order.read))
  company : Option (Json.Written Json.takeString)
  entries : List (String × List Char)
  members : (Json.memberEntry "Customers" customers ++
    (Json.memberEntry "Orders" orders ++ Json.memberEntry "Company" company)).Perm entries

namespace DataFile

def text (file : DataFile) : String := String.ofList (file.style.object 0 file.entries)

def contents (file : DataFile) : SampleData where
  customers := (file.customers.map Json.Written.value).getD []
  orders := (file.orders.map Json.Written.value).getD []
  company := (file.company.map Json.Written.value).getD ""

theorem reads_contents (file : DataFile) :
    SampleData.read.Reads (file.style.object 0 file.entries) file.contents := by
  have no_entries : Json.Draft.Fills [] [] () := by simp [Json.Draft.Fills]
  have fills : Json.Draft.Fills SampleData.slots
      (Json.memberEntry "Customers" file.customers ++ (Json.memberEntry "Orders" file.orders ++
        (Json.memberEntry "Company" file.company ++ [])))
      (file.customers.map Json.Written.value, file.orders.map Json.Written.value,
        file.company.map Json.Written.value, ()) := by
    apply Json.Draft.Fills.member
    · apply Json.Draft.Fills.member
      · apply Json.Draft.Fills.member
        · exact no_entries
        · simp
      · intro entry member
        rw [List.append_nil] at member
        rw [Json.fst_of_mem_memberEntry member]
        decide
    · intro entry member
      rw [List.append_nil] at member
      rcases List.mem_append.mp member with member | member
      · rw [Json.fst_of_mem_memberEntry member]
        decide
      · rw [Json.fst_of_mem_memberEntry member]
        decide
  rw [List.append_nil] at fills
  have complete : Json.Draft.fill? SampleData.slots (file.customers.map Json.Written.value,
      file.orders.map Json.Written.value, file.company.map Json.Written.value, ()) =
        some (file.contents.customers, file.contents.orders, file.contents.company, ()) := by
    cases customers : file.customers <;> cases orders : file.orders <;>
      cases company : file.company <;> simp [contents, customers, orders, company] <;> rfl
  exact (Json.reads_takeRecord (fills.perm file.members) complete file.style 0).map _

theorem ofText_text (file : DataFile) : SampleData.ofText file.text = .ok file.contents :=
  Json.readAll_of_reads file.reads_contents String.toList_ofList

theorem load_eq {files : Files} {config : Config} {path : Path} (file : DataFile)
    (configured : config.data = some path) (stored : files path = some (.file file.text.toUTF8)) :
    SampleData.load files config = .ok file.contents := by
  have decoded : String.fromUTF8? file.text.toUTF8 = some file.text := dif_pos file.text.isValidUTF8
  have found : files.text? path = some file.text := by
    rw [Files.text?, Files.bytes?, stored]
    exact decoded
  simp only [SampleData.load, configured, found, file.ofText_text]
  rfl

end DataFile

theorem Mode.run_execute {files : Files} {config : Config} {statement : String} {query : Query}
    {compiled : CompiledQuery} {data : SampleData} {elements : List Element}
    (parsed : Query.ofText config.keywords statement = .ok query)
    (made : query.compile SampleData.members 0 = .ok compiled)
    (loaded : SampleData.load files config = .ok data)
    (scanned : data.toContext.scan query.tableSource = some elements) :
    run files config statement .execute =
      .ok ((Json.array (elements.map fun element =>
        .object (element.select query.columns))).render config.style) := by
  obtain ⟨rfl, _⟩ := bound_of_compile made
  have originates : (Origin.query compiled.query).compile SampleData.members 0 = .ok compiled := made
  obtain ⟨_, _, _, _, rows, records, started, _, each, collected⟩ :=
    runsThrough_of_agrees data.agrees originates
  have typed : rows = ⟨compiled.type, elements⟩ := by
    rw [execute_of_scan scanned] at started
    exact (Except.ok.inj started).symm
  subst typed
  rw [CompiledQuery.executeAll, started] at collected
  have selected := entries_of_forall₂ each
  rw [compiled.names_type] at selected
  have printed : Rows.render config.style ⟨compiled.type, elements⟩ =
      .ok ((Record.listToJson records).render config.style) := by
    rw [Rows.render, show Rows.collect ⟨compiled.type, elements⟩ = .ok records from collected]
    rfl
  have listed : Record.listToJson records = Json.array (elements.map fun element =>
      .object (element.select compiled.query.columns)) := by
    have objects := congrArg (List.map Json.object) selected
    rw [List.map_map, List.map_map] at objects
    exact congrArg Json.array objects
  rw [← listed]
  simp only [run, Mode.executed, parsed, made, loaded, started, printed, bind, Except.bind,
    Except.mapError]

namespace DataFile

theorem exact_customer : ∀ column ∈ Layout.customer.columns, column.kind.Exact := by
  simp [Layout.customer, Kind.Exact, Kind.unsigned]

def writtenCustomers (style : Json.Style) (customers : List Layout.customer.Row) :
    Json.Written (Json.takeListOf Layout.customer.read) where
  text := Json.write style 1 (.array (customers.map Layout.customer.toJson))
  value := customers
  reads := Layout.reads_rows (by decide) exact_customer customers style 1

/-- Orders as they are written, with any number that the reader accepts as their totals. -/
def writtenOrders (style : Json.Style) (orders : List OrderEntry) :
    Json.Written (Json.takeListOf Layout.order.read) where
  text := style.list 1 (orders.map fun order => style.object 2 order.entries)
  value := orders.map OrderEntry.row
  reads := OrderEntry.reads_rows orders style 1

section Selections

variable {files : Files} {config : Config} (file : DataFile)

theorem selects_customers (loaded : SampleData.load files config = .ok file.contents)
    {customers : List Layout.customer.Row}
    (given : file.customers = some (writtenCustomers file.style customers)) :
    Mode.run files config "SELECT Name, Age FROM Customers" .execute =
      .ok ((Json.array (customers.map Layout.customer.toJson)).render config.style) := by
  have parsed : Query.ofText config.keywords "SELECT Name, Age FROM Customers" =
      .ok ⟨["Name", "Age"], "Customers", by decide⟩ := by
    cases sensitive : config.caseSensitive <;> rw [Config.keywords, sensitive] <;> decide +kernel
  have scanned : file.contents.toContext.scan "Customers" =
      some (customers.map Layout.customer.element) := by
    simp only [SampleData.toContext, contents, given]
    rfl
  have objects : (customers.map Layout.customer.element).map (fun element =>
      Json.object (element.select ["Name", "Age"])) = customers.map Layout.customer.toJson := by
    rw [List.map_map]
    refine List.map_congr_left fun row _ => congrArg Json.object ?_
    exact @Cells.select_eq_entries Layout.customer.columns (by decide) row
  rw [Mode.run_execute parsed rfl loaded scanned, objects]

theorem selects_orders (loaded : SampleData.load files config = .ok file.contents)
    {orders : List OrderEntry} (given : file.orders = some (writtenOrders file.style orders)) :
    Mode.run files config "SELECT Id, Customer, [Shipped On] FROM Orders" .execute =
      .ok ((Json.array (orders.map OrderEntry.shown)).render config.style) := by
  have parsed : Query.ofText config.keywords "SELECT Id, Customer, [Shipped On] FROM Orders" =
      .ok ⟨["Id", "Customer", "Shipped On"], "Orders", by decide⟩ := by
    cases sensitive : config.caseSensitive <;> rw [Config.keywords, sensitive] <;> decide +kernel
  have scanned : file.contents.toContext.scan "Orders" =
      some ((orders.map OrderEntry.row).map Layout.order.element) := by
    simp only [SampleData.toContext, contents, given]
    rfl
  have objects : ((orders.map OrderEntry.row).map Layout.order.element).map (fun element =>
      Json.object (element.select ["Id", "Customer", "Shipped On"])) =
        orders.map OrderEntry.shown := by
    rw [List.map_map, List.map_map]
    exact List.map_congr_left fun order _ => order.select_row
  rw [Mode.run_execute parsed rfl loaded scanned, objects]

end Selections

/-- Customers and orders come back as they stand in the file. Every number up to a few units below
the largest double can be a total. -/
theorem data_comes_back {files : Files} {config : Config} {path : Path} (file : DataFile)
    (configured : config.data = some path) (compact : config.pretty = false)
    (stored : files path = some (.file file.text.toUTF8)) :
    (∀ customers : List Layout.customer.Row,
      file.customers = some (writtenCustomers file.style customers) →
        Mode.run files config "SELECT Name, Age FROM Customers" .execute =
          .ok ((Json.array (customers.map Layout.customer.toJson)).render .compact)) ∧
    (∀ orders : List OrderEntry, file.orders = some (writtenOrders file.style orders) →
      Mode.run files config "SELECT Id, Customer, [Shipped On] FROM Orders" .execute =
        .ok ((Json.array (orders.map OrderEntry.shown)).render .compact)) ∧
    ∀ figure : Json.Figure, figure.numeral.magnitude.le Json.Numeral.reach = true →
      ∃ amount, figure.numeral.toNumber? = some amount := by
  have loaded := file.load_eq configured stored
  have style : config.style = .compact := by simp [Config.style, compact]
  refine ⟨fun customers given => ?_, fun orders given => ?_, fun figure reached => ?_⟩
  · rw [file.selects_customers loaded given, style]
  · rw [file.selects_orders loaded given, style]
  · exact Option.isSome_iff_exists.mp (Json.Numeral.isSome_toNumber? reached)

def sample : DataFile where
  style := .compact
  customers := some (writtenCustomers .compact [("Joe", ⟨41, by decide⟩, ())])
  orders := some (writtenOrders .compact [
    { id := ⟨7, by decide⟩
      customer := "Ann"
      total :=
        { negative := true
          whole := ⟨['1'], by decide, by decide⟩
          leads := by decide
          fraction := some ⟨['2', '5'], by decide, by decide⟩
          power := some ⟨false, .none, ⟨['1'], by decide, by decide⟩⟩ }
      amount := .float ⟨true, 7036874417766400, -49⟩
      counts := by decide +kernel
      shipping := .absent }])
  company := none
  entries := _
  members := List.perm_append_comm

theorem data_comes_back_sample :
    sample.text = "\x7b\"Orders\":[\x7b\"Id\":7,\"Customer\":\"Ann\",\"Total\":-1.25e1\x7d],\"Customers\":[\x7b\"Name\":\"Joe\",\"Age\":41\x7d]\x7d" ∧
    Mode.run (fun _ => some (.file sample.text.toUTF8)) { data := some "data.json" }
        "SELECT Name, Age FROM Customers" .execute =
      .ok "[\x7b\"Name\":\"Joe\",\"Age\":41\x7d]" ∧
    Mode.run (fun _ => some (.file sample.text.toUTF8)) { data := some "data.json" }
        "SELECT Id, Customer, [Shipped On] FROM Orders" .execute =
      .ok "[\x7b\"Id\":7,\"Customer\":\"Ann\",\"Shipped On\":null\x7d]" ∧
    ∃ amount, (Json.Figure.ofInt (-12)).numeral.toNumber? = some amount := by
  obtain ⟨customers, orders, totals⟩ := @data_comes_back
    (fun _ => some (.file sample.text.toUTF8)) { data := some "data.json" } "data.json" sample
    rfl rfl rfl
  refine ⟨by decide +kernel, (customers _ rfl).trans ?_, (orders _ rfl).trans ?_, totals _ ?_⟩
  · decide +kernel
  · decide +kernel
  · decide +kernel

/-- This total is less than the largest double, but the second rounding takes it beyond. -/
def refused : Json.Figure where
  negative := false
  whole := ⟨"1797693134862315708".toList, by decide, by decide⟩
  leads := by decide
  fraction := none
  power := some ⟨false, .none, ⟨"290".toList, by decide, by decide⟩⟩

theorem total_in_range_refused :
    refused.numeral.magnitude.lt (Double.magnitude ⟨false, Nat.pow 2 53 - 1, 971⟩) = true ∧
    Mode.run (fun _ => some (.file (String.ofList (Json.Style.compact.object 0
        [("Customers", "[]".toList),
          ("Orders", Json.Style.compact.list 1 [Json.Style.compact.object 2
            [("Id", "1".toList), ("Customer", Json.Quoted.write "Joe"), ("Total", refused.text),
              ("Shipped On", "null".toList)]]),
          ("Company", Json.Quoted.write "")])).toUTF8)) { data := some "d.json" }
      "SELECT Id, Customer, [Shipped On] FROM Orders" .execute = .error (.data .malformed) := by
  decide +kernel

end DataFile

end Projection
