import Projection.Layout

set_option autoImplicit false

namespace Projection

def Layout.customer : Layout :=
  { name := "Customer"
    columns := [⟨"Name", .text⟩, ⟨"Age", .unsigned 32⟩] }

def Layout.order : Layout :=
  { name := "Order"
    columns := [⟨"Id", .unsigned 64⟩, ⟨"Customer", .text⟩, ⟨"Total", .double⟩,
      ⟨"Shipped On", .optional .text⟩] }

structure SampleData where
  customers : List Layout.customer.Row
  orders : List Layout.order.Row
  company : String

namespace SampleData

def demo : SampleData where
  customers := [("Joe", ⟨28, by decide⟩, ()), ("Fred", ⟨28, by decide⟩, ())]
  orders := [(⟨1, by decide⟩, "Joe", Decimal.toFloating false ⟨125, -1⟩, none, ())]
  company := "Gadgetry"

def members : List Member :=
  [⟨"Customers", .collection Layout.customer.entityType⟩,
    ⟨"Orders", .collection Layout.order.entityType⟩,
    ⟨"Company", .scalar .string⟩]

def toContext (data : SampleData) : Context where
  scan name :=
    if name = "Customers" then some (data.customers.map Layout.customer.element)
    else if name = "Orders" then some (data.orders.map Layout.order.element)
    else none

def slots : List Json.Slot :=
  [⟨"Customers", List Layout.customer.Row, Json.takeListOf Layout.customer.read, some []⟩,
    ⟨"Orders", List Layout.order.Row, Json.takeListOf Layout.order.read, some []⟩,
    ⟨"Company", String, Json.takeString, some ""⟩]

def read : Json.Reader SampleData :=
  (Json.takeRecord slots).map fun (customers, orders, company, _) => ⟨customers, orders, company⟩

def ofText (text : String) : Except Json.Fault SampleData := Json.readAll read text

end SampleData

end Projection
