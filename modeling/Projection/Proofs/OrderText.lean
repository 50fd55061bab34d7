import Projection.Proofs.RowText
import Projection.SampleData

set_option autoImplicit false

namespace Projection

inductive Shipping where
  | absent
  | null
  | on (day : String)

namespace Shipping

def entries : Shipping → List (String × List Char)
  | absent => []
  | null => [("Shipped On", "null".toList)]
  | on day => [("Shipped On", Json.Quoted.write day)]

def day? : Shipping → Option String
  | absent | null => none
  | on day => some day

def toJson : Shipping → Json
  | absent | null => .null
  | on day => .string day

end Shipping

structure OrderEntry where
  id : (Kind.unsigned 64).Carrier
  customer : String
  total : Json.Figure
  amount : Json.Number
  counts : total.numeral.toNumber? = some amount
  shipping : Shipping

namespace OrderEntry

def entries (order : OrderEntry) : List (String × List Char) :=
  ("Id", Digits.ofInt order.id.val) :: ("Customer", Json.Quoted.write order.customer) ::
    ("Total", order.total.text) :: order.shipping.entries

def row (order : OrderEntry) : Layout.order.Row :=
  (order.id, order.customer, .finite order.amount.toDouble, order.shipping.day?, ())

def shown (order : OrderEntry) : Json :=
  .object [("Id", .number (.integer order.id.val)), ("Customer", .string order.customer),
    ("Shipped On", order.shipping.toJson)]

theorem select_row (order : OrderEntry) :
    Json.object ((Layout.order.element order.row).select ["Id", "Customer", "Shipped On"]) =
      order.shown := by
  obtain ⟨id, customer, total, amount, counts, shipping⟩ := order
  cases shipping <;> rfl

theorem texts_entries (order : OrderEntry) :
    Cells.Texts Layout.order.columns order.entries order.row := by
  have shipping : Cells.Texts [⟨"Shipped On", .optional .text⟩] order.shipping.entries
      (order.shipping.day?, ()) := by
    cases order.shipping with
    | absent => exact .absent rfl .nil
    | null => exact .given (Json.reads_none Json.takeString) .nil
    | on day =>
      have quoted : (Json.Quoted.write day).head? ≠ some 'n' := by simp [Json.Quoted.write]
      exact .given (Json.reads_some (Json.reads_string day) quoted) .nil
  have id := Json.reads_takeInteger (by decide) (by decide) order.id
  have customer := Json.reads_string order.customer
  have total := (order.total.reads_takeDouble order.counts).map Floating.finite
  exact .given id (.given customer (.given total shipping))

theorem reads_row (order : OrderEntry) (style : Json.Style) (level : Nat) :
    Layout.order.read.Reads (style.object level order.entries) order.row :=
  Layout.reads_texts (by decide) order.texts_entries style level

theorem reads_rows (orders : List OrderEntry) (style : Json.Style) (level : Nat) :
    (Json.takeListOf Layout.order.read).Reads
      (style.list level (orders.map fun order => style.object (level + 1) order.entries))
      (orders.map row) := by
  apply Json.reads_list
  rw [List.forall₂_map_left_iff, List.forall₂_map_right_iff, List.forall₂_same]
  exact fun order _ => order.reads_row style (level + 1)

end OrderEntry

end Projection
