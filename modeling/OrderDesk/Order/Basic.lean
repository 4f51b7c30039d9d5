import OrderDesk.Json.Value
import OrderDesk.Order.Status
import OrderDesk.Time.Instant

/-! Orders and the rows that belong to them. -/

namespace OrderDesk

structure Order extends Progress Instant where
  id : Int
  number : String
  userId : Int
  planId : Option Int := none
  paymentMethod : PaymentMethod
  paymentStatus : PaymentStatus
  totalCents : Int
  refundedCents : Int := 0
  currency : String
  paymentIntentId : Option String := none
  paymentReference : Option String := none
  paymentFailureCode : Option String := none
  paymentFailureMessage : Option String := none
  metadata : Option Fields
  planSnapshot : Fields := []
  createdAt : Instant
  deriving Repr

/-- A line of an order; the subtotal is the quantity times the unit price. -/
structure OrderItem where
  id : Int
  orderId : Int
  itemType : String
  itemId : Int
  name : String
  quantity : Int
  unitPriceCents : Int
  currency : String
  subtotalCents : Int
  metadata : Fields
  createdAt : Instant
  deriving Repr

structure OrderRefund where
  id : Int
  orderId : Int
  amountCents : Int
  reason : Option String
  reference : Option String
  metadata : Fields
  createdAt : Instant
  deriving Repr

structure OrderPayment where
  id : Int
  orderId : Int
  provider : Option String
  method : String
  intentId : Option String
  reference : Option String := none
  status : PaymentStatus
  amountCents : Int
  currency : String
  failureCode : Option String := none
  failureMessage : Option String := none
  metadata : Option Fields
  processedAt : Option Instant := none
  createdAt : Instant
  updatedAt : Instant
  deriving Repr

namespace Order

def move (order : Order) (target : OrderStatus) (now : Instant) (stamp : Option Instant := none) :
    Except Refusal Order := do
  let progress ← order.toProgress.move target now stamp
  return { order with toProgress := progress }

def outstandingCents (order : Order) : Int :=
  order.totalCents - order.refundedCents

/-- Merges values into metadata, leaving out those that are null or an empty text. -/
def mergeMetadata (metadata : Option Fields) (values : Fields) : Fields :=
  (metadata.getD []).putAll <| values.filter fun (_, value) =>
    match value with
    | .null => false
    | .text text => text != ""
    | _ => true

def noteMetadata (order : Order) (values : Fields) : Order :=
  { order with metadata := some (mergeMetadata order.metadata values) }

end Order

/-! ## Order numbers -/

namespace OrderNumber

/-- The value after `last`: the clock reading in nanoseconds, unless that has been reached. -/
def next (last reading : Int) : Int :=
  max reading (last + 1)

def text (value : Int) : String :=
  "ORD-" ++ toString value

def values (last : Int) : List Int → List Int
  | [] => []
  | reading :: rest => next last reading :: values (next last reading) rest

theorem lt_next (last reading : Int) : last < next last reading := by
  unfold next
  omega

end OrderNumber

end OrderDesk
