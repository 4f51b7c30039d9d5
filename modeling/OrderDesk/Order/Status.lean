import OrderDesk.Failure

/-! The states of an order and of its payment, and the legal ways between the states. -/

namespace OrderDesk

inductive OrderStatus
  | pending
  | pendingPayment
  | paid
  | paymentFailed
  | cancelled
  | partiallyRefunded
  | refunded
  /-- a state that the desk does not know and never enters -/
  | other (text : String)
  deriving DecidableEq, Repr

namespace OrderStatus

def text : OrderStatus → String
  | pending => "pending"
  | pendingPayment => "pending_payment"
  | paid => "paid"
  | paymentFailed => "payment_failed"
  | cancelled => "cancelled"
  | partiallyRefunded => "partially_refunded"
  | refunded => "refunded"
  | other text => text

def ofText (text : String) : OrderStatus :=
  match text with
  | "pending" => pending
  | "pending_payment" => pendingPayment
  | "paid" => paid
  | "payment_failed" => paymentFailed
  | "cancelled" => cancelled
  | "partially_refunded" => partiallyRefunded
  | "refunded" => refunded
  | _ => other text

/-- The states that an order may move to. The way from paid to cancelled is for free orders; who
takes it has looked at the amount. -/
def successors : OrderStatus → List OrderStatus
  | pending => [paid, cancelled]
  | pendingPayment => [paid, paymentFailed, cancelled]
  | paid => [partiallyRefunded, refunded, cancelled]
  | partiallyRefunded => [refunded]
  | refunded => [cancelled]
  | paymentFailed => [cancelled]
  | cancelled | other _ => []

def canMove (current target : OrderStatus) : Bool :=
  target ∈ current.successors

theorem text_ofText (word : String) : (ofText word).text = word := by
  unfold ofText
  split <;> rfl

end OrderStatus

inductive PaymentMethod
  | balance
  | external
  | manual
  | other (text : String)
  deriving DecidableEq, Repr

namespace PaymentMethod

def text : PaymentMethod → String
  | balance => "balance"
  | external => "external"
  | manual => "manual"
  | other text => text

def ofText (text : String) : PaymentMethod :=
  match text with
  | "balance" => balance
  | "external" => external
  | "manual" => manual
  | _ => other text

theorem text_ofText (word : String) : (ofText word).text = word := by
  unfold ofText
  split <;> rfl

end PaymentMethod

inductive PaymentStatus
  | pending
  | succeeded
  | failed
  | other (text : String)
  deriving DecidableEq, Repr

namespace PaymentStatus

def text : PaymentStatus → String
  | pending => "pending"
  | succeeded => "succeeded"
  | failed => "failed"
  | other text => text

def ofText (text : String) : PaymentStatus :=
  match text with
  | "pending" => pending
  | "succeeded" => succeeded
  | "failed" => failed
  | _ => other text

theorem text_ofText (word : String) : (ofText word).text = word := by
  unfold ofText
  split <;> rfl

end PaymentStatus

/-! ## Moves and the times of them -/

/-- The state of an order with the times at which it was reached. -/
structure Progress (Time : Type) where
  status : OrderStatus
  paidAt : Option Time := none
  cancelledAt : Option Time := none
  refundedAt : Option Time := none
  updatedAt : Option Time := none
  deriving DecidableEq, Repr

namespace Progress

variable {Time : Type}

def stamped (progress : Progress Time) (moment : Time) : OrderStatus → Progress Time
  | .paid => { progress with paidAt := some moment }
  | .cancelled => { progress with cancelledAt := some moment }
  | .partiallyRefunded | .refunded => { progress with refundedAt := some moment }
  | _ => progress

/-- Moves to another state, if that is legal. A stamp replaces the present time as the moment of
entry, such as the time of a payment that a gateway reports. -/
def move (progress : Progress Time) (target : OrderStatus) (now : Time)
    (stamp : Option Time := none) : Except Refusal (Progress Time) :=
  if progress.status.canMove target then
    .ok { progress.stamped (stamp.getD now) target with status := target, updatedAt := some now }
  else .error (.illegalTransition progress.status.text target.text)

end Progress

end OrderDesk
