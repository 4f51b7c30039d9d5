import OrderDesk.Desk.Service
import OrderDesk.Order.Detail

/-!
The results that a payment gateway reports. The first result for an order wins; a repeated delivery
changes nothing but late details of the payment. No wallet is touched.
-/

namespace OrderDesk

structure PaymentResult where
  orderId : Option Int := none
  paymentId : Option Int := none
  status : Option String := none
  reference : Option String := none
  failureCode : Option String := none
  failureMessage : Option String := none
  paidAt : Option Int := none
  deriving DecidableEq, Repr

inductive Outcome
  | succeeded
  | failed
  deriving DecidableEq, Repr

namespace Outcome

def paymentStatus : Outcome → PaymentStatus
  | succeeded => .succeeded
  | failed => .failed

def orderStatus : Outcome → OrderStatus
  | succeeded => .paid
  | failed => .paymentFailed

def ofText? : String → Option Outcome
  | "succeeded" => some succeeded
  | "failed" => some failed
  | _ => none

end Outcome

/-- A reported result that has been checked as far as it can be without the order. -/
structure Report where
  orderId : Int
  paymentId : Int
  outcome : Outcome
  reference : String
  failureCode : String
  failureMessage : String
  reportedAt : Option Instant
  deriving DecidableEq, Repr

namespace PaymentResult

def reportedAt (result : PaymentResult) : Except Fault (Option Instant) :=
  match result.paidAt with
  | some seconds => if 0 < seconds then (Instant.ofUnix seconds).map some else .ok none
  | none => .ok none

def report (result : PaymentResult) : Except Failure Report := do
  let orderId := result.orderId.getD 0
  let paymentId := result.paymentId.getD 0
  if orderId = 0 ∨ paymentId = 0 then throw (.refused .callbackIdsRequired)
  let some outcome := Outcome.ofText? (Text.keyword result.status)
    | throw (.refused (.unsupportedPaymentStatus result.status))
  return {
    orderId, paymentId, outcome
    reference := Text.trim? result.reference
    failureCode := Text.trim? result.failureCode
    failureMessage := Text.trim? result.failureMessage
    reportedAt := ← Failure.breaking result.reportedAt }

end PaymentResult

namespace Report

/-- Whether the order is already where the result takes it. -/
def isReplay (report : Report) (order : Order) : Bool :=
  order.status == report.outcome.orderStatus &&
    order.paymentStatus == report.outcome.paymentStatus

/-- The payment with the result: its state changes once, details are replaced when they are
given. -/
def applyToPayment (report : Report) (payment : OrderPayment) (now : Instant) : OrderPayment :=
  let payment := if payment.status = report.outcome.paymentStatus then payment
    else { payment with
      status := report.outcome.paymentStatus
      processedAt := some (report.reportedAt.getD now)
      updatedAt := now }
  { payment with
    reference := (Text.nonEmpty? report.reference).or payment.reference
    failureCode := (Text.nonEmpty? report.failureCode).or payment.failureCode
    failureMessage := (Text.nonEmpty? report.failureMessage).or payment.failureMessage }

def applyToOrder (report : Report) (order : Order) (now : Instant) : Except Refusal Order := do
  match report.outcome with
  | .succeeded =>
    let order ← order.move .paid now (report.reportedAt.getD now)
    return { order with
      paymentReference := (Text.nonEmpty? report.reference).or order.paymentReference
      paymentStatus := .succeeded }
  | .failed =>
    let order ← order.move .paymentFailed now
    return { order with
      paymentFailureCode := Text.nonEmpty? report.failureCode
      paymentFailureMessage := Text.nonEmpty? report.failureMessage
      paymentStatus := .failed }

def apply (report : Report) : Work Order := do
  let order ← Work.order report.orderId
  let some payment := (← Work.paymentsOf order.id).find? (·.id == report.paymentId)
    | Work.refuse .paymentNotFound
  let replay := report.isReplay order
  if !replay ∧ order.status ≠ .pendingPayment then
    Work.refuse (.cannotAcceptCallback order.status.text report.outcome.paymentStatus.text)
  let now ← Work.now
  Work.savePayment (report.applyToPayment payment now)
  if replay then return order
  let order ← Work.lift (report.applyToOrder order now)
  Work.saveOrder order
  return order

end Report

namespace Orders

def countCallback : Service Order → Service Order :=
  Service.sampled fun result =>
    Metrics.observePayment PaymentMethod.external.text (some "callback")
      (Service.resultWord result) Service.elapsed

def receiveResult (result : PaymentResult) : Service AdminOrderDetail := do
  let order ← countCallback do
    let report ← Service.lift result.report
    Service.transaction report.apply
  Service.query (Work.adminDetail order)

end Orders

end OrderDesk
