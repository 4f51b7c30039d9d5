import OrderDesk.Order.Cancel
import OrderDesk.Wallet.Movement

/-! Settling a pending order by hand, with or without a charge to its owner's wallet. -/

namespace OrderDesk

structure PaidNotice where
  paymentMethod : Option String := none
  paidAt : Option Int := none
  note : Option String := none
  reference : Option String := none
  chargeBalance : Bool := false
  deriving DecidableEq, Repr

namespace PaidNotice

def methodText (notice : PaidNotice) : String :=
  Text.orElse (Text.keyword notice.paymentMethod) PaymentMethod.manual.text

def method (notice : PaidNotice) : Except Refusal PaymentMethod :=
  match PaymentMethod.ofText notice.methodText with
  | .other _ => .error (.unsupportedPaymentMethod notice.methodText)
  | .balance => if notice.chargeBalance then .ok .balance else .error .chargeRequired
  | method => .ok method

end PaidNotice

namespace Orders

def ledgerReference (order : Order) : String :=
  "order:" ++ order.number

def remarked (description remark : String) : String :=
  if remark = "" then description else description ++ " (" ++ remark ++ ")"

def ledgerNote (order : Order) (adminId : Int) (reference : String) : Fields :=
  [("order_id", .int order.id), ("order_number", .text order.number),
    ("admin_id", .int adminId)] ++
    (if reference = "" then [] else [("reference", .text reference)])

def settlementCharge (order : Order) (adminId : Int) (notice : PaidNotice) : Movement where
  kind := some MovementKind.purchase.text
  amountCents := -order.outstandingCents
  currency := some order.currency
  reference := some (ledgerReference order)
  description := some (remarked ("Order payment " ++ order.number) (Text.trim? notice.note))
  metadata := ledgerNote order adminId (Text.trim? notice.reference)

def adminTag (adminId : Int) : String :=
  "admin:" ++ toString adminId

def settlementNote (adminId : Int) (notice : PaidNotice) (now : Instant) : Fields := [
  ("payment_marked_at", .text now.isoText),
  ("payment_marked_by", .text (adminTag adminId)),
  ("payment_note", .text (Text.trim? notice.note)),
  ("payment_reference", .text (Text.trim? notice.reference))]

/-- Charges what is outstanding, if that is asked for, and says how the order has been paid. -/
def chargeOutstanding (order : Order) (adminId : Int) (method : PaymentMethod)
    (notice : PaidNotice) : Work PaymentMethod := do
  if notice.chargeBalance ∧ 0 < order.outstandingCents then
    let _ ← Wallet.post order.userId (settlementCharge order adminId notice)
    return .balance
  return method

def settle (adminId orderId : Int) (method : PaymentMethod) (notice : PaidNotice) :
    Work Order := do
  let order ← Work.order orderId
  if order.status ≠ .pending then Work.refuse (.cannotMarkPaid order.status.text)
  let now ← Work.now
  let paidAt ← Work.liftFault (Work.timeOr now notice.paidAt)
  let method ← chargeOutstanding order adminId method notice
  let order ← Work.lift (order.move .paid now paidAt)
  let order := { order with paymentMethod := method, paymentStatus := .succeeded }
  let order := order.noteMetadata (settlementNote adminId notice now)
  Work.saveOrder order
  return order

/-- A success counts under the method by which the order has been paid in the end. -/
def countSettlement (notice : PaidNotice) : Service Order → Service Order :=
  Service.sampled fun result =>
    let method := (result.map (·.paymentMethod.text)).getD notice.methodText
    Metrics.observePayment method (some "admin") (Service.resultWord result) Service.elapsed

def markPaid (actor : Option User) (orderId : Int) (notice : PaidNotice) :
    Service AdminOrderDetail := do
  let order ← countSettlement notice do
    let user ← Service.lift (admin actor)
    let method ← Service.lift (Failure.refusing notice.method)
    Service.transaction (settle user.id orderId method notice)
  Service.query (Work.adminDetail order)

end Orders

end OrderDesk
