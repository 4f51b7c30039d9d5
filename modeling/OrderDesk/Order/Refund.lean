import OrderDesk.Order.Settle

/-!
Refunding orders that a wallet has paid for, in one part or several. The refund that reaches the
total closes the order.
-/

namespace OrderDesk

structure RefundRequest where
  amountCents : Int
  reason : Option String := none
  reference : Option String := none
  metadata : Fields := []
  deriving Repr

namespace Orders

def checkRefund (order : Order) (amount : Int) : Except Refusal Unit :=
  if order.status ≠ .paid ∧ order.status ≠ .partiallyRefunded then
    .error (.cannotRefund order.status.text)
  else if order.totalCents ≤ 0 then .error .freeOrderRefund
  else if order.paymentMethod ≠ .balance then .error .refundNotBalancePaid
  else if order.outstandingCents ≤ 0 ∨ order.outstandingCents < amount then
    .error .refundExceedsRemainder
  else .ok ()

def refundCredit (order : Order) (adminId : Int) (request : RefundRequest) : Movement where
  kind := some MovementKind.refund.text
  amountCents := request.amountCents
  currency := some order.currency
  reference := some (ledgerReference order)
  description := some (remarked ("Order refund " ++ order.number) (Text.trim? request.reason))
  metadata := ledgerNote order adminId (Text.trim? request.reference)

def given (text : Option String) : Option String :=
  Text.nonEmpty? (Text.trim? text)

def refundRow (order : Order) (adminId : Int) (request : RefundRequest) (entry : LedgerEntry)
    (id : Int) : OrderRefund where
  id := id
  orderId := order.id
  amountCents := request.amountCents
  reason := given request.reason
  reference := given request.reference
  metadata := (request.metadata.put "admin_id" (.int adminId)).put "balance_transaction_id"
    (.int entry.id)
  createdAt := entry.createdAt

def refundNote (adminId : Int) (request : RefundRequest) (entry : LedgerEntry) : Fields := [
  ("last_refund_amount", .int request.amountCents),
  ("last_refund_tx_id", .int entry.id),
  ("last_refund_by", .text (adminTag adminId)),
  ("last_refund_at", .text entry.createdAt.isoText),
  ("last_refund_reason", .text (Text.trim? request.reason)),
  ("last_refund_reference", .text (Text.trim? request.reference))]

def completionNote (email : String) (now : Instant) : Fields := [
  ("cancel_reason", .text "refund_completed"),
  ("cancelled_by", .text email),
  ("cancelled_at", .text now.isoText)]

def afterRefund (order : Order) (email : String) (now refundedAt : Instant) :
    Except Refusal Order :=
  if order.refundedCents < order.totalCents then
    if order.status = .partiallyRefunded then .ok order
    else order.move .partiallyRefunded now refundedAt
  else do
    let order ← order.move .refunded now refundedAt
    let order ← order.move .cancelled now
    return order.noteMetadata (completionNote email now)

def refundPart (user : User) (orderId : Int) (request : RefundRequest) : Work Order := do
  let order ← Work.order orderId
  Work.lift (checkRefund order request.amountCents)
  let (entry, _) ← Wallet.postRefund order.userId (refundCredit order user.id request)
  let _ ← Work.insertRefund (refundRow order user.id request entry)
  let now ← Work.now
  let order := { order with
    refundedCents := order.refundedCents + request.amountCents
    refundedAt := some entry.createdAt
    updatedAt := some now }
  let order := order.noteMetadata (refundNote user.id request entry)
  let order ← Work.lift (afterRefund order user.email now entry.createdAt)
  Work.saveOrder order
  return order

/-- Every attempt is counted with the amount it asks for. An amount beyond every double cannot be
counted, which is then the failure that the caller sees. -/
def countRefund (request : RefundRequest) : Service Order → Service Order :=
  Service.sampled fun result =>
    Metrics.observeRefund (some "admin") (.ok request.amountCents) (Service.resultWord result)
      Service.elapsed

def refund (actor : Option User) (orderId : Int) (request : RefundRequest) :
    Service AdminOrderDetail := do
  let order ← countRefund request do
    let user ← Service.lift (admin actor)
    if request.amountCents ≤ 0 then Service.refuse .amountNotPositive
    Service.transaction (refundPart user orderId request)
  Service.query (Work.adminDetail order)

end Orders

end OrderDesk
