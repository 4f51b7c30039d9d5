import OrderDesk.Desk.Service
import OrderDesk.Order.Detail

/-!
Cancelling orders. Users cancel what has not been paid and what was free; administrators also
cancel what a gateway was to collect. What has been paid must be refunded first.
-/

namespace OrderDesk.Orders

def admin (actor : Option User) : Except Failure User := do
  let some user := actor | throw (.refused .adminRequired)
  if !(← Failure.breaking user.isAdmin) then throw (.refused .adminRequired)
  return user

def cancelNote (author : String) (reason : Option String) (moment : Instant) : Fields := [
  ("cancelled_by", .text author),
  ("cancel_reason", .text (Text.trim? reason)),
  ("cancelled_at", .text moment.isoText)]

def isFreePaid (order : Order) : Bool :=
  order.status == .paid && order.totalCents == 0

/-- An order that is cancelled already stays as it is. -/
def cancelOwn (caller : Option User) (orderId : Int) (reason : Option String) : Work Order := do
  let order ← Work.order orderId
  let some user := caller | Work.breakOff .absent
  if order.userId ≠ user.id then Work.refuse .foreignOrder
  if order.status = .cancelled then return order
  if order.status ≠ .pending ∧ !isFreePaid order then
    Work.refuse (.cannotCancel order.status.text)
  let now ← Work.now
  let order ← Work.lift (order.move .cancelled now)
  let order := order.noteMetadata (cancelNote "user" reason now)
  Work.saveOrder order
  return order

def cancelAny (email : String) (orderId : Int) (reason : Option String)
    (cancelledAt : Option Int) : Work Order := do
  let order ← Work.order orderId
  if order.status = .cancelled then return order
  if order.status = .paid ∧ order.refundedCents < order.totalCents then
    Work.refuse .refundBeforeCancel
  let now ← Work.now
  let stamp ← Work.liftFault (Work.timeOr now cancelledAt)
  let order ← Work.lift (order.move .cancelled now stamp)
  let order := order.noteMetadata (cancelNote email reason stamp)
  Work.saveOrder order
  return order

def countCancel {α : Type} (actor : String) : Service α → Service α :=
  Service.sampled fun result =>
    Metrics.observeCancel actor (Service.resultWord result) Service.elapsed

def cancel (caller : Option User) (orderId : Int) (reason : Option String) : Service Receipt := do
  let order ← countCancel "user" (Service.transaction (cancelOwn caller orderId reason))
  Service.query (Work.receipt order)

def cancelAsAdmin (actor : Option User) (orderId : Int) (reason : Option String)
    (cancelledAt : Option Int) : Service AdminOrderDetail := do
  let order ← countCancel "admin" do
    let user ← Service.lift (admin actor)
    Service.transaction (cancelAny user.email orderId reason cancelledAt)
  Service.query (Work.adminDetail order)

end OrderDesk.Orders
