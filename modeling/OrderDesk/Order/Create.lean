import OrderDesk.Desk.Service
import OrderDesk.Order.Detail
import OrderDesk.Wallet.Movement

/-!
Making orders. A key that the user has used before answers with the order it is bound to, whatever
else the request says. A new order is settled in one of three ways: it is free, the wallet pays for
it, or a gateway is to collect it. If two requests race with one key, the later one loses its whole
transaction and answers with the order of the earlier one.
-/

namespace OrderDesk

structure OrderRequest where
  planId : Option Int
  quantity : Option Int := none
  paymentMethod : Option String := none
  paymentChannel : Option String := none
  paymentReturnUrl : Option String := none
  idempotencyKey : Option String := none
  deriving DecidableEq, Repr

/-- What a request comes to once it has been checked. -/
structure Purchase where
  plan : Plan
  method : PaymentMethod
  quantity : Int
  channel : String
  returnUrl : String
  key : String
  deriving Repr

namespace OrderRequest

def endpoint : String := "orders.create"

/-- Without a method the wallet pays. -/
def methodText (request : OrderRequest) : String :=
  Text.orElse (Text.keyword request.paymentMethod) PaymentMethod.balance.text

def method (request : OrderRequest) : Except Refusal PaymentMethod :=
  match PaymentMethod.ofText request.methodText with
  | .balance => .ok .balance
  | .external => .ok .external
  | _ => .error (.unsupportedPaymentMethod request.methodText)

def key (request : OrderRequest) : String :=
  Text.trim? request.idempotencyKey

end OrderRequest

namespace Purchase

def totalCents (purchase : Purchase) : Int :=
  purchase.plan.priceCents * purchase.quantity

def isExternal (purchase : Purchase) : Bool :=
  purchase.method == .external && 0 < purchase.totalCents

/-- The currency of the plan, or else that of the user's wallet. -/
def currency (purchase : Purchase) (settings : Settings) (balance : Balance) : String :=
  Text.orElse (Text.currencyCode purchase.plan.currency)
    (Text.orElse balance.currency settings.walletCurrency)

def textField (name text : String) : Fields :=
  if text = "" then [] else [(name, .text text)]

def metadata (purchase : Purchase) : Fields :=
  [("quantity", .int purchase.quantity)] ++
    textField "payment_channel" purchase.channel ++
    textField "payment_return_url" purchase.returnUrl

def paymentMetadata (purchase : Purchase) : Fields :=
  [("channel", .text purchase.channel)] ++ textField "return_url" purchase.returnUrl

def order (purchase : Purchase) (snapshot : Fields) (userId : Int) (number currency : String)
    (now : Instant) (id : Int) : Order where
  id := id
  number := number
  userId := userId
  planId := some purchase.plan.id
  status := if purchase.isExternal then .pendingPayment else .pending
  updatedAt := some now
  paymentMethod := purchase.method
  paymentStatus := .pending
  totalCents := purchase.totalCents
  currency := currency
  paymentIntentId := if purchase.isExternal then some (purchase.channel ++ "-" ++ number) else none
  metadata := some purchase.metadata
  planSnapshot := snapshot
  createdAt := now

def item (purchase : Purchase) (order : Order) (id : Int) : OrderItem where
  id := id
  orderId := order.id
  itemType := "plan"
  itemId := purchase.plan.id
  name := purchase.plan.name
  quantity := purchase.quantity
  unitPriceCents := purchase.plan.priceCents
  currency := order.currency
  subtotalCents := purchase.totalCents
  metadata := purchase.plan.limits
  createdAt := order.createdAt

def payment (purchase : Purchase) (order : Order) (id : Int) : OrderPayment where
  id := id
  orderId := order.id
  provider := some purchase.channel
  method := purchase.method.text
  intentId := order.paymentIntentId
  status := .pending
  amountCents := purchase.totalCents
  currency := order.currency
  metadata := some purchase.paymentMetadata
  createdAt := order.createdAt
  updatedAt := order.createdAt

def charge (purchase : Purchase) (order : Order) : Movement where
  kind := some MovementKind.purchase.text
  amountCents := -purchase.totalCents
  currency := some order.currency
  reference := some ("order:" ++ order.number)
  description := some ("Purchase plan " ++ purchase.plan.name)
  metadata := [
    ("plan_id", .int purchase.plan.id),
    ("quantity", .int purchase.quantity),
    ("order_number", .text order.number)]

/-- How an order stands once it has been settled, or its collection has been set up. -/
structure Settlement where
  order : Order
  balance : Balance
  entry : Option LedgerEntry := none
  payments : List OrderPayment := []
  deriving Repr

def paid (order : Order) (now : Instant) (stamp : Option Instant) : Work Order := do
  let order ← Work.lift (order.move .paid now stamp)
  let order := { order with paymentStatus := .succeeded }
  Work.saveOrder order
  return order

def settle (purchase : Purchase) (order : Order) (balance : Balance) : Work Settlement := do
  let now ← Work.now
  if purchase.totalCents = 0 then
    return { order := ← paid order now none, balance }
  else if purchase.method = .balance then
    let (entry, balance) ← Wallet.post order.userId (purchase.charge order)
    return { order := ← paid order now (some entry.createdAt), balance, entry := some entry }
  else
    let payment ← Work.insertPayment (purchase.payment order)
    return { order, balance, payments := [payment] }

def place (purchase : Purchase) (userId : Int) (number : String) : Work Receipt := do
  let context ← read
  let balance ← Work.balance userId
  let currency := purchase.currency context.settings balance
  let snapshot ← Work.liftFault (purchase.plan.snapshot currency)
  let order ← Work.insertOrder (purchase.order snapshot userId number currency context.now)
  let item ← Work.insertItem (purchase.item order)
  let settlement ← purchase.settle order balance
  if purchase.key ≠ "" then
    let _ ← Work.insertBinding fun id =>
      ⟨id, userId, OrderRequest.endpoint, purchase.key, order.id, context.now⟩
  return {
    order := ⟨settlement.order, [item], [], settlement.payments⟩
    balance := settlement.balance
    transaction := settlement.entry }

end Purchase

namespace Orders

def replay? (userId : Int) (key : String) : Service (Option Receipt) := do
  if key = "" then return none
  match ← Service.query (Work.boundOrder? userId OrderRequest.endpoint key) with
  | some order => return some (← Service.query (Work.receipt order))
  | none => return none

def plan (request : OrderRequest) : Service Plan := do
  let planId := request.planId.getD 0
  if planId = 0 then Service.refuse .planRequired
  let some plan ← Service.query (Work.plan? planId) | Service.refuse .planNotFound
  if !plan.isPurchasable then Service.refuse .planUnavailable
  return plan

def purchase (method : PaymentMethod) (request : OrderRequest) : Service Purchase := do
  let plan ← plan request
  let purchase : Purchase := {
    plan, method
    quantity := (← read).settings.quantity request.quantity
    channel := Text.keyword request.paymentChannel
    returnUrl := Text.trim? request.paymentReturnUrl
    key := request.key }
  if purchase.isExternal && purchase.channel == "" then Service.refuse .channelRequired
  return purchase

/-- Makes a new order after no earlier one has been found. A key that is bound after all makes the
transaction fail, and the order it is bound to is the answer. -/
def place (userId : Int) (method : PaymentMethod) (request : OrderRequest) : Service Receipt := do
  let purchase ← purchase method request
  let number ← Service.nextOrderNumber
  tryCatch (Service.transaction (purchase.place userId number)) fun failure => do
    if failure = .refused .uniquenessViolated then
      if let some receipt ← replay? userId request.key then return receipt
    throw failure

def countCreation (request : OrderRequest) : Service Receipt → Service Receipt :=
  Service.sampled fun result =>
    Metrics.observeCreate request.methodText (Service.resultWord result) Service.elapsed

def opening (caller : Option User) (request : OrderRequest) : Service (Int × PaymentMethod) := do
  let some user := caller | Service.breakOff .absent
  let method ← Service.lift (Failure.refusing request.method)
  return (user.id, method)

def create (caller : Option User) (request : OrderRequest) : Service Receipt :=
  countCreation request do
    let (userId, method) ← opening caller request
    match ← replay? userId request.key with
    | some receipt => return receipt
    | none => place userId method request

/-- Makes an order for a request whose key was still unbound when it was looked up, in whatever
state the desk is by now. -/
def createAfterMiss (caller : Option User) (request : OrderRequest) : Service Receipt :=
  countCreation request do
    let (userId, method) ← opening caller request
    place userId method request

end Orders

end OrderDesk
