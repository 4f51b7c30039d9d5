import OrderDesk.Order.Callback
import OrderDesk.Order.Create
import OrderDesk.Order.Refund
import OrderDesk.Order.View
import OrderDesk.Security.Update

/-! Everything that can be asked of the desk, as data, and the answers. -/

namespace OrderDesk

/-- Users are named by their ids; the row that an id stands for is looked up first. -/
inductive Operation
  | moveWallet (userId : Int) (movement : Movement)
  | refundWallet (userId : Int) (movement : Movement)
  | create (userId : Option Int) (request : OrderRequest)
  /-- an order whose key was looked up, and not found, some time ago -/
  | createAfterMiss (userId : Option Int) (request : OrderRequest)
  | cancel (userId : Option Int) (orderId : Int) (reason : Option String)
  | getOrder (userId : Option Int) (orderId : Int)
  | listOrders (userId : Option Int) (filter : OrderFilter)
  | account (userId : Int) (page size : Option Int) (kind : Option String)
  | getAsAdmin (actorId : Option Int) (orderId : Int)
  | listAsAdmin (actorId : Option Int) (filter : OrderFilter)
  | markPaid (actorId : Option Int) (orderId : Int) (notice : PaidNotice)
  | cancelAsAdmin (actorId : Option Int) (orderId : Int) (reason : Option String)
      (cancelledAt : Option Int)
  | refund (actorId : Option Int) (orderId : Int) (request : RefundRequest)
  | receiveResult (result : PaymentResult)
  | securitySetting
  | updateSecurity (patch : SecurityPatch)
  deriving Repr

inductive Reply
  | moved (entry : LedgerEntry) (balance : Balance)
  | receipt (receipt : Receipt)
  | order (order : AdminOrderDetail)
  | orders (listing : Listing OrderDetail)
  | adminOrders (listing : Listing AdminOrderDetail)
  | account (account : Account)
  | setting (setting : SecuritySetting)
  deriving Repr

namespace Reply

def json : Reply → Json
  | .moved entry balance => .object [("transaction", entry.json), ("balance", balance.json)]
  | .receipt answer => answer.json
  | .order answer => answer.reply
  | .orders listing => listing.json OrderDetail.json
  | .adminOrders listing => listing.json AdminOrderDetail.json
  | .account answer => answer.json
  | .setting answer => answer.json

end Reply

namespace Service

def userById (id : Option Int) : Service (Option User) :=
  match id with
  | some id => query (Work.user? id)
  | none => return none

def run {α : Type} (service : Service α) (context : Context) (desk : Desk) :
    Except Failure α × Desk :=
  service context desk

end Service

namespace Operation

def perform : Operation → Service Reply
  | moveWallet userId movement => do
    let (entry, balance) ← Wallet.move userId movement
    return .moved entry balance
  | refundWallet userId movement => do
    let (entry, balance) ← Wallet.refund userId movement
    return .moved entry balance
  | create userId request => do
    return .receipt (← Orders.create (← Service.userById userId) request)
  | createAfterMiss userId request => do
    return .receipt (← Orders.createAfterMiss (← Service.userById userId) request)
  | cancel userId orderId reason => do
    return .receipt (← Orders.cancel (← Service.userById userId) orderId reason)
  | getOrder userId orderId => do
    return .receipt (← Orders.get (← Service.userById userId) orderId)
  | listOrders userId filter => do
    return .orders (← Orders.list (← Service.userById userId) filter)
  | account userId page size kind => do
    return .account (← Wallet.account userId page size kind)
  | getAsAdmin actorId orderId => do
    return .order (← Orders.getAsAdmin (← Service.userById actorId) orderId)
  | listAsAdmin actorId filter => do
    return .adminOrders (← Orders.listAsAdmin (← Service.userById actorId) filter)
  | markPaid actorId orderId notice => do
    return .order (← Orders.markPaid (← Service.userById actorId) orderId notice)
  | cancelAsAdmin actorId orderId reason cancelledAt => do
    let actor ← Service.userById actorId
    return .order (← Orders.cancelAsAdmin actor orderId reason cancelledAt)
  | refund actorId orderId request => do
    return .order (← Orders.refund (← Service.userById actorId) orderId request)
  | receiveResult result => do
    return .order (← Orders.receiveResult result)
  | securitySetting => do
    return .setting (← Security.setting)
  | updateSecurity patch => do
    return .setting (← Security.update patch)

end Operation

/-! ## Calls -/

structure Call where
  operation : Operation
  context : Context
  deriving Repr

namespace Call

def outcome (call : Call) (desk : Desk) : Except Failure Reply × Desk :=
  call.operation.perform.run call.context desk

end Call

namespace Desk

/-- The desk after a call, whether it was answered or failed. -/
def after (desk : Desk) (call : Call) : Desk :=
  (call.outcome desk).2

def afterAll (desk : Desk) (calls : List Call) : Desk :=
  calls.foldl after desk

theorem afterAll_append (desk : Desk) (first second : List Call) :
    desk.afterAll (first ++ second) = (desk.afterAll first).afterAll second :=
  List.foldl_append

end Desk

end OrderDesk
