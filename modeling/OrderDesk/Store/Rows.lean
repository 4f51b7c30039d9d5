import OrderDesk.Store.Work

/-! Finding, inserting and replacing single rows. -/

namespace OrderDesk

namespace Store

def user? (store : Store) (id : Int) : Option User :=
  store.users.find? (·.id == id)

def plan? (store : Store) (id : Int) : Option Plan :=
  store.plans.find? (·.id == id)

def order? (store : Store) (id : Int) : Option Order :=
  store.orders.find? (·.id == id)

def balance? (store : Store) (userId : Int) : Option Balance :=
  store.balances.find? (·.userId == userId)

def binding? (store : Store) (userId : Int) (endpoint key : String) : Option KeyBinding :=
  store.keyBindings.find? fun binding =>
    binding.userId == userId && binding.endpoint == endpoint && binding.key == key

def boundOrder? (store : Store) (userId : Int) (endpoint key : String) : Option Order := do
  store.order? (← store.binding? userId endpoint key).orderId

def securitySetting? (store : Store) : Option SecuritySetting :=
  store.securitySettings.head?

def itemsOf (store : Store) (orderId : Int) : List OrderItem :=
  store.orderItems.filter (·.orderId == orderId)

def refundsOf (store : Store) (orderId : Int) : List OrderRefund :=
  store.orderRefunds.filter (·.orderId == orderId)

def paymentsOf (store : Store) (orderId : Int) : List OrderPayment :=
  store.orderPayments.filter (·.orderId == orderId)

def entriesOf (store : Store) (userId : Int) : List LedgerEntry :=
  store.ledger.filter (·.userId == userId)

end Store

namespace Work

/-! ## Finding rows -/

def user? (id : Int) : Work (Option User) := do
  statement [.users] [id]
  return (← get).user? id

def plan? (id : Int) : Work (Option Plan) := do
  statement [.plans] [id]
  return (← get).plan? id

def order (id : Int) : Work Order := do
  statement [.orders] [id]
  match (← get).order? id with
  | some order => return order
  | none => refuse .orderNotFound

def balance? (userId : Int) : Work (Option Balance) := do
  statement [.balances] [userId]
  return (← get).balance? userId

def boundOrder? (userId : Int) (endpoint key : String) : Work (Option Order) := do
  statement [.orders, .keyBindings] [userId]
  return (← get).boundOrder? userId endpoint key

def paymentsOf (orderId : Int) : Work (List OrderPayment) := do
  statement [.orderPayments] [orderId]
  return (← get).paymentsOf orderId

def securitySetting? : Work (Option SecuritySetting) := do
  statement [.securitySettings] []
  return (← get).securitySetting?

/-! ## Inserting rows

A row is given as a function of the id that it receives. -/

def insertUser (draft : Int → User) : Work User := do
  let users := (← get).users
  let user := draft (Store.nextId (users.map (·.id)))
  statement [.users] []
  if users.any (·.email == user.email) then breakOff .uniqueKeyTaken
  modify fun store => { store with users := store.users ++ [user] }
  return user

def insertPlan (draft : Int → Plan) : Work Plan := do
  let plans := (← get).plans
  let plan := draft (Store.nextId (plans.map (·.id)))
  statement [.plans] plan.numbers
  if plans.any (·.slug == plan.slug) then breakOff .uniqueKeyTaken
  modify fun store => { store with plans := store.plans ++ [plan] }
  return plan

def insertOrder (draft : Int → Order) : Work Order := do
  let orders := (← get).orders
  let order := draft (Store.nextId (orders.map (·.id)))
  statement [.orders]
    ([order.userId, order.totalCents, order.refundedCents] ++ order.planId.toList)
  if orders.any (·.number == order.number) then breakOff .uniqueKeyTaken
  modify fun store => { store with orders := store.orders ++ [order] }
  return order

def insertItem (draft : Int → OrderItem) : Work OrderItem := do
  let item := draft (Store.nextId ((← get).orderItems.map (·.id)))
  statement [.orderItems]
    [item.orderId, item.itemId, item.quantity, item.unitPriceCents, item.subtotalCents]
  modify fun store => { store with orderItems := store.orderItems ++ [item] }
  return item

def insertRefund (draft : Int → OrderRefund) : Work OrderRefund := do
  let refund := draft (Store.nextId ((← get).orderRefunds.map (·.id)))
  statement [.orderRefunds] [refund.orderId, refund.amountCents]
  modify fun store => { store with orderRefunds := store.orderRefunds ++ [refund] }
  return refund

def insertPayment (draft : Int → OrderPayment) : Work OrderPayment := do
  let payment := draft (Store.nextId ((← get).orderPayments.map (·.id)))
  statement [.orderPayments] [payment.orderId, payment.amountCents]
  modify fun store => { store with orderPayments := store.orderPayments ++ [payment] }
  return payment

def insertBalance (balance : Balance) : Work Balance := do
  statement [.balances] [balance.userId, balance.cents]
  modify fun store => { store with balances := store.balances ++ [balance] }
  return balance

def insertEntry (draft : Int → LedgerEntry) : Work LedgerEntry := do
  let entry := draft (Store.nextId ((← get).ledger.map (·.id)))
  statement [.ledger] [entry.userId, entry.amountCents, entry.balanceAfterCents]
  modify fun store => { store with ledger := store.ledger ++ [entry] }
  return entry

def insertBinding (draft : Int → KeyBinding) : Work KeyBinding := do
  let bindings := (← get).keyBindings
  let binding := draft (Store.nextId (bindings.map (·.id)))
  statement [.keyBindings] [binding.userId, binding.orderId]
  if ((← get).binding? binding.userId binding.endpoint binding.key).isSome then
    breakOff .uniqueKeyTaken
  modify fun store => { store with keyBindings := store.keyBindings ++ [binding] }
  return binding

def insertSecuritySetting (draft : Int → SecuritySetting) : Work SecuritySetting := do
  let setting := draft (Store.nextId ((← get).securitySettings.map (·.id)))
  statement [.securitySettings] [setting.nonceTtlSeconds]
  modify fun store => { store with securitySettings := store.securitySettings ++ [setting] }
  return setting

/-! ## Editing the catalogue and the users -/

def editUser (user : User) : Work Unit := do
  statement [.users] [user.id]
  if (← get).users.any fun other => other.email == user.email && other.id != user.id then
    breakOff .uniqueKeyTaken
  modify fun store => { store with users := Store.replace (·.id) user store.users }

def editPlan (plan : Plan) : Work Unit := do
  statement [.plans] plan.numbers
  if (← get).plans.any fun other => other.slug == plan.slug && other.id != plan.id then
    breakOff .uniqueKeyTaken
  modify fun store => { store with plans := Store.replace (·.id) plan store.plans }

/-! ## Replacing rows

The row has been read or inserted by the same work, so its table is there, and all that changes in
it fits. -/

def saveOrder (order : Order) : Work Unit :=
  modify fun store => { store with orders := Store.replace (·.id) order store.orders }

def savePayment (payment : OrderPayment) : Work Unit :=
  modify fun store =>
    { store with orderPayments := Store.replace (·.id) payment store.orderPayments }

def saveBalance (balance : Balance) : Work Unit :=
  modify fun store => { store with balances := Store.replace (·.userId) balance store.balances }

/-- The window of a setting comes from outside and may not fit. -/
def saveSecuritySetting (setting : SecuritySetting) : Work Unit := do
  statement [.securitySettings] [setting.nonceTtlSeconds]
  modify fun store =>
    { store with securitySettings := Store.replace (·.id) setting store.securitySettings }

end Work

end OrderDesk
