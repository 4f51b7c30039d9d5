import OrderDesk.Store.Rows

/-! Orders together with the rows that belong to them, as they are shown. -/

namespace OrderDesk

/-! ## Gathering children -/

abbrev Groups (Row : Type) := List (Int × List Row)

namespace Groups

variable {Row : Type}

def add (orderId : Row → Int) (groups : Groups Row) (row : Row) : Groups Row :=
  groups.map fun (id, rows) => (id, if id = orderId row then rows ++ [row] else rows)

/-- A group for each of some orders, out of the rows of a table. The rows of one order keep their
order, which is that of their ids. -/
def ofRows (orderId : Row → Int) (ids : List Int) (table : List Row) : Groups Row :=
  (table.filter fun row => ids.contains (orderId row)).foldl (add orderId) (ids.map (·, []))

def of (groups : Groups Row) (id : Int) : List Row :=
  (List.lookup id groups).getD []

section

variable {orderId : Row → Int}

theorem foldl_add (groups : Groups Row) (rows : List Row) :
    rows.foldl (add orderId) groups =
      groups.map fun (id, members) => (id, members ++ rows.filter (orderId · == id)) := by
  induction rows generalizing groups with
  | nil => simp
  | cons row rest induction =>
    rw [List.foldl_cons, induction, add, List.map_map]
    refine List.map_congr_left fun (id, members) _ => ?_
    by_cases own : id = orderId row
    · simp [own]
    · have foreign : (orderId row == id) = false := beq_false_of_ne (Ne.symm own)
      simp [own, foreign]

theorem ofRows_eq (ids : List Int) (table : List Row) :
    ofRows orderId ids table = ids.map fun id => (id, table.filter (orderId · == id)) := by
  rw [ofRows, foldl_add, List.map_map]
  refine List.map_congr_left fun id member => ?_
  have own : table.filter (fun row => orderId row == id && ids.contains (orderId row)) =
      table.filter (orderId · == id) := by
    refine List.filter_congr fun row _ => ?_
    by_cases same : orderId row = id <;> simp [same, member]
  simp only [Function.comp_apply, List.nil_append, List.filter_filter, own]

theorem of_map {ids : List Int} {id : Int} (member : id ∈ ids) (rows : Int → List Row) :
    of (ids.map fun id => (id, rows id)) id = rows id := by
  induction ids with
  | nil => cases member
  | cons first rest induction =>
    by_cases same : id = first
    · subst same
      simp [of]
    · have later := induction ((List.mem_cons.mp member).resolve_left same)
      rw [of] at later ⊢
      rw [List.map_cons, List.lookup_cons, beq_false_of_ne same]
      exact later

end

end Groups

/-! ## Details -/

structure OrderDetail where
  order : Order
  items : List OrderItem
  refunds : List OrderRefund
  payments : List OrderPayment
  deriving Repr

/-- What is shown of an order's owner; only the id is known of a user who is gone. -/
structure UserSummary where
  id : Int
  email : String
  displayName : String
  deriving DecidableEq, Repr

structure AdminOrderDetail where
  detail : OrderDetail
  user : UserSummary
  deriving Repr

structure Receipt where
  order : OrderDetail
  balance : Balance
  transaction : Option LedgerEntry
  deriving Repr

namespace UserSummary

def ofUser (id : Int) : Option User → UserSummary
  | some user => ⟨user.id, user.email, user.displayName.getD ""⟩
  | none => ⟨id, "", ""⟩

end UserSummary

structure Children where
  items : Groups OrderItem
  refunds : Groups OrderRefund
  payments : Groups OrderPayment

namespace Children

def detail (children : Children) (order : Order) : OrderDetail :=
  ⟨order, children.items.of order.id, children.refunds.of order.id, children.payments.of order.id⟩

end Children

namespace Store

def children (store : Store) (ids : List Int) : Children where
  items := .ofRows (·.orderId) ids store.orderItems
  refunds := .ofRows (·.orderId) ids store.orderRefunds
  payments := .ofRows (·.orderId) ids store.orderPayments

def detail (store : Store) (order : Order) : OrderDetail :=
  ⟨order, store.itemsOf order.id, store.refundsOf order.id, store.paymentsOf order.id⟩

def adminDetail (store : Store) (order : Order) : AdminOrderDetail :=
  ⟨store.detail order, .ofUser order.userId (store.user? order.userId)⟩

theorem children_eq (store : Store) (ids : List Int) :
    store.children ids =
      ⟨ids.map fun id => (id, store.itemsOf id), ids.map fun id => (id, store.refundsOf id),
        ids.map fun id => (id, store.paymentsOf id)⟩ := by
  simp only [children, Groups.ofRows_eq, itemsOf, refundsOf, paymentsOf]

/-- With whatever other orders an order is read, the same rows belong to it. -/
theorem children_detail (store : Store) {ids : List Int} {order : Order} (member : order.id ∈ ids) :
    (store.children ids).detail order = store.detail order := by
  simp only [children_eq, Children.detail, Groups.of_map member, detail]

end Store

namespace Work

/-- Reads the rows that belong to some orders; for no orders nothing is read. -/
def children (orders : List Order) : Work Children := do
  if orders.isEmpty then return ⟨[], [], []⟩
  let ids := orders.map (·.id)
  statement [.orderItems] ids
  statement [.orderRefunds] ids
  statement [.orderPayments] ids
  return (← get).children ids

def details (orders : List Order) : Work (List OrderDetail) := do
  return orders.map (← children orders).detail

def adminDetails (orders : List Order) : Work (List AdminOrderDetail) := do
  let children ← children orders
  if orders.isEmpty then return []
  statement [.users] (orders.map (·.userId))
  let store ← get
  return orders.map fun order =>
    ⟨children.detail order, .ofUser order.userId (store.user? order.userId)⟩

def detail (order : Order) : Work OrderDetail := do
  return (← children [order]).detail order

def adminDetail (order : Order) : Work AdminOrderDetail := do
  let children ← children [order]
  statement [.users] [order.userId]
  return ⟨children.detail order, .ofUser order.userId ((← get).user? order.userId)⟩

/-- The balance of a user, or an empty one that is not kept. -/
def balance (userId : Int) : Work Balance := do
  match ← balance? userId with
  | some balance => return balance
  | none => return .empty userId (← read).settings.walletCurrency

def receipt (order : Order) : Work Receipt := do
  let balance ← balance order.userId
  return { order := ← detail order, balance, transaction := none }

end Work

end OrderDesk
