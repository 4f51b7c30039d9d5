import OrderDesk.Catalog
import OrderDesk.Order.Basic
import OrderDesk.Security.Setting
import OrderDesk.Wallet.Basic

/-!
The rows that the desk keeps. Every table is a list in the order in which its rows were inserted;
rows are added at the end or replaced in place, and never removed.
-/

namespace OrderDesk

inductive Table
  | users
  | plans
  | orders
  | orderItems
  | orderRefunds
  | orderPayments
  | balances
  | ledger
  | keyBindings
  | securitySettings
  deriving DecidableEq, Repr

namespace Table

def all : List Table := [users, plans, orders, orderItems, orderRefunds, orderPayments, balances,
  ledger, keyBindings, securitySettings]

def name : Table → String
  | users => "users"
  | plans => "plans"
  | orders => "orders"
  | orderItems => "order_items"
  | orderRefunds => "order_refunds"
  | orderPayments => "order_payments"
  | balances => "user_balances"
  | ledger => "balance_transactions"
  | keyBindings => "idempotency_records"
  | securitySettings => "security_settings"

def ofName? (name : String) : Option Table :=
  all.find? fun table => table.name == name

theorem ofName?_name (table : Table) : ofName? table.name = some table := by
  cases table <;> decide

end Table

/-- Ties a user's key for an activity to the order that was made with it. -/
structure KeyBinding where
  id : Int
  userId : Int
  endpoint : String
  key : String
  orderId : Int
  createdAt : Instant
  deriving DecidableEq, Repr

structure Store where
  users : List User := []
  plans : List Plan := []
  orders : List Order := []
  orderItems : List OrderItem := []
  orderRefunds : List OrderRefund := []
  orderPayments : List OrderPayment := []
  balances : List Balance := []
  ledger : List LedgerEntry := []
  keyBindings : List KeyBinding := []
  securitySettings : List SecuritySetting := []
  /-- Tables that have been dropped; no statement can reach them. -/
  dropped : List Table := []
  deriving Repr

namespace Store

/-- The id of the next row: one above the largest so far. -/
def nextId (ids : List Int) : Int :=
  ids.foldl max 0 + 1

def replace {Row Key : Type} [DecidableEq Key] (key : Row → Key) (row : Row) (rows : List Row) :
    List Row :=
  rows.map fun present => if key present = key row then row else present

section

variable {Row Key : Type} [DecidableEq Key] (key : Row → Key) (row : Row) (rows : List Row)

@[simp] theorem length_replace : (replace key row rows).length = rows.length :=
  List.length_map _

@[simp] theorem map_key_replace : (replace key row rows).map key = rows.map key := by
  simp only [replace, List.map_map]
  refine List.map_congr_left fun present _ => ?_
  by_cases same : key present = key row <;> simp [same]

/-- After replacing, the rows with other keys are the same ones as before. -/
theorem mem_replace_of_ne {other : Row} (different : key other ≠ key row) :
    other ∈ replace key row rows ↔ other ∈ rows := by
  simp only [replace, List.mem_map]
  constructor
  · rintro ⟨present, member, rfl⟩
    by_cases same : key present = key row
    · simp [same] at different
    · simpa [same] using member
  · intro member
    exact ⟨other, member, by simp [different]⟩

end

def columnLimit : Int := 0x8000000000000000

def fitsColumn (number : Int) : Bool :=
  -columnLimit ≤ number && number < columnLimit

def drop (store : Store) (table : Table) : Store :=
  let store := match table with
    | .users => { store with users := [] }
    | .plans => { store with plans := [] }
    | .orders => { store with orders := [] }
    | .orderItems => { store with orderItems := [] }
    | .orderRefunds => { store with orderRefunds := [] }
    | .orderPayments => { store with orderPayments := [] }
    | .balances => { store with balances := [] }
    | .ledger => { store with ledger := [] }
    | .keyBindings => { store with keyBindings := [] }
    | .securitySettings => { store with securitySettings := [] }
  { store with dropped := table :: store.dropped }

def createTables (store : Store) : Store :=
  { store with dropped := [] }

theorem le_foldl_max (ids : List Int) (start : Int) : start ≤ ids.foldl max start := by
  induction ids generalizing start with
  | nil => exact Int.le_refl start
  | cons id rest induction =>
    exact Int.le_trans (Int.le_max_left start id) (induction (max start id))

theorem le_foldl_max_of_mem {ids : List Int} {id : Int} (member : id ∈ ids) (start : Int) :
    id ≤ ids.foldl max start := by
  induction ids generalizing start with
  | nil => cases member
  | cons first rest induction =>
    rcases List.mem_cons.mp member with equal | member
    · subst equal
      exact Int.le_trans (Int.le_max_right start id) (le_foldl_max rest (max start id))
    · exact induction member (max start first)

theorem lt_nextId {ids : List Int} {id : Int} (member : id ∈ ids) : id < nextId ids :=
  Int.lt_add_one_of_le (le_foldl_max_of_mem member 0)

theorem nextId_pos (ids : List Int) : 0 < nextId ids :=
  Int.lt_add_one_of_le (le_foldl_max ids 0)

end Store

end OrderDesk
