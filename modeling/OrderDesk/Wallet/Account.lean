import OrderDesk.Desk.Service
import OrderDesk.Order.Listing
import OrderDesk.Wallet.Movement

/-! Moving wallets on their own, and reading balances and ledgers. -/

namespace OrderDesk

structure Account where
  balance : Balance
  entries : List LedgerEntry
  page : Page
  total : Int
  deriving Repr

structure LedgerCheck where
  sum : Int
  latest : Option LedgerEntry
  balance : Balance
  deriving Repr

namespace LedgerEntry

def matchesKind (asked : Option String) (entry : LedgerEntry) : Bool :=
  OrderFilter.matchesWord asked entry.kind.text

def before (first second : LedgerEntry) : Bool :=
  second.createdAt.micros < first.createdAt.micros ||
    (second.createdAt.micros == first.createdAt.micros && second.id ≤ first.id)

def newestFirst (entries : List LedgerEntry) : List LedgerEntry :=
  entries.mergeSort before

end LedgerEntry

namespace Store

def ledgerSum (store : Store) (userId : Int) : Int :=
  ((store.entriesOf userId).map (·.amountCents)).foldl (· + ·) 0

def newestIn? (store : Store) (userId : Int) : Option LedgerEntry :=
  (LedgerEntry.newestFirst (store.entriesOf userId)).head?

end Store

namespace Work

def entryPage (userId : Int) (page : Page) (kind : Option String) :
    Work (List LedgerEntry × Int) :=
  pageOf .ledger [userId] page fun store =>
    LedgerEntry.newestFirst ((store.entriesOf userId).filter (·.matchesKind kind))

def ledgerSum (userId : Int) : Work Int := do
  statement [.ledger] [userId]
  return (← get).ledgerSum userId

def entryById? (id : Int) : Work (Option LedgerEntry) := do
  statement [.ledger] [id]
  return (← get).ledger.find? (·.id == id)

def newestIn? (userId : Int) : Work (Option LedgerEntry) := do
  statement [.ledger] [userId]
  return (← get).newestIn? userId

end Work

namespace Wallet

def move (userId : Int) (movement : Movement) : Service (LedgerEntry × Balance) :=
  Service.transaction (post userId movement)

def refund (userId : Int) (movement : Movement) : Service (LedgerEntry × Balance) :=
  Service.transaction (postRefund userId movement)

def entries (userId : Int) (number size : Option Int) (kind : Option String) :
    Service (List LedgerEntry × Int) :=
  Service.query (Work.entryPage userId (.ofRequest number size) kind)

def account (userId : Int) (number size : Option Int) (kind : Option String) :
    Service Account := do
  let page := Page.ofRequest number size
  let balance ← Service.query (Work.balance userId)
  let (entries, total) ← Service.query (Work.entryPage userId page kind)
  return { balance, entries, page, total }

def check (userId : Int) : Service LedgerCheck := do
  let sum ← Service.query (Work.ledgerSum userId)
  let latest ← Service.query (Work.newestIn? userId)
  return { sum, latest, balance := ← Service.query (Work.balance userId) }

/-- Tries to change the amount of a ledger entry. An entry never changes, so only the amount that
it has is accepted. -/
def amend (id : Int) (amount : Option Int) : Service Unit := do
  let some entry ← Service.query (Work.entryById? id) | Service.breakOff .absent
  if some entry.amountCents ≠ amount then Service.breakOff (.ledgerImmutable id)

def strike (id : Int) : Service Unit := do
  match ← Service.query (Work.entryById? id) with
  | some _ => Service.breakOff (.ledgerImmutable id)
  | none => Service.breakOff .nothingToRemove

end Wallet

end OrderDesk
