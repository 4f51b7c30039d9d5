import OrderDesk.Json.Value
import OrderDesk.Time.Instant

/-! Wallets: one balance for each user, and the ledger of all movements behind the balances. -/

namespace OrderDesk

inductive MovementKind
  | recharge
  | purchase
  | refund
  | adjustment
  deriving DecidableEq, Repr

namespace MovementKind

def text : MovementKind → String
  | recharge => "recharge"
  | purchase => "purchase"
  | refund => "refund"
  | adjustment => "adjustment"

def ofText? : String → Option MovementKind
  | "recharge" => some recharge
  | "purchase" => some purchase
  | "refund" => some refund
  | "adjustment" => some adjustment
  | _ => none

end MovementKind

structure Balance where
  userId : Int
  cents : Int
  currency : String
  lastEntryId : Option Int
  createdAt : Option Instant
  updatedAt : Option Instant
  deriving DecidableEq, Repr

namespace Balance

def empty (userId : Int) (currency : String) : Balance :=
  ⟨userId, 0, currency, none, none, none⟩

end Balance

/-- A movement that has happened. Charges are negative, credits positive. -/
structure LedgerEntry where
  id : Int
  userId : Int
  kind : MovementKind
  amountCents : Int
  currency : String
  balanceAfterCents : Int
  reference : String
  description : String
  metadata : Fields
  createdAt : Instant
  deriving Repr

structure Movement where
  kind : Option String
  amountCents : Int
  currency : Option String := none
  reference : Option String := none
  description : Option String := none
  metadata : Fields := []
  deriving Repr

end OrderDesk
