import OrderDesk.Store.Rows

/-! Moving a wallet: the balance changes and the ledger grows by one entry, or nothing happens. -/

namespace OrderDesk.Wallet

def maxReferenceLength : Nat := 64
def maxDescriptionLength : Nat := 255

/-- The balance of a user, made on the first movement. The currency of that movement becomes the
currency of the wallet. -/
def openBalance (userId : Int) (currency : Option String) : Work Balance := do
  match ← Work.balance? userId with
  | some balance => return balance
  | none =>
    let context ← read
    let currency := Text.orElse (Text.currencyCode currency) context.settings.walletCurrency
    Work.insertBalance ⟨userId, 0, currency, none, some context.walletNow, some context.walletNow⟩

def post (userId : Int) (movement : Movement) : Work (LedgerEntry × Balance) := do
  if movement.amountCents = 0 then Work.refuse .zeroAmount
  let some kind := MovementKind.ofText? (Text.keyword movement.kind)
    | Work.refuse (.unsupportedMovement movement.kind)
  let balance ← openBalance userId movement.currency
  let asked := Text.currencyCode movement.currency
  if asked ≠ "" ∧ asked ≠ balance.currency then
    Work.refuse (.currencyMismatch balance.currency asked)
  let cents := balance.cents + movement.amountCents
  if cents < 0 then Work.refuse .insufficientBalance
  let now ← Work.walletNow
  let entry ← Work.insertEntry fun id => {
    id, userId, kind
    amountCents := movement.amountCents
    currency := balance.currency
    balanceAfterCents := cents
    reference := Text.truncate maxReferenceLength (Text.trim? movement.reference)
    description := Text.truncate maxDescriptionLength (Text.trim? movement.description)
    metadata := movement.metadata
    createdAt := now }
  let balance := { balance with cents, lastEntryId := some entry.id, updatedAt := some now }
  Work.saveBalance balance
  return (entry, balance)

/-- Applies a credit, recorded as a refund whatever kind it names. -/
def postRefund (userId : Int) (movement : Movement) : Work (LedgerEntry × Balance) := do
  if movement.amountCents ≤ 0 then Work.refuse .refundNotPositive
  post userId { movement with kind := some MovementKind.refund.text }

end OrderDesk.Wallet
