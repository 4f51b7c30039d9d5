import OrderDesk.Order.Listing
import OrderDesk.Wallet.Account

/-!
The written form of orders, balances and ledger entries. Money stays in whole cents, and times are
unix seconds.
-/

namespace OrderDesk

namespace Instant

def json (instant : Instant) : Json :=
  .int instant.unixSeconds

end Instant

namespace OrderItem

def json (item : OrderItem) : Json := .object [
  ("id", .int item.id),
  ("order_id", .int item.orderId),
  ("item_type", .text item.itemType),
  ("item_id", .int item.itemId),
  ("name", .text item.name),
  ("quantity", .int item.quantity),
  ("unit_price_cents", .int item.unitPriceCents),
  ("currency", .text item.currency),
  ("subtotal_cents", .int item.subtotalCents),
  ("metadata", .object item.metadata),
  ("created_at", item.createdAt.json)]

end OrderItem

namespace OrderRefund

def json (refund : OrderRefund) : Json := .object [
  ("id", .int refund.id),
  ("order_id", .int refund.orderId),
  ("amount_cents", .int refund.amountCents),
  ("reason", .text (refund.reason.getD "")),
  ("reference", .text (refund.reference.getD "")),
  ("metadata", .object refund.metadata),
  ("created_at", refund.createdAt.json)]

end OrderRefund

namespace OrderPayment

def json (payment : OrderPayment) : Json := .object [
  ("id", .int payment.id),
  ("order_id", .int payment.orderId),
  ("provider", .text (payment.provider.getD "")),
  ("method", .text payment.method),
  ("intent_id", .text (payment.intentId.getD "")),
  ("reference", .text (payment.reference.getD "")),
  ("status", .text payment.status.text),
  ("amount_cents", .int payment.amountCents),
  ("currency", .text payment.currency),
  ("failure_code", .text (payment.failureCode.getD "")),
  ("failure_message", .text (payment.failureMessage.getD "")),
  ("metadata", .object (payment.metadata.getD [])),
  ("processed_at", .ofOption Instant.json payment.processedAt),
  ("created_at", payment.createdAt.json),
  ("updated_at", payment.updatedAt.json)]

end OrderPayment

namespace OrderDetail

def fields (detail : OrderDetail) : Fields :=
  let order := detail.order
  [("id", .int order.id),
    ("number", .text order.number),
    ("user_id", .int order.userId),
    ("plan_id", .ofInt? order.planId),
    ("status", .text order.status.text),
    ("payment_method", .text order.paymentMethod.text),
    ("payment_status", .text order.paymentStatus.text),
    ("total_cents", .int order.totalCents),
    ("refunded_cents", .int order.refundedCents),
    ("currency", .text order.currency),
    ("payment_intent_id", .ofText? order.paymentIntentId),
    ("payment_reference", .ofText? order.paymentReference),
    ("payment_failure_code", .ofText? order.paymentFailureCode),
    ("payment_failure_message", .ofText? order.paymentFailureMessage),
    ("plan_snapshot", .object order.planSnapshot),
    ("metadata", .object (order.metadata.getD [])),
    ("paid_at", .ofOption Instant.json order.paidAt),
    ("cancelled_at", .ofOption Instant.json order.cancelledAt),
    ("refunded_at", .ofOption Instant.json order.refundedAt),
    ("created_at", order.createdAt.json),
    ("updated_at", .ofOption Instant.json order.updatedAt),
    ("items", .list (detail.items.map OrderItem.json)),
    ("refunds", .list (detail.refunds.map OrderRefund.json)),
    ("payments", .list (detail.payments.map OrderPayment.json))]

def json (detail : OrderDetail) : Json :=
  .object detail.fields

end OrderDetail

namespace UserSummary

def json (user : UserSummary) : Json := .object [
  ("id", .int user.id),
  ("email", .text user.email),
  ("display_name", .text user.displayName)]

end UserSummary

namespace AdminOrderDetail

def json (order : AdminOrderDetail) : Json :=
  .object (order.detail.fields ++ [("user", order.user.json)])

def reply (order : AdminOrderDetail) : Json :=
  .object [("order", order.json)]

end AdminOrderDetail

namespace Balance

/-- A balance that is not kept yet has the time zero. -/
def json (balance : Balance) : Json := .object [
  ("user_id", .int balance.userId),
  ("balance_cents", .int balance.cents),
  ("currency", .text balance.currency),
  ("last_transaction_id", .ofInt? balance.lastEntryId),
  ("updated_at", .int ((balance.updatedAt.map (·.unixSeconds)).getD 0))]

end Balance

namespace LedgerEntry

def json (entry : LedgerEntry) : Json := .object [
  ("id", .int entry.id),
  ("type", .text entry.kind.text),
  ("amount_cents", .int entry.amountCents),
  ("currency", .text entry.currency),
  ("balance_after_cents", .int entry.balanceAfterCents),
  ("reference", .text entry.reference),
  ("description", .text entry.description),
  ("metadata", .object entry.metadata),
  ("created_at", entry.createdAt.json)]

end LedgerEntry

namespace Receipt

def json (receipt : Receipt) : Json := .object [
  ("order", receipt.order.json),
  ("balance", receipt.balance.json),
  ("transaction", .ofOption LedgerEntry.json receipt.transaction)]

end Receipt

namespace Listing

variable {Entry : Type}

def json (encode : Entry → Json) (listing : Listing Entry) : Json := .object [
  ("orders", .list (listing.entries.map encode)),
  ("pagination", listing.page.json listing.total)]

end Listing

namespace Account

def json (account : Account) : Json := .object [
  ("balance", account.balance.json),
  ("transactions", .list (account.entries.map LedgerEntry.json)),
  ("pagination", account.page.json account.total)]

end Account

end OrderDesk
