import OrderDesk.Store.Basic

/-! All rows of a table with every column, in the form in which they are stored. -/

namespace OrderDesk

def storedTime (instant : Instant) : Json :=
  .text instant.storedText

def storedFlag (flag : Bool) : Json :=
  .int (if flag then 1 else 0)

namespace User

def stored (user : User) : Json := .object [
  ("id", .int user.id),
  ("email", .text user.email),
  ("display_name", .ofText? user.displayName),
  ("roles", user.roles),
  ("status", .text user.status)]

end User

namespace Plan

def stored (plan : Plan) : Json := .object [
  ("id", .int plan.id),
  ("name", .text plan.name),
  ("slug", .text plan.slug),
  ("description", .ofText? plan.description),
  ("tags", plan.tags),
  ("features", plan.features),
  ("price_cents", .int plan.priceCents),
  ("currency", .ofText? plan.currency),
  ("duration_days", .int plan.durationDays),
  ("traffic_limit_bytes", .int plan.trafficLimitBytes),
  ("devices_limit", .int plan.devicesLimit),
  ("sort_order", .int plan.sortOrder),
  ("status", .text plan.status),
  ("is_visible", storedFlag plan.isVisible)]

end Plan

namespace Order

def stored (order : Order) : Json := .object [
  ("id", .int order.id),
  ("number", .text order.number),
  ("user_id", .int order.userId),
  ("plan_id", .ofInt? order.planId),
  ("status", .text order.status.text),
  ("payment_method", .text order.paymentMethod.text),
  ("payment_status", .text order.paymentStatus.text),
  ("total_cents", .int order.totalCents),
  ("refunded_cents", .int order.refundedCents),
  ("currency", .text order.currency),
  ("payment_intent_id", .ofText? order.paymentIntentId),
  ("payment_reference", .ofText? order.paymentReference),
  ("payment_failure_code", .ofText? order.paymentFailureCode),
  ("payment_failure_message", .ofText? order.paymentFailureMessage),
  ("metadata", .ofOption .object order.metadata),
  ("plan_snapshot", .object order.planSnapshot),
  ("paid_at", .ofOption storedTime order.paidAt),
  ("cancelled_at", .ofOption storedTime order.cancelledAt),
  ("refunded_at", .ofOption storedTime order.refundedAt),
  ("created_at", storedTime order.createdAt),
  ("updated_at", .ofOption storedTime order.updatedAt)]

end Order

namespace OrderItem

def stored (item : OrderItem) : Json := .object [
  ("id", .int item.id),
  ("order_id", .int item.orderId),
  ("item_type", .text item.itemType),
  ("item_id", .int item.itemId),
  ("name", .text item.name),
  ("quantity", .int item.quantity),
  ("unit_price_cents", .int item.unitPriceCents),
  ("currency", .text item.currency),
  ("subtotal_cents", .int item.subtotalCents),
  ("metadata", .object item.metadata),
  ("created_at", storedTime item.createdAt)]

end OrderItem

namespace OrderRefund

def stored (refund : OrderRefund) : Json := .object [
  ("id", .int refund.id),
  ("order_id", .int refund.orderId),
  ("amount_cents", .int refund.amountCents),
  ("reason", .ofText? refund.reason),
  ("reference", .ofText? refund.reference),
  ("metadata", .object refund.metadata),
  ("created_at", storedTime refund.createdAt)]

end OrderRefund

namespace OrderPayment

def stored (payment : OrderPayment) : Json := .object [
  ("id", .int payment.id),
  ("order_id", .int payment.orderId),
  ("provider", .ofText? payment.provider),
  ("method", .text payment.method),
  ("intent_id", .ofText? payment.intentId),
  ("reference", .ofText? payment.reference),
  ("status", .text payment.status.text),
  ("amount_cents", .int payment.amountCents),
  ("currency", .text payment.currency),
  ("failure_code", .ofText? payment.failureCode),
  ("failure_message", .ofText? payment.failureMessage),
  ("metadata", .ofOption .object payment.metadata),
  ("processed_at", .ofOption storedTime payment.processedAt),
  ("created_at", storedTime payment.createdAt),
  ("updated_at", storedTime payment.updatedAt)]

end OrderPayment

namespace Balance

def stored (balance : Balance) : Json := .object [
  ("user_id", .int balance.userId),
  ("balance_cents", .int balance.cents),
  ("currency", .text balance.currency),
  ("last_transaction_id", .ofInt? balance.lastEntryId),
  ("created_at", .ofOption storedTime balance.createdAt),
  ("updated_at", .ofOption storedTime balance.updatedAt)]

end Balance

namespace LedgerEntry

def stored (entry : LedgerEntry) : Json := .object [
  ("id", .int entry.id),
  ("user_id", .int entry.userId),
  ("type", .text entry.kind.text),
  ("amount_cents", .int entry.amountCents),
  ("currency", .text entry.currency),
  ("balance_after_cents", .int entry.balanceAfterCents),
  ("reference", .text entry.reference),
  ("description", .text entry.description),
  ("metadata", .object entry.metadata),
  ("created_at", storedTime entry.createdAt)]

end LedgerEntry

namespace KeyBinding

def stored (binding : KeyBinding) : Json := .object [
  ("id", .int binding.id),
  ("user_id", .int binding.userId),
  ("endpoint", .text binding.endpoint),
  ("key", .text binding.key),
  ("order_id", .int binding.orderId),
  ("created_at", storedTime binding.createdAt)]

end KeyBinding

namespace SecuritySetting

def stored (setting : SecuritySetting) : Json := .object [
  ("id", .int setting.id),
  ("third_party_api_enabled", storedFlag setting.enabled),
  ("api_key", .text setting.apiKey),
  ("api_secret", .text setting.apiSecret),
  ("encryption_algorithm", .text setting.algorithm),
  ("nonce_ttl_seconds", .int setting.nonceTtlSeconds),
  ("created_at", storedTime setting.createdAt),
  ("updated_at", storedTime setting.updatedAt)]

end SecuritySetting

namespace Store

def rows (store : Store) : Table → List Json
  | .users => store.users.map (·.stored)
  | .plans => store.plans.map (·.stored)
  | .orders => store.orders.map (·.stored)
  | .orderItems => store.orderItems.map (·.stored)
  | .orderRefunds => store.orderRefunds.map (·.stored)
  | .orderPayments => store.orderPayments.map (·.stored)
  | .balances => (store.balances.mergeSort fun first second =>
      decide (first.userId ≤ second.userId)).map (·.stored)
  | .ledger => store.ledger.map (·.stored)
  | .keyBindings => store.keyBindings.map (·.stored)
  | .securitySettings => store.securitySettings.map (·.stored)

/-- Some tables by their names; those that have been dropped are left out. -/
def dump (store : Store) (tables : List Table) : Json :=
  .object <| (tables.filter fun table => !store.dropped.contains table).map fun table =>
    (table.name, .list (store.rows table))

end Store

end OrderDesk
