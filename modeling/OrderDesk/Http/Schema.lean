import OrderDesk.Http.Request
import OrderDesk.Order.Callback
import OrderDesk.Order.Create
import OrderDesk.Order.Listing
import OrderDesk.Order.Refund
import OrderDesk.Security.Setting

/-! The fields that each kind of request may carry. -/

namespace OrderDesk.Http.Schema

def createOrder (source : Source) : Checked OrderRequest :=
  OrderRequest.mk <$> (some <$> source.required "plan_id" (Reader.integerFrom 1)) <*>
    source.optional "quantity" Reader.integer <*>
    source.optional "payment_method" (Reader.textUpTo 32) <*>
    source.optional "payment_channel" (Reader.textUpTo 64) <*>
    source.optional "payment_return_url" (Reader.textUpTo 512) <*>
    source.optional "idempotency_key" (Reader.textUpTo 128)

def cancelReason (source : Source) : Checked (Option String) :=
  source.optional "reason" (Reader.textUpTo 255)

def adminCancel (source : Source) : Checked (Option String × Option Int) :=
  Checked.both (cancelReason source) (source.optional "cancelled_at" Reader.integer)

def markPaid (source : Source) : Checked PaidNotice :=
  PaidNotice.mk <$> source.optional "payment_method" (Reader.textUpTo 32) <*>
    source.optional "paid_at" Reader.integer <*>
    source.optional "note" (Reader.textUpTo 255) <*>
    source.optional "reference" (Reader.textUpTo 128) <*>
    source.withDefault "charge_balance" false Reader.flag

def refund (source : Source) : Checked RefundRequest :=
  RefundRequest.mk <$> source.required "amount_cents" Reader.integer <*>
    source.optional "reason" (Reader.textUpTo 255) <*>
    source.optional "reference" (Reader.textUpTo 64) <*>
    source.withDefault "metadata" [] Reader.dictionary

def securityPatch (source : Source) : Checked SecurityPatch :=
  SecurityPatch.mk <$> source.optional "third_party_api_enabled" Reader.flag <*>
    source.optional "api_key" (Reader.textUpTo 128) <*>
    source.optional "api_secret" (Reader.textUpTo 256) <*>
    source.optional "encryption_algorithm" (Reader.textUpTo 32) <*>
    source.optional "nonce_ttl_seconds" Reader.integer

def paymentResult (source : Source) : Checked PaymentResult :=
  PaymentResult.mk <$> source.optional "order_id" Reader.integer <*>
    source.optional "payment_id" Reader.integer <*>
    source.optional "status" Reader.text <*>
    source.optional "reference" Reader.text <*>
    source.optional "failure_code" Reader.text <*>
    source.optional "failure_message" Reader.text <*>
    source.optional "paid_at" Reader.integer

/-- A page number and size in a query; without them the first page of the usual size is meant. -/
def page (query : Source) : Checked (Int × Int) :=
  Checked.both (query.withDefault "page" 1 Reader.integer)
    (query.withDefault "per_page" Page.defaultSize Reader.integer)

def word (query : Source) (name : String) : Checked (Option String) :=
  query.withDefault name none fun value => (Reader.text value).map some

/-- The filter of a listing; only administrators may name a user. -/
def orderFilter (query : Source) (namesUser : Bool) : Checked OrderFilter :=
  (fun (number, size) status method paymentStatus orderNumber sort direction userId =>
    ⟨some number, some size, status, method, paymentStatus, orderNumber, sort, direction,
      userId⟩) <$>
    page query <*> word query "status" <*> word query "payment_method" <*>
    word query "payment_status" <*> word query "number" <*> word query "sort" <*>
    word query "direction" <*>
    (if namesUser then
      query.withDefault "user_id" none fun value => (Reader.integer value).map some
    else .valid none)

def pathId (name text : String) : Checked Int :=
  Source.read ⟨"path", []⟩ name Reader.integer (.text text)

end OrderDesk.Http.Schema
