import OrderDesk.Digest
import OrderDesk.Http.Route
import OrderDesk.Http.Schema
import OrderDesk.Metrics.Exposition
import OrderDesk.Order.View
import OrderDesk.Security.Update
import OrderDesk.Session.Identity
import OrderDesk.Webhook.Verifier

/-!
Answering requests. A body that is no JSON is refused first; then come quotas, identity and
signatures, in the order in which a route asks for them; only then are all fields checked, and all
that is wrong with them is reported together.
-/

namespace OrderDesk.Http

structure Surroundings where
  suite : CipherSuite := .standard
  /-- Why the database cannot be reached, if it cannot. -/
  databaseFault : Option String := none
  /-- Why the store of shared counts cannot be reached, if it cannot. -/
  countsFault : Option String := some "unavailable"
  /-- Whether quotas are enforced. -/
  limited : Bool := true

inductive Problem
  | failed (failure : Failure)
  | quotaExceeded (quota : String)
  | invalid (issues : List Issue)
  | unreadableBody

namespace Problem

/-- A report is written only if every value in it can be. -/
def response : Problem → Response
  | failed (.refused refusal) => .detail refusal.kind.status refusal.message
  | failed (.broken _) => .failed
  | quotaExceeded quota => .detail 429 (RateLimit.refusalText quota)
  | invalid issues =>
    if issues.all (·.isSendable) then .json 422 (.list (issues.map Issue.json)) else .failed
  | unreadableBody => .detail 400 "There was an error parsing the body"

end Problem

abbrev Handler := ReaderT Context (ExceptT Problem (StateM Desk))

namespace Handler

variable {α : Type}

def run (service : Service α) : Handler α := fun context => ExceptT.mk do
  match ← (service context).run with
  | .ok value => return .ok value
  | .error failure => return .error (.failed failure)

def refuse (refusal : Refusal) : Handler α :=
  throw (.failed (.refused refusal))

def lift (result : Except Failure α) : Handler α :=
  run (Service.lift result)

def checked (result : Checked α) : Handler α :=
  match result with
  | .valid value => return value
  | .invalid issues => throw (.invalid issues)

end Handler

/-! ## Quotas, identity and signatures -/

def orderQuota : String := "order_create"

/-- Counts a request against the quota of its client, in the shared store if that can be
reached. -/
def consumeQuota (surroundings : Surroundings) (request : Request) : Handler Unit := do
  if !surroundings.limited then return ()
  let context ← read
  let client := RateLimit.client (request.lookup "authorization") request.client
    (request.lookup "x-forwarded-for")
  let key := RateLimit.key orderQuota client
  let limit := context.settings.orderRateLimit
  let allowed ← match surroundings.countsFault with
    | none => modifyGet fun desk =>
      let (count, sharedCounts) := RateLimit.countShared key desk.sharedCounts
      (decide (count ≤ limit), { desk with sharedCounts })
    | some _ => modifyGet fun desk =>
      let (allowed, quotas) := RateLimit.consume limit
        (.ofInt context.settings.orderRateWindowSeconds) context.now.seconds key desk.quotas
      (allowed, { desk with quotas })
  if !allowed then throw (.quotaExceeded orderQuota)

def bearerToken? (header : Option String) : Option String := do
  let text := (← header).toList
  let scheme := String.ofList (text.takeWhile (· != ' '))
  let token := Text.trim (String.ofList (text.drop (scheme.length + 1)))
  if token ≠ "" ∧ Text.lower scheme = "bearer" then some token else none

/-- The user in whose name a request comes: an active one who is known and has roles that can be
named, whatever the token says about them. -/
def caller (surroundings : Surroundings) (request : Request) : Handler User := do
  let context ← read
  let some token := bearerToken? (request.lookup "authorization")
    | Handler.refuse .missingSession
  let identity ← Handler.lift <|
    Session.decode surroundings.suite.mac context.settings.sessionSecret context.now token
  let some user ← Handler.run (Service.query (Work.user? identity.userId))
    | Handler.refuse .sessionUserGone
  if !user.isActive then Handler.refuse .accountDisabled
  let _ ← Handler.lift (Failure.breaking (User.roleNames user.roles))
  return user

def admin (surroundings : Surroundings) (request : Request) : Handler User := do
  Handler.lift (Orders.admin (some (← caller surroundings request)))

def passGate (surroundings : Surroundings) (request : Request) : Handler Bytes :=
  let target := request.target.resplit
  Handler.run <| Security.passGate surroundings.suite {
    method := request.method
    path := target.path
    rawQuery := target.query
    headers := request.lookup
    body := request.body }

def verifiedBody (surroundings : Surroundings) (request : Request) : Handler Bytes := do
  let context ← read
  let verifier := Webhook.Verifier.ofSettings context.settings
  Handler.lift <| Failure.refusing <|
    verifier.checkPeer (Webhook.clientAddress request.lookup request.client)
  Handler.lift <|
    verifier.verify surroundings.suite.mac context.now request.lookup request.body
  return request.body

/-! ## Answers -/

def body (request : Request) : Handler Body :=
  match Body.ofRequest request with
  | .ok body => return body
  | .error (.malformed offset) =>
    throw (.invalid [.ofInput [Body.place, .int offset] .jsonInvalid .null])
  | .error .unreadable => throw .unreadableBody

/-- How the body of a callback is read: in UTF-8, without halves of surrogate pairs, and with a
limit to the nesting of lists and objects that are not empty. -/
def callbackReading : Json.Reading where
  maxDepth := some 200
  countsEmpty := false
  allowsHalves := false

/-- The result that a gateway reports in a verified body; an empty body reports nothing. -/
def paymentResult (bytes : Bytes) : Except Refusal PaymentResult :=
  let text := if bytes.isEmpty then some "\x7b\x7d" else Bytes.toText? bytes
  match text.map (Json.parse · callbackReading) with
  | some (.ok (.object fields)) =>
    match Schema.paymentResult (Body.source fields) with
    | .valid result => .ok result
    | .invalid _ => .error .invalidCallbackBody
  | _ => .error .invalidCallbackBody

def faultText : Option String → String
  | none => "up"
  | some fault => "down: " ++ fault

def health (surroundings : Surroundings) : Response :=
  let isHealthy := surroundings.databaseFault.isNone && surroundings.countsFault.isNone
  .json 200 <| .object [
    ("status", .text (if isHealthy then "healthy" else "degraded")),
    ("api", .text "up"),
    ("database", .text (faultText surroundings.databaseFault)),
    ("redis", .text (faultText surroundings.countsFault))]

def readiness (surroundings : Surroundings) : Response :=
  match surroundings.databaseFault with
  | none => .json 200 (.object [("ready", .bool true)])
  | some _ => .json 503 <| .object [
    ("ready", .bool false), ("database", .text (faultText surroundings.databaseFault))]

def rootDocument : Json := .object [
  ("name", .text "Zero Network Panel API"),
  ("version", .text "0.1.0"),
  ("status", .text "running")]

def ok (value : Json) : Response :=
  .json 200 value

def answer (surroundings : Surroundings) (request : Request) : Route → Handler Response
  | .health => return health surroundings
  | .ready => return readiness surroundings
  | .live => return ok (.object [("alive", .bool true)])
  | .createOrder => do
    let body ← body request
    consumeQuota surroundings request
    let user ← caller surroundings request
    let order ← Handler.checked (body.required Schema.createOrder)
    return ok (← Handler.run (Orders.create (some user) order)).json
  | .listOrders => do
    let user ← caller surroundings request
    let filter ← Handler.checked (Schema.orderFilter request.query false)
    return ok ((← Handler.run (Orders.list (some user) filter)).json OrderDetail.json)
  | .getOrder id => do
    let user ← caller surroundings request
    let id ← Handler.checked (Schema.pathId "order_id" id)
    return ok (← Handler.run (Orders.get (some user) id)).json
  | .cancelOrder id => do
    let body ← body request
    let user ← caller surroundings request
    let (id, reason) ← Handler.checked
      (.both (Schema.pathId "order_id" id) (body.optional none Schema.cancelReason))
    return ok (← Handler.run (Orders.cancel (some user) id reason)).json
  | .accountBalance => do
    let user ← caller surroundings request
    let ((number, size), kind) ← Handler.checked
      (.both (Schema.page request.query) (Schema.word request.query "type"))
    return ok (← Handler.run (Wallet.account user.id (some number) (some size) kind)).json
  | .adminListOrders => do
    let user ← admin surroundings request
    let filter ← Handler.checked (Schema.orderFilter request.query true)
    return ok ((← Handler.run (Orders.listAsAdmin (some user) filter)).json AdminOrderDetail.json)
  | .adminGetOrder id => do
    let user ← admin surroundings request
    let id ← Handler.checked (Schema.pathId "order_id" id)
    return ok (← Handler.run (Orders.getAsAdmin (some user) id)).reply
  | .adminPayOrder id => do
    let body ← body request
    let user ← admin surroundings request
    let (id, notice) ← Handler.checked
      (.both (Schema.pathId "order_id" id) (body.optional {} Schema.markPaid))
    return ok (← Handler.run (Orders.markPaid (some user) id notice)).reply
  | .adminCancelOrder id => do
    let body ← body request
    let user ← admin surroundings request
    let (id, reason, cancelledAt) ← Handler.checked
      (.both (Schema.pathId "order_id" id) (body.optional (none, none) Schema.adminCancel))
    return ok (← Handler.run (Orders.cancelAsAdmin (some user) id reason cancelledAt)).reply
  | .adminRefundOrder id => do
    let body ← body request
    let user ← admin surroundings request
    let (id, refund) ← Handler.checked
      (.both (Schema.pathId "order_id" id) (body.required Schema.refund))
    return ok (← Handler.run (Orders.refund (some user) id refund)).reply
  | .readSecurity => do
    let _ ← admin surroundings request
    return ok (.object [("setting", (← Handler.run Security.setting).json)])
  | .updateSecurity => do
    let body ← body request
    let _ ← admin surroundings request
    let patch ← Handler.checked (body.required Schema.securityPatch)
    return ok (.object [("setting", (← Handler.run (Security.update patch)).json)])
  | .paymentCallback => do
    let bytes ← verifiedBody surroundings request
    let result ← Handler.lift (Failure.refusing (paymentResult bytes))
    return ok (← Handler.run (Orders.receiveResult result)).reply
  | .partnerOrder id => do
    let _ ← passGate surroundings request
    let id ← Handler.checked (Schema.pathId "order_id" id)
    let order ← Handler.run (Service.query (Work.order id))
    return ok (← Handler.run (Service.query (Work.adminDetail order))).reply
  | .partnerBalance id => do
    let _ ← passGate surroundings request
    let id ← Handler.checked (Schema.pathId "user_id" id)
    return ok (.object [("balance", (← Handler.run (Service.query (Work.balance id))).json)])
  | .metrics => return ⟨200, .text (← get).metrics.exposition⟩
  | .root => return ok rootDocument

def respond (surroundings : Surroundings) (request : Request) (context : Context) (desk : Desk) :
    Response × Desk :=
  match Route.resolve request.method request.target.path with
  | .found route =>
    match answer surroundings request route context desk with
    | (.ok response, desk) => (response, desk)
    | (.error problem, desk) => (problem.response, desk)
  | .otherMethod => (.detail 405 "Method Not Allowed", desk)
  | .redirected => (⟨307, .text ""⟩, desk)
  | .unknown => (.detail 404 "Not Found", desk)

end OrderDesk.Http
