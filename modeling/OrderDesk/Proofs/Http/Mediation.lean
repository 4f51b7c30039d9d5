import OrderDesk.Proofs.Http.Handler
import OrderDesk.Proofs.Http.Routing
import OrderDesk.Proofs.Order.Ownership

/-!
Complete mediation. No request changes a table unless it comes from a user who is there and active,
or from a gateway that has been verified; and what it changes is what its route and its sender
allow.
-/

namespace OrderDesk

theorem Orders.admin_some_eq_ok {user acting : User} :
    admin (some user) = .ok acting ↔ user = acting ∧ user.isAdmin = .ok true := by
  rw [admin]
  cases user.isAdmin with
  | error fault => exact ⟨nofun, nofun⟩
  | ok isAdmin =>
    cases isAdmin with
    | false => exact ⟨nofun, nofun⟩
    | true =>
      change Except.ok user = .ok acting ↔ _
      rw [Except.ok.injEq]
      exact (and_iff_left rfl).symm

theorem Security.gateSetting_store (context : Context) (desk : Desk) :
    (gateSetting.run context desk).2.store = desk.store := by
  rw [gateSetting, Service.run_bind, Service.run_read]
  dsimp only
  rw [Service.run_bind, Service.run_get]
  dsimp only
  rw [Cache.get]
  cases desk.gateCache.fresh? (lifetime context.settings.gateCacheSeconds) context.now.seconds with
  | some setting => rfl
  | none =>
    dsimp only
    rw [Service.run_bind, Service.run_bind, Service.run_query]
    cases loadGateSetting { context with deadlinePassed := false } desk.store <;> rfl

namespace Http

/-! ## Who stands behind a request -/

/-- The request carries a session token of a user who is there, and active. -/
structure Authenticated (surroundings : Surroundings) (request : Request) (context : Context)
    (store : Store) (user : User) : Prop where
  session : ∃ token identity, bearerToken? (request.lookup "authorization") = some token ∧
    Session.decode surroundings.suite.mac context.settings.sessionSecret context.now token =
      .ok identity ∧
    store.user? identity.userId = some user
  active : user.isActive = true

/-- The user has the role of an administrator, too. -/
structure Administrator (surroundings : Surroundings) (request : Request) (context : Context)
    (store : Store) (user : User) : Prop
    extends Authenticated surroundings request context store user where
  isAdmin : user.isAdmin = .ok true

/-- The gateway that has sent the request is an allowed peer, and what it proves covers the body
just as it has been received. -/
structure Verified (surroundings : Surroundings) (request : Request) (context : Context) :
    Prop where
  peer : (Webhook.Verifier.ofSettings context.settings).checkPeer
    (Webhook.clientAddress request.lookup request.client) = .ok ()
  body : (Webhook.Verifier.ofSettings context.settings).verify surroundings.suite.mac context.now
    request.lookup request.body = .ok ()

section

variable {surroundings : Surroundings} {request : Request} {context : Context} {store : Store}
  {desk after : Desk} {user : User}

theorem Authenticated.found
    (authenticated : Authenticated surroundings request context store user) :
    (some user.id).bind store.user? = some user := by
  rcases authenticated.session with ⟨token, identity, -, -, found⟩
  have same : user.id = identity.userId := by simpa using List.find?_some found
  rwa [same]

theorem harmless_caller (surroundings : Surroundings) (request : Request) :
    Handler.Harmless (caller surroundings request) := by
  refine .bind .read fun context => ?_
  cases bearerToken? (request.lookup "authorization") with
  | none => exact .refuse _
  | some token =>
    refine .bind (.lift _) fun identity => .bind (.query _) fun found => ?_
    cases found with
    | none => exact .refuse _
    | some user => exact .throw_ite (.bind (.lift _) fun _ => .pure _)

theorem caller_ok (ran : caller surroundings request context desk = (.ok user, after)) :
    Authenticated surroundings request context desk.store user := by
  rcases Handler.bind_eq_ok.mp ran with ⟨_, _, ⟨⟩, ran⟩
  cases carried : bearerToken? (request.lookup "authorization") with
  | none =>
    rw [carried] at ran
    cases ran
  | some token =>
    rw [carried] at ran
    rcases Handler.bind_eq_ok.mp ran with ⟨identity, _, lifted, ran⟩
    rcases Handler.lift_eq_ok.mp lifted with ⟨decoded, rfl⟩
    rcases Handler.bind_eq_ok.mp ran with ⟨found, _, queried, ran⟩
    rcases Service.run_query_eq_ok.mp (Handler.run_eq_ok.mp queried) with ⟨⟨_, looked⟩, rfl⟩
    rcases Work.user?_eq_ok.mp looked with ⟨-, known, -⟩
    cases found with
    | none => cases ran
    | some present =>
      dsimp only at ran
      rw [Handler.refuse_ite_eq_ok] at ran
      rcases ran with ⟨active, ran⟩
      rcases Handler.bind_eq_ok.mp ran with ⟨_, _, -, ran⟩
      rcases Handler.pure_eq_ok.mp ran with ⟨rfl, -⟩
      exact ⟨⟨token, identity, carried, decoded, known⟩, by simpa using active⟩

theorem admin_ok (ran : admin surroundings request context desk = (.ok user, after)) :
    Administrator surroundings request context desk.store user := by
  rcases Handler.bind_eq_ok.mp ran with ⟨present, between, called, ran⟩
  rcases Handler.lift_eq_ok.mp ran with ⟨acts, rfl⟩
  rcases Orders.admin_some_eq_ok.mp acts with ⟨rfl, isAdmin⟩
  exact { caller_ok called with isAdmin }

theorem verifiedBody_ok {bytes : Bytes}
    (ran : verifiedBody surroundings request context desk = (.ok bytes, after)) :
    bytes = request.body ∧ Verified surroundings request context := by
  rcases Handler.bind_eq_ok.mp ran with ⟨_, _, ⟨⟩, ran⟩
  rcases Handler.bind_eq_ok.mp ran with ⟨_, _, lifted, ran⟩
  rcases Handler.lift_eq_ok.mp lifted with ⟨peer, rfl⟩
  rcases Handler.bind_eq_ok.mp ran with ⟨_, _, lifted, ran⟩
  rcases Handler.lift_eq_ok.mp lifted with ⟨verified, rfl⟩
  rcases Handler.pure_eq_ok.mp ran with ⟨rfl, -⟩
  exact ⟨rfl, Failure.refusing_eq_ok.mp peer, verified⟩

theorem harmless_verifiedBody (surroundings : Surroundings) (request : Request) :
    Handler.Harmless (verifiedBody surroundings request) :=
  .bind .read fun _ => .bind (.lift _) fun _ => .bind (.lift _) fun _ => .pure _

theorem harmless_body (request : Request) : Handler.Harmless (body request) := by
  rw [body]
  split
  · exact .pure _
  · exact .throw _
  · exact .throw _

theorem harmless_consumeQuota (surroundings : Surroundings) (request : Request) :
    Handler.Harmless (consumeQuota surroundings request) := by
  refine .ite (.pure _) (.bind .read fun context => ?_)
  cases surroundings.countsFault with
  | none => exact .bind (fun _ _ => rfl) fun _ => .ite (.throw _) (.pure _)
  | some fault => exact .bind (fun _ _ => rfl) fun _ => .ite (.throw _) (.pure _)

theorem harmless_passGate (surroundings : Surroundings) (request : Request) :
    Handler.Harmless (passGate surroundings request) := by
  intro context desk
  rw [passGate, Handler.run_apply, Security.passGate, Service.run_bind]
  have same := Security.gateSetting_store context desk
  split
  · next setting between ran =>
    rw [ran] at same
    rw [Service.run_bind, Service.run_read]
    dsimp only
    rw [Service.run_lift]
    exact same
  · next ran =>
    rw [ran] at same
    exact same

end

/-! ## What requests may change -/

/-- Which operation a route performs for a request, and on what authority. -/
inductive Permitted (surroundings : Surroundings) (request : Request) (context : Context)
    (store : Store) : Route → Operation → Prop
  | create {user : User} {order : OrderRequest}
      (caller : Authenticated surroundings request context store user) :
      Permitted surroundings request context store .createOrder (.create (some user.id) order)
  | cancel {user : User} {text : String} {orderId : Int} {reason : Option String}
      (caller : Authenticated surroundings request context store user) :
      Permitted surroundings request context store (.cancelOrder text)
        (.cancel (some user.id) orderId reason)
  | markPaid {user : User} {text : String} {orderId : Int} {notice : PaidNotice}
      (admin : Administrator surroundings request context store user) :
      Permitted surroundings request context store (.adminPayOrder text)
        (.markPaid (some user.id) orderId notice)
  | cancelAsAdmin {user : User} {text : String} {orderId : Int} {reason : Option String}
      {cancelledAt : Option Int}
      (admin : Administrator surroundings request context store user) :
      Permitted surroundings request context store (.adminCancelOrder text)
        (.cancelAsAdmin (some user.id) orderId reason cancelledAt)
  | refund {user : User} {text : String} {orderId : Int} {refund : RefundRequest}
      (admin : Administrator surroundings request context store user) :
      Permitted surroundings request context store (.adminRefundOrder text)
        (.refund (some user.id) orderId refund)
  | readSecurity {user : User}
      (admin : Administrator surroundings request context store user) :
      Permitted surroundings request context store .readSecurity .securitySetting
  | updateSecurity {user : User} {patch : SecurityPatch}
      (admin : Administrator surroundings request context store user) :
      Permitted surroundings request context store .updateSecurity (.updateSecurity patch)
  | paymentCallback {result : PaymentResult} (verified : Verified surroundings request context)
      (read : paymentResult request.body = .ok result) :
      Permitted surroundings request context store .paymentCallback (.receiveResult result)

/-- A permitted operation has committed a change to the store. -/
def Sanctioned (surroundings : Surroundings) (request : Request) (context : Context)
    (route : Route) (store after : Store) : Prop :=
  ∃ operation last, Permitted surroundings request context store route operation ∧
    operation.Committed context last store after

section

variable {surroundings : Surroundings} {request : Request} {context : Context} {store : Store}

theorem caller_bind_commits {next : User → Handler Response} {Committed : Store → Prop}
    (rest : ∀ user, Authenticated surroundings request context store user →
      Handler.Commits (next user) context store Committed) :
    Handler.Commits (caller surroundings request >>= next) context store Committed := by
  refine (harmless_caller surroundings request).bind_commits fun user found => ?_
  rcases found with ⟨desk, after, rfl, ran⟩
  exact rest user (caller_ok ran)

theorem harmless_admin (surroundings : Surroundings) (request : Request) :
    Handler.Harmless (admin surroundings request) :=
  .bind (harmless_caller surroundings request) fun _ => .lift _

theorem admin_bind_commits {next : User → Handler Response} {Committed : Store → Prop}
    (rest : ∀ user, Administrator surroundings request context store user →
      Handler.Commits (next user) context store Committed) :
    Handler.Commits (admin surroundings request >>= next) context store Committed := by
  refine (harmless_admin surroundings request).bind_commits fun user found => ?_
  rcases found with ⟨desk, after, rfl, ran⟩
  exact rest user (admin_ok ran)

theorem answer_run_commits {α : Type} {service : Service α} {written : α → Response}
    {Committed : Store → Prop}
    (commits : ∀ desk : Desk, desk.store = store → service.Commits context desk Committed) :
    Handler.Commits (Handler.run service >>= fun value => pure (written value)) context store
      Committed :=
  (Handler.commits_run commits).bind_harmless fun _ => .pure _

theorem checked_bind_commits {α β : Type} {result : Checked α} {service : α → Service β}
    {written : β → Response} {Committed : Store → Prop}
    (commits : ∀ asked (desk : Desk), desk.store = store →
      (service asked).Commits context desk Committed) :
    Handler.Commits (Handler.checked result >>= fun asked => Handler.run (service asked) >>=
      fun value => pure (written value)) context store Committed :=
  (Handler.Harmless.checked result).bind_commits fun asked _ => answer_run_commits (commits asked)

theorem admin_asks_commits {α β : Type} {result : Body → Checked α}
    {service : User → α → Service β} {written : β → Response} {Committed : Store → Prop}
    (commits : ∀ user asked (desk : Desk), desk.store = store →
      Administrator surroundings request context store user →
      (service user asked).Commits context desk Committed) :
    Handler.Commits (body request >>= fun body => admin surroundings request >>= fun user =>
      Handler.checked (result body) >>= fun asked => Handler.run (service user asked) >>=
      fun value => pure (written value)) context store Committed := by
  refine (harmless_body request).bind_commits fun body _ => ?_
  refine admin_bind_commits fun user admin => ?_
  exact checked_bind_commits fun asked desk same => commits user asked desk same admin

theorem answer_commits (route : Route) :
    Handler.Commits (answer surroundings request route) context store
      (Sanctioned surroundings request context route store) := by
  cases route with
  | health | ready | live | root => exact (Handler.Harmless.pure _).commits
  | metrics => exact (Handler.Harmless.bind (fun _ _ => rfl) fun _ => .pure _).commits
  | createOrder =>
    refine (harmless_body request).bind_commits fun body _ => ?_
    refine (harmless_consumeQuota surroundings request).bind_commits fun _ _ => ?_
    refine caller_bind_commits fun user caller => ?_
    refine checked_bind_commits ?_
    rintro order desk rfl
    refine (Orders.create_atomic _ order).commits fun receipt after ordered => ?_
    rw [← caller.found] at ordered
    exact ⟨_, _, .create caller, .created ordered⟩
  | cancelOrder text =>
    refine (harmless_body request).bind_commits fun body _ => ?_
    refine caller_bind_commits fun user caller => ?_
    refine checked_bind_commits ?_
    rintro asked desk rfl
    refine (Orders.cancel_commits _ asked.2).mono ?_
    rintro after ⟨result, cancelling, owner⟩
    rw [← caller.found] at owner
    exact ⟨.cancel _ _ asked.2, desk.lastNumber, .cancel caller, .cancelled cancelling owner⟩
  | listOrders =>
    refine caller_bind_commits fun user _ => ?_
    exact checked_bind_commits fun filter _ _ => (Orders.quiet_list _ filter).commits
  | getOrder text =>
    refine caller_bind_commits fun user _ => ?_
    exact checked_bind_commits fun id _ _ => (Orders.quiet_get _ id).commits
  | accountBalance =>
    refine caller_bind_commits fun user _ => ?_
    exact checked_bind_commits fun asked _ _ => (Wallet.quiet_account user.id _ _ asked.2).commits
  | adminListOrders =>
    refine admin_bind_commits fun user _ => ?_
    exact checked_bind_commits fun filter _ _ => (Orders.quiet_listAsAdmin _ filter).commits
  | adminGetOrder text =>
    refine admin_bind_commits fun user _ => ?_
    exact checked_bind_commits fun id _ _ => (Orders.quiet_getAsAdmin _ id).commits
  | adminPayOrder text =>
    refine admin_asks_commits ?_
    rintro user asked desk rfl admin
    refine (Orders.markPaid_commits _ asked.2).mono ?_
    rintro after ⟨result, acting, method, acts, supported, settling⟩
    rw [← admin.found] at acts
    exact ⟨.markPaid _ _ asked.2, desk.lastNumber, .markPaid admin,
      .settled acts supported settling⟩
  | adminCancelOrder text =>
    refine admin_asks_commits ?_
    rintro user asked desk rfl admin
    refine (Orders.cancelAsAdmin_commits _ asked.2.1 asked.2.2).mono ?_
    rintro after ⟨result, cancelling, acts⟩
    rw [← admin.found] at acts
    exact ⟨.cancelAsAdmin _ _ asked.2.1 asked.2.2, desk.lastNumber, .cancelAsAdmin admin,
      .cancelledByAdmin cancelling acts⟩
  | adminRefundOrder text =>
    refine admin_asks_commits ?_
    rintro user asked desk rfl admin
    refine (Orders.refund_commits _ asked.2).mono ?_
    rintro after ⟨result, acting, order, posted, between, acts, crediting, ending, rfl⟩
    rw [← admin.found] at acts
    exact ⟨.refund _ _ asked.2, desk.lastNumber, .refund admin, .refunded acts crediting ending⟩
  | readSecurity =>
    refine admin_bind_commits fun user admin => ?_
    refine answer_run_commits ?_
    rintro desk rfl
    refine Security.setting_commits.mono ?_
    rintro after ⟨settings, rfl⟩
    exact ⟨_, desk.lastNumber, .readSecurity admin, .opened⟩
  | updateSecurity =>
    refine admin_asks_commits ?_
    rintro user patch desk rfl admin
    refine (Security.update_commits patch).mono ?_
    rintro after ⟨settings, rfl⟩
    exact ⟨.updateSecurity patch, desk.lastNumber, .updateSecurity admin, .patched⟩
  | paymentCallback =>
    refine (harmless_verifiedBody surroundings request).bind_commits fun bytes found => ?_
    rcases found with ⟨_, _, -, ran⟩
    rcases verifiedBody_ok ran with ⟨rfl, verified⟩
    refine (Handler.Harmless.lift _).bind_commits fun result found => ?_
    rcases found with ⟨_, _, -, ran⟩
    have read := Failure.refusing_eq_ok.mp (Handler.lift_eq_ok.mp ran).1
    refine answer_run_commits ?_
    rintro desk rfl
    refine (Orders.receiveResult_commits result).mono ?_
    rintro after ⟨order, report, reported, reporting⟩
    exact ⟨_, desk.lastNumber, .paymentCallback verified read, .reported reported reporting⟩
  | partnerOrder text =>
    refine (harmless_passGate surroundings request).bind_commits fun _ _ => ?_
    refine (Handler.Harmless.checked _).bind_commits fun id _ => ?_
    refine (Handler.Harmless.query _).bind_commits fun order _ => ?_
    exact answer_run_commits fun _ _ => (Service.Quiet.query _).commits
  | partnerBalance text =>
    refine (harmless_passGate surroundings request).bind_commits fun _ _ => ?_
    exact checked_bind_commits fun id _ _ => (Service.Quiet.query _).commits

end

/-! ## Runs -/

structure Exchange where
  surroundings : Surroundings
  request : Request
  context : Context

def Exchange.after (exchange : Exchange) (desk : Desk) : Desk :=
  (respond exchange.surroundings exchange.request exchange.context desk).2

/-- What happens to a desk: requests are answered, and there is what does not come in by requests.
-/
inductive Happening
  | exchanged (exchange : Exchange)
  | occurred (event : Event)

def Happening.after (desk : Desk) : Happening → Desk
  | exchanged exchange => exchange.after desk
  | occurred event => desk.afterEvent event

def afterHappenings (desk : Desk) (happenings : List Happening) : Desk :=
  happenings.foldl Happening.after desk

def readingAreas : List String := ["/thirdparty", "/health", "/metrics", "/account"]

def changingAreas : List String := ["/orders", "/admin", "/payments"]

namespace Request

def IsTo (request : Request) (route : Route) : Prop :=
  Route.resolve request.method request.target.path = .found route

def ReadsOnly (request : Request) : Prop :=
  request.method = "GET" ∧ ¬request.IsTo .readSecurity ∨ request.target.path = "/" ∨
    ∃ area ∈ readingAreas, area.toList <+: request.target.path.toList

end Request

/-- A change that a request has brought about is one that its sender may make: a user changes rows
of that user only, an administrator acts where administrators do, and a gateway reports on
payments. -/
inductive Mediated (exchange : Exchange) (before after : Store) : Prop
  | byUser {user : User}
      (caller : Authenticated exchange.surroundings exchange.request exchange.context before user)
      (route : exchange.request.IsTo .createOrder ∨ ∃ id, exchange.request.IsTo (.cancelOrder id))
      (own : before.SameBut user.id after)
  | byAdmin {user : User} {route : Route}
      (admin : Administrator exchange.surroundings exchange.request exchange.context before user)
      (route_eq : exchange.request.IsTo route) (area : "/admin".toList <+: route.path)
  | byGateway (verified : Verified exchange.surroundings exchange.request exchange.context)
      (route : exchange.request.IsTo .paymentCallback)
      (collected : after = { before with
        orders := after.orders, orderPayments := after.orderPayments })

section

variable {surroundings : Surroundings} {request : Request} {context : Context}
  {store after : Store} {route : Route} {operation : Operation} {last : Int}

theorem Permitted.area (permitted : Permitted surroundings request context store route operation) :
    ∃ area ∈ changingAreas, area.toList <+: route.path := by
  cases permitted with
  | create | cancel => exact ⟨"/orders", by decide, Route.prefix_path rfl (by decide)⟩
  | markPaid | cancelAsAdmin | refund | readSecurity | updateSecurity =>
    exact ⟨"/admin", by decide, Route.prefix_path rfl (by decide)⟩
  | paymentCallback => exact ⟨"/payments", by decide, Route.prefix_path rfl (by decide)⟩

theorem Permitted.of_get (permitted : Permitted surroundings request context store route operation)
    (asked : route.method = "GET") : route = .readSecurity := by
  cases permitted with
  | readSecurity => rfl
  | _ => simp [Route.method] at asked

end

theorem respond_commits (surroundings : Surroundings) (request : Request) (context : Context)
    (desk : Desk) :
    (respond surroundings request context desk).2.store = desk.store ∨
      ∃ route, request.IsTo route ∧ Sanctioned surroundings request context route desk.store
        (respond surroundings request context desk).2.store := by
  rw [respond]
  split
  · next route found =>
    have commits : Handler.Commits (answer surroundings request route) context desk.store _ :=
      answer_commits route
    have changed := commits desk rfl
    generalize answer surroundings request route context desk = outcome at changed ⊢
    -- An answer and a problem both leave the desk that the route has left.
    rcases outcome with ⟨_ | _, after⟩
    all_goals exact changed.imp_right fun sanctioned => ⟨route, found, sanctioned⟩
  all_goals exact .inl rfl

/-- A request that only reads is answered by none of the routes that may change anything. -/
theorem Request.ReadsOnly.not_permitted {request : Request} (reads : request.ReadsOnly)
    {surroundings : Surroundings} {context : Context} {store : Store} {route : Route}
    {operation : Operation} (answered : request.IsTo route)
    (permitted : Permitted surroundings request context store route operation) : False := by
  rcases Route.of_resolve_found answered with ⟨asked, spelled⟩
  rcases permitted.area with ⟨area, changing, here⟩
  have inside : area.toList <+: request.target.path.toList := by
    rcases spelled with spelled | spelled
    · exact spelled ▸ here
    · exact spelled ▸ here.trans (List.prefix_append _ _)
  rcases reads with ⟨get, other⟩ | root | ⟨quiet, reading, there⟩
  · rcases permitted.of_get (asked.symm.trans get) with rfl
    exact other answered
  · have apart : ∀ area ∈ changingAreas, ¬area.toList <+: "/".toList := by decide
    exact apart area changing (root ▸ inside)
  · have apart : ∀ area ∈ changingAreas, ∀ quiet ∈ readingAreas,
        ¬area.toList <+: quiet.toList ∧ ¬quiet.toList <+: area.toList := by decide
    rcases List.prefix_or_prefix_of_prefix inside there with nested | nested
    · exact (apart area changing quiet reading).1 nested
    · exact (apart area changing quiet reading).2 nested

theorem Permitted.mediated {exchange : Exchange} {store after : Store} {route : Route}
    {operation : Operation} {last : Int}
    (permitted : Permitted exchange.surroundings exchange.request exchange.context store route
      operation)
    (answered : exchange.request.IsTo route)
    (committed : operation.Committed exchange.context last store after)
    (distinct : store.OrdersDistinct) : Mediated exchange store after := by
  cases permitted with
  | create caller =>
    exact .byUser caller (.inl answered) (committed.sameBut (.create _) distinct)
  | cancel caller =>
    exact .byUser caller (.inr ⟨_, answered⟩) (committed.sameBut (.cancel _ _) distinct)
  | markPaid admin | cancelAsAdmin admin | refund admin | readSecurity admin
  | updateSecurity admin =>
    exact .byAdmin admin answered (Route.prefix_path rfl (by decide))
  | paymentCallback verified =>
    cases committed with
    | reported read reporting =>
      rcases reporting.delivered with ⟨order, payment, delivered⟩
      exact .byGateway verified answered delivered.others_eq

theorem afterHappenings_ordersDistinct {start : Desk} (distinct : start.store.OrdersDistinct)
    (happenings : List Happening) : (afterHappenings start happenings).store.OrdersDistinct := by
  induction happenings generalizing start with
  | nil => exact distinct
  | cons happening rest induction =>
    refine induction ?_
    cases happening with
    | exchanged exchange =>
      rcases respond_commits exchange.surroundings exchange.request exchange.context start with
        same | ⟨route, -, operation, last, -, committed⟩
      · exact same ▸ distinct
      · exact committed.ordersDistinct distinct
    | occurred event => exact (start.afterEvents_grows distinct [event]).1

/-- Wherever requests and other events have led, no request changes a table but as its sender may;
and one that only reads changes none. -/
theorem completely_mediated {start : Desk} (distinct : start.store.OrdersDistinct)
    (happenings : List Happening) (exchange : Exchange) :
    let before := afterHappenings start happenings
    ((exchange.after before).store = before.store ∨
        Mediated exchange before.store (exchange.after before).store) ∧
      (exchange.request.ReadsOnly → (exchange.after before).store = before.store) := by
  intro before
  have changed := respond_commits exchange.surroundings exchange.request exchange.context before
  constructor
  · refine changed.imp_right ?_
    rintro ⟨route, answered, operation, last, permitted, committed⟩
    exact permitted.mediated answered committed (afterHappenings_ordersDistinct distinct happenings)
  · rcases changed with same | ⟨route, answered, operation, last, permitted, -⟩
    · exact fun _ => same
    · exact fun reads => (reads.not_permitted answered permitted).elim

def sampleToken : String :=
  "eyJhbGciOiJIUzI1NiIsInR5cCI6IkpXVCJ9." ++
    "eyJzdWIiOiIxIiwidHlwZSI6InpucF9zZXNzaW9uIiwiaWF0Ijo0MCwiZXhwIjo4NjQ0MH0." ++
    "D9OFnpRmyq_4V5ll5KsWaJqtCQWE2CbKSiL-47_EKJE"

def sampleCancelling : Exchange where
  surroundings := {}
  request := {
    method := "POST"
    target := ⟨"/orders/1/cancel", ""⟩
    headers := [("authorization", "Bearer " ++ sampleToken)] }
  context := { now := .ofSeconds 41 }

def sampleProbing : Exchange :=
  { sampleCancelling with request := { method := "GET", target := ⟨"/thirdparty/orders/1", ""⟩ } }

theorem sample_completely_mediated :
    let before := afterHappenings Desk.sample [.occurred (.edited Desk.sample.store.users [])]
    (sampleCancelling.after before).store.orders.map (·.status) = [.cancelled] ∧
      Mediated sampleCancelling before.store (sampleCancelling.after before).store ∧
      (sampleProbing.after before).store = before.store := by
  intro before
  have cancelled : (sampleCancelling.after before).store.orders.map (·.status) = [.cancelled] := by
    decide +kernel
  have pending : before.store.orders.map (·.status) = [.pending] := rfl
  have cancelling := (@completely_mediated Desk.sample (by decide)
    [.occurred (.edited Desk.sample.store.users [])] sampleCancelling).1
  have probing := (@completely_mediated Desk.sample (by decide)
    [.occurred (.edited Desk.sample.store.users [])] sampleProbing).2
  refine ⟨cancelled, cancelling.resolve_left fun same => ?_,
    probing (.inr (.inr ⟨"/thirdparty", by decide, by decide⟩))⟩
  change (sampleCancelling.after before).store = before.store at same
  rw [same, pending] at cancelled
  cases cancelled

end Http

end OrderDesk
