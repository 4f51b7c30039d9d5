import OrderDesk.Proofs.Desk.Soundness
import OrderDesk.Proofs.Http.Mediation
import OrderDesk.Proofs.Order.Reading

/-!
Answers agree with each other. What a user is told about a new order is what the user, an
administrator or a partner reads of it from then on, and what listings and the account show.
-/

namespace OrderDesk

/-! ## What always holds of the rows -/

/-- All tables are there, rows are filed under orders that are there, no two orders share an id, and
keys are bound to orders of the users whose keys they are. -/
structure Store.Tidy (store : Store) : Prop extends store.Intact, store.Filed where
  distinct : store.OrdersDistinct
  owned : store.KeysOwned
  fit : store.KeysFit

namespace Store.Tidy

variable {store : Store} (tidy : store.Tidy)

include tidy

theorem committed {context : Context} {last : Int} {after : Store} {operation : Operation}
    (committed : operation.Committed context last store after) : after.Tidy where
  toIntact := committed.intact tidy.toIntact
  toFiled := committed.filed tidy.toFiled
  distinct := committed.ordersDistinct tidy.distinct
  owned := committed.keysOwned tidy.distinct tidy.owned
  fit := committed.keyBindings.keysFit tidy.fit

theorem received {order : Order} (owner : fitsColumn order.userId = true) :
    (store.receive order).Tidy where
  complete := tidy.complete
  owners := by
    rw [receive, List.forall_mem_append, List.forall_mem_singleton]
    exact ⟨tidy.owners, owner⟩
  toFiled := tidy.toFiled.received
  distinct := tidy.distinct.received
  owned := tidy.owned.received
  fit := tidy.fit

theorem order?_of_mem {order : Order} (member : order ∈ store.orders) :
    store.order? order.id = some order :=
  find?_of_mem tidy.distinct member

end Store.Tidy

namespace Desk

theorem after_tidy {desk : Desk} (tidy : desk.store.Tidy) (call : Call) :
    (desk.after call).store.Tidy := by
  rcases desk.after_commits call with same | committed
  · rwa [same]
  · exact tidy.committed committed

theorem users_after {desk : Desk} (call : Call) :
    (desk.after call).store.users = desk.store.users := by
  rcases desk.after_commits call with same | committed
  · rw [same]
  · exact committed.users_eq

theorem afterEvents_tidy {desk : Desk} (tidy : desk.store.Tidy) {events : List Event}
    (owners : ∀ order, .received order ∈ events → Store.fitsColumn order.userId = true) :
    (desk.afterEvents events).store.Tidy := by
  apply afterEvents_induction Store.Tidy tidy
  · intro _ _ _ _ _ tidy committed
    exact tidy.committed committed
  · intro store users plans tidy
    exact { tidy with }
  · intro store order given tidy
    exact tidy.received (owners order given)

/-! ## Answers that agree -/

def Answers (desk : Desk) (context : Context) (operation : Operation) (reply : Reply) : Prop :=
  (operation.perform.run context desk).1 = .ok reply

/-- What is shown of an order is all that belongs to it, and the same wherever the order is shown
alone. It is shown alone to its user and to administrators, if its id fits a column. -/
structure Tells (desk : Desk) (detail : OrderDetail) : Prop where
  rows : desk.store.Shows detail
  own : ∀ context callerId receipt,
    desk.Answers context (.getOrder callerId detail.order.id) (.receipt receipt) →
      receipt.order = detail
  administered : ∀ context actorId order,
    desk.Answers context (.getAsAdmin actorId detail.order.id) (.order order) →
      order.detail = detail
  shown : ∀ context (user : User), Store.fitsColumn detail.order.id = true →
    Store.fitsColumn user.id = true → desk.store.user? user.id = some user →
      detail.order.userId = user.id →
        ∃ receipt, desk.Answers context (.getOrder (some user.id) detail.order.id)
          (.receipt receipt)
  shownToAdmins : ∀ context actorId admin, Store.fitsColumn detail.order.id = true →
    Store.fitsColumn actorId = true → Orders.admin (desk.store.user? actorId) = .ok admin →
      ∃ order, desk.Answers context (.getAsAdmin (some actorId) detail.order.id) (.order order)

/-- What a user has, and an administrator may list, is shown on every page that can be asked for. -/
structure Readable (desk : Desk) (userId : Int) : Prop where
  listed : ∀ (context : Context) (filter : OrderFilter), filter.Fits →
    desk.Answers context (.listOrders (some userId) filter)
      (.orders (desk.store.listing { filter with userId := some userId }))
  listedForAdmins : ∀ context actorId admin filter, Store.fitsColumn actorId = true →
    Orders.admin (desk.store.user? actorId) = .ok admin → filter.Fits →
      (∀ id ∈ filter.userId, Store.fitsColumn id = true) →
        desk.Answers context (.listAsAdmin (some actorId) filter)
          (.adminOrders (desk.store.adminListing filter))
  account : ∀ context number size kind, (Page.ofRequest number size).Fits →
    desk.Answers context (.account userId number size kind)
      (.account (desk.store.account context userId (.ofRequest number size) kind))

/-- Whoever reads what a receipt for a user is about finds it as the receipt says. -/
structure Confirms (desk : Desk) (userId : Int) (settings : Settings) (receipt : Receipt) :
    Prop where
  own : ∀ context, context.settings = settings →
    desk.Answers context (.getOrder (some userId) receipt.order.order.id)
      (.receipt { receipt with transaction := none })
  administered : ∀ context actorId admin, Store.fitsColumn actorId = true →
    Orders.admin (desk.store.user? actorId) = .ok admin →
      ∃ user, desk.Answers context (.getAsAdmin (some actorId) receipt.order.order.id)
        (.order ⟨receipt.order, user⟩)
  partnered : ∀ surroundings request context text body between,
    Http.passGate surroundings request context desk = (.ok body, between) →
      Http.Schema.pathId "order_id" text = .valid receipt.order.order.id →
        ∃ user, Http.answer surroundings request (.partnerOrder text) context desk =
          (.ok (Http.ok (AdminOrderDetail.reply ⟨receipt.order, user⟩)), between)
  listed : ∀ (context : Context) (filter : OrderFilter),
    Listed (·.order.id) receipt.order
      ({ filter with userId := none }.admits receipt.order.order = true) desk.store.orders.length
      fun number entries => ∃ listing, listing.entries = entries ∧
        desk.Answers context (.listOrders (some userId) { filter with page := number })
          (.orders listing)
  listedForAdmins : ∀ (context : Context) (actorId : Option Int) (filter : OrderFilter),
    Listed (·.order.id) receipt.order (filter.admits receipt.order.order = true)
      desk.store.orders.length
      fun number entries => ∃ listing, listing.entries.map (·.detail) = entries ∧
        desk.Answers context (.listAsAdmin actorId { filter with page := number })
          (.adminOrders listing)
  balance : ∀ context number size kind account, context.settings = settings →
    desk.Answers context (.account userId number size kind) (.account account) →
      account.balance = receipt.balance
  entry : ∀ entry ∈ receipt.transaction, ∀ context size kind,
    Listed (·.id) entry (entry.matchesKind kind = true) desk.store.ledger.length
      fun number entries => ∃ account, account.entries = entries ∧
        desk.Answers context (.account userId number size kind) (.account account)
  readable : (∀ order ∈ desk.store.orders, Store.fitsColumn order.id = true) →
    desk.Readable userId

theorem answers_of_served {α : Type} {desk : Desk} {context : Context} {callerId : Int}
    {operation : Operation} {serve : Option User → Service α} {answer : α → Reply} {value : α}
    (asking : operation.perform = do
      return answer (← serve (← Service.userById (some callerId))))
    (tidy : desk.store.Tidy) (fits : Store.fitsColumn callerId = true)
    (served : (serve (desk.store.user? callerId)).run context desk = (.ok value, desk)) :
    desk.Answers context operation (answer value) := by
  rw [Answers, asking, Service.run_bind, Service.run_userById tidy.complete fits]
  dsimp only
  rw [Service.run_bind, served]
  rfl

/-! ### Orders on their own -/

section

variable {desk : Desk} (tidy : desk.store.Tidy)

include tidy

theorem tells {order : Order} (member : order ∈ desk.store.orders) :
    desk.Tells (desk.store.detail order) where
  rows := tidy.toFiled.shows member
  own := by
    intro context callerId receipt answered
    obtain ⟨_, served, told⟩ := Operation.asking_ok (Prod.ext answered rfl)
    obtain rfl := Reply.receipt.inj told
    obtain ⟨other, found, rfl⟩ := Orders.get_eq_ok served
    obtain rfl := Option.some.inj ((tidy.order?_of_mem member).symm.trans found)
    rfl
  administered := by
    intro context actorId shown answered
    obtain ⟨_, served, told⟩ := Operation.asking_ok (Prod.ext answered rfl)
    obtain rfl := Reply.order.inj told
    obtain ⟨other, found, rfl⟩ := Orders.getAsAdmin_eq_ok served
    obtain rfl := Option.some.inj ((tidy.order?_of_mem member).symm.trans found)
    rfl
  shown := by
    intro context user fits known present owner
    refine ⟨desk.store.receipt context order, answers_of_served rfl tidy known ?_⟩
    rw [present]
    exact Orders.run_get tidy.toIntact (tidy.order?_of_mem member) fits owner
  shownToAdmins := by
    intro context actorId admin fits known acts
    refine ⟨desk.store.adminDetail order, answers_of_served rfl tidy known ?_⟩
    exact Orders.run_getAsAdmin tidy.toIntact (tidy.order?_of_mem member) fits acts

theorem listings_tell (context : Context) (filter : OrderFilter) :
    (∀ callerId listing,
      desk.Answers context (.listOrders callerId filter) (.orders listing) →
        ∀ detail ∈ listing.entries, desk.Tells detail) ∧
    ∀ actorId listing,
      desk.Answers context (.listAsAdmin actorId filter) (.adminOrders listing) →
        ∀ order ∈ listing.entries, desk.Tells order.detail := by
  constructor
  · intro callerId listing answered detail listed
    obtain ⟨_, served, told⟩ := Operation.asking_ok (Prod.ext answered rfl)
    obtain rfl := Reply.orders.inj told
    cases caller : callerId.bind desk.store.user? with
    | none =>
      rw [caller] at served
      cases served
    | some user =>
      rw [caller] at served
      rw [Orders.list_eq_ok served] at listed
      obtain ⟨order, member, rfl⟩ := List.mem_map.mp listed
      exact tells tidy (OrderFilter.mem_select.mp (Page.mem_of_mem_slice member)).1
  · intro actorId listing answered order listed
    obtain ⟨_, served, told⟩ := Operation.asking_ok (Prod.ext answered rfl)
    obtain rfl := Reply.adminOrders.inj told
    rw [Orders.listAsAdmin_eq_ok served] at listed
    obtain ⟨order, member, rfl⟩ := List.mem_map.mp listed
    exact tells tidy (OrderFilter.mem_select.mp (Page.mem_of_mem_slice member)).1

end

theorem partner_shown {desk between : Desk} (tidy : desk.store.Tidy) {orderId : Int} {order : Order}
    (found : desk.store.order? orderId = some order) (fits : Store.fitsColumn orderId = true)
    {surroundings : Http.Surroundings} {request : Http.Request} {context : Context}
    {text : String} {body : Bytes}
    (passed : Http.passGate surroundings request context desk = (.ok body, between))
    (asked : Http.Schema.pathId "order_id" text = .valid orderId) :
    Http.answer surroundings request (.partnerOrder text) context desk =
      (.ok (Http.ok (desk.store.adminDetail order).reply), between) := by
  have same : between.store = desk.store := by
    have harmless := Http.harmless_passGate surroundings request context desk
    rwa [passed] at harmless
  have intact : between.store.Intact := same ▸ tidy.toIntact
  have found : between.store.order? orderId = some order := same ▸ found
  refine Http.Handler.bind_eq_ok.mpr ⟨body, between, passed, ?_⟩
  refine Http.Handler.bind_eq_ok.mpr ⟨orderId, between, by rw [asked]; rfl, ?_⟩
  refine Http.Handler.bind_eq_ok.mpr ⟨_, between,
    Http.Handler.run_eq_ok.mpr (Orders.run_order intact found fits), ?_⟩
  refine Http.Handler.bind_eq_ok.mpr ⟨_, between,
    Http.Handler.run_eq_ok.mpr (Orders.run_adminDetail intact found fits), ?_⟩
  rw [same]
  rfl

/-! ### Receipts -/

theorem account_eq {desk : Desk} {context : Context} {userId : Int} {number size : Option Int}
    {kind : Option String} {account : Account}
    (answered : desk.Answers context (.account userId number size kind) (.account account)) :
    account = desk.store.account context userId (.ofRequest number size) kind := by
  obtain ⟨_, _, served, told⟩ := Service.run_bind_eq_ok.mp (Prod.ext answered rfl)
  obtain rfl := Reply.account.inj (Service.run_pure_eq_ok.mp told).1
  exact Wallet.account_eq_ok served

section

variable {desk : Desk} {settled : Context} {user : User} {receipt : Receipt}
  (tidy : desk.store.Tidy) (present : desk.store.user? user.id = some user)
  (fits : Store.fitsColumn user.id = true)

include tidy present fits in
theorem readable (ids : ∀ order ∈ desk.store.orders, Store.fitsColumn order.id = true) :
    desk.Readable user.id where
  listed := by
    intro context filter fitting
    apply answers_of_served rfl tidy fits
    rw [present]
    exact Orders.run_list tidy.toIntact ids fits fitting
  listedForAdmins := by
    intro context actorId admin filter known acts fitting owner
    apply answers_of_served rfl tidy known
    exact Orders.run_listAsAdmin tidy.toIntact ids acts fitting owner
  account := by
    intro context number size kind fitting
    rw [Answers, Operation.perform, Service.run_bind,
      Wallet.run_account tidy.toIntact fits fitting kind]
    rfl

variable (backs : desk.store.Backs settled user.id receipt)

include tidy backs

theorem order?_of_backs :
    desk.store.order? receipt.order.order.id = some receipt.order.order :=
  tidy.order?_of_mem (Store.mem_ordersOf.mp backs.order).1

theorem partner_reads {surroundings : Http.Surroundings} {request : Http.Request}
    {context : Context} {text : String} {body : Bytes} {between : Desk}
    (passed : Http.passGate surroundings request context desk = (.ok body, between))
    (asked : Http.Schema.pathId "order_id" text = .valid receipt.order.order.id) :
    ∃ shown, Http.answer surroundings request (.partnerOrder text) context desk =
      (.ok (Http.ok (AdminOrderDetail.reply ⟨receipt.order, shown⟩)), between) := by
  obtain ⟨shown, told⟩ := backs.adminDetail_eq
  refine ⟨shown, ?_⟩
  rw [← told]
  exact partner_shown tidy (order?_of_backs tidy backs) backs.fits passed asked

include present fits

theorem confirms : desk.Confirms user.id settled.settings receipt where
  own := by
    intro context same
    have found := order?_of_backs tidy backs
    have owner := (Store.mem_ordersOf.mp backs.order).2
    rw [← backs.receipt_eq same]
    apply answers_of_served rfl tidy fits
    rw [present]
    exact Orders.run_get tidy.toIntact found backs.fits owner
  administered := by
    intro context actorId admin known acts
    have found := order?_of_backs tidy backs
    obtain ⟨shown, told⟩ := backs.adminDetail_eq
    refine ⟨shown, ?_⟩
    rw [← told]
    apply answers_of_served rfl tidy known
    exact Orders.run_getAsAdmin tidy.toIntact found backs.fits acts
  partnered := fun _ _ _ _ _ _ passed asked => partner_reads tidy backs passed asked
  listed := by
    intro context filter
    apply (backs.listedOwn tidy.distinct filter).imp
    rintro number _ ⟨listing, rfl, answered⟩
    obtain ⟨_, served, told⟩ := Operation.asking_ok (Prod.ext answered rfl)
    obtain rfl := Reply.orders.inj told
    rw [Option.bind_some, present] at served
    rw [Orders.list_eq_ok served]
  listedForAdmins := by
    intro context actorId filter
    apply (backs.listed tidy.distinct filter).imp
    rintro number _ ⟨listing, rfl, answered⟩
    obtain ⟨_, served, told⟩ := Operation.asking_ok (Prod.ext answered rfl)
    obtain rfl := Reply.adminOrders.inj told
    rw [Orders.listAsAdmin_eq_ok served, Store.map_detail_adminListing]
  balance := by
    intro context number size kind account same answered
    rw [account_eq answered, backs.balance]
    exact Purchase.shownBalance_congr same
  entry := by
    intro entry entered context size kind
    apply (backs.entryListed tidy.toFiled entered context size kind).imp
    rintro number _ ⟨account, rfl, answered⟩
    rw [account_eq answered]
  readable := readable tidy present fits

end

/-! ## Runs -/

/-- Wherever events have led, a receipt for a new or a repeated order is confirmed by all that is
read afterwards, and a listing shows of each order all that belongs to it, as it is shown alone. -/
theorem receipts_read_back {start : Desk} (tidy : start.store.Tidy) (events : List Event)
    (owners : ∀ order, .received order ∈ events → Store.fitsColumn order.userId = true) :
    let desk := start.afterEvents events
    (∀ (call : Call) (userId : Int) (key : String) (receipt : Receipt),
      call.operation.key? = some (userId, key) →
        desk.Answers call.context call.operation (.receipt receipt) →
          (desk.after call).Confirms userId call.context.settings receipt) ∧
    ∀ (context : Context) (filter : OrderFilter),
      (∀ callerId listing,
        desk.Answers context (.listOrders callerId filter) (.orders listing) →
          ∀ detail ∈ listing.entries, desk.Tells detail) ∧
      ∀ actorId listing,
        desk.Answers context (.listAsAdmin actorId filter) (.adminOrders listing) →
          ∀ order ∈ listing.entries, desk.Tells order.detail := by
  intro desk
  have tidy : desk.store.Tidy := afterEvents_tidy tidy owners
  refine ⟨fun call userId key receipt keyed answered => ?_, listings_tell tidy⟩
  obtain ⟨user, request, _, ⟨known, fits⟩, rfl, rfl, told, serving⟩ :=
    Operation.ordering_ok keyed (Prod.ext answered rfl)
  obtain rfl := Reply.receipt.inj told
  have present : (desk.after call).store.user? user.id = some user := by
    rw [Store.user?, users_after call]
    exact known
  exact confirms (after_tidy tidy call) present fits
    (serving.backs tidy.toFiled tidy.distinct tidy.owned tidy.fit)

theorem sample_tidy : sample.store.Tidy where
  complete := rfl
  owners := by decide
  items := { ascending := List.Pairwise.nil, attached := by simp [sample] }
  refunds := { ascending := List.Pairwise.nil, attached := by simp [sample] }
  payments := { ascending := List.Pairwise.nil, attached := by simp [sample] }
  ledger := List.Pairwise.nil
  distinct := by decide
  owned := by simp [Store.KeysOwned, sample]
  fit := by simp [Store.KeysFit, sample]

def sampleFilled : List Event :=
  [.called (sampleCall 10 (.moveWallet 1 { kind := some "recharge", amountCents := 1600 }))]

def samplePurchase : Call :=
  sampleCall 20 (.create (some 1) { planId := some 1, idempotencyKey := some "once" })

def sampleReading : Context := { now := .ofSeconds 30 }

set_option maxRecDepth 4000 in
theorem sample_receipt_reads_back :
    let after := (sample.afterEvents sampleFilled).after samplePurchase
    sample.store.Tidy ∧
      (∀ order, .received order ∈ sampleFilled → Store.fitsColumn order.userId = true) ∧
      samplePurchase.operation.key? = some (1, "once") ∧
      ∃ receipt number listing,
        (sample.afterEvents sampleFilled).Answers samplePurchase.context samplePurchase.operation
          (.receipt receipt) ∧
        after.Confirms 1 samplePurchase.context.settings receipt ∧
        after.Answers sampleReading (.listOrders (some 1) { page := some number })
          (.orders listing) ∧
        receipt.order ∈ listing.entries ∧ ∀ detail ∈ listing.entries, after.Tells detail := by
  have owners : ∀ order, .received order ∈ sampleFilled → Store.fitsColumn order.userId = true := by
    simp [sampleFilled]
  have keyed : samplePurchase.operation.key? = some (1, "once") := by decide
  obtain ⟨receipt, answered⟩ : ∃ receipt, (sample.afterEvents sampleFilled).Answers
      samplePurchase.context samplePurchase.operation (.receipt receipt) := ⟨_, rfl⟩
  have confirmed :=
    (receipts_read_back sample_tidy sampleFilled owners).1 samplePurchase 1 "once" receipt keyed
      answered
  have ids : ∀ order ∈ ((sample.afterEvents sampleFilled).after samplePurchase).store.orders,
      Store.fitsColumn order.id = true := by decide +kernel
  obtain ⟨number, positive, bound, found⟩ :=
    (confirmed.listed sampleReading {}).found (OrderFilter.admits_of_none _)
  have two : ((sample.afterEvents sampleFilled).after samplePurchase).store.orders.length = 2 := rfl
  have fits : OrderFilter.Fits { page := some number } := by
    obtain rfl | rfl : number = 1 ∨ number = 2 := by omega
    · exact ⟨rfl, by decide⟩
    · exact ⟨rfl, by decide⟩
  have shown := (confirmed.readable ids).listed sampleReading { page := some number } fits
  have told := (receipts_read_back sample_tidy (sampleFilled ++ [.called samplePurchase])
    (by simpa using owners)).2 sampleReading { page := some number }
  rw [afterEvents_append] at told
  exact ⟨sample_tidy, owners, keyed, receipt, number, _, answered, confirmed, shown,
    found _ ⟨_, rfl, shown⟩, told.1 (some 1) _ shown⟩

end Desk

end OrderDesk
