import OrderDesk.Proofs.Desk.Commit

/-!
A call is answered or leaves the desk alone. What a transaction has committed is always answered,
because the rows that the answer is built from can be read without fail.
-/

namespace OrderDesk

/-- All tables are there, and the owners of orders are named by numbers that fit their column. -/
structure Store.Intact (store : Store) : Prop where
  complete : store.dropped = []
  owners : ∀ order ∈ store.orders, fitsColumn order.userId = true

/-! ## Reading what has been committed -/

namespace Work

variable {context : Context} {store : Store} {order : Order}

theorem allowed_of_intact (intact : store.Intact) (inTime : context.deadlinePassed = false)
    {tables : List Table} {numbers : List Int}
    (fit : ∀ number ∈ numbers, Store.fitsColumn number = true) :
    Allowed context store tables numbers where
  inTime := inTime
  present := by simp [intact.complete]
  fit := fit

theorem children_ok (intact : store.Intact) (inTime : context.deadlinePassed = false)
    {orders : List Order} (fit : ∀ order ∈ orders, Store.fitsColumn order.id = true) :
    ∃ found, children orders context store = .ok (found, store) ∧
      ∀ order ∈ orders, found.detail order = store.detail order := by
  by_cases none : orders = []
  · subst none
    exact ⟨_, rfl, by simp⟩
  · have allowed (table : Table) : Allowed context store [table] (orders.map (·.id)) :=
      allowed_of_intact intact inTime (List.forall_mem_map.mpr fit)
    have read : children orders context store =
        .ok (store.children (orders.map (·.id)), store) := by
      rw [children, if_neg (by simpa using none)]
      exact statement_bind_eq_ok.mpr ⟨allowed _, statement_bind_eq_ok.mpr ⟨allowed _,
        statement_bind_eq_ok.mpr ⟨allowed _, rfl⟩⟩⟩
    exact ⟨_, read, fun order member => store.children_detail (List.mem_map_of_mem member)⟩

theorem detail_ok (intact : store.Intact) (inTime : context.deadlinePassed = false)
    (fits : Store.fitsColumn order.id = true) :
    detail order context store = .ok (store.detail order, store) := by
  rcases children_ok intact inTime (List.forall_mem_singleton.mpr fits) with ⟨found, read, shown⟩
  rw [← shown order (List.mem_singleton_self order)]
  exact bind_eq_ok.mpr ⟨found, store, read, rfl⟩

theorem adminDetail_ok (intact : store.Intact) (inTime : context.deadlinePassed = false)
    (fits : Store.fitsColumn order.id = true) (owner : Store.fitsColumn order.userId = true) :
    adminDetail order context store = .ok (store.adminDetail order, store) := by
  have allowed : Allowed context store [.users] [order.userId] :=
    allowed_of_intact intact inTime (by simpa using owner)
  rcases children_ok intact inTime (List.forall_mem_singleton.mpr fits) with ⟨found, read, shown⟩
  rw [Store.adminDetail, ← shown order (List.mem_singleton_self order)]
  exact bind_eq_ok.mpr ⟨found, store, read, statement_bind_eq_ok.mpr ⟨allowed, rfl⟩⟩

theorem receipt_ok (intact : store.Intact) (inTime : context.deadlinePassed = false)
    (fits : Store.fitsColumn order.id = true) (owner : Store.fitsColumn order.userId = true) :
    receipt order context store = .ok
      (⟨store.detail order, Purchase.shownBalance context store order.userId, none⟩, store) := by
  have allowed : Allowed context store [.balances] [order.userId] :=
    allowed_of_intact intact inTime (by simpa using owner)
  exact bind_eq_ok.mpr ⟨_, store, balance_eq_ok.mpr ⟨allowed, rfl, rfl⟩,
    bind_eq_ok.mpr ⟨_, store, detail_ok intact inTime fits, rfl⟩⟩

end Work

namespace Orders

variable {context : Context} {store after : Store} {orderId : Int} {order result : Order}

theorem Handled.intact (handled : Handled context store orderId order result after)
    (intact : store.Intact) : after.Intact where
  complete := handled.dropped_eq.trans intact.complete
  owners := by
    have kept : Store.fitsColumn result.userId = true := by
      rw [handled.userId_eq]
      exact intact.owners order handled.present
    intro other member
    rcases handled.orders_eq with ⟨-, same⟩ | replaced
    · exact intact.owners other (same ▸ member)
    · rw [replaced] at member
      rcases Store.mem_replace member with rfl | ⟨present, -⟩
      · exact kept
      · exact intact.owners other present

theorem Handled.fits (handled : Handled context store orderId order result after)
    (intact : store.Intact) :
    Store.fitsColumn result.id = true ∧ Store.fitsColumn result.userId = true := by
  constructor
  · rcases Work.order_eq_ok.mp handled.found with ⟨allowed, found, -⟩
    rw [handled.id_eq, (Store.order?_eq_some found).2]
    exact allowed.fit orderId (List.mem_singleton_self _)
  · rw [handled.userId_eq]
    exact intact.owners order handled.present

section

variable {desk : Desk} {service : Service Order} {Committed : Order → Store → Prop}

theorem adminDetail_atomic (intact : desk.store.Intact)
    (atomic : service.Atomic context desk Committed)
    (handled : ∀ result after, Committed result after →
      ∃ orderId order, Handled context desk.store orderId order result after) :
    Service.Atomic (service >>= fun order => Service.query (Work.adminDetail order)) context desk
      fun _ _ => True := by
  refine atomic.bind (fun _ => .query _) fun result between committed => ?_
  rcases handled result between.store committed with ⟨orderId, order, handled⟩
  rcases handled.fits intact with ⟨fits, owner⟩
  have shown : Work.adminDetail result { context with deadlinePassed := false } between.store =
      .ok (_, between.store) :=
    Work.adminDetail_ok (handled.intact intact) rfl fits owner
  exact ⟨_, congrArg Prod.fst (Service.run_query_ok shown), trivial⟩

theorem receipt_atomic (intact : desk.store.Intact)
    (atomic : service.Atomic context desk Committed)
    (handled : ∀ result after, Committed result after →
      ∃ orderId order, Handled context desk.store orderId order result after) :
    Service.Atomic (service >>= fun order => Service.query (Work.receipt order)) context desk
      fun _ _ => True := by
  refine atomic.bind (fun _ => .query _) fun result between committed => ?_
  rcases handled result between.store committed with ⟨orderId, order, handled⟩
  rcases handled.fits intact with ⟨fits, owner⟩
  have shown : Work.receipt result { context with deadlinePassed := false } between.store =
      .ok (_, between.store) :=
    Work.receipt_ok (handled.intact intact) rfl fits owner
  exact ⟨_, congrArg Prod.fst (Service.run_query_ok shown), trivial⟩

end

end Orders

/-! ## Intact stores -/

theorem Orders.Ordered.intact {context : Context} {last : Int} {store after : Store}
    {caller : Option User} {request : OrderRequest} {receipt : Receipt}
    (ordered : Orders.Ordered context last store caller request receipt after)
    (intact : store.Intact) : after.Intact := by
  rcases ordered with ⟨user, purchase, -, -, -, placing⟩
  cases placing with
  | intro drafting item_eq settled unbound =>
    have owner := drafting.allowed.fit user.id (List.mem_cons_self ..)
    refine ⟨settled.framed.dropped_eq.trans intact.complete, fun order member => ?_⟩
    rcases List.mem_append.mp member with present | new
    · exact intact.owners order present
    · rw [List.mem_singleton.mp new, settled.framed.userId_eq, drafting.userId_eq]
      exact owner

namespace Operation

variable {context : Context} {last : Int} {desk : Desk} {store after : Store}
  {operation : Operation}

theorem Committed.intact (committed : Committed context last store operation after)
    (intact : store.Intact) : after.Intact := by
  cases committed with
  | moved posting | credited positive posting =>
    rcases posting.store_eq with rfl
    exact ⟨intact.complete, intact.owners⟩
  | created ordered | createdLate ordered => exact ordered.intact intact
  | cancelled cancelling owner | cancelledByAdmin cancelling admin =>
    rcases cancelling.handled with ⟨order, handled, -⟩
    exact handled.intact intact
  | settled admin supported settling =>
    rcases settling.handled with ⟨order, handled, -⟩
    exact handled.intact intact
  | refunded admin crediting ending => exact (crediting.handled ending).intact intact
  | reported read reporting =>
    rcases reporting.handled with ⟨order, handled, -⟩
    exact handled.intact intact
  | opened | patched => exact ⟨intact.complete, intact.owners⟩

/-- Whatever an operation commits, it answers. -/
theorem perform_atomic (intact : desk.store.Intact) (operation : Operation) :
    Service.Atomic operation.perform context desk fun _ _ => True := by
  cases operation with
  | moveWallet userId movement =>
    exact Wallet.move_atomic.bind (fun _ => .pure _) fun _ _ _ => ⟨_, rfl, trivial⟩
  | refundWallet userId movement =>
    exact Wallet.refund_atomic.bind (fun _ => .pure _) fun _ _ _ => ⟨_, rfl, trivial⟩
  | create callerId request =>
    exact Service.userById_bind_atomic <|
      (Orders.create_atomic _ request).bind (fun _ => .pure _) fun _ _ _ => ⟨_, rfl, trivial⟩
  | createAfterMiss callerId request =>
    exact Service.userById_bind_atomic <|
      (Orders.createAfterMiss_atomic _ request).bind (fun _ => .pure _)
        fun _ _ _ => ⟨_, rfl, trivial⟩
  | cancel callerId orderId reason =>
    refine Service.userById_bind_atomic ?_
    refine Service.Atomic.bind (Orders.receipt_atomic intact (Orders.cancelOwn_atomic _ reason) ?_)
      (fun _ => .pure _) fun _ _ _ => ⟨_, rfl, trivial⟩
    exact fun _ _ done => ⟨orderId, done.1.handled.imp fun _ => And.left⟩
  | getOrder callerId orderId =>
    exact Service.userById_bind_atomic <|
      ((Orders.quiet_get _ orderId).bind fun _ => .pure _).atomic
  | listOrders callerId filter =>
    exact Service.userById_bind_atomic <|
      ((Orders.quiet_list _ filter).bind fun _ => .pure _).atomic
  | account userId page size kind =>
    exact ((Wallet.quiet_account userId page size kind).bind fun _ => .pure _).atomic
  | getAsAdmin actorId orderId =>
    exact Service.userById_bind_atomic <|
      ((Orders.quiet_getAsAdmin _ orderId).bind fun _ => .pure _).atomic
  | listAsAdmin actorId filter =>
    exact Service.userById_bind_atomic <|
      ((Orders.quiet_listAsAdmin _ filter).bind fun _ => .pure _).atomic
  | markPaid actorId orderId notice =>
    refine Service.userById_bind_atomic ?_
    refine Service.Atomic.bind (Orders.adminDetail_atomic intact (Orders.settle_atomic _ notice) ?_)
      (fun _ => .pure _) fun _ _ _ => ⟨_, rfl, trivial⟩
    rintro result after ⟨user, method, -, -, settling⟩
    exact ⟨orderId, settling.handled.imp fun _ => And.left⟩
  | cancelAsAdmin actorId orderId reason cancelledAt =>
    refine Service.userById_bind_atomic ?_
    refine Service.Atomic.bind
      (Orders.adminDetail_atomic intact (Orders.cancelAny_atomic _ reason cancelledAt) ?_)
      (fun _ => .pure _) fun _ _ _ => ⟨_, rfl, trivial⟩
    exact fun _ _ done => ⟨orderId, done.1.handled.imp fun _ => And.left⟩
  | refund actorId orderId request =>
    refine Service.userById_bind_atomic ?_
    refine Service.Atomic.bind
      (Orders.adminDetail_atomic intact (Orders.refundPart_atomic _ request) ?_)
      (fun _ => .pure _) fun _ _ _ => ⟨_, rfl, trivial⟩
    rintro result after ⟨user, order, posted, between, -, crediting, ending, rfl⟩
    exact ⟨orderId, order, crediting.handled ending⟩
  | receiveResult result =>
    refine Service.Atomic.bind
      (Orders.adminDetail_atomic intact (Orders.receiveResult_atomic result) ?_)
      (fun _ => .pure _) fun _ _ _ => ⟨_, rfl, trivial⟩
    rintro order after ⟨report, -, reporting⟩
    exact ⟨report.orderId, reporting.handled.imp fun _ => And.left⟩
  | securitySetting =>
    exact Service.Atomic.bind (Service.atomic_transaction _) (fun _ => .pure _)
      fun _ _ _ => ⟨_, rfl, trivial⟩
  | updateSecurity patch =>
    exact (Security.update_atomic patch).bind (fun _ => .pure _) fun _ _ _ => ⟨_, rfl, trivial⟩

end Operation

/-! ## Runs -/

namespace Desk

theorem afterAll_intact {desk : Desk} (intact : desk.store.Intact) (calls : List Call) :
    (desk.afterAll calls).store.Intact :=
  afterAll_induction Store.Intact intact
    fun _ _ _ _ _ intact committed => committed.intact intact

/-- Wherever a run has led, a call that fails leaves every row and every cache as it was. -/
theorem untouched_of_failed_call {desk : Desk} (intact : desk.store.Intact) (calls : List Call)
    {call : Call} {failure : Failure}
    (failed : (call.outcome (desk.afterAll calls)).1 = .error failure) :
    (desk.afterAll calls).Untouched (call.outcome (desk.afterAll calls)).2 := by
  have atomic : Service.Atomic call.operation.perform call.context (desk.afterAll calls) _ :=
    call.operation.perform_atomic (afterAll_intact intact calls)
  rcases atomic with untouched | ⟨reply, answered, -⟩
  · exact untouched
  · rw [Call.outcome, answered] at failed
    cases failed

def sampleOverdraft : Call :=
  sampleCall 40 (.moveWallet 2 { kind := some "purchase", amountCents := -600 })

set_option maxRecDepth 4000 in
theorem sample_untouched_by_overdraft :
    sample.store.Intact ∧
      (sampleOverdraft.outcome (sample.afterAll samplePayments)).1 =
        .error (.refused .insufficientBalance) ∧
      (sample.afterAll samplePayments).Untouched
        (sampleOverdraft.outcome (sample.afterAll samplePayments)).2 := by
  have intact : sample.store.Intact := ⟨rfl, by decide⟩
  have failed : (sampleOverdraft.outcome (sample.afterAll samplePayments)).1 =
      .error (.refused .insufficientBalance) := rfl
  exact ⟨intact, failed, untouched_of_failed_call intact samplePayments failed⟩

end Desk

end OrderDesk
