import OrderDesk.Demo
import OrderDesk.Desk.Call
import OrderDesk.Proofs.Order.Placing

/-!
What an operation can commit. Every operation leaves the store as it is or changes it in the one way
that its transaction does, so a property that all these changes preserve holds after every run.
-/

namespace OrderDesk

/-! ## Transactions of each kind -/

namespace Service

variable {context : Context} {desk between : Desk}

theorem run_userById_eq_ok {id : Option Int} {found : Option User}
    (ran : (userById id).run context desk = (.ok found, between)) :
    id.bind desk.store.user? = found := by
  cases id with
  | none => exact (run_pure_eq_ok.mp ran).1
  | some id =>
    rcases run_query_eq_ok.mp ran with ⟨⟨_, looked⟩, -⟩
    exact (Work.user?_eq_ok.mp looked).2.1

theorem userById_bind_commits {α : Type} {id : Option Int} {next : Option User → Service α}
    {Committed : Store → Prop}
    (rest : Commits (next (id.bind desk.store.user?)) context desk Committed) :
    Commits (userById id >>= next) context desk Committed := by
  refine (Quiet.userById id).bind_commits fun found ran => ?_
  rcases run_userById_eq_ok ran with rfl
  exact rest

theorem userById_bind_atomic {α : Type} {id : Option Int} {next : Option User → Service α}
    {Committed : α → Store → Prop}
    (rest : Atomic (next (id.bind desk.store.user?)) context desk Committed) :
    Atomic (userById id >>= next) context desk Committed := by
  refine (Quiet.userById id).bind_atomic fun found ran => ?_
  rcases run_userById_eq_ok ran with rfl
  exact rest

end Service

namespace Wallet

variable {context : Context} {desk : Desk} {userId : Int} {movement : Movement}

theorem move_atomic :
    (move userId movement).Atomic context desk fun moved after =>
      Posting context desk.store userId movement moved.1 moved.2 after :=
  (Service.atomic_transaction _).mono fun _ _ done => post_ok done

theorem refund_atomic :
    (refund userId movement).Atomic context desk fun moved after =>
      0 < movement.amountCents ∧
        Posting context desk.store userId (credit movement) moved.1 moved.2 after :=
  (Service.atomic_transaction _).mono fun _ _ done => postRefund_ok done

end Wallet

namespace Orders

variable {context : Context} {desk : Desk} {orderId : Int}

theorem cancelOwn_atomic (caller : Option User) (reason : Option String) :
    Service.Atomic (countCancel "user" (Service.transaction (cancelOwn caller orderId reason)))
      context desk fun result after =>
        Cancelling context desk.store orderId result after ∧
          ∃ user, caller = some user ∧ result.userId = user.id :=
  ((Service.atomic_transaction _).mono fun _ _ done => cancelOwn_ok done).sampled
    fun _ _ _ _ => rfl

theorem cancelAny_atomic (actor : Option User) (reason : Option String)
    (cancelledAt : Option Int) :
    Service.Atomic
      (countCancel "admin" do
        let user ← Service.lift (admin actor)
        Service.transaction (cancelAny user.email orderId reason cancelledAt))
      context desk fun result after =>
        Cancelling context desk.store orderId result after ∧ ∃ user, admin actor = .ok user := by
  refine Service.Atomic.sampled (Service.lift_bind_atomic fun user acts => ?_) fun _ _ _ _ => rfl
  exact (Service.atomic_transaction _).mono fun _ _ done => ⟨cancelAny_ok done, user, acts⟩

theorem settle_atomic (actor : Option User) (notice : PaidNotice) :
    Service.Atomic
      (countSettlement notice do
        let user ← Service.lift (admin actor)
        let method ← Service.lift (Failure.refusing notice.method)
        Service.transaction (settle user.id orderId method notice))
      context desk fun result after =>
        ∃ user method, admin actor = .ok user ∧ notice.method = .ok method ∧
          Settling context desk.store user.id orderId method notice result after := by
  refine Service.Atomic.sampled (Service.lift_bind_atomic fun user acts => ?_) fun _ _ _ _ => rfl
  refine Service.lift_bind_atomic fun method accepted => ?_
  exact (Service.atomic_transaction _).mono fun _ _ done =>
    ⟨user, method, acts, Failure.refusing_eq_ok.mp accepted, settle_ok done⟩

theorem countable_of_fitsColumn {amount : Int} (fits : Store.fitsColumn amount = true) :
    Metrics.countable (.ok amount) = .ok amount.natAbs := by
  have limit : Store.columnLimit.natAbs < Binary64.integerLimit := by decide +kernel
  simp only [Store.fitsColumn, Bool.and_eq_true, decide_eq_true_eq] at fits
  have small : amount.natAbs ≤ Store.columnLimit.natAbs := by omega
  have holds : Binary64.holdsInt amount = true :=
    decide_eq_true (Nat.lt_of_le_of_lt small limit)
  simp only [Metrics.countable, holds, if_true]

theorem Crediting.fits {store after : Store} {adminId : Int} {request : RefundRequest}
    {order : Order} {posted : LedgerEntry}
    (crediting : Crediting context store adminId orderId request order posted after) :
    Store.fitsColumn request.amountCents = true := by
  rcases crediting.credited with ⟨balance, _, posting, -⟩
  have allowed := posting.entryAllowed.fit posted.amountCents (by simp)
  rwa [posting.amountCents_eq] at allowed

theorem refundPart_atomic (actor : Option User) (request : RefundRequest) :
    Service.Atomic
      (countRefund request do
        let user ← Service.lift (admin actor)
        if request.amountCents ≤ 0 then Service.refuse .amountNotPositive
        Service.transaction (refundPart user orderId request))
      context desk fun result after =>
        ∃ user order posted between, admin actor = .ok user ∧
          Crediting context desk.store user.id orderId request order posted between ∧
          Ending (refundedBy order user.id request posted context.now) user.email context.now
            result ∧
          after = saved between result := by
  refine Service.Atomic.sampled (Service.lift_bind_atomic fun user acts => ?_) ?_
  · split
    · exact .inl (.refl _)
    · exact (Service.atomic_transaction _).mono fun _ _ done =>
        let ⟨order, posted, between, crediting, ending, saves⟩ := refundPart_ok done
        ⟨user, order, posted, between, acts, crediting, ending, saves⟩
  · rintro _ _ _ ⟨user, order, posted, between, -, crediting, -, -⟩
    simp only [Metrics.observeRefund, Metrics.attempted, Service.elapsed, Except.map,
      countable_of_fitsColumn crediting.fits]

theorem receiveResult_atomic (result : PaymentResult) :
    Service.Atomic
      (countCallback do
        let report ← Service.lift result.report
        Service.transaction report.apply)
      context desk fun order after =>
        ∃ report, result.report = .ok report ∧
          Reporting context desk.store report order after := by
  refine Service.Atomic.sampled (Service.lift_bind_atomic fun report read => ?_) fun _ _ _ _ => rfl
  exact (Service.atomic_transaction _).mono fun _ _ done => ⟨report, read, apply_ok done⟩

theorem quiet_replay? (userId : Int) (key : String) : Service.Quiet (replay? userId key) := by
  rw [replay?]
  refine .ite (.pure _) (.bind (.query _) fun found => ?_)
  cases found with
  | none => exact .pure _
  | some order => exact .bind (.query _) fun _ => .pure _

theorem quiet_recovery (userId : Int) (key : String) (failure : Failure) :
    Service.Quiet (do
      if failure = .refused .uniquenessViolated then
        if let some receipt ← replay? userId key then return receipt
      throw failure : Service Receipt) := by
  refine .ite (.bind (quiet_replay? userId key) fun found => ?_) (.throw failure)
  cases found with
  | none => exact .throw failure
  | some receipt => exact .pure receipt

def nextNumber (context : Context) (last : Int) : Int :=
  OrderNumber.next last (context.now.micros * 1000)

def Ordered (context : Context) (last : Int) (store : Store) (caller : Option User)
    (request : OrderRequest) (receipt : Receipt) (after : Store) : Prop :=
  ∃ user purchase, caller = some user ∧ request.method = .ok purchase.method ∧
    Purchasing context store request purchase ∧
    purchase.Placing context store user.id (OrderNumber.text (nextNumber context last)) receipt
      after

theorem place_atomic {user : User} {method : PaymentMethod} {request : OrderRequest}
    (named : request.method = .ok method) :
    Service.Atomic (place user.id method request) context desk
      (Ordered context desk.lastNumber desk.store (some user) request) := by
  refine (quiet_purchase method request).bind_atomic fun purchase ran => ?_
  rcases purchase_ok ran with ⟨purchasing, method_eq, -⟩
  refine Service.bind_atomic_of_untouched rfl fun number between ran => ?_
  rcases ran with ⟨⟩
  refine .tryCatch ?_ (quiet_recovery user.id request.key)
  refine (Service.atomic_transaction _).mono fun receipt after done => ?_
  exact ⟨user, purchase, rfl, method_eq ▸ named, purchasing, Purchase.place_ok done⟩

theorem opening_bind_atomic {caller : Option User} {request : OrderRequest}
    {next : Int × PaymentMethod → Service Receipt} {Answered : Receipt → Store → Prop}
    (rest : ∀ user method, caller = some user → request.method = .ok method →
      Service.Atomic (next (user.id, method)) context desk Answered) :
    Service.Atomic (opening caller request >>= next) context desk Answered := by
  cases caller with
  | none => exact .inl (.refl desk)
  | some user =>
    rw [opening, bind_assoc]
    refine Service.lift_bind_atomic fun method named => ?_
    rw [pure_bind]
    exact rest user method rfl (Failure.refusing_eq_ok.mp named)

theorem create_atomic (caller : Option User) (request : OrderRequest) :
    Service.Atomic (create caller request) context desk
      (Ordered context desk.lastNumber desk.store caller request) := by
  refine Service.Atomic.sampled (opening_bind_atomic ?_) fun _ _ _ _ => rfl
  rintro user method rfl named
  refine (quiet_replay? user.id request.key).bind_atomic fun found _ => ?_
  cases found with
  | some receipt => exact (Service.Quiet.pure receipt).atomic
  | none => exact place_atomic named

theorem createAfterMiss_atomic (caller : Option User) (request : OrderRequest) :
    Service.Atomic (createAfterMiss caller request) context desk
      (Ordered context desk.lastNumber desk.store caller request) := by
  refine Service.Atomic.sampled (opening_bind_atomic ?_) fun _ _ _ _ => rfl
  rintro user method rfl named
  exact place_atomic named

end Orders

namespace Security

variable {context : Context} {store after : Store} {setting : SecuritySetting}

theorem openSetting_ok (done : openSetting context store = .ok (setting, after)) :
    ∃ settings, after = { store with securitySettings := settings } := by
  rw [openSetting, Work.bind_eq_ok] at done
  rcases done with ⟨found, _, looked, done⟩
  rcases Work.securitySetting?_eq_ok.mp looked with ⟨-, -, rfl⟩
  cases found with
  | some present =>
    rcases Work.pure_eq_ok.mp done with ⟨-, rfl⟩
    exact ⟨store.securitySettings, rfl⟩
  | none =>
    dsimp only at done
    rw [Work.now_bind, Work.insertSecuritySetting_eq_ok] at done
    exact ⟨_, done.2.2⟩

theorem patchSetting_ok {patch : SecurityPatch}
    (done : patchSetting patch context store = .ok (setting, after)) :
    ∃ settings, after = { store with securitySettings := settings } := by
  rw [patchSetting, Work.bind_eq_ok] at done
  rcases done with ⟨present, _, opened, done⟩
  rcases openSetting_ok opened with ⟨settings, rfl⟩
  rw [Work.now_bind, Work.bind_eq_ok] at done
  rcases done with ⟨_, _, saved, done⟩
  rcases Work.saveSecuritySetting_eq_ok.mp saved with ⟨-, rfl⟩
  rcases Work.pure_eq_ok.mp done with ⟨-, rfl⟩
  exact ⟨_, rfl⟩

theorem update_atomic {desk : Desk} (patch : SecurityPatch) :
    Service.Atomic (update patch) context desk fun changed after =>
      patchSetting patch context desk.store = .ok (changed, after) := by
  rw [Service.Atomic, update, Service.run_bind, Service.run_transaction]
  cases context.settings.timeoutSeconds with
  | error fault => exact .inl (.refl desk)
  | ok seconds =>
    cases done : Service.timed context.runsOut (patchSetting patch context desk.store) with
    | error failure => exact .inl (.refl desk)
    | ok changed => exact .inr ⟨changed.1, rfl, (Service.timed_eq_ok.mp done).2⟩

end Security

/-! ## Services that commit and then show what has become of an order -/

namespace Orders

variable {context : Context} {desk : Desk} {orderId : Int}

theorem cancel_commits (caller : Option User) (reason : Option String) :
    Service.Commits (cancel caller orderId reason) context desk fun after => ∃ result,
      Cancelling context desk.store orderId result after ∧
        ∃ user, caller = some user ∧ result.userId = user.id :=
  ((cancelOwn_atomic caller reason).commits fun result _ done => ⟨result, done⟩).bind_quiet
    fun _ => .query _

theorem cancelAsAdmin_commits (actor : Option User) (reason : Option String)
    (cancelledAt : Option Int) :
    Service.Commits (cancelAsAdmin actor orderId reason cancelledAt) context desk fun after =>
      ∃ result, Cancelling context desk.store orderId result after ∧
        ∃ user, admin actor = .ok user :=
  ((cancelAny_atomic actor reason cancelledAt).commits
    fun result _ done => ⟨result, done⟩).bind_quiet fun _ => .query _

theorem markPaid_commits (actor : Option User) (notice : PaidNotice) :
    Service.Commits (markPaid actor orderId notice) context desk fun after =>
      ∃ result user method, admin actor = .ok user ∧ notice.method = .ok method ∧
        Settling context desk.store user.id orderId method notice result after :=
  ((settle_atomic actor notice).commits fun result _ done => ⟨result, done⟩).bind_quiet
    fun _ => .query _

theorem refund_commits (actor : Option User) (request : RefundRequest) :
    Service.Commits (refund actor orderId request) context desk fun after =>
      ∃ result user order posted between, admin actor = .ok user ∧
        Crediting context desk.store user.id orderId request order posted between ∧
        Ending (refundedBy order user.id request posted context.now) user.email context.now
          result ∧
        after = saved between result :=
  ((refundPart_atomic actor request).commits fun result _ done => ⟨result, done⟩).bind_quiet
    fun _ => .query _

theorem receiveResult_commits (payment : PaymentResult) :
    Service.Commits (receiveResult payment) context desk fun after =>
      ∃ order report, payment.report = .ok report ∧
        Reporting context desk.store report order after :=
  ((receiveResult_atomic payment).commits fun order _ done => ⟨order, done⟩).bind_quiet
    fun _ => .query _

end Orders

namespace Security

variable {context : Context} {desk : Desk}

theorem setting_commits :
    Service.Commits setting context desk fun after =>
      ∃ settings, after = { desk.store with securitySettings := settings } :=
  (Service.atomic_transaction _).commits fun _ _ done => openSetting_ok done

theorem update_commits (patch : SecurityPatch) :
    Service.Commits (update patch) context desk fun after =>
      ∃ settings, after = { desk.store with securitySettings := settings } :=
  (update_atomic patch).commits fun _ _ done => patchSetting_ok done

theorem run_loadGateSetting (there : Table.securitySettings ∉ desk.store.dropped) :
    (Service.query loadGateSetting).run context desk =
      (.ok (.ofRow desk.store.securitySetting?), desk) := by
  have looked : Work.securitySetting? { context with deadlinePassed := false } desk.store =
      .ok (desk.store.securitySetting?, desk.store) :=
    Work.securitySetting?_eq_ok.mpr ⟨⟨rfl, by simpa using there, by simp⟩, rfl, rfl⟩
  rw [Service.run_query, loadGateSetting, Work.bind_of_ok looked]
  rfl

end Security

/-! ## Operations that only read -/

namespace Orders

theorem quiet_get (caller : Option User) (orderId : Int) : Service.Quiet (get caller orderId) := by
  refine .bind (.query _) fun order => ?_
  cases caller with
  | none => exact .breakOff _
  | some user => exact .refuse_ite (.query _)

theorem quiet_list (caller : Option User) (filter : OrderFilter) :
    Service.Quiet (list caller filter) := by
  cases caller with
  | none => exact .breakOff _
  | some user => exact .bind (.query _) fun _ => .bind (.query _) fun _ => .pure _

theorem quiet_getAsAdmin (actor : Option User) (orderId : Int) :
    Service.Quiet (getAsAdmin actor orderId) :=
  .bind (.lift _) fun _ => .bind (.query _) fun _ => .query _

theorem quiet_listAsAdmin (actor : Option User) (filter : OrderFilter) :
    Service.Quiet (listAsAdmin actor filter) :=
  .bind (.lift _) fun _ => .bind (.query _) fun _ => .bind (.query _) fun _ => .pure _

end Orders

theorem Wallet.quiet_account (userId : Int) (page size : Option Int) (kind : Option String) :
    Service.Quiet (account userId page size kind) :=
  .bind (.query _) fun _ => .bind (.query _) fun _ => .pure _

/-! ## All operations -/

namespace Operation

/-- The change to the store that an operation has committed. -/
inductive Committed (context : Context) (last : Int) (store : Store) : Operation → Store → Prop
  | moved {userId : Int} {movement : Movement} {posted : LedgerEntry} {balance : Balance}
      {after : Store}
      (posting : Wallet.Posting context store userId movement posted balance after) :
      Committed context last store (.moveWallet userId movement) after
  | credited {userId : Int} {movement : Movement} {posted : LedgerEntry} {balance : Balance}
      {after : Store} (positive : 0 < movement.amountCents)
      (posting : Wallet.Posting context store userId (Wallet.credit movement) posted balance
        after) :
      Committed context last store (.refundWallet userId movement) after
  | created {callerId : Option Int} {request : OrderRequest} {receipt : Receipt} {after : Store}
      (ordered : Orders.Ordered context last store (callerId.bind store.user?) request receipt
        after) :
      Committed context last store (.create callerId request) after
  | createdLate {callerId : Option Int} {request : OrderRequest} {receipt : Receipt}
      {after : Store}
      (ordered : Orders.Ordered context last store (callerId.bind store.user?) request receipt
        after) :
      Committed context last store (.createAfterMiss callerId request) after
  | cancelled {callerId : Option Int} {orderId : Int} {reason : Option String} {result : Order}
      {after : Store} (cancelling : Orders.Cancelling context store orderId result after)
      (owner : ∃ user, callerId.bind store.user? = some user ∧ result.userId = user.id) :
      Committed context last store (.cancel callerId orderId reason) after
  | cancelledByAdmin {actorId : Option Int} {orderId : Int} {reason : Option String}
      {cancelledAt : Option Int} {result : Order} {after : Store}
      (cancelling : Orders.Cancelling context store orderId result after)
      (admin : ∃ user, Orders.admin (actorId.bind store.user?) = .ok user) :
      Committed context last store (.cancelAsAdmin actorId orderId reason cancelledAt) after
  | settled {actorId : Option Int} {orderId : Int} {notice : PaidNotice} {user : User}
      {method : PaymentMethod} {result : Order} {after : Store}
      (admin : Orders.admin (actorId.bind store.user?) = .ok user)
      (supported : notice.method = .ok method)
      (settling : Orders.Settling context store user.id orderId method notice result after) :
      Committed context last store (.markPaid actorId orderId notice) after
  | refunded {actorId : Option Int} {orderId : Int} {request : RefundRequest} {user : User}
      {order result : Order} {posted : LedgerEntry} {between : Store}
      (admin : Orders.admin (actorId.bind store.user?) = .ok user)
      (crediting : Orders.Crediting context store user.id orderId request order posted between)
      (ending : Orders.Ending (Orders.refundedBy order user.id request posted context.now)
        user.email context.now result) :
      Committed context last store (.refund actorId orderId request) (Orders.saved between result)
  | reported {payment : PaymentResult} {report : Report} {result : Order} {after : Store}
      (read : payment.report = .ok report)
      (reporting : Orders.Reporting context store report result after) :
      Committed context last store (.receiveResult payment) after
  | opened {settings : List SecuritySetting} :
      Committed context last store .securitySetting { store with securitySettings := settings }
  | patched {patch : SecurityPatch} {settings : List SecuritySetting} :
      Committed context last store (.updateSecurity patch) { store with securitySettings := settings }

variable {context : Context} {last : Int} {desk : Desk}

theorem perform_commits (operation : Operation) :
    Service.Commits operation.perform context desk
      (Committed context desk.lastNumber desk.store operation) := by
  cases operation with
  | moveWallet userId movement =>
    exact (Wallet.move_atomic.commits fun _ _ posting => .moved posting).bind_quiet
      fun _ => .pure _
  | refundWallet userId movement =>
    exact (Wallet.refund_atomic.commits fun _ _ done => .credited done.1 done.2).bind_quiet
      fun _ => .pure _
  | create callerId request =>
    exact Service.userById_bind_commits <|
      ((Orders.create_atomic _ request).commits fun _ _ ordered => .created ordered).bind_quiet
        fun _ => .pure _
  | createAfterMiss callerId request =>
    exact Service.userById_bind_commits <|
      ((Orders.createAfterMiss_atomic _ request).commits
        fun _ _ ordered => .createdLate ordered).bind_quiet fun _ => .pure _
  | cancel callerId orderId reason =>
    refine Service.userById_bind_commits (.bind_quiet ?_ fun _ => .pure _)
    refine (Orders.cancel_commits _ reason).mono ?_
    rintro after ⟨result, cancelling, owner⟩
    exact .cancelled cancelling owner
  | getOrder callerId orderId =>
    exact Service.userById_bind_commits <|
      ((Orders.quiet_get _ orderId).bind fun _ => .pure _).commits
  | listOrders callerId filter =>
    exact Service.userById_bind_commits <|
      ((Orders.quiet_list _ filter).bind fun _ => .pure _).commits
  | account userId page size kind =>
    exact ((Wallet.quiet_account userId page size kind).bind fun _ => .pure _).commits
  | getAsAdmin actorId orderId =>
    exact Service.userById_bind_commits <|
      ((Orders.quiet_getAsAdmin _ orderId).bind fun _ => .pure _).commits
  | listAsAdmin actorId filter =>
    exact Service.userById_bind_commits <|
      ((Orders.quiet_listAsAdmin _ filter).bind fun _ => .pure _).commits
  | markPaid actorId orderId notice =>
    refine Service.userById_bind_commits (.bind_quiet ?_ fun _ => .pure _)
    refine (Orders.markPaid_commits _ notice).mono ?_
    rintro after ⟨result, user, method, admin, supported, settling⟩
    exact .settled admin supported settling
  | cancelAsAdmin actorId orderId reason cancelledAt =>
    refine Service.userById_bind_commits (.bind_quiet ?_ fun _ => .pure _)
    refine (Orders.cancelAsAdmin_commits _ reason cancelledAt).mono ?_
    rintro after ⟨result, cancelling, admin⟩
    exact .cancelledByAdmin cancelling admin
  | refund actorId orderId request =>
    refine Service.userById_bind_commits (.bind_quiet ?_ fun _ => .pure _)
    refine (Orders.refund_commits _ request).mono ?_
    rintro after ⟨result, user, order, posted, between, admin, crediting, ending, rfl⟩
    exact .refunded admin crediting ending
  | receiveResult payment =>
    refine .bind_quiet ((Orders.receiveResult_commits payment).mono ?_) fun _ => .pure _
    rintro after ⟨order, report, read, reporting⟩
    exact .reported read reporting
  | securitySetting =>
    refine .bind_quiet (Security.setting_commits.mono ?_) fun _ => .pure _
    rintro after ⟨settings, rfl⟩
    exact .opened
  | updateSecurity patch =>
    refine .bind_quiet ((Security.update_commits patch).mono ?_) fun _ => .pure _
    rintro after ⟨settings, rfl⟩
    exact .patched

/-- What has become of the orders and their refunds. -/
inductive OrdersAfter (context : Context) (last : Int) (store after : Store) : Prop
  | kept (orders : after.orders = store.orders) (refunds : after.orderRefunds = store.orderRefunds)
  | placed {userId : Int} {request : OrderRequest} {purchase : Purchase} {draft : Order}
      {balance : Balance} {settlement : Purchase.Settlement} {between : Store}
      (purchasing : Orders.Purchasing context store request purchase)
      (drafting : purchase.Drafting context store userId
        (OrderNumber.text (Orders.nextNumber context last)) draft)
      (settled : purchase.Settled context store draft balance settlement between)
      (orders : after.orders = store.orders ++ [settlement.order])
      (refunds : after.orderRefunds = store.orderRefunds)
  | handled {orderId : Int} {order result : Order}
      (handled : Orders.Handled context store orderId order result after)
      (unrefunded : Orders.Unrefunded store order result after)
  | refunded {user : User} {orderId : Int} {request : RefundRequest} {order result : Order}
      {posted : LedgerEntry} {between : Store}
      (crediting : Orders.Crediting context store user.id orderId request order posted between)
      (ending : Orders.Ending (Orders.refundedBy order user.id request posted context.now)
        user.email context.now result)
      (saved : after = Orders.saved between result)

theorem Committed.orders {store after : Store} {operation : Operation}
    (committed : Committed context last store operation after) :
    OrdersAfter context last store after := by
  cases committed with
  | moved posting | credited positive posting =>
    rcases posting.store_eq with rfl
    exact .kept rfl rfl
  | created ordered | createdLate ordered =>
    rcases ordered with ⟨user, purchase, -, -, purchasing, placing⟩
    cases placing with
    | intro drafting item_eq settled unbound =>
      exact .placed purchasing drafting settled rfl settled.framed.refunds_eq
  | cancelled cancelling | cancelledByAdmin cancelling =>
    rcases cancelling.handled with ⟨order, handled, unrefunded⟩
    exact .handled handled unrefunded
  | settled admin supported settling =>
    rcases settling.handled with ⟨order, handled, unrefunded⟩
    exact .handled handled unrefunded
  | refunded admin crediting ending => exact .refunded crediting ending rfl
  | reported read reporting =>
    rcases reporting.handled with ⟨order, handled, unrefunded⟩
    exact .handled handled unrefunded
  | opened | patched => exact .kept rfl rfl

theorem Committed.plans_eq {store after : Store} {operation : Operation}
    (committed : Committed context last store operation after) : after.plans = store.plans := by
  cases committed with
  | moved posting | credited positive posting => rw [posting.store_eq]
  | created ordered | createdLate ordered =>
    rcases ordered with ⟨user, purchase, -, -, purchasing, placing⟩
    cases placing with
    | intro drafting item_eq settled unbound => exact settled.framed.plans_eq
  | cancelled cancelling | cancelledByAdmin cancelling =>
    rcases cancelling.handled with ⟨order, handled, -⟩
    exact handled.plans_eq
  | settled admin supported settling =>
    rcases settling.handled with ⟨order, handled, -⟩
    exact handled.plans_eq
  | refunded admin crediting ending => exact (crediting.handled ending).plans_eq
  | reported read reporting =>
    rcases reporting.handled with ⟨order, handled, -⟩
    exact handled.plans_eq
  | opened | patched => rfl

theorem Committed.wallets {store after : Store} {operation : Operation}
    (committed : Committed context last store operation after) :
    (after.balances = store.balances ∧ after.ledger = store.ledger) ∨
      ∃ userId movement posted balance between,
        Wallet.Posting context store userId movement posted balance between ∧
          after.balances = between.balances ∧ after.ledger = between.ledger := by
  cases committed with
  | moved posting => exact .inr ⟨_, _, _, _, _, posting, rfl, rfl⟩
  | credited positive posting => exact .inr ⟨_, _, _, _, _, posting, rfl, rfl⟩
  | created ordered | createdLate ordered =>
    rcases ordered with ⟨user, purchase, -, -, -, placing⟩
    cases placing with
    | intro drafting item_eq settled unbound =>
      cases settled with
      | free | collected => exact .inl ⟨rfl, rfl⟩
      | charged priced byWallet posting => exact .inr ⟨_, _, _, _, _, posting, rfl, rfl⟩
  | cancelled cancelling | cancelledByAdmin cancelling =>
    cases cancelling with
    | already | called => exact .inl ⟨rfl, rfl⟩
  | settled admin supported settling =>
    cases settling with
    | uncharged => exact .inl ⟨rfl, rfl⟩
    | charged found pending outstanding posting move =>
      exact .inr ⟨_, _, _, _, _, posting, rfl, rfl⟩
  | refunded admin crediting ending =>
    rcases crediting.credited with ⟨balance, between, posting, rfl⟩
    exact .inr ⟨_, _, _, _, _, posting, rfl, rfl⟩
  | reported read reporting =>
    cases reporting with
    | replayed | accepted => exact .inl ⟨rfl, rfl⟩
  | opened | patched => exact .inl ⟨rfl, rfl⟩

end Operation

/-! ## Runs -/

namespace Desk

variable {desk : Desk}

/-- What an operation leaves of the store: all of it, or the change that it has committed. -/
theorem after_commits (desk : Desk) (call : Call) :
    (desk.after call).store = desk.store ∨
      call.operation.Committed call.context desk.lastNumber desk.store (desk.after call).store :=
  call.operation.perform_commits

/-- What every committed change preserves holds of the store after every run. -/
theorem afterAll_induction (Invariant : Store → Prop) {calls : List Call}
    (start : Invariant desk.store)
    (step : ∀ call ∈ calls, ∀ last store after, Invariant store →
      call.operation.Committed call.context last store after → Invariant after) :
    Invariant (desk.afterAll calls).store := by
  induction calls generalizing desk with
  | nil => exact start
  | cons call rest induction =>
    have next : Invariant (desk.after call).store := by
      rcases desk.after_commits call with same | committed
      · rw [same]
        exact start
      · exact step call (List.mem_cons_self ..) _ _ _ start committed
    exact induction next fun later member => step later (List.mem_cons_of_mem _ member)

/-! ## A run to look at -/

/-- A desk with the demo users and plans, and an order that has come from elsewhere. -/
def sample : Desk where
  store := {
    users := [{ id := 1, email := Demo.userEmail },
      { id := 2, email := Demo.adminEmail, roles := .list [.text User.adminRole] }]
    plans := [Demo.starter 1, Demo.trial 2]
    orders := [{
      id := 1
      number := "ORD-1"
      userId := 1
      status := .pending
      paymentMethod := .manual
      paymentStatus := .pending
      totalCents := 500
      currency := "CNY"
      metadata := none
      createdAt := .ofSeconds 0 }] }

def sampleCall (seconds : Int) (operation : Operation) : Call :=
  ⟨operation, { now := .ofSeconds seconds }⟩

def samplePayments : List Call := [
  sampleCall 10 (.moveWallet 1 { kind := some "recharge", amountCents := 1600 }),
  sampleCall 20 (.create (some 1) { planId := some 1 }),
  sampleCall 30 (.markPaid (some 2) 1 { paymentMethod := some "balance", chargeBalance := true })]

def sampleCalls : List Call :=
  samplePayments ++ [sampleCall 40 (.refund (some 2) 2 { amountCents := 400 })]

end Desk

end OrderDesk
