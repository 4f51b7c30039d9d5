import OrderDesk.Proofs.Order.Changing
import OrderDesk.Proofs.Order.Recall

/-!
Cancelled orders. Nothing becomes of such an order or of its rows any more, and whoever may cancel it
is answered with it as it is.
-/

namespace OrderDesk

/-- A cancelled order, with all the rows that belong to it. -/
structure Store.Closed (store : Store) (detail : OrderDetail) : Prop where
  found : store.order? detail.order.id = some detail.order
  cancelled : detail.order.status = .cancelled
  shown : store.detail detail.order = detail

structure Store.Keyed (store : Store) : Prop where
  orders : ∀ order ∈ store.orders, fitsColumn order.id = true
  payments : (store.orderPayments.map (·.id)).Nodup

/-! ## What operations leave of the rows of an order -/

theorem Orders.Delivered.uncancelled {context : Context} {store after : Store} {report : Report}
    {order result : Order} {payment : OrderPayment}
    (delivered : Orders.Delivered context store report order payment result after) :
    order.status ≠ .cancelled := by
  intro cancelled
  have reached := delivered.status_eq
  rw [(delivered.replayed (by simp [cancelled])).1, cancelled] at reached
  cases outcome : report.outcome <;> simp [outcome, Outcome.orderStatus] at reached

namespace Operation

variable {context : Context} {last : Int} {store after : Store} {operation : Operation}
  {order : Order}

theorem Committed.placing (committed : Committed context last store operation after) :
    (after.orders.map (·.id) = store.orders.map (·.id) ∧ after.orderItems = store.orderItems ∧
        after.keyBindings = store.keyBindings) ∨
      ∃ (purchase : Purchase) (userId : Int) (number : String) (receipt : Receipt),
        purchase.Placing context store userId number receipt after := by
  cases committed with
  | moved posting | credited positive posting =>
    rcases posting.store_eq with rfl
    exact .inl ⟨rfl, rfl, rfl⟩
  | created ordered | createdLate ordered =>
    rcases ordered with ⟨user, purchase, -, -, -, placing⟩
    exact .inr ⟨_, _, _, _, placing⟩
  | cancelled cancelling | cancelledByAdmin cancelling =>
    rcases cancelling.handled with ⟨order, handled, -⟩
    refine .inl ⟨handled.ids_eq, ?_⟩
    cases cancelling with
    | already | called => exact ⟨rfl, rfl⟩
  | settled admin supported settling =>
    rcases settling.handled with ⟨order, handled, -⟩
    refine .inl ⟨handled.ids_eq, ?_⟩
    cases settling with
    | uncharged => exact ⟨rfl, rfl⟩
    | charged found pending outstanding posting =>
      rcases posting.store_eq with rfl
      exact ⟨rfl, rfl⟩
  | refunded admin crediting ending =>
    refine .inl ⟨(crediting.handled ending).ids_eq, ?_⟩
    rcases crediting.credited with ⟨balance, between, posting, rfl⟩
    rcases posting.store_eq with rfl
    exact ⟨rfl, rfl⟩
  | reported read reporting =>
    rcases reporting.delivered with ⟨order, payment, delivered⟩
    refine .inl ⟨delivered.handled.ids_eq, ?_⟩
    rw [delivered.others_eq]
    exact ⟨rfl, rfl⟩
  | opened | patched => exact .inl ⟨rfl, rfl, rfl⟩

theorem Committed.items (committed : Committed context last store operation after) :
    after.orders.map (·.id) = store.orders.map (·.id) ∧ after.orderItems = store.orderItems ∨
      ∃ item, after.orders.map (·.id) = store.orders.map (·.id) ++ [item.orderId] ∧
        after.orderItems = store.orderItems ++ [item] ∧
        (∀ order ∈ store.orders, order.id ≠ item.orderId) ∧
        Store.fitsColumn item.orderId = true := by
  rcases committed.placing with ⟨orders, items, -⟩ | ⟨purchase, userId, number, receipt, placing⟩
  · exact .inl ⟨orders, items⟩
  · cases placing with
    | @intro draft settlement between item drafting item_eq settled unbound itemAllowed =>
      have owner : item.orderId = draft.id := congrArg OrderItem.orderId item_eq
      refine .inr ⟨item, ?_, rfl, owner ▸ drafting.fresh, ?_⟩
      · rw [List.map_append, List.map_singleton, settled.framed.id_eq, owner]
      · exact itemAllowed.fit _ (owner ▸ List.mem_cons_self ..)

theorem Committed.itemsOf_eq (committed : Committed context last store operation after)
    (present : order ∈ store.orders) : after.itemsOf order.id = store.itemsOf order.id := by
  rw [Store.itemsOf, Store.itemsOf]
  rcases committed.items with ⟨-, same⟩ | ⟨item, -, added, foreign, -⟩
  · rw [same]
  · rw [added, Store.filter_append_of_ne (foreign order present).symm]

theorem OrdersAfter.refundsOf_eq (changed : OrdersAfter context last store after)
    (found : store.order? order.id = some order) (cancelled : order.status = .cancelled) :
    after.refundsOf order.id = store.refundsOf order.id := by
  cases changed with
  | kept orders refunds | placed _ _ _ orders refunds => rw [Store.refundsOf, refunds]; rfl
  | handled handled unrefunded => rw [Store.refundsOf, unrefunded.refunds_eq]; rfl
  | @refunded user orderId request other result posted between crediting ending saved =>
    have handled := crediting.handled ending
    rcases crediting.added with ⟨row, owner, -, -, refunds, -⟩
    have foreign : row.orderId ≠ order.id := by
      intro same
      rw [← same, owner, (Work.order_present handled.found).2] at found
      rcases Option.some.inj found with rfl
      rcases crediting.refundable with refundable | refundable <;> simp [cancelled] at refundable
    rw [saved, Store.refundsOf, Store.refundsOf]
    change between.orderRefunds.filter _ = _
    rw [refunds, Store.filter_append_of_ne foreign]

theorem PaymentsAfter.keyed (changed : PaymentsAfter context last store after operation)
    (keyed : (store.orderPayments.map (·.id)).Nodup) :
    (after.orderPayments.map (·.id)).Nodup := by
  cases changed with
  | kept orders payments => rwa [payments]
  | placed named purchasing drafting settled orders payments =>
    rw [payments]
    rcases settled.payments_cases with none | ⟨payment, one, id_eq, -⟩
    · rwa [none, List.append_nil]
    · rw [one]
      exact Store.nodup_append_nextId id_eq keyed
  | handled handled byHand => rwa [byHand.payments_eq]
  | delivered read delivered => rwa [delivered.payments_eq, Store.map_key_replace]

theorem PaymentsAfter.paymentsOf_eq (changed : PaymentsAfter context last store after operation)
    (keyed : (store.orderPayments.map (·.id)).Nodup)
    (found : store.order? order.id = some order) (cancelled : order.status = .cancelled) :
    after.paymentsOf order.id = store.paymentsOf order.id := by
  cases changed with
  | kept orders payments => rw [Store.paymentsOf, payments]; rfl
  | placed named purchasing drafting settled orders payments =>
    rw [Store.paymentsOf, Store.paymentsOf, payments]
    rcases settled.payments_cases with none | ⟨payment, one, -, owner⟩
    · rw [none, List.append_nil]
    · have foreign : payment.orderId ≠ order.id := by
        rw [owner, settled.framed.id_eq]
        exact (drafting.fresh order (Store.order?_eq_some found).1).symm
      rw [one, Store.filter_append_of_ne foreign]
  | handled handled byHand => rw [Store.paymentsOf, byHand.payments_eq]; rfl
  | @delivered delivery report other result payment read delivered =>
    have foreign : payment.orderId ≠ order.id := by
      intro same
      rw [← same, delivered.orderId_eq, delivered.handled.order?_eq] at found
      rcases Option.some.inj found with rfl
      exact delivered.uncancelled cancelled
    rw [Store.paymentsOf, delivered.payments_eq]
    refine Store.filter_replace_of_ne (fun present member same => ?_) ?_
    · rw [Report.applyToPayment_id] at same
      rwa [List.inj_on_of_nodup_map keyed member delivered.present same]
    · rwa [Report.applyToPayment_orderId]

theorem Committed.keyed (committed : Committed context last store operation after)
    (keyed : store.Keyed) : after.Keyed where
  orders := by
    have old : ∀ id ∈ store.orders.map (·.id), Store.fitsColumn id = true :=
      List.forall_mem_map.mpr keyed.orders
    have now : ∀ id ∈ after.orders.map (·.id), Store.fitsColumn id = true := by
      rcases committed.items with ⟨same, -⟩ | ⟨item, grown, -, -, fits⟩
      · rwa [same]
      · rw [grown, List.forall_mem_append, List.forall_mem_singleton]
        exact ⟨old, fits⟩
    exact List.forall_mem_map.mp now
  payments := committed.payments.keyed keyed.payments

theorem Committed.closed {detail : OrderDetail}
    (committed : Committed context last store operation after) (keyed : store.Keyed)
    (closed : store.Closed detail) : after.Closed detail where
  found := by
    rcases committed.changed.order?_after closed.found with ⟨later, stays, rfl | changes⟩
    · exact stays
    · exact absurd closed.cancelled changes.uncancelled
  cancelled := closed.cancelled
  shown := by
    rw [Store.detail, committed.itemsOf_eq (Store.order?_eq_some closed.found).1,
      committed.orders.refundsOf_eq closed.found closed.cancelled,
      committed.payments.paymentsOf_eq keyed.payments closed.found closed.cancelled]
    exact closed.shown

end Operation

/-! ## Cancelling once more -/

/-- A call is served in time. -/
structure Context.Timely (context : Context) : Prop where
  inTime : context.deadlinePassed = false
  lasting : context.runsOut = false
  limited : context.settings.requestTimeoutSeconds.isSome = true

theorem Work.order_ok {context : Context} {store : Store} {id : Int} {order : Order}
    (intact : store.Intact) (inTime : context.deadlinePassed = false)
    (fits : Store.fitsColumn id = true) (found : store.order? id = some order) :
    Work.order id context store = .ok (order, store) :=
  order_eq_ok.mpr ⟨allowed_of_intact intact inTime (by simpa using fits), found, rfl⟩

theorem Context.Timely.timeoutSeconds_ok {context : Context} (timely : context.Timely) :
    ∃ seconds, context.settings.timeoutSeconds = .ok seconds := by
  rcases Option.isSome_iff_exists.mp timely.limited with ⟨seconds, limited⟩
  exact ⟨seconds, by rw [Settings.timeoutSeconds, limited]⟩

theorem Service.run_transaction_ok {α : Type} {work : Work α} {context : Context} {desk : Desk}
    {value : α} {store : Store} (timely : context.Timely)
    (done : work context desk.store = .ok (value, store)) :
    (transaction work).run context desk = (.ok value, { desk with store }) := by
  rcases timely.timeoutSeconds_ok with ⟨seconds, timed⟩
  rw [run_transaction, timed, timely.lasting, timed_false, done]

namespace Orders

variable {context : Context} {desk : Desk} {user : User} {order : Order}

theorem run_countCancel_ok {actor : String} {service : Service Order}
    (ran : service.run context desk = (.ok order, desk)) :
    ∃ metrics, (countCancel actor service).run context desk = (.ok order, { desk with metrics }) := by
  rw [countCancel, Service.run_sampled, ran]
  exact ⟨_, rfl⟩

section

variable (intact : desk.store.Intact) (timely : context.Timely)
  (fits : Store.fitsColumn order.id = true)
  (found : desk.store.order? order.id = some order) (cancelled : order.status = .cancelled)

include intact timely fits found cancelled

theorem run_cancel_of_cancelled (owner : order.userId = user.id) (reason : Option String) :
    ∃ metrics, (cancel (some user) order.id reason).run context desk =
      (.ok (desk.store.receipt context order), { desk with metrics }) := by
  have done : cancelOwn (some user) order.id reason context desk.store = .ok (order, desk.store) := by
    refine Work.bind_eq_ok.mpr ⟨order, _, Work.order_ok intact timely.inTime fits found, ?_⟩
    simp [owner, cancelled, Work.pure_eq_ok]
  rcases run_countCancel_ok (Service.run_transaction_ok timely done) with ⟨metrics, counted⟩
  refine ⟨metrics, ?_⟩
  rw [cancel, Service.run_bind, counted]
  exact Service.run_query_ok (Work.receipt_ok intact rfl fits
    (intact.owners order (Store.order?_eq_some found).1))

theorem run_cancelAsAdmin_of_cancelled {actor : Option User} (acts : admin actor = .ok user)
    (reason : Option String) (cancelledAt : Option Int) :
    ∃ metrics, (cancelAsAdmin actor order.id reason cancelledAt).run context desk =
      (.ok (desk.store.adminDetail order), { desk with metrics }) := by
  have done : cancelAny user.email order.id reason cancelledAt context desk.store =
      .ok (order, desk.store) := by
    refine Work.bind_eq_ok.mpr ⟨order, _, Work.order_ok intact timely.inTime fits found, ?_⟩
    simp [cancelled, Work.pure_eq_ok]
  have ran : (Service.lift (admin actor) >>= fun user => Service.transaction
      (cancelAny user.email order.id reason cancelledAt)).run context desk = (.ok order, desk) := by
    rw [Service.run_bind, Service.run_lift, acts]
    exact Service.run_transaction_ok timely done
  rcases run_countCancel_ok ran with ⟨metrics, counted⟩
  refine ⟨metrics, ?_⟩
  rw [cancelAsAdmin, Service.run_bind, counted]
  exact Service.run_query_ok (Work.adminDetail_ok intact rfl fits
    (intact.owners order (Store.order?_eq_some found).1))

end

end Orders

/-- Whoever may cancel an order is answered with it as it is, and no row changes. -/
structure Desk.CancelsAgain (desk : Desk) (context : Context) (detail : OrderDetail) : Prop where
  byOwner : ∀ user reason, desk.store.user? detail.order.userId = some user →
    ∃ metrics, (Call.mk (.cancel (some detail.order.userId) detail.order.id reason)
        context).outcome desk =
      (.ok (.receipt ⟨detail, Purchase.shownBalance context desk.store detail.order.userId, none⟩),
        { desk with metrics })
  byAdmin : ∀ actorId user reason cancelledAt, Store.fitsColumn actorId = true →
    Orders.admin (desk.store.user? actorId) = .ok user →
    ∃ metrics, (Call.mk (.cancelAsAdmin (some actorId) detail.order.id reason cancelledAt)
        context).outcome desk =
      (.ok (.order ⟨detail, .ofUser detail.order.userId (desk.store.user? detail.order.userId)⟩),
        { desk with metrics })

namespace Desk

theorem cancelsAgain {desk : Desk} {context : Context} {detail : OrderDetail}
    (intact : desk.store.Intact) (keyed : desk.store.Keyed) (timely : context.Timely)
    (closed : desk.store.Closed detail) : desk.CancelsAgain context detail := by
  rcases Store.order?_eq_some closed.found with ⟨present, -⟩
  have fits := keyed.orders detail.order present
  constructor
  · intro user reason known
    have owner : user.id = detail.order.userId := by simpa using List.find?_some known
    rcases Orders.run_cancel_of_cancelled intact timely fits closed.found closed.cancelled
      owner.symm reason with ⟨metrics, answered⟩
    refine ⟨metrics, ?_⟩
    rw [Call.outcome, Operation.perform, Service.run_bind,
      Service.run_userById intact.complete (intact.owners detail.order present), known]
    dsimp only
    rw [Service.run_bind, answered, Store.receipt, closed.shown]
    rfl
  · intro actorId user reason cancelledAt actor_fits acts
    rcases Orders.run_cancelAsAdmin_of_cancelled intact timely fits closed.found closed.cancelled
      acts reason cancelledAt with ⟨metrics, answered⟩
    refine ⟨metrics, ?_⟩
    rw [Call.outcome, Operation.perform, Service.run_bind,
      Service.run_userById intact.complete actor_fits]
    dsimp only
    rw [Service.run_bind, answered, Store.adminDetail, closed.shown]
    rfl

/-- Wherever a run has led, an order that is cancelled by then stays as it is, with all of its rows,
whatever is called afterwards; and it may be cancelled once more. -/
theorem cancelled_frozen {desk : Desk} (intact : desk.store.Intact) (keyed : desk.store.Keyed)
    (before later : List Call) {id : Int} {order : Order}
    (found : (desk.afterAll before).store.order? id = some order)
    (cancelled : order.status = .cancelled) :
    let detail := (desk.afterAll before).store.detail order
    let late := desk.afterAll (before ++ later)
    late.store.order? id = some order ∧ late.store.detail order = detail ∧
      ∀ context : Context, context.Timely → late.CancelsAgain context detail := by
  intro detail late
  rcases Store.order?_eq_some found with ⟨-, rfl⟩
  have reached : (desk.afterAll before).store.Keyed :=
    afterAll_induction Store.Keyed keyed fun _ _ _ _ _ keyed committed => committed.keyed keyed
  have stays : late.store.Keyed ∧ late.store.Closed detail := by
    rw [show late = (desk.afterAll before).afterAll later from afterAll_append desk before later]
    exact afterAll_induction (fun store => store.Keyed ∧ store.Closed detail)
      ⟨reached, found, cancelled, rfl⟩
      fun _ _ _ _ _ held committed => ⟨committed.keyed held.1, committed.closed held.1 held.2⟩
  exact ⟨stays.2.found, stays.2.shown, fun _ timely =>
    cancelsAgain (afterAll_intact intact _) stays.1 timely stays.2⟩

def sampleClosing : List Call :=
  sampleCalls ++ [sampleCall 50 (.refund (some 2) 2 { amountCents := 600 })]

def sampleAftermath : List Call := [
  sampleCall 60 (.markPaid (some 2) 2 { paymentMethod := some "manual" }),
  sampleCall 70 (.refund (some 2) 2 { amountCents := 1 }),
  sampleCall 80 (.cancelAsAdmin (some 2) 2 (some "again") (some 1)),
  sampleCall 90 (.receiveResult { orderId := some 2, paymentId := some 1, status := some "failed" })]

theorem sample_cancelled_frozen :
    ∃ order, order.status = .cancelled ∧
      (sample.afterAll (sampleClosing ++ sampleAftermath)).store.order? 2 = some order ∧
      (sample.afterAll (sampleClosing ++ sampleAftermath)).store.detail order =
        (sample.afterAll sampleClosing).store.detail order ∧
      (sample.afterAll (sampleClosing ++ sampleAftermath)).CancelsAgain { now := .ofSeconds 100 }
        ((sample.afterAll sampleClosing).store.detail order) := by
  have closes : ((sample.afterAll sampleClosing).store.order? 2).map (·.status) =
      some .cancelled := by decide +kernel
  rcases Option.map_eq_some_iff.mp closes with ⟨order, found, cancelled⟩
  rcases cancelled_frozen ⟨rfl, by decide⟩ ⟨by decide, by decide⟩ sampleClosing sampleAftermath
    found cancelled with ⟨stays, shown, again⟩
  exact ⟨order, cancelled, stays, shown, again _ ⟨rfl, rfl, rfl⟩⟩

end Desk

end OrderDesk
