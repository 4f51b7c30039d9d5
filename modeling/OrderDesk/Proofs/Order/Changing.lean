import OrderDesk.Proofs.Desk.History
import OrderDesk.Proofs.Order.Collection

/-!
What operations make of the orders that are there already. An operation changes no order but the one
that it addresses, and that one only in the ways that are listed here.
-/

namespace OrderDesk

namespace Operation

/-- The ways in which an operation can change the order that it addresses. -/
inductive Changes (context : Context) (order : Order) : Operation → Order → Prop
  | cancelled {callerId : Option Int} {reason : Option String} {stamp : Option Instant}
      {note : Fields} (legal : order.status.canMove .cancelled = true)
      (empty : order.status = .paid →
        order.totalCents = 0 ∨ order.totalCents ≤ order.refundedCents) :
      Changes context order (.cancel callerId order.id reason)
        ((order.moving .cancelled context.now stamp).noteMetadata note)
  | cancelledByAdmin {actorId : Option Int} {reason : Option String} {cancelledAt : Option Int}
      {stamp : Option Instant} {note : Fields} (legal : order.status.canMove .cancelled = true)
      (empty : order.status = .paid →
        order.totalCents = 0 ∨ order.totalCents ≤ order.refundedCents) :
      Changes context order (.cancelAsAdmin actorId order.id reason cancelledAt)
        ((order.moving .cancelled context.now stamp).noteMetadata note)
  | settled {actorId : Option Int} {notice : PaidNotice} {method : PaymentMethod}
      {stamp : Option Instant} {note : Fields} (pending : order.status = .pending) :
      Changes context order (.markPaid actorId order.id notice)
        (((order.moving .paid context.now stamp).paidBy method).noteMetadata note)
  | refunded {actorId : Option Int} {request : RefundRequest} {user : User} {posted : LedgerEntry}
      {result : Order}
      (refundable : order.status = .paid ∨ order.status = .partiallyRefunded)
      (priced : 0 < order.totalCents) (covered : request.amountCents ≤ order.outstandingCents)
      (ending : Orders.Ending (Orders.refundedBy order user.id request posted context.now)
        user.email context.now result) :
      Changes context order (.refund actorId order.id request) result
  | collected {delivery : PaymentResult} {report : Report} (read : delivery.report = .ok report)
      (addressed : report.orderId = order.id) (awaited : order.status = .pendingPayment)
      (outcome : report.outcome = .succeeded) :
      Changes context order (.receiveResult delivery) (Orders.collected report order context.now)
  | uncollected {delivery : PaymentResult} {report : Report} (read : delivery.report = .ok report)
      (addressed : report.orderId = order.id) (awaited : order.status = .pendingPayment)
      (outcome : report.outcome = .failed) :
      Changes context order (.receiveResult delivery)
        (Orders.uncollected report order context.now)

variable {context : Context} {last : Int} {store after : Store} {operation : Operation}
  {order result : Order}

theorem Changes.uncancelled (changes : operation.Changes context order result) :
    order.status ≠ .cancelled := by
  cases changes with
  | cancelled legal | cancelledByAdmin legal => exact (OrderStatus.canMove_from legal).1
  | settled pending => simp [pending]
  | refunded refundable => rcases refundable with paid | partly <;> simp [*]
  | collected _ _ awaited | uncollected _ _ awaited => simp [awaited]

inductive OrdersChanged (context : Context) (last : Int) (store after : Store) :
    Operation → Prop
  | kept {operation : Operation} (orders : after.orders = store.orders) :
      OrdersChanged context last store after operation
  | placed {operation : Operation} {userId : Int} {request : OrderRequest} {purchase : Purchase}
      {draft : Order} {balance : Balance} {settlement : Purchase.Settlement} {between : Store}
      (named : request.method = .ok purchase.method)
      (purchasing : Orders.Purchasing context store request purchase)
      (drafting : purchase.Drafting context store userId
        (OrderNumber.text (Orders.nextNumber context last)) draft)
      (settled : purchase.Settled context store draft balance settlement between)
      (orders : after.orders = store.orders ++ [settlement.order]) :
      OrdersChanged context last store after operation
  | changed {operation : Operation} {order result : Order}
      (handled : Orders.Handled context store order.id order result after)
      (changes : operation.Changes context order result) :
      OrdersChanged context last store after operation

end Operation

namespace Orders

variable {context : Context} {store after : Store} {orderId : Int} {result : Order}

theorem found_id {order : Order} (found : Work.order orderId context store = .ok (order, store)) :
    order.id = orderId :=
  (Store.order?_eq_some (Work.order_eq_ok.mp found).2.1).2

theorem Cancelling.changed (cancelling : Cancelling context store orderId result after) :
    after = store ∨ ∃ (order : Order) (stamp : Option Instant) (note : Fields),
      order.id = orderId ∧ Handled context store order.id order result after ∧
      order.status.canMove .cancelled = true ∧
      (order.status = .paid →
        order.totalCents = 0 ∨ order.totalCents ≤ order.refundedCents) ∧
      result = (order.moving .cancelled context.now stamp).noteMetadata note := by
  cases cancelling with
  | already => exact .inl rfl
  | called found empty move =>
    rcases found_id found with rfl
    rcases Order.move_eq_ok.mp move with ⟨legal, rfl⟩
    exact .inr ⟨_, _, _, rfl, ⟨found, rfl, rfl, rfl, rfl, .inr rfl, rfl, rfl⟩, legal, empty, rfl⟩

theorem Settling.changed {adminId : Int} {method : PaymentMethod} {notice : PaidNotice}
    (settling : Settling context store adminId orderId method notice result after) :
    ∃ (order : Order) (stamp : Option Instant) (note : Fields) (means : PaymentMethod),
      order.id = orderId ∧ Handled context store order.id order result after ∧
      order.status = .pending ∧
      result = ((order.moving .paid context.now stamp).paidBy means).noteMetadata note := by
  cases settling with
  | uncharged found pending free move =>
    rcases found_id found with rfl
    rcases Order.move_eq_ok.mp move with ⟨-, rfl⟩
    exact ⟨_, _, _, _, rfl, ⟨found, rfl, rfl, rfl, rfl, .inr rfl, rfl, rfl⟩, pending, rfl⟩
  | charged found pending outstanding posting move =>
    rcases found_id found with rfl
    rcases Order.move_eq_ok.mp move with ⟨-, rfl⟩
    rcases posting.store_eq with rfl
    exact ⟨_, _, _, _, rfl, ⟨found, rfl, rfl, rfl, rfl, .inr rfl, rfl, rfl⟩, pending, rfl⟩

theorem Reporting.decides {report : Report} {order : Order}
    (reporting : Reporting context store report result after)
    (found : store.order? report.orderId = some order) (awaited : order.status = .pendingPayment) :
    report.outcome = .succeeded ∧ result = collected report order context.now ∨
      report.outcome = .failed ∧ result = uncollected report order context.now := by
  cases reporting with
  | replayed looked picked replay =>
    rcases Option.some.inj (found.symm.trans (Work.order_eq_ok.mp looked).2.1) with rfl
    cases outcome : report.outcome <;>
      simp [Report.isReplay, awaited, outcome, Outcome.orderStatus] at replay
  | accepted looked picked awaited applied =>
    rcases Option.some.inj (found.symm.trans (Work.order_eq_ok.mp looked).2.1) with rfl
    exact applyToOrder_ok applied

theorem Reporting.changed {report : Report}
    (reporting : Reporting context store report result after) :
    after.orders = store.orders ∨ ∃ order : Order,
      report.orderId = order.id ∧ Handled context store order.id order result after ∧
      order.status = .pendingPayment ∧
      (report.outcome = .succeeded ∧ result = collected report order context.now ∨
        report.outcome = .failed ∧ result = uncollected report order context.now) := by
  rcases reporting.delivered with ⟨order, payment, delivered⟩
  have handled := delivered.handled
  have named : report.orderId = order.id := (found_id handled.found).symm
  by_cases awaited : order.status = .pendingPayment
  · exact .inr ⟨order, named, named ▸ handled, awaited,
      reporting.decides handled.order?_eq awaited⟩
  · exact .inl (delivered.replayed awaited).2

end Orders

namespace Operation

variable {context : Context} {last : Int} {store after : Store} {operation : Operation}

theorem Committed.changed (committed : Committed context last store operation after) :
    OrdersChanged context last store after operation := by
  cases committed with
  | moved posting | credited positive posting =>
    apply OrdersChanged.kept
    rw [posting.store_eq]
  | created ordered | createdLate ordered =>
    rcases ordered with ⟨user, purchase, -, named, purchasing, placing⟩
    cases placing with
    | intro drafting item_eq settled => exact .placed named purchasing drafting settled rfl
  | cancelled cancelling =>
    rcases cancelling.changed with rfl | ⟨order, stamp, note, rfl, handled, legal, empty, rfl⟩
    · exact .kept rfl
    · exact .changed handled (.cancelled legal empty)
  | cancelledByAdmin cancelling =>
    rcases cancelling.changed with rfl | ⟨order, stamp, note, rfl, handled, legal, empty, rfl⟩
    · exact .kept rfl
    · exact .changed handled (.cancelledByAdmin legal empty)
  | settled admin supported settling =>
    rcases settling.changed with ⟨order, stamp, note, method, rfl, handled, pending, rfl⟩
    exact .changed handled (.settled pending)
  | refunded admin crediting ending =>
    rcases Orders.found_id crediting.found with rfl
    exact .changed (crediting.handled ending)
      (.refunded crediting.refundable crediting.priced crediting.covered ending)
  | reported read reporting =>
    rcases reporting.changed with
      same | ⟨order, named, handled, awaited, ⟨outcome, rfl⟩ | ⟨outcome, rfl⟩⟩
    · exact .kept same
    · exact .changed handled (.collected read named awaited outcome)
    · exact .changed handled (.uncollected read named awaited outcome)
  | opened | patched => exact .kept rfl

theorem OrdersChanged.order?_after (changed : OrdersChanged context last store after operation)
    {id : Int} {before : Order} (found : store.order? id = some before) :
    ∃ later, after.order? id = some later ∧
      (later = before ∨ operation.Changes context before later) := by
  cases changed with
  | kept orders => exact ⟨before, Store.order?_congr orders ▸ found, .inl rfl⟩
  | placed _ _ _ _ orders => exact ⟨before, Store.order?_append_of_found orders found, .inl rfl⟩
  | changed handled changes =>
    rcases handled.order?_cases found with ⟨rfl, stays⟩ | stays
    · exact ⟨_, stays, .inr changes⟩
    · exact ⟨before, stays, .inl rfl⟩

theorem OrdersChanged.missing_before (changed : OrdersChanged context last store after operation)
    {id : Int} (missing : after.order? id = none) : store.order? id = none := by
  cases found : store.order? id with
  | none => rfl
  | some before =>
    rcases changed.order?_after found with ⟨later, stays, -⟩
    cases stays.symm.trans missing

/-- What holds of every new order, and outlasts every change, holds of all orders. -/
theorem OrdersChanged.forall_orders {Invariant : Order → Prop}
    (changed : OrdersChanged context last store after operation)
    (new : ∀ {userId : Int} {number : String} {purchase : Purchase} {draft : Order}
      {balance : Balance} {settlement : Purchase.Settlement} {between : Store},
      purchase.Drafting context store userId number draft →
      purchase.Settled context store draft balance settlement between →
      Invariant settlement.order)
    (outlasts : ∀ {order result : Order}, operation.Changes context order result →
      Invariant order → Invariant result)
    (before : ∀ order ∈ store.orders, Invariant order) : ∀ order ∈ after.orders, Invariant order := by
  intro order member
  cases changed with
  | kept orders => exact before order (orders ▸ member)
  | placed named purchasing drafting settled orders =>
    rw [orders] at member
    rcases List.mem_append.mp member with present | added
    · exact before order present
    · rw [List.mem_singleton.mp added]
      exact new drafting settled
  | changed handled changes =>
    rcases handled.mem_orders member with rfl | present
    · exact outlasts changes (before _ handled.present)
    · exact before order present

end Operation

theorem Step.order?_after (step : Step) {id : Int} {before : Order}
    (found : step.desk.store.order? id = some before) :
    ∃ later, step.after.store.order? id = some later ∧
      (later = before ∨ step.call.operation.Changes step.call.context before later) := by
  rcases step.commits with same | committed
  · exact ⟨before, same ▸ found, .inl rfl⟩
  · exact committed.changed.order?_after found

end OrderDesk
