import Mathlib.Data.List.Nodup
import OrderDesk.Proofs.Order.Accounting

/-!
Orders that gateways collect. Such an order has one payment, and the two agree on how the collection
has ended: only results that are reported for them change either, and these change both.
-/

namespace OrderDesk

/-! ## What a result does to a payment -/

theorem PaymentResult.report_eq_ok {result : PaymentResult} {report : Report} :
    result.report = .ok report ↔
      ¬(result.orderId.getD 0 = 0 ∨ result.paymentId.getD 0 = 0) ∧ ∃ outcome moment,
        Outcome.ofText? (Text.keyword result.status) = some outcome ∧
        result.reportedAt = .ok moment ∧
        report =
          { orderId := result.orderId.getD 0
            paymentId := result.paymentId.getD 0
            outcome
            reference := Text.trim? result.reference
            failureCode := Text.trim? result.failureCode
            failureMessage := Text.trim? result.failureMessage
            reportedAt := moment } := by
  rw [PaymentResult.report]
  dsimp only
  split
  · next missing => exact ⟨nofun, fun ⟨named, _⟩ => absurd missing named⟩
  · next named =>
    cases read : Outcome.ofText? (Text.keyword result.status) with
    | none => exact ⟨nofun, nofun⟩
    | some outcome =>
      cases timed : result.reportedAt with
      | error fault => exact ⟨nofun, nofun⟩
      | ok moment =>
        constructor
        · intro reported
          exact ⟨named, outcome, moment, rfl, rfl, (Except.ok.inj reported).symm⟩
        · rintro ⟨-, _, _, ⟨⟩, ⟨⟩, rfl⟩
          rfl

theorem PaymentResult.report_ok {result : PaymentResult} {report : Report}
    (read : result.report = .ok report) :
    result.orderId = some report.orderId ∧ result.paymentId = some report.paymentId := by
  have of_getD {id : Option Int} (named : id.getD 0 ≠ 0) : id = some (id.getD 0) := by
    cases id with
    | none => exact absurd rfl named
    | some id => rfl
  rcases report_eq_ok.mp read with ⟨named, _, _, -, -, rfl⟩
  rcases not_or.mp named with ⟨orderNamed, paymentNamed⟩
  exact ⟨of_getD orderNamed, of_getD paymentNamed⟩

namespace Report

variable {report : Report} {payment : OrderPayment} {now : Instant}

def detailing (report : Report) (payment : OrderPayment) : OrderPayment :=
  { payment with
    reference := (Text.nonEmpty? report.reference).or payment.reference
    failureCode := (Text.nonEmpty? report.failureCode).or payment.failureCode
    failureMessage := (Text.nonEmpty? report.failureMessage).or payment.failureMessage }

theorem applyToPayment_id : (report.applyToPayment payment now).id = payment.id := by
  rw [applyToPayment]
  split <;> rfl

theorem applyToPayment_orderId : (report.applyToPayment payment now).orderId = payment.orderId := by
  rw [applyToPayment]
  split <;> rfl

theorem applyToPayment_currency :
    (report.applyToPayment payment now).currency = payment.currency := by
  rw [applyToPayment]
  split <;> rfl

theorem applyToPayment_status :
    (report.applyToPayment payment now).status = report.outcome.paymentStatus := by
  rw [applyToPayment]
  split
  · next same => exact same
  · rfl

theorem applyToPayment_of_ended (ended : payment.status = report.outcome.paymentStatus) :
    report.applyToPayment payment now = report.detailing payment := by
  rw [applyToPayment, if_pos ended]
  rfl

theorem detailing_applyToPayment :
    report.detailing (report.applyToPayment payment now) = report.applyToPayment payment now := by
  have again (payment : OrderPayment) :
      report.detailing (report.detailing payment) = report.detailing payment := by
    simp only [detailing, ← Option.or_assoc, Option.or_self]
  exact again _

end Report

namespace Orders

variable {context : Context} {store after : Store} {report : Report} {order result : Order}
  {payment : OrderPayment}

/-- A result that is accepted, for the first time or once more, with the order and the payment that
it is about. -/
structure Delivered (context : Context) (store : Store) (report : Report) (order : Order)
    (payment : OrderPayment) (result : Order) (after : Store) : Prop where
  handled : Handled context store report.orderId order result after
  present : payment ∈ store.orderPayments
  paymentId_eq : payment.id = report.paymentId
  orderId_eq : payment.orderId = report.orderId
  payments_eq : after.orderPayments =
    Store.replace (·.id) (report.applyToPayment payment context.now) store.orderPayments
  others_eq : after = { store with
    orders := after.orders, orderPayments := after.orderPayments }
  method_eq : result.paymentMethod = order.paymentMethod
  status_eq : result.status = report.outcome.orderStatus
  paymentStatus_eq : result.paymentStatus = report.outcome.paymentStatus
  replayed : order.status ≠ .pendingPayment → result = order ∧ after.orders = store.orders

theorem Reporting.delivered (reporting : Reporting context store report result after) :
    ∃ order payment, Delivered context store report order payment result after := by
  have of_picked {order : Order} {payment : OrderPayment}
      (found : Work.order report.orderId context store = .ok (order, store))
      (picked : (store.paymentsOf order.id).find? (·.id == report.paymentId) = some payment) :
      payment ∈ store.orderPayments ∧ payment.id = report.paymentId ∧
        payment.orderId = report.orderId := by
    rcases List.mem_filter.mp (List.mem_of_find?_eq_some picked) with ⟨present, owner⟩
    have named : order.id = report.orderId :=
      (Store.order?_eq_some (Work.order_eq_ok.mp found).2.1).2
    exact ⟨present, by simpa using List.find?_some picked,
      (beq_iff_eq.mp owner).trans named⟩
  cases reporting with
  | @replayed _ payment found picked replay =>
    rcases of_picked found picked with ⟨present, paymentId_eq, orderId_eq⟩
    rw [Report.isReplay, Bool.and_eq_true, beq_iff_eq, beq_iff_eq] at replay
    exact ⟨result, payment, {
      handled := ⟨found, rfl, rfl, rfl, rfl, .inl ⟨rfl, rfl⟩, rfl, rfl⟩
      present, paymentId_eq, orderId_eq
      payments_eq := rfl
      others_eq := rfl
      method_eq := rfl
      status_eq := replay.1
      paymentStatus_eq := replay.2
      replayed := fun _ => ⟨rfl, rfl⟩ }⟩
  | @accepted order result payment found picked awaited applied =>
    rcases of_picked found picked with ⟨present, paymentId_eq, orderId_eq⟩
    rcases applyToOrder_ok applied with ⟨outcome, rfl⟩ | ⟨outcome, rfl⟩
    all_goals
      exact ⟨order, payment, {
        handled := ⟨found, rfl, rfl, rfl, rfl, .inr rfl, rfl, rfl⟩
        present, paymentId_eq, orderId_eq
        payments_eq := rfl
        others_eq := rfl
        method_eq := rfl
        status_eq := by rw [outcome]; rfl
        paymentStatus_eq := by rw [outcome]; rfl
        replayed := (absurd awaited ·) }⟩

/-- A result ends the collection of its order. -/
theorem Delivered.ended (delivered : Delivered context store report order payment result after) :
    result.status ≠ .pendingPayment := by
  rw [delivered.status_eq]
  cases report.outcome <;> exact nofun

end Orders

/-! ## Orders and their payments -/

/-- An order that a gateway collects, and its payment. It is neither settled by hand nor paid from a
wallet, and the two agree on the state of the collection. -/
structure Order.Collects (order : Order) (payment : OrderPayment) : Prop where
  byGateway : order.paymentMethod ≠ .balance
  opened : order.status ≠ .pending
  agreed : payment.status = order.paymentStatus

/-- Every payment has an order of its own, which a gateway collects. -/
structure Store.Collected (store : Store) : Prop where
  ids : (store.orderPayments.map (·.id)).Nodup
  owners : (store.orderPayments.map (·.orderId)).Nodup
  orders : ∀ payment ∈ store.orderPayments,
    ∃ order, store.order? payment.orderId = some order ∧ order.Collects payment

/-- The collection of an order is over, or it has never been one. -/
def Store.Decided (store : Store) (orderId : Int) : Prop :=
  ∃ order, store.order? orderId = some order ∧ order.status ≠ .pendingPayment

namespace Orders

variable {context : Context} {store after : Store} {orderId : Int} {order result : Order}

/-- An order has been handled by hand, which neither ends a collection nor starts one. -/
structure ByHand (store : Store) (order result : Order) (after : Store) : Prop where
  payments_eq : after.orderPayments = store.orderPayments
  collects : ∀ payment, order.Collects payment → result.Collects payment
  decided : order.status ≠ .pendingPayment → result.status ≠ .pendingPayment

theorem Cancelling.byHand (cancelling : Cancelling context store orderId result after) :
    ∃ order, Handled context store orderId order result after ∧
      ByHand store order result after := by
  cases cancelling with
  | already found cancelled =>
    exact ⟨_, ⟨found, rfl, rfl, rfl, rfl, .inl ⟨rfl, rfl⟩, rfl, rfl⟩, rfl, fun _ => id, id⟩
  | called found empty move =>
    rcases Order.move_eq_ok.mp move with ⟨-, rfl⟩
    exact ⟨_, ⟨found, rfl, rfl, rfl, rfl, .inr rfl, rfl, rfl⟩, rfl,
      fun payment collects => ⟨collects.byGateway, nofun, collects.agreed⟩, fun _ => nofun⟩

theorem Settling.byHand {adminId : Int} {method : PaymentMethod} {notice : PaidNotice}
    (settling : Settling context store adminId orderId method notice result after) :
    ∃ order, Handled context store orderId order result after ∧
      ByHand store order result after := by
  cases settling with
  | uncharged found pending free move =>
    rcases Order.move_eq_ok.mp move with ⟨-, rfl⟩
    exact ⟨_, ⟨found, rfl, rfl, rfl, rfl, .inr rfl, rfl, rfl⟩, rfl,
      fun payment collects => absurd pending collects.opened, fun _ => nofun⟩
  | charged found pending outstanding posting move =>
    rcases Order.move_eq_ok.mp move with ⟨-, rfl⟩
    rcases posting.store_eq with rfl
    exact ⟨_, ⟨found, rfl, rfl, rfl, rfl, .inr rfl, rfl, rfl⟩, rfl,
      fun payment collects => absurd pending collects.opened, fun _ => nofun⟩

theorem Crediting.byHand {user : User} {request : RefundRequest} {posted : LedgerEntry}
    (crediting : Crediting context store user.id orderId request order posted after)
    (ending : Ending (refundedBy order user.id request posted context.now) user.email context.now
      result) :
    ByHand store order result (saved after result) where
  payments_eq := by
    rcases crediting.credited with ⟨balance, between, posting, rfl⟩
    rcases posting.store_eq with rfl
    rfl
  collects payment collects := absurd crediting.paidFromWallet collects.byGateway
  decided _ := by
    cases ending with
    | partly | closed => exact nofun

end Orders

namespace Operation

variable {context : Context} {last : Int} {store after : Store} {operation : Operation}

/-- What has become of orders and payments. -/
inductive PaymentsAfter (context : Context) (last : Int) (store after : Store) :
    Operation → Prop
  | kept {operation : Operation} (orders : after.orders = store.orders)
      (payments : after.orderPayments = store.orderPayments) :
      PaymentsAfter context last store after operation
  | placed {operation : Operation} {userId : Int} {request : OrderRequest} {purchase : Purchase}
      {draft : Order} {balance : Balance} {settlement : Purchase.Settlement} {between : Store}
      (named : request.method = .ok purchase.method)
      (purchasing : Orders.Purchasing context store request purchase)
      (drafting : purchase.Drafting context store userId
        (OrderNumber.text (Orders.nextNumber context last)) draft)
      (settled : purchase.Settled context store draft balance settlement between)
      (orders : after.orders = store.orders ++ [settlement.order])
      (payments : after.orderPayments = store.orderPayments ++ settlement.payments) :
      PaymentsAfter context last store after operation
  | handled {operation : Operation} {orderId : Int} {order result : Order}
      (handled : Orders.Handled context store orderId order result after)
      (byHand : Orders.ByHand store order result after) :
      PaymentsAfter context last store after operation
  | delivered {delivery : PaymentResult} {report : Report} {order result : Order}
      {payment : OrderPayment} (read : delivery.report = .ok report)
      (delivered : Orders.Delivered context store report order payment result after) :
      PaymentsAfter context last store after (.receiveResult delivery)

theorem Committed.payments (committed : Committed context last store operation after) :
    PaymentsAfter context last store after operation := by
  cases committed with
  | moved posting | credited positive posting =>
    rcases posting.store_eq with rfl
    exact .kept rfl rfl
  | created ordered | createdLate ordered =>
    rcases ordered with ⟨user, purchase, -, named, purchasing, placing⟩
    cases placing with
    | intro drafting item_eq settled => exact .placed named purchasing drafting settled rfl rfl
  | cancelled cancelling | cancelledByAdmin cancelling =>
    rcases cancelling.byHand with ⟨order, handled, byHand⟩
    exact .handled handled byHand
  | settled admin supported settling =>
    rcases settling.byHand with ⟨order, handled, byHand⟩
    exact .handled handled byHand
  | refunded admin crediting ending =>
    exact .handled (crediting.handled ending) (crediting.byHand ending)
  | reported read reporting =>
    rcases reporting.delivered with ⟨order, payment, delivered⟩
    exact .delivered read delivered
  | opened | patched => exact .kept rfl rfl

end Operation

/-! ## Collections are kept in order -/

theorem OrderRequest.method_ok {request : OrderRequest} {method : PaymentMethod}
    (named : request.method = .ok method) (byGateway : method ≠ .balance) : method = .external := by
  delta OrderRequest.method at named
  split at named
  · exact absurd (Except.ok.inj named).symm byGateway
  · exact (Except.ok.inj named).symm
  · cases named

theorem Purchase.isExternal_of_priced {purchase : Purchase} (external : purchase.method = .external)
    (total : 0 ≤ purchase.totalCents) (priced : purchase.totalCents ≠ 0) :
    purchase.isExternal = true := by
  simp only [isExternal, external, beq_self_eq_true, Bool.true_and, decide_eq_true_eq]
  omega

namespace Purchase.Settled

variable {purchase : Purchase} {context : Context} {store between : Store} {userId : Int}
  {number : String} {draft : Order} {balance : Balance} {settlement : Settlement}

theorem payments_cases
    (settled : purchase.Settled context store draft balance settlement between) :
    settlement.payments = [] ∨ ∃ payment, settlement.payments = [payment] ∧
      payment.id = Store.nextId (store.orderPayments.map (·.id)) ∧
      payment.orderId = settlement.order.id := by
  cases settled with
  | free | charged => exact .inl rfl
  | collected => exact .inr ⟨_, rfl, rfl, rfl⟩

theorem collects (external : purchase.method ≠ .balance → purchase.method = .external)
    (total : 0 ≤ purchase.totalCents)
    (drafting : purchase.Drafting context store userId number draft)
    (settled : purchase.Settled context store draft balance settlement between) :
    ∀ payment ∈ settlement.payments, settlement.order.Collects payment := by
  intro payment member
  cases settled with
  | free | charged => cases member
  | collected priced byGateway =>
    have isExternal := isExternal_of_priced (external byGateway) total priced
    rcases drafting.draft_eq with ⟨snapshot, -, rfl⟩
    rw [List.mem_singleton.mp member]
    refine ⟨byGateway, ?_, rfl⟩
    rw [order, if_pos isExternal]
    rintro ⟨⟩

end Purchase.Settled

theorem Orders.Delivered.collects {context : Context} {store after : Store} {report : Report}
    {order result : Order} {payment : OrderPayment}
    (delivered : Orders.Delivered context store report order payment result after)
    (collected : store.Collected) : order.Collects payment := by
  rcases collected.orders payment delivered.present with ⟨owner, found, collects⟩
  rw [delivered.orderId_eq] at found
  rcases Option.some.inj (delivered.handled.order?_eq.symm.trans found) with rfl
  exact collects

namespace Store.Collected

variable {context : Context} {store after : Store} {orderId : Int} {order result : Order}
  {payment : OrderPayment}

theorem of_no_payments (none : store.orderPayments = []) : store.Collected := by
  constructor <;> simp [none]

theorem eq_of_id_eq (collected : store.Collected) {other : OrderPayment}
    (present : payment ∈ store.orderPayments) (present' : other ∈ store.orderPayments)
    (same : other.id = payment.id) : other = payment :=
  List.inj_on_of_nodup_map collected.ids present' present same

theorem eq_of_orderId_eq (collected : store.Collected) {other : OrderPayment}
    (present : payment ∈ store.orderPayments) (present' : other ∈ store.orderPayments)
    (same : other.orderId = payment.orderId) : other = payment :=
  List.inj_on_of_nodup_map collected.owners present' present same

theorem kept (collected : store.Collected) (orders : after.orders = store.orders)
    (payments : after.orderPayments = store.orderPayments) : after.Collected := by
  constructor
  · rw [payments]
    exact collected.ids
  · rw [payments]
    exact collected.owners
  · rw [payments, order?_congr orders]
    exact collected.orders

theorem appended (collected : store.Collected) (orders : after.orders = store.orders ++ [order])
    (payments : after.orderPayments = store.orderPayments) : after.Collected := by
  constructor
  · rw [payments]
    exact collected.ids
  · rw [payments]
    exact collected.owners
  · rw [payments]
    intro payment present
    rcases collected.orders payment present with ⟨owner, found, collects⟩
    exact ⟨owner, order?_append_of_found orders found, collects⟩

theorem opened (collected : store.Collected) (orders : after.orders = store.orders ++ [order])
    (fresh : ∀ other ∈ store.orders, other.id ≠ order.id)
    (payments : after.orderPayments = store.orderPayments ++ [payment])
    (id_eq : payment.id = Store.nextId (store.orderPayments.map (·.id)))
    (orderId_eq : payment.orderId = order.id) (collects : order.Collects payment) :
    after.Collected := by
  constructor
  · rw [payments]
    exact nodup_append_nextId id_eq collected.ids
  · rw [payments, List.map_append, List.map_singleton, ← List.concat_eq_append, List.nodup_concat]
    refine ⟨fun present => ?_, collected.owners⟩
    rcases List.mem_map.mp present with ⟨other, present, same⟩
    rcases collected.orders other present with ⟨owner, found, -⟩
    rcases order?_eq_some found with ⟨present, named⟩
    exact fresh owner present (named.trans (same.trans orderId_eq))
  · rw [payments]
    intro other member
    rcases List.mem_append.mp member with present | new
    · rcases collected.orders other present with ⟨owner, found, collects⟩
      exact ⟨owner, order?_append_of_found orders found, collects⟩
    · rw [List.mem_singleton.mp new, orderId_eq]
      exact ⟨order, order?_append_self orders fresh, collects⟩

theorem handled (collected : store.Collected)
    (handled : Orders.Handled context store orderId order result after)
    (byHand : Orders.ByHand store order result after) : after.Collected := by
  constructor
  · rw [byHand.payments_eq]
    exact collected.ids
  · rw [byHand.payments_eq]
    exact collected.owners
  · rw [byHand.payments_eq]
    intro payment present
    rcases collected.orders payment present with ⟨owner, found, collects⟩
    rcases handled.order?_cases found with ⟨rfl, stays⟩ | stays
    · exact ⟨result, stays, byHand.collects payment collects⟩
    · exact ⟨owner, stays, collects⟩

theorem delivered {report : Report} (collected : store.Collected)
    (delivered : Orders.Delivered context store report order payment result after) :
    after.Collected := by
  have owners : after.orderPayments.map (·.orderId) = store.orderPayments.map (·.orderId) := by
    rw [delivered.payments_eq]
    refine map_replace fun present member same => ?_
    rw [collected.eq_of_id_eq delivered.present member (same.trans Report.applyToPayment_id),
      Report.applyToPayment_orderId]
  constructor
  · rw [delivered.payments_eq, map_key_replace]
    exact collected.ids
  · rw [owners]
    exact collected.owners
  · have collects := delivered.collects collected
    rw [delivered.payments_eq]
    intro other member
    rcases mem_replace member with rfl | ⟨present, different⟩
    · refine ⟨result, ?_, ?_, ?_, ?_⟩
      · rw [Report.applyToPayment_orderId, delivered.orderId_eq]
        exact delivered.handled.order?_self
      · rw [delivered.method_eq]
        exact collects.byGateway
      · rw [delivered.status_eq]
        cases report.outcome <;> exact nofun
      · rw [Report.applyToPayment_status, delivered.paymentStatus_eq]
    · rcases collected.orders other present with ⟨owner, found, collects⟩
      refine ⟨owner, (delivered.handled.order?_of_ne fun same => different ?_).trans found, collects⟩
      rw [collected.eq_of_orderId_eq delivered.present present
        (same.trans delivered.orderId_eq.symm), Report.applyToPayment_id]

end Store.Collected

namespace Operation

variable {context : Context} {last : Int} {store after : Store} {operation : Operation}

theorem PaymentsAfter.collected (changed : PaymentsAfter context last store after operation)
    (priced : ∀ plan ∈ store.plans, 0 ≤ plan.priceCents) (collected : store.Collected) :
    after.Collected := by
  cases changed with
  | kept orders payments => exact collected.kept orders payments
  | @placed _ _ _ _ _ _ settlement _ named purchasing drafting settled orders payments =>
    have total := Purchase.totalCents_nonneg priced purchasing
    rcases settled.payments_cases with none | ⟨payment, one, id_eq, orderId_eq⟩
    · rw [none, List.append_nil] at payments
      exact collected.appended orders payments
    · have collects : settlement.order.Collects payment :=
        settled.collects (OrderRequest.method_ok named) total drafting payment (by simp [one])
      rw [one] at payments
      refine collected.opened orders ?_ payments id_eq orderId_eq collects
      rw [settled.framed.id_eq]
      exact drafting.fresh
  | handled handled byHand => exact collected.handled handled byHand
  | delivered read delivered => exact collected.delivered delivered

theorem Committed.collected (committed : Committed context last store operation after)
    (before : (∀ plan ∈ store.plans, 0 ≤ plan.priceCents) ∧ store.Collected) :
    (∀ plan ∈ after.plans, 0 ≤ plan.priceCents) ∧ after.Collected :=
  ⟨committed.plans_eq ▸ before.1, committed.payments.collected before.1 before.2⟩

/-- What is decided stays decided. -/
theorem PaymentsAfter.decided {orderId : Int}
    (changed : PaymentsAfter context last store after operation)
    (decided : store.Decided orderId) : after.Decided orderId := by
  rcases decided with ⟨order, found, ended⟩
  have of_handled {id : Int} {before result : Order}
      (handled : Orders.Handled context store id before result after)
      (ends : before.status ≠ .pendingPayment → result.status ≠ .pendingPayment) :
      after.Decided orderId := by
    rcases handled.order?_cases found with ⟨rfl, stays⟩ | stays
    · exact ⟨result, stays, ends ended⟩
    · exact ⟨order, stays, ended⟩
  cases changed with
  | kept orders => exact ⟨order, Store.order?_congr orders ▸ found, ended⟩
  | placed named purchasing drafting settled orders =>
    exact ⟨order, Store.order?_append_of_found orders found, ended⟩
  | handled handled byHand => exact of_handled handled byHand.decided
  | delivered read delivered => exact of_handled delivered.handled fun _ => delivered.ended

end Operation

end OrderDesk
