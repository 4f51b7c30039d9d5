import Mathlib.Data.List.Forall2
import OrderDesk.Proofs.Desk.History
import OrderDesk.Proofs.Order.Answering
import OrderDesk.Proofs.Order.Collection

/-!
Results of payments that are delivered late, twice, or after a different one. The first result that
is accepted decides an order; from then on results can only add details to its payment, and the same
result adds nothing.
-/

namespace OrderDesk

/-! ## Row by row -/

namespace Store

variable {Row Key : Type} [DecidableEq Key] {key : Row → Key} {row : Row} {rows : List Row}
  {Related : Row → Row → Prop}

theorem forall₂_self (related : ∀ present, Related present present) :
    List.Forall₂ Related rows rows :=
  List.forall₂_same.mpr fun present _ => related present

theorem forall₂_replace (related : ∀ present, Related present present)
    (replaced : ∀ present ∈ rows, key present = key row → Related present row) :
    List.Forall₂ Related rows (replace key row rows) := by
  refine List.forall₂_map_right_iff.mpr (List.forall₂_same.mpr fun present member => ?_)
  split
  · next same => exact replaced present member same
  · exact related present

theorem replace_self (only : ∀ present ∈ rows, key present = key row → row = present) :
    replace key row rows = rows := by
  have same : (replace key row rows).map id = rows.map id := map_replace only
  rwa [List.map_id, List.map_id] at same

theorem mem_replace_self {present : Row} (member : present ∈ rows) (same : key present = key row) :
    row ∈ replace key row rows :=
  List.mem_map.mpr ⟨present, member, if_pos same⟩

end Store

/-! ## Results for orders that are decided -/

/-- A payment without the details that results can add once it has ended. -/
def OrderPayment.undetailed (payment : OrderPayment) : OrderPayment :=
  { payment with reference := none, failureCode := none, failureMessage := none }

def Store.Noted (store : Store) (report : Report) : Prop :=
  ∃ payment ∈ store.orderPayments, payment.id = report.paymentId ∧
    report.detailing payment = payment

namespace Orders.Delivered

variable {context : Context} {store after : Store} {report : Report} {order result : Order}
  {payment : OrderPayment}

theorem decided (delivered : Delivered context store report order payment result after) :
    after.Decided report.orderId :=
  ⟨result, delivered.handled.order?_self, delivered.ended⟩

theorem noted (delivered : Delivered context store report order payment result after) :
    after.Noted report := by
  refine ⟨report.applyToPayment payment context.now, ?_, ?_, Report.detailing_applyToPayment⟩
  · rw [delivered.payments_eq]
    exact Store.mem_replace_self delivered.present Report.applyToPayment_id.symm
  · rw [Report.applyToPayment_id, delivered.paymentId_eq]

theorem concluded (delivered : Delivered context store report order payment result after)
    (decided : store.Decided report.orderId) : order.status ≠ .pendingPayment := by
  rcases decided with ⟨present, found, ended⟩
  rcases Option.some.inj (delivered.handled.order?_eq.symm.trans found) with rfl
  exact ended

theorem ended_before (delivered : Delivered context store report order payment result after)
    (collected : store.Collected) (concluded : order.status ≠ .pendingPayment) :
    payment.status = report.outcome.paymentStatus := by
  rw [(delivered.collects collected).agreed, ← (delivered.replayed concluded).1]
  exact delivered.paymentStatus_eq

/-- A result that is noted already changes nothing. -/
theorem store_eq (delivered : Delivered context store report order payment result after)
    (collected : store.Collected) (decided : store.Decided report.orderId)
    (noted : store.Noted report) : after = store := by
  have concluded := delivered.concluded decided
  have ended := delivered.ended_before collected concluded
  rcases noted with ⟨other, present, named, noted⟩
  have same := collected.eq_of_id_eq delivered.present present
    (named.trans delivered.paymentId_eq.symm)
  subst same
  have payments : after.orderPayments = store.orderPayments := by
    rw [delivered.payments_eq, Report.applyToPayment_of_ended ended, noted]
    refine Store.replace_self fun row member same => ?_
    exact (collected.eq_of_id_eq present member same).symm
  rw [delivered.others_eq, payments, (delivered.replayed concluded).2]

theorem forall₂_orders {Related : Order → Order → Prop}
    (delivered : Delivered context store report order payment result after)
    (related : ∀ present, Related present present)
    (decides : order.status = .pendingPayment →
      ∀ before, before.id = report.orderId → Related before result) :
    List.Forall₂ Related store.orders after.orders := by
  by_cases awaited : order.status = .pendingPayment
  · rcases delivered.handled.orders_eq with ⟨-, same⟩ | replaced
    · rw [same]
      exact Store.forall₂_self related
    · rw [replaced]
      refine Store.forall₂_replace related fun before _ same => ?_
      exact decides awaited before (same.trans delivered.handled.orderId_eq)
  · rw [(delivered.replayed awaited).2]
    exact Store.forall₂_self related

theorem forall₂_payments {Related : OrderPayment → OrderPayment → Prop}
    (delivered : Delivered context store report order payment result after)
    (collected : store.Collected) (related : ∀ present, Related present present)
    (applied : Related payment (report.applyToPayment payment context.now)) :
    List.Forall₂ Related store.orderPayments after.orderPayments := by
  rw [delivered.payments_eq]
  refine Store.forall₂_replace related fun before present same => ?_
  rw [Report.applyToPayment_id] at same
  rcases collected.eq_of_id_eq delivered.present present same with rfl
  exact applied

end Orders.Delivered

namespace Operation

variable {context : Context} {last : Int} {store after : Store} {operation : Operation}

/-- What is noted at a payment stays, unless a different result is reported for it. -/
theorem PaymentsAfter.noted {report : Report}
    (changed : PaymentsAfter context last store after operation)
    (same : ∀ delivery other, operation = .receiveResult delivery → delivery.report = .ok other →
      other.paymentId = report.paymentId → other = report)
    (noted : store.Noted report) : after.Noted report := by
  have of_payments {added : List OrderPayment}
      (payments : after.orderPayments = store.orderPayments ++ added) : after.Noted report := by
    rcases noted with ⟨payment, present, noted⟩
    exact ⟨payment, payments ▸ List.mem_append_left _ present, noted⟩
  cases changed with
  | kept orders payments => exact of_payments (payments.trans (List.append_nil _).symm)
  | placed named purchasing drafting settled orders payments => exact of_payments payments
  | handled handled byHand => exact of_payments (byHand.payments_eq.trans (List.append_nil _).symm)
  | @delivered delivery other order result addressed read delivered =>
    by_cases own : other.paymentId = report.paymentId
    · rcases same delivery other rfl read own with rfl
      exact delivered.noted
    · rcases noted with ⟨payment, present, named, noted⟩
      refine ⟨payment, ?_, named, noted⟩
      rw [delivered.payments_eq, Store.mem_replace_of_ne _ _ _ ?_]
      · exact present
      · rw [Report.applyToPayment_id, delivered.paymentId_eq, named]
        exact Ne.symm own

end Operation

/-! ## Results that are accepted -/

namespace Orders

variable {context : Context} {desk after : Desk} {delivery : PaymentResult}

theorem receiveResult_ok {detail : AdminOrderDetail}
    (ran : (receiveResult delivery).run context desk = (.ok detail, after)) :
    ∃ report order, delivery.report = .ok report ∧
      Reporting context desk.store report order after.store := by
  rcases receiveResult_eq_ok ran with ⟨report, order, read, applied, -⟩
  exact ⟨report, order, read, apply_ok applied⟩

end Orders

/-! ## Steps that deliver results -/

namespace Step

variable {step : Step} {delivery : PaymentResult} {orderId : Int}

def Delivers (step : Step) (delivery : PaymentResult) : Prop :=
  step.call.operation = .receiveResult delivery

/-- A result is accepted: the call is answered, or it has changed the store. -/
def Accepts (step : Step) (delivery : PaymentResult) : Prop :=
  step.Delivers delivery ∧
    ((∃ reply, step.answer = .ok reply) ∨ step.after.store ≠ step.desk.store)

def Delivered (step : Step) (delivery : PaymentResult) : Prop :=
  ∃ report order payment result, delivery.report = .ok report ∧
    Orders.Delivered step.call.context step.desk.store report order payment result step.after.store

theorem Delivers.unchanged_or_delivered (delivers : step.Delivers delivery) :
    step.after.store = step.desk.store ∨ step.Delivered delivery := by
  rcases step.commits with same | committed
  · exact .inl same
  · rw [delivers] at committed
    cases committed with
    | reported read reporting =>
      rcases reporting.delivered with ⟨order, payment, delivered⟩
      exact .inr ⟨_, order, payment, _, read, delivered⟩

theorem Delivers.reporting_of_answered (delivers : step.Delivers delivery) {reply : Reply}
    (answered : step.answer = .ok reply) :
    ∃ report result, delivery.report = .ok report ∧
      Orders.Reporting step.call.context step.desk.store report result step.after.store := by
  have ran : step.call.operation.perform.run step.call.context step.desk =
      (.ok reply, step.after) := Prod.ext answered rfl
  rw [delivers] at ran
  rcases Service.run_bind_eq_ok.mp ran with ⟨detail, _, received, shown⟩
  rcases Service.run_pure_eq_ok.mp shown with ⟨-, rfl⟩
  exact Orders.receiveResult_ok received

theorem Accepts.delivered (accepts : step.Accepts delivery) : step.Delivered delivery := by
  rcases accepts with ⟨delivers, ⟨reply, answered⟩ | changed⟩
  · rcases delivers.reporting_of_answered answered with ⟨report, result, read, reporting⟩
    rcases reporting.delivered with ⟨order, payment, delivered⟩
    exact ⟨report, order, payment, result, read, delivered⟩
  · exact delivers.unchanged_or_delivered.resolve_left changed

/-- A step leaves a decided order as it is, and adds no more than details to its payment. -/
structure LeavesDecided (step : Step) (orderId : Int) : Prop where
  orders : List.Forall₂ (fun before after => before.id = orderId → after = before)
    step.desk.store.orders step.after.store.orders
  payments : List.Forall₂
    (fun before after => before.orderId = orderId → after.undetailed = before.undetailed)
    step.desk.store.orderPayments step.after.store.orderPayments

theorem Delivers.leavesDecided (delivers : step.Delivers delivery)
    (collected : step.desk.store.Collected) (decided : step.desk.store.Decided orderId) :
    step.LeavesDecided orderId := by
  rcases delivers.unchanged_or_delivered with same | ⟨report, order, payment, result, -, delivered⟩
  · constructor <;> rw [same]
    · exact Store.forall₂_self fun _ _ => rfl
    · exact Store.forall₂_self fun _ _ => rfl
  · constructor
    · refine delivered.forall₂_orders (fun _ _ => rfl) fun awaited before named own => ?_
      exact absurd awaited (delivered.concluded (named.symm.trans own ▸ decided))
    · refine delivered.forall₂_payments collected (fun _ _ => rfl) fun own => ?_
      have named : report.orderId = orderId := delivered.orderId_eq.symm.trans own
      have concluded := delivered.concluded (named ▸ decided)
      rw [Report.applyToPayment_of_ended (delivered.ended_before collected concluded)]
      rfl

/-- A step changes no row but the order and the payment that a result is about. -/
structure ConfinedTo (step : Step) (delivery : PaymentResult) : Prop where
  tables : step.after.store = { step.desk.store with
    orders := step.after.store.orders, orderPayments := step.after.store.orderPayments }
  orders : List.Forall₂ (fun before after => delivery.orderId = some before.id ∨ after = before)
    step.desk.store.orders step.after.store.orders
  payments : List.Forall₂
    (fun before after => delivery.orderId = some before.orderId ∧
      delivery.paymentId = some before.id ∨ after = before)
    step.desk.store.orderPayments step.after.store.orderPayments

theorem Delivers.confinedTo (delivers : step.Delivers delivery)
    (collected : step.desk.store.Collected) : step.ConfinedTo delivery := by
  rcases delivers.unchanged_or_delivered with
    same | ⟨report, order, payment, result, read, delivered⟩
  · constructor <;> rw [same]
    · exact Store.forall₂_self fun _ => .inr rfl
    · exact Store.forall₂_self fun _ => .inr rfl
  · rcases PaymentResult.report_ok read with ⟨orderId_eq, paymentId_eq⟩
    constructor
    · exact delivered.others_eq
    · refine delivered.forall₂_orders (fun _ => .inr rfl) fun _ before named => .inl ?_
      rw [named, orderId_eq]
    · refine delivered.forall₂_payments collected (fun _ => .inr rfl) (.inl ?_)
      rw [orderId_eq, paymentId_eq, delivered.orderId_eq, delivered.paymentId_eq]
      exact ⟨rfl, rfl⟩

theorem keeps_noted {report : Report} (step : Step) (read : delivery.report = .ok report)
    (same : ∀ other, step.Delivers other → other.paymentId = delivery.paymentId →
      other = delivery)
    (before : step.desk.store.Decided report.orderId ∧ step.desk.store.Noted report) :
    step.after.store.Decided report.orderId ∧ step.after.store.Noted report := by
  rcases step.commits with unchanged | committed
  · rw [unchanged]
    exact before
  · refine ⟨committed.payments.decided before.1, committed.payments.noted ?_ before.2⟩
    intro different other delivers readOther own
    have named := (PaymentResult.report_ok readOther).2
    rw [own, ← (PaymentResult.report_ok read).2] at named
    rcases same different delivers named with rfl
    exact Except.ok.inj (readOther.symm.trans read)

end Step

/-! ## Runs -/

namespace Desk

variable {desk : Desk} {calls : List Call}

/-- What becomes of the results of payments that are delivered in the course of a run. -/
structure FirstResultWins (desk : Desk) (calls : List Call) : Prop where
  /-- Once a result has been accepted for an order, none that is delivered later changes the order,
  and none changes how its payment has ended. -/
  decided : (desk.steps calls).Pairwise fun early late => ∀ first other orderId,
    early.Accepts first → first.orderId = some orderId → late.Delivers other →
      late.LeavesDecided orderId
  /-- A result that has been accepted changes no table when it is delivered again, unless a different
  one has been delivered for the payment in between. -/
  redelivered : ∀ early first between again late,
    desk.steps calls = early ++ first :: (between ++ again :: late) → ∀ delivery,
      first.Accepts delivery → again.Delivers delivery →
        (∀ step ∈ between, ∀ other, step.Delivers other →
          other.paymentId = delivery.paymentId → other = delivery) →
        again.after.store = again.desk.store
  /-- Accepted or not, a result moves no money and changes no rows but those that it is about. -/
  confined : ∀ step ∈ desk.steps calls, ∀ delivery, step.Delivers delivery →
    step.ConfinedTo delivery

theorem steps_collected (priced : ∀ plan ∈ desk.store.plans, 0 ≤ plan.priceCents)
    (collected : desk.store.Collected) : ∀ step ∈ desk.steps calls, step.desk.store.Collected := by
  have both : ∀ step ∈ desk.steps calls,
      (∀ plan ∈ step.desk.store.plans, 0 ≤ plan.priceCents) ∧ step.desk.store.Collected :=
    steps_induction (fun store => (∀ plan ∈ store.plans, 0 ≤ plan.priceCents) ∧ store.Collected)
      ⟨priced, collected⟩ fun _ _ _ _ _ before committed => committed.collected before
  exact fun step member => (both step member).2

theorem steps_decided : (desk.steps calls).Pairwise fun early late => ∀ delivery orderId,
    early.Accepts delivery → delivery.orderId = some orderId →
      late.desk.store.Decided orderId := by
  refine steps_pairwise (fun early store => ∀ delivery orderId, early.Accepts delivery →
    delivery.orderId = some orderId → store.Decided orderId) ?_ ?_ fun _ _ decided => decided
  · intro early call _ last store after decided committed delivery orderId accepts named
    exact committed.payments.decided (decided delivery orderId accepts named)
  · intro early _ delivery orderId accepts named
    rcases accepts.delivered with ⟨report, order, payment, result, read, delivered⟩
    have same := (PaymentResult.report_ok read).1.symm.trans named
    exact Option.some.inj same ▸ delivered.decided

/-- The first result for an order wins, and to deliver it again does no harm. -/
theorem first_result_wins (priced : ∀ plan ∈ desk.store.plans, 0 ≤ plan.priceCents)
    (noPayments : desk.store.orderPayments = []) (calls : List Call) :
    desk.FirstResultWins calls where
  decided := by
    have collected : ∀ step ∈ desk.steps calls, step.desk.store.Collected :=
      steps_collected priced (.of_no_payments noPayments)
    refine steps_decided.imp_of_mem ?_
    intro early late _ member decided first other orderId accepts named delivers
    exact delivers.leavesDecided (collected late member) (decided first orderId accepts named)
  redelivered := by
    intro early first between again late ran delivery accepts delivers same
    have collected : ∀ step ∈ desk.steps calls, step.desk.store.Collected :=
      steps_collected priced (.of_no_payments noPayments)
    have member : again ∈ desk.steps calls := by
      rw [ran]
      simp
    rcases accepts.delivered with ⟨report, order, payment, result, read, delivered⟩
    rcases steps_between (fun store => store.Decided report.orderId ∧ store.Noted report) ran
      ⟨delivered.decided, delivered.noted⟩
      (fun step member => step.keeps_noted read (same step member)) with ⟨decided, noted⟩
    rcases delivers.unchanged_or_delivered with
      unchanged | ⟨again, order, payment, result, readAgain, redelivered⟩
    · exact unchanged
    · rcases Except.ok.inj (readAgain.symm.trans read) with rfl
      exact redelivered.store_eq (collected _ member) decided noted
  confined step member delivery delivers :=
    delivers.confinedTo (steps_collected priced (.of_no_payments noPayments) step member)

def sampleDeliveries : List Call := [
  sampleCall 10 (.create (some 1)
    { planId := some 1, paymentMethod := some "external", paymentChannel := some "card" }),
  sampleCall 20 (.receiveResult
    { orderId := some 2, paymentId := some 1, status := some "succeeded", reference := some "r1" }),
  sampleCall 30 (.receiveResult
    { orderId := some 2, paymentId := some 1, status := some "failed" }),
  sampleCall 40 (.receiveResult
    { orderId := some 2, paymentId := some 1, status := some "succeeded", reference := some "r1" })]

theorem sample_first_result_wins :
    sample.FirstResultWins sampleDeliveries ∧
      (sample.steps sampleDeliveries).map (·.answer.toOption.isSome) = [true, true, false, true] ∧
      (sample.afterAll sampleDeliveries).store.orders.map (·.status) = [.pending, .paid] :=
  ⟨first_result_wins (by decide) rfl sampleDeliveries, rfl, rfl⟩

end Desk

end OrderDesk
