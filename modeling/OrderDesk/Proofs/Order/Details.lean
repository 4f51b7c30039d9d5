import Mathlib.Data.List.Induction
import OrderDesk.Proofs.Desk.Atomicity
import OrderDesk.Proofs.Order.Changing
import OrderDesk.Proofs.Order.Redelivery

/-!
What an order and its payment keep of the results that are accepted for them. The first result gives
both of them their state and their details. What a repeated one gives reaches the payment alone, so
the two tell the same only as long as repeated results tell nothing new.
-/

namespace OrderDesk

/-! ## Results in their order -/

theorem Outcome.eq_of_paymentStatus {outcome other : Outcome}
    (same : outcome.paymentStatus = other.paymentStatus) : outcome = other := by
  cases outcome <;> cases other <;> first | rfl | cases same

namespace Report

def latest (detail : Report → String) (results : List Report) : Option String :=
  (results.filterMap fun result => Text.nonEmpty? (detail result)).getLast?

/-- A result gives no detail but those that an earlier one has given. -/
structure Repeats (earlier later : Report) : Prop where
  reference : later.reference = "" ∨ later.reference = earlier.reference
  failureCode : later.failureCode = "" ∨ later.failureCode = earlier.failureCode
  failureMessage : later.failureMessage = "" ∨ later.failureMessage = earlier.failureMessage

variable {detail : Report → String} {report first : Report} {results : List Report}

theorem latest_append :
    latest detail (results ++ [report]) =
      (Text.nonEmpty? (detail report)).or (latest detail results) := by
  rw [latest, latest, List.filterMap_append, List.getLast?_append]
  cases given : Text.nonEmpty? (detail report) <;> simp [given]

theorem latest_of_repeated
    (repeated : ∀ later ∈ results, detail later = "" ∨ detail later = detail first) :
    latest detail (first :: results) = Text.nonEmpty? (detail first) := by
  induction results using List.reverseRecOn with
  | nil => cases given : Text.nonEmpty? (detail first) <;> simp [latest, given]
  | append_singleton earlier last induction =>
    have before := induction fun later member => repeated later (List.mem_append_left _ member)
    rw [← List.cons_append, latest_append, before]
    rcases repeated last (by simp) with empty | same
    · simp [empty, Text.nonEmpty?]
    · rw [same, Option.or_self]

theorem applyToPayment_eq (payment : OrderPayment) (now : Instant) :
    ∃ processedAt updatedAt, report.applyToPayment payment now =
      { report.detailing payment with
        status := report.outcome.paymentStatus, processedAt, updatedAt } := by
  rw [applyToPayment]
  split
  · next same => exact ⟨payment.processedAt, payment.updatedAt, by rw [← same]; rfl⟩
  · exact ⟨_, _, rfl⟩

end Report

def Step.accepted (step : Step) (orderId : Int) : List Report :=
  match step.call.operation, step.answer with
  | .receiveResult delivery, .ok _ =>
    (delivery.report.toOption.filter (·.orderId == orderId)).toList
  | _, _ => []

def Desk.accepted (desk : Desk) (calls : List Call) (orderId : Int) : List Report :=
  (desk.steps calls).flatMap (·.accepted orderId)

/-! ## What is kept of them -/

namespace Order

/-- What an order keeps of the result that has decided it. -/
structure DecidedBy (order : Order) (first : Report) : Prop where
  ended : order.status ≠ .pendingPayment
  status : order.paymentStatus = first.outcome.paymentStatus
  succeeded : first.outcome = .succeeded →
    order.paymentReference = Text.nonEmpty? first.reference
  failed : first.outcome = .failed →
    order.paymentFailureCode = Text.nonEmpty? first.failureCode ∧
      order.paymentFailureMessage = Text.nonEmpty? first.failureMessage

/-- An order keeps the first of all results. -/
inductive KeepsFirst (order : Order) : List Report → Prop
  | unreported (pending : order.paymentStatus = .pending)
      (unreferenced : order.paymentReference = none) : KeepsFirst order []
  | decided {first : Report} {later : List Report} (decided : order.DecidedBy first) :
      KeepsFirst order (first :: later)

/-- The order keeps the first result, and its payment what has been given last. -/
structure Records (order : Order) (payment : OrderPayment) (results : List Report) : Prop where
  amount : payment.amountCents = order.totalCents
  currency : payment.currency = order.currency
  status : payment.status = order.paymentStatus
  order : order.KeepsFirst results
  reference : payment.reference = Report.latest (·.reference) results
  failureCode : payment.failureCode = Report.latest (·.failureCode) results
  failureMessage : payment.failureMessage = Report.latest (·.failureMessage) results

/-- The order and its payment tell the same. -/
structure Tallies (order : Order) (payment : OrderPayment) : Prop where
  amount : payment.amountCents = order.totalCents
  currency : payment.currency = order.currency
  status : payment.status = order.paymentStatus
  succeeded : order.paymentStatus = .succeeded → payment.reference = order.paymentReference
  failed : order.paymentStatus = .failed →
    payment.failureCode = order.paymentFailureCode ∧
      payment.failureMessage = order.paymentFailureMessage

variable {order result : Order} {payment : OrderPayment} {results : List Report}

theorem Records.tallies (records : order.Records payment results)
    (repeated : ∀ first later, results = first :: later → ∀ again ∈ later, first.Repeats again) :
    order.Tallies payment where
  amount := records.amount
  currency := records.currency
  status := records.status
  succeeded := by
    intro succeeded
    cases records.order with
    | unreported pending => simp [pending] at succeeded
    | @decided first later decided =>
      have outcome : first.outcome = .succeeded :=
        Outcome.eq_of_paymentStatus (decided.status.symm.trans succeeded)
      rw [records.reference, decided.succeeded outcome]
      exact Report.latest_of_repeated fun again member =>
        (repeated first later rfl again member).reference
  failed := by
    intro failed
    cases records.order with
    | unreported pending => simp [pending] at failed
    | @decided first later decided =>
      have outcome : first.outcome = .failed :=
        Outcome.eq_of_paymentStatus (decided.status.symm.trans failed)
      rw [records.failureCode, records.failureMessage, (decided.failed outcome).1,
        (decided.failed outcome).2]
      constructor
      · exact Report.latest_of_repeated fun again member =>
          (repeated first later rfl again member).failureCode
      · exact Report.latest_of_repeated fun again member =>
          (repeated first later rfl again member).failureMessage

end Order

/-! ## What steps make of it -/

structure Order.SameTerms (before after : Order) : Prop where
  totalCents_eq : after.totalCents = before.totalCents
  currency_eq : after.currency = before.currency
  paymentStatus_eq : after.paymentStatus = before.paymentStatus
  reference_eq : after.paymentReference = before.paymentReference
  failureCode_eq : after.paymentFailureCode = before.paymentFailureCode
  failureMessage_eq : after.paymentFailureMessage = before.paymentFailureMessage
  ended : before.status ≠ .pendingPayment → after.status ≠ .pendingPayment

namespace Order

variable {order result : Order} {payment : OrderPayment} {results : List Report}

theorem KeepsFirst.of_same (keeps : order.KeepsFirst results) (same : order.SameTerms result) :
    result.KeepsFirst results := by
  cases keeps with
  | unreported pending unreferenced =>
    exact .unreported (same.paymentStatus_eq.trans pending) (same.reference_eq.trans unreferenced)
  | decided decided =>
    exact .decided {
      ended := same.ended decided.ended
      status := same.paymentStatus_eq.trans decided.status
      succeeded := fun outcome => same.reference_eq.trans (decided.succeeded outcome)
      failed := fun outcome => ⟨same.failureCode_eq.trans (decided.failed outcome).1,
        same.failureMessage_eq.trans (decided.failed outcome).2⟩ }

theorem Records.of_same (records : order.Records payment results) (same : order.SameTerms result) :
    result.Records payment results where
  amount := records.amount.trans same.totalCents_eq.symm
  currency := records.currency.trans same.currency_eq.symm
  status := records.status.trans same.paymentStatus_eq.symm
  order := records.order.of_same same
  reference := records.reference
  failureCode := records.failureCode
  failureMessage := records.failureMessage

end Order

theorem Operation.Changes.sameTerms {context : Context} {operation : Operation}
    {order result : Order} (changes : operation.Changes context order result)
    (byHand : ∀ delivery, operation ≠ .receiveResult delivery) (opened : order.status ≠ .pending) :
    order.SameTerms result := by
  cases changes with
  | cancelled | cancelledByAdmin => constructor <;> simp [Order.moving, Order.noteMetadata]
  | settled pending => exact absurd pending opened
  | refunded refundable priced covered ending =>
    cases ending with
    | partly | closed => constructor <;> simp [Orders.refundedBy, Order.noteMetadata]
  | collected | uncollected => exact absurd rfl (byHand _)

namespace Orders

variable {context : Context} {store after : Store} {report : Report} {order result : Order}
  {payment : OrderPayment} {results : List Report}

theorem Delivered.keepsFirst
    (delivered : Delivered context store report order payment result after)
    (reporting : Reporting context store report result after) (keeps : order.KeepsFirst results) :
    result.KeepsFirst (results ++ [report]) := by
  have reported := delivered.paymentStatus_eq
  by_cases awaited : order.status = .pendingPayment
  · cases keeps with
    | decided decided => exact absurd awaited decided.ended
    | unreported pending unreferenced =>
      rcases reporting.decides delivered.handled.order?_eq awaited with
        ⟨outcome, rfl⟩ | ⟨outcome, rfl⟩
      · exact .decided {
          ended := delivered.ended
          status := reported
          succeeded := by simp [collected, unreferenced]
          failed := by simp [outcome] }
      · exact .decided {
          ended := delivered.ended
          status := reported
          succeeded := by simp [outcome]
          failed := fun _ => ⟨rfl, rfl⟩ }
  · rw [(delivered.replayed awaited).1] at reported ⊢
    cases keeps with
    | decided decided => exact .decided decided
    | unreported pending =>
      rw [pending] at reported
      cases outcome : report.outcome <;> simp [outcome, Outcome.paymentStatus] at reported

theorem Delivered.currency_eq
    (delivered : Delivered context store report order payment result after)
    (reporting : Reporting context store report result after) :
    result.currency = order.currency := by
  by_cases awaited : order.status = .pendingPayment
  · rcases reporting.decides delivered.handled.order?_eq awaited with ⟨-, rfl⟩ | ⟨-, rfl⟩ <;> rfl
  · rw [(delivered.replayed awaited).1]

theorem Delivered.records (delivered : Delivered context store report order payment result after)
    (reporting : Reporting context store report result after)
    (records : order.Records payment results) :
    result.Records (report.applyToPayment payment context.now) (results ++ [report]) := by
  rcases report.applyToPayment_eq payment context.now with ⟨processedAt, updatedAt, applied⟩
  rw [applied]
  exact {
    amount := records.amount.trans delivered.handled.totalCents_eq.symm
    currency := records.currency.trans (delivered.currency_eq reporting).symm
    status := delivered.paymentStatus_eq.symm
    order := delivered.keepsFirst reporting records.order
    reference := by rw [Report.latest_append, ← records.reference]; rfl
    failureCode := by rw [Report.latest_append, ← records.failureCode]; rfl
    failureMessage := by rw [Report.latest_append, ← records.failureMessage]; rfl }

end Orders

theorem Purchase.Settled.records {purchase : Purchase} {context : Context} {store between : Store}
    {userId : Int} {number : String} {draft : Order} {balance : Balance} {settlement : Settlement}
    (drafting : purchase.Drafting context store userId number draft)
    (settled : purchase.Settled context store draft balance settlement between) :
    ∀ payment ∈ settlement.payments, settlement.order.Records payment [] := by
  have terms : draft.totalCents = purchase.totalCents ∧ draft.paymentStatus = .pending ∧
      draft.paymentReference = none := by
    rcases drafting.draft_eq with ⟨snapshot, -, rfl⟩
    exact ⟨rfl, rfl, rfl⟩
  rcases terms with ⟨total, pending, unreferenced⟩
  intro payment member
  cases settled with
  | free | charged => cases member
  | collected =>
    rw [List.mem_singleton.mp member]
    exact {
      amount := total.symm
      currency := rfl
      status := pending.symm
      order := .unreported pending unreferenced
      reference := rfl
      failureCode := rfl
      failureMessage := rfl }

/-! ## What steps put on record -/

namespace Step

variable {step : Step}

theorem accepted_cases (intact : step.desk.store.Intact) :
    (∀ id, step.accepted id = []) ∧ (step.after.store = step.desk.store ∨
        ∀ delivery, step.call.operation ≠ .receiveResult delivery) ∨
      ∃ report result,
        Orders.Reporting step.call.context step.desk.store report result step.after.store ∧
          step.accepted report.orderId = [report] ∧
          ∀ id, id ≠ report.orderId → step.accepted id = [] := by
  by_cases delivers : ∃ delivery, step.Delivers delivery
  · rcases delivers with ⟨delivery, delivers⟩
    cases answered : step.answer with
    | ok reply =>
      rcases delivers.reporting_of_answered answered with ⟨report, result, read, reporting⟩
      have accepted (id : Int) :
          step.accepted id = ((some report).filter (·.orderId == id)).toList := by
        rw [Step.accepted, delivers, answered]
        dsimp only
        rw [read]
        rfl
      refine .inr ⟨report, result, reporting, ?_, fun id other => ?_⟩
      · simp [accepted]
      · simp [accepted, other.symm]
    | error failure =>
      refine .inl ⟨fun id => ?_, .inl ?_⟩
      · rw [Step.accepted, delivers, answered]
      · rcases step.call.operation.perform_atomic intact with untouched | ⟨reply, replied, -⟩
        · exact untouched.store_eq
        · cases replied.symm.trans answered
  · have byHand (delivery : PaymentResult) : step.call.operation ≠ .receiveResult delivery :=
      fun delivering => delivers ⟨delivery, delivering⟩
    refine .inl ⟨fun id => ?_, .inr byHand⟩
    rw [Step.accepted]
    split
    · next delivery _ delivering _ => exact absurd delivering (byHand delivery)
    · rfl

end Step

/-- All payments and their orders are as the results that have been accepted have left them. -/
structure Store.Recorded (store : Store) (results : Int → List Report) : Prop where
  unknown : ∀ id, store.order? id = none → results id = []
  records : ∀ payment ∈ store.orderPayments, ∀ order,
    store.order? payment.orderId = some order → order.Records payment (results order.id)

namespace Store.Recorded

variable {context : Context} {last : Int} {store after : Store} {operation : Operation}
  {results : Int → List Report}

theorem records_after (recorded : store.Recorded results) (collected : store.Collected)
    (changed : Operation.OrdersChanged context last store after operation)
    (byHand : ∀ delivery, operation ≠ .receiveResult delivery) :
    ∀ payment ∈ store.orderPayments, ∀ order, after.order? payment.orderId = some order →
      order.Records payment (results order.id) := by
  intro payment present order found
  rcases collected.orders payment present with ⟨before, owned, collects⟩
  have records := recorded.records payment present before owned
  rcases changed.order?_after owned with ⟨later, stays, changed⟩
  rcases Option.some.inj (stays.symm.trans found) with rfl
  rw [(Store.order?_eq_some found).2, ← (Store.order?_eq_some owned).2]
  rcases changed with rfl | changes
  · exact records
  · exact records.of_same (changes.sameTerms byHand collects.opened)

theorem byHand (recorded : store.Recorded results) (collected : store.Collected)
    (committed : operation.Committed context last store after)
    (byHand : ∀ delivery, operation ≠ .receiveResult delivery) : after.Recorded results where
  unknown id missing := recorded.unknown id (committed.changed.missing_before missing)
  records := by
    have old := recorded.records_after collected committed.changed byHand
    cases committed.payments with
    | kept orders payments => rwa [payments]
    | handled handled byHand => rwa [byHand.payments_eq]
    | delivered => exact absurd rfl (byHand _)
    | @placed _ _ _ _ _ _ settlement _ named purchasing drafting settled orders payments =>
      rw [payments]
      intro payment member order found
      rcases List.mem_append.mp member with present | new
      · exact old payment present order found
      · have records := settled.records drafting payment new
        rcases settled.payments_cases with none | ⟨only, one, -, owner⟩
        · simp [none] at new
        rw [one, List.mem_singleton] at new
        subst new
        have fresh : ∀ other ∈ store.orders, other.id ≠ settlement.order.id :=
          settled.framed.id_eq ▸ drafting.fresh
        -- Results are only accepted for orders that are there, so the new one has had none.
        have missing : store.order? settlement.order.id = none := by simpa [Store.order?] using fresh
        rw [owner, Store.order?_append_self orders fresh] at found
        rcases Option.some.inj found with rfl
        rw [recorded.unknown _ missing]
        exact records

theorem reported {report : Report} {result : Order} {now : Int → List Report}
    (recorded : store.Recorded results) (collected : store.Collected)
    (reporting : Orders.Reporting context store report result after)
    (own : now report.orderId = results report.orderId ++ [report])
    (elsewhere : ∀ id, id ≠ report.orderId → now id = results id) : after.Recorded now := by
  rcases reporting.delivered with ⟨order, payment, delivered⟩
  have handled := delivered.handled
  constructor
  · intro id missing
    by_cases addressed : id = report.orderId
    · rw [addressed, handled.order?_self] at missing
      cases missing
    · rw [elsewhere id addressed]
      apply recorded.unknown
      rwa [handled.order?_of_ne addressed] at missing
  · intro other member found owned
    rw [delivered.payments_eq] at member
    rcases Store.mem_replace member with rfl | ⟨present, different⟩
    · rw [Report.applyToPayment_orderId, delivered.orderId_eq, handled.order?_self] at owned
      rcases Option.some.inj owned with rfl
      rw [handled.orderId_eq, own]
      have records := recorded.records payment delivered.present order
        (delivered.orderId_eq ▸ handled.order?_eq)
      rw [(Store.order?_eq_some handled.order?_eq).2] at records
      exact delivered.records reporting records
    · have foreign : other.orderId ≠ report.orderId := by
        intro same
        rw [collected.eq_of_orderId_eq delivered.present present
          (same.trans delivered.orderId_eq.symm), Report.applyToPayment_id] at different
        exact different rfl
      rw [handled.order?_of_ne foreign] at owned
      rw [elsewhere found.id ((Store.order?_eq_some owned).2 ▸ foreign)]
      exact recorded.records other present found owned

end Store.Recorded

theorem Step.recorded (step : Step) {results : Int → List Report}
    (intact : step.desk.store.Intact) (collected : step.desk.store.Collected)
    (recorded : step.desk.store.Recorded results) :
    step.after.store.Recorded fun id => results id ++ step.accepted id := by
  rcases step.accepted_cases intact with ⟨none, kept⟩ | ⟨report, result, reporting, own, others⟩
  · simp only [none, List.append_nil]
    rcases kept with same | byHand
    · rwa [same]
    · rcases step.commits with same | committed
      · rwa [same]
      · exact recorded.byHand collected committed byHand
  · refine recorded.reported collected reporting ?_ fun id other => ?_
    · rw [own]
    · rw [others id other, List.append_nil]

/-! ## Runs -/

namespace Desk

variable {desk : Desk} {calls : List Call}

theorem afterAll_recorded {results : Int → List Report}
    (sound : ∀ step ∈ desk.steps calls, step.desk.store.Intact ∧ step.desk.store.Collected)
    (recorded : desk.store.Recorded results) :
    (desk.afterAll calls).store.Recorded fun id => results id ++ desk.accepted calls id := by
  induction calls generalizing desk results with
  | nil =>
    simp only [accepted, steps, List.flatMap_nil, List.append_nil]
    exact recorded
  | cons call rest induction =>
    rcases List.forall_mem_cons.mp sound with ⟨⟨intact, collected⟩, later⟩
    simp only [accepted, steps, List.flatMap_cons, ← List.append_assoc]
    exact induction later (Step.recorded ⟨desk, call⟩ intact collected recorded)

/-- Wherever a run has led, an order that has a payment has that one only. The two agree on the
amount, the currency and how the payment stands. The order keeps the details of the first result that
was accepted for it, and the payment those that were given last; so the two tell the same if repeated
results have told nothing new. -/
theorem payments_tally (priced : ∀ plan ∈ desk.store.plans, 0 ≤ plan.priceCents)
    (intact : desk.store.Intact) (noPayments : desk.store.orderPayments = []) (calls : List Call)
    {id : Int} {order : Order} {payment : OrderPayment}
    (found : (desk.afterAll calls).store.order? id = some order)
    (member : payment ∈ (desk.afterAll calls).store.paymentsOf id) :
    (desk.afterAll calls).store.paymentsOf id = [payment] ∧
      order.Records payment (desk.accepted calls id) ∧
      ((∀ first later, desk.accepted calls id = first :: later →
        ∀ again ∈ later, first.Repeats again) → order.Tallies payment) := by
  rcases Store.order?_eq_some found with ⟨-, rfl⟩
  have start : desk.store.Collected := .of_no_payments noPayments
  have sound : ∀ step ∈ desk.steps calls, step.desk.store.Intact ∧ step.desk.store.Collected :=
    fun step visited =>
      ⟨steps_induction Store.Intact intact (fun _ _ _ _ _ intact committed => committed.intact intact)
        step visited, steps_collected priced start step visited⟩
  have unreported : desk.store.Recorded fun _ => [] := ⟨fun _ _ => rfl, by simp [noPayments]⟩
  have collected : (desk.afterAll calls).store.Collected :=
    (afterAll_induction (fun store => (∀ plan ∈ store.plans, 0 ≤ plan.priceCents) ∧ store.Collected)
      ⟨priced, start⟩ fun _ _ _ _ _ before committed => committed.collected before).2
  rcases List.mem_filter.mp member with ⟨present, owner⟩
  have owned : payment.orderId = order.id := beq_iff_eq.mp owner
  have records : order.Records payment (desk.accepted calls order.id) :=
    (afterAll_recorded sound unreported).records payment present order (owned ▸ found)
  refine ⟨?_, records, records.tallies⟩
  rw [← owned]
  exact Store.filter_eq_singleton collected.owners present

set_option maxRecDepth 4000 in
theorem sample_payments_tally :
    ∃ (order : Order) (payment : OrderPayment),
      (sample.afterAll sampleDeliveries).store.order? 2 = some order ∧
      (sample.afterAll sampleDeliveries).store.paymentsOf 2 = [payment] ∧
      (sample.accepted sampleDeliveries 2).map (·.reference) = ["r1", "r1"] ∧
      order.Records payment (sample.accepted sampleDeliveries 2) ∧ order.Tallies payment := by
  have present : ((sample.afterAll sampleDeliveries).store.order? 2).isSome = true := rfl
  rcases Option.isSome_iff_exists.mp present with ⟨order, found⟩
  have paid : ((sample.afterAll sampleDeliveries).store.paymentsOf 2).map (·.id) = [1] := rfl
  rcases List.map_eq_singleton_iff.mp paid with ⟨payment, only, -⟩
  have results : sample.accepted sampleDeliveries 2 =
      [⟨2, 1, .succeeded, "r1", "", "", none⟩, ⟨2, 1, .succeeded, "r1", "", "", none⟩] := rfl
  rcases payments_tally (by decide) ⟨rfl, by decide⟩ rfl sampleDeliveries found
    (only ▸ List.mem_singleton_self payment) with ⟨one, records, tallies⟩
  refine ⟨order, payment, found, one, by rw [results]; rfl, records, tallies ?_⟩
  rw [results]
  rintro first later ⟨⟩ again member
  rw [List.mem_singleton.mp member]
  exact ⟨.inr rfl, .inr rfl, .inr rfl⟩

def sampleLateReference : List Call := [
  sampleCall 10 (.create (some 1)
    { planId := some 1, paymentMethod := some "external", paymentChannel := some "card" }),
  sampleCall 20 (.receiveResult
    { orderId := some 2, paymentId := some 1, status := some "succeeded" }),
  sampleCall 30 (.receiveResult
    { orderId := some 2, paymentId := some 1, status := some "succeeded", reference := some "r1" })]

set_option maxRecDepth 4000 in
theorem sample_payments_differ :
    ∃ (order : Order) (payment : OrderPayment),
      (sample.afterAll sampleLateReference).store.order? 2 = some order ∧
      (sample.afterAll sampleLateReference).store.paymentsOf 2 = [payment] ∧
      ¬order.Tallies payment := by
  have present : ((sample.afterAll sampleLateReference).store.order? 2).map (fun order =>
      (order.paymentStatus, order.paymentReference)) = some (.succeeded, none) := rfl
  rcases Option.map_eq_some_iff.mp present with ⟨order, found, told⟩
  rcases Prod.mk.inj told with ⟨succeeded, unreferenced⟩
  have paid : ((sample.afterAll sampleLateReference).store.paymentsOf 2).map (·.reference) =
      [some "r1"] := rfl
  rcases List.map_eq_singleton_iff.mp paid with ⟨payment, only, referenced⟩
  refine ⟨order, payment, found, only, fun tallies => ?_⟩
  have same := tallies.succeeded succeeded
  rw [referenced, unreferenced] at same
  cases same

end Desk

end OrderDesk
