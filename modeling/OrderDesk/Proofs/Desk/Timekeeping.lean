import OrderDesk.Proofs.Order.Dating
import OrderDesk.Proofs.Time.Written

/-!
Unix times that last. A time that comes with a call passes through the calendar and the text that a
table keeps, and from then on every view of the order tells it as it was given.
-/

namespace OrderDesk

/-! ## Calls that take a time -/

/-- Two operations that look up the same caller are answered alike: if one is, and the other's
service is answered wherever its own is, so is the other. -/
theorem Operation.asking_again {α : Type} {context : Context} {desk after : Desk}
    {callerId : Option Int} {serve other : Option User → Service α} {answer : α → Reply}
    {reply : Reply}
    (ran : (do return answer (← serve (← Service.userById callerId)) : Service Reply).run
      context desk = (.ok reply, after))
    (again : ∀ caller value after, (serve caller).run context desk = (.ok value, after) →
      ∃ value after, (other caller).run context desk = (.ok value, after)) :
    ∃ reply after, (do return answer (← other (← Service.userById callerId)) :
      Service Reply).run context desk = (.ok reply, after) := by
  obtain ⟨caller, between, looked, served⟩ := Service.run_bind_eq_ok.mp ran
  obtain rfl := (Service.Quiet.userById callerId).after_eq looked
  obtain ⟨value, _, served, -⟩ := Service.run_bind_eq_ok.mp served
  obtain ⟨result, _, serves⟩ := again caller value _ served
  exact ⟨answer result, _, Service.run_bind_eq_ok.mpr ⟨caller, between, looked,
    Service.run_bind_eq_ok.mpr ⟨result, _, serves, rfl⟩⟩⟩

/-- A call that may bring a time along. -/
inductive Dating
  | settling (actorId : Option Int) (orderId : Int) (notice : PaidNotice)
  | reporting (result : PaymentResult)
  | cancelling (actorId : Option Int) (orderId : Int) (reason : Option String)
  deriving Repr

namespace Dating

def operation : Dating → Option Int → Operation
  | settling actorId orderId notice, unix =>
    .markPaid actorId orderId { notice with paidAt := unix }
  | reporting result, unix => .receiveResult { result with paidAt := unix }
  | cancelling actorId orderId reason, unix => .cancelAsAdmin actorId orderId reason unix

def orderId : Dating → Int
  | settling _ orderId _ | cancelling _ orderId _ => orderId
  | reporting result => result.orderId.getD 0

def milestone : Dating → Milestone
  | settling .. | reporting _ => .payment
  | cancelling .. => .cancellation

/-- The call is the one that brings the order there. Only a pending order is ever settled by hand,
while a repeated result, or a repeated cancellation, is answered with the order as it is. -/
def Due : Dating → Store → Prop
  | settling .., _ => True
  | reporting result, store =>
    Outcome.ofText? (Text.keyword result.status) = some .succeeded ∧
      ∀ order, store.order? (result.orderId.getD 0) = some order → order.status = .pendingPayment
  | cancelling _ orderId _, store =>
    ∀ order, store.order? orderId = some order → order.status ≠ .cancelled

variable {dating : Dating} {desk : Desk} {context : Context} {unix other : Option Int}
  {reply : Reply}

theorem reached_of_answered (due : dating.Due desk.store)
    (answered : desk.Answers context (dating.operation unix) reply) :
    let after := desk.after ⟨dating.operation unix, context⟩
    ∃ order stamp, reply = .order (after.store.adminDetail order) ∧
      after.store.order? dating.orderId = some order ∧
      Store.fitsColumn dating.orderId = true ∧
      dating.milestone.Reached order stamp ∧ stamp.unixSeconds = context.now.meant unix := by
  intro after
  have ran : (dating.operation unix).perform.run context desk = (.ok reply, after) :=
    Prod.ext answered rfl
  clear_value after
  cases dating with
  | settling actorId orderId notice =>
    obtain ⟨shown, served, rfl⟩ := Operation.asking_ok ran
    obtain ⟨user, method, result, -, -, done, rfl⟩ := Orders.markPaid_eq_ok served
    obtain ⟨order, handled, -⟩ := (Orders.settle_ok done).handled
    obtain ⟨stamp, timed, reached⟩ := Orders.settle_reached done
    exact ⟨result, stamp, rfl, handled.order?_self, handled.orderId_fits, reached,
      Instant.unixSeconds_of_timeOr timed⟩
  | reporting result =>
    obtain ⟨shown, _, served, told⟩ := Service.run_bind_eq_ok.mp ran
    obtain ⟨rfl, rfl⟩ := Service.run_pure_eq_ok.mp told
    obtain ⟨report, order, read, done, rfl⟩ := Orders.receiveResult_eq_ok served
    obtain ⟨before, handled, -⟩ := (Orders.apply_ok done).handled
    obtain ⟨-, outcome, moment, reported, timed, rfl⟩ := PaymentResult.report_eq_ok.mp read
    obtain rfl := Option.some.inj (reported.symm.trans due.1)
    exact ⟨order, _, rfl, handled.order?_self, handled.orderId_fits,
      Orders.apply_reached rfl due.2 done,
      Instant.unixSeconds_of_timeOr (PaymentResult.timeOr_of_reportedAt timed context.now)⟩
  | cancelling actorId orderId reason =>
    obtain ⟨shown, served, rfl⟩ := Operation.asking_ok ran
    obtain ⟨user, result, -, done, rfl⟩ := Orders.cancelAsAdmin_eq_ok served
    obtain ⟨order, handled, -⟩ := (Orders.cancelAny_ok done).handled
    obtain ⟨stamp, timed, reached⟩ := Orders.cancelAny_reached due done
    exact ⟨result, stamp, rfl, handled.order?_self, handled.orderId_fits, reached,
      Instant.unixSeconds_of_timeOr timed⟩

theorem answered_again (intact : desk.store.Intact) (covered : Instant.Covers other)
    (answered : ∃ reply, desk.Answers context (dating.operation unix) reply) :
    ∃ reply, desk.Answers context (dating.operation other) reply := by
  obtain ⟨reply, answered⟩ := answered
  have ran : (dating.operation unix).perform.run context desk = (.ok reply, _) :=
    Prod.ext answered rfl
  suffices ∃ reply after, (dating.operation other).perform.run context desk = (.ok reply, after) by
    obtain ⟨reply, after, again⟩ := this
    exact ⟨reply, congrArg Prod.fst again⟩
  cases dating with
  | settling actorId orderId notice =>
    exact Operation.asking_again ran fun _ _ _ => Orders.markPaid_retimed intact covered
  | reporting result =>
    obtain ⟨shown, _, served, -⟩ := Service.run_bind_eq_ok.mp ran
    obtain ⟨shown, after, again⟩ := Orders.receiveResult_retimed intact covered served
    exact ⟨.order shown, after, Service.run_bind_eq_ok.mpr ⟨shown, after, again, rfl⟩⟩
  | cancelling actorId orderId reason =>
    exact Operation.asking_again ran fun _ _ _ => Orders.cancelAsAdmin_retimed intact covered

end Dating

namespace Desk

/-! ## Views -/

/-- A field of an order has a certain value wherever the order is shown. Its user and administrators
are shown it, and so are partners who are let in. -/
structure Views (desk : Desk) (orderId : Int) (field : String) (value : Json) : Prop where
  fits : Store.fitsColumn orderId = true
  told : ∃ detail, detail.order.id = orderId ∧ desk.Tells detail ∧
    detail.fields.get? field = some value
  shown : ∀ context operation reply, desk.Answers context operation reply →
    ∀ detail ∈ reply.details, detail.order.id = orderId → detail.fields.get? field = some value
  partnered : ∀ surroundings request context text body between,
    Http.passGate surroundings request context desk = (.ok body, between) →
      Http.Schema.pathId "order_id" text = .valid orderId →
        ∃ shown, Http.answer surroundings request (.partnerOrder text) context desk =
            (.ok (Http.ok (AdminOrderDetail.reply shown)), between) ∧
          shown.detail.order.id = orderId ∧ shown.detail.fields.get? field = some value

variable {desk : Desk} {orderId : Int} {order : Order} {milestone : Milestone} {time : Instant}

theorem afterEvents_reached (events : List Event) (found : desk.store.order? orderId = some order)
    (reached : milestone.Reached order time) :
    ∃ later, (desk.afterEvents events).store.order? orderId = some later ∧
      milestone.Reached later time := by
  refine afterEvents_induction (fun store => ∃ later, store.order? orderId = some later ∧
    milestone.Reached later time) ⟨order, found, reached⟩ ?_ ?_ ?_
  · rintro _ _ _ _ _ ⟨before, found, reached⟩ committed
    obtain ⟨later, stays, rfl | changes⟩ := committed.changed.order?_after found
    · exact ⟨later, stays, reached⟩
    · exact ⟨later, stays, reached.changed changes⟩
  · rintro _ _ _ ⟨before, found, reached⟩
    exact ⟨before, found, reached⟩
  · rintro _ _ - ⟨before, found, reached⟩
    exact ⟨before, Store.order?_append_of_found rfl found, reached⟩

theorem views_of_reached (tidy : desk.store.Tidy) (fits : Store.fitsColumn orderId = true)
    (found : desk.store.order? orderId = some order) (reached : milestone.Reached order time) :
    desk.Views orderId milestone.field time.json where
  fits := fits
  told := by
    obtain ⟨member, rfl⟩ := Store.order?_eq_some found
    exact ⟨desk.store.detail order, rfl, tells tidy member, reached.shown desk.store⟩
  shown := by
    intro context operation reply answered detail shown same
    obtain ⟨present, member, rfl⟩ := presents_of_answered tidy answered detail shown
    have tidyAfter := after_tidy tidy ⟨operation, context⟩
    obtain ⟨later, stays, reached⟩ :=
      afterEvents_reached [.called ⟨operation, context⟩] found reached
    have own : (desk.after ⟨operation, context⟩).store.order? orderId = some present :=
      same ▸ tidyAfter.order?_of_mem member
    obtain rfl := Option.some.inj (own.symm.trans stays)
    exact reached.shown _
  partnered := by
    intro surroundings request context text body between passed asked
    obtain ⟨member, rfl⟩ := Store.order?_eq_some found
    exact ⟨_, partner_shown tidy found fits passed asked, rfl, reached.shown desk.store⟩

/-! ## Times that last -/

structure Keeps (desk : Desk) (dating : Dating) (context : Context) : Prop where
  /-- A time that the calendar covers never decides whether the call is answered. -/
  answered : ∀ unix other, (∀ seconds ∈ other, seconds ≤ Instant.lastSecond) →
    (∃ reply, desk.Answers context (dating.operation unix) reply) →
      ∃ reply, desk.Answers context (dating.operation other) reply
  /-- The answer shows the time that has come with the call, or else the present … -/
  shown : ∀ unix reply, desk.Answers context (dating.operation unix) reply →
    ∃ order, reply = .order order ∧ order.detail.order.id = dating.orderId ∧
      order.detail.fields.get? dating.milestone.field = some (.int (context.now.meant unix))
  /-- … and so do all views of the order from then on. -/
  lasting : ∀ unix reply, desk.Answers context (dating.operation unix) reply →
    ∀ later : List Event,
      (∀ order, .received order ∈ later → Store.fitsColumn order.userId = true) →
        ((desk.after ⟨dating.operation unix, context⟩).afterEvents later).Views dating.orderId
          dating.milestone.field (.int (context.now.meant unix))

theorem keeps_of_due (tidy : desk.store.Tidy) {dating : Dating} (due : dating.Due desk.store)
    (context : Context) : desk.Keeps dating context where
  answered _ _ inTime := Dating.answered_again tidy.toIntact (Instant.covers_of_le inTime)
  shown := by
    intro unix reply answered
    obtain ⟨order, stamp, told, found, -, reached, same⟩ := Dating.reached_of_answered due answered
    refine ⟨_, told, (Store.order?_eq_some found).2, ?_⟩
    rw [← same]
    exact reached.shown _
  lasting := by
    intro unix reply answered later owners
    obtain ⟨order, stamp, -, found, fits, reached, same⟩ :=
      Dating.reached_of_answered due answered
    obtain ⟨last, stays, reached⟩ := afterEvents_reached later found reached
    rw [← same]
    exact views_of_reached (afterEvents_tidy (after_tidy tidy _) owners) fits stays reached

/-- Whole seconds of the calendar come back from a table as they were. What has been read in
universal time stays the same when it is read so again, and an instant is the same with whichever
offset it is written. Wherever events have led, the time that comes with the settlement of an order,
with the first report that it has been paid, or with its cancellation is kept. -/
theorem unix_times_survive {start : Desk} (tidy : start.store.Tidy) (events : List Event)
    (owners : ∀ order, .received order ∈ events → Store.fitsColumn order.userId = true) :
    (∀ unix, (Instant.ofSeconds unix).InCalendar → ∃ instant, Instant.ofUnix unix = .ok instant ∧
      instant.reread? = some (.ok instant) ∧ instant.unixSeconds = unix) ∧
    (∀ time instant, ZonedTime.utc time = .ok instant → ∀ offset ∈ [none, some 0],
      ZonedTime.utc ⟨instant, offset⟩ = .ok instant) ∧
    (∀ instant offset, Instant.InCalendar instant → (instant.addMicros offset).InCalendar →
      (offset.natAbs : Int) < Instant.microsPerDay →
        (ZonedTime.parse? (ZonedTime.isoText ⟨instant.addMicros offset, some offset⟩)).map
          ZonedTime.utc = some (.ok instant)) ∧
    ∀ dating context, Dating.Due dating (start.afterEvents events).store →
      (start.afterEvents events).Keeps dating context := by
  refine ⟨?_, ?_, ?_, ?_⟩
  · intro unix calendar
    exact ⟨_, Instant.ofUnix_eq_ok.mpr ⟨calendar, rfl⟩, calendar.reread?,
      Instant.unixSeconds_ofSeconds⟩
  · intro time instant read offset universal
    have zero : offset.getD 0 = 0 := by
      revert offset
      decide
    exact ZonedTime.utc_eq_ok.mpr
      ⟨(ZonedTime.utc_eq_ok.mp read).1, ZonedTime.instant_of_universal offset zero⟩
  · intro instant offset calendar reading inDay
    have parsed : ZonedTime.parse? (ZonedTime.isoText ⟨instant.addMicros offset, some offset⟩) =
        some ⟨instant.addMicros offset, some offset⟩ :=
      ZonedTime.parse?_isoText reading (by simpa using inDay)
    rw [parsed]
    exact congrArg some (ZonedTime.utc_eq_ok.mpr ⟨calendar, ZonedTime.instant_ahead offset⟩)
  · intro dating context due
    exact keeps_of_due (afterEvents_tidy tidy owners) due context

def sampleAwaiting : List Event :=
  [.called (sampleCall 10 (.create (some 1)
    { planId := some 1, paymentMethod := some "external", paymentChannel := some "card" }))]

def sampleReport : Dating :=
  .reporting { orderId := some 2, paymentId := some 1, status := some "succeeded" }

def sampleReportedAgain : List Event :=
  [.called (sampleCall 40 (sampleReport.operation none))]

set_option maxRecDepth 4000 in
theorem sample_unix_times_survive :
    let awaiting := sample.afterEvents sampleAwaiting
    let call := sampleCall 30 (sampleReport.operation (some 1767225600))
    sample.store.Tidy ∧ sampleReport.Due awaiting.store ∧
      (∃ instant, Instant.ofUnix (-62135596800) = .ok instant ∧
        instant.reread? = some (.ok instant) ∧ instant.unixSeconds = -62135596800) ∧
      ZonedTime.utc ⟨.ofSeconds 1767225600, none⟩ = .ok (.ofSeconds 1767225600) ∧
      (ZonedTime.parse? "2026-01-01T08:00:00+08:00").map ZonedTime.utc =
        some (.ok (.ofSeconds 1767225600)) ∧
      (∃ reply, awaiting.Answers call.context call.operation reply) ∧
      ((awaiting.after call).afterEvents sampleReportedAgain).Views 2 "paid_at"
        (.int 1767225600) := by
  intro awaiting call
  have quiet (events : List Event) (calls : ∀ event ∈ events, ∃ call, event = .called call) :
      ∀ order, .received order ∈ events → Store.fitsColumn order.userId = true := by
    intro order received
    obtain ⟨_, other⟩ := calls _ received
    cases other
  have due : sampleReport.Due awaiting.store := by
    refine ⟨rfl, fun order found => ?_⟩
    have status : (awaiting.store.order? 2).map (·.status) = some .pendingPayment := rfl
    rw [show awaiting.store.order? 2 = some order from found] at status
    exact Option.some.inj status
  obtain ⟨reply, answered⟩ : ∃ reply, awaiting.Answers call.context call.operation reply :=
    ⟨_, rfl⟩
  obtain ⟨seconds, again, ahead, keeps⟩ :=
    unix_times_survive sample_tidy sampleAwaiting (quiet _ (by simp [sampleAwaiting]))
  have calendar (unix : Int) (bounds : Instant.firstSecond ≤ unix ∧ unix ≤ Instant.lastSecond) :
      (Instant.ofSeconds unix).InCalendar := Instant.inCalendar_ofSeconds.mpr bounds
  refine ⟨sample_tidy, due, seconds _ (calendar _ (by decide)), ?_, ?_, ⟨reply, answered⟩, ?_⟩
  · exact again ⟨.ofSeconds 1767225600, some 0⟩ _
      (ZonedTime.utc_eq_ok.mpr ⟨calendar _ (by decide), rfl⟩) none (by simp)
  · have text : ZonedTime.isoText ⟨(Instant.ofSeconds 1767225600).addMicros 28800000000,
        some 28800000000⟩ = "2026-01-01T08:00:00+08:00" := by decide +kernel
    rw [← text]
    exact ahead _ 28800000000 (calendar _ (by decide)) (calendar 1767254400 (by decide)) (by decide)
  · exact (keeps sampleReport call.context due).lasting _ reply answered sampleReportedAgain
      (quiet _ (by simp [sampleReportedAgain]))

end Desk

end OrderDesk
