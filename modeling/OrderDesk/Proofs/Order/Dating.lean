import OrderDesk.Proofs.Desk.Containment
import OrderDesk.Proofs.Desk.Showing
import OrderDesk.Proofs.Time.Instant

/-!
Times that come with a call. Settling an order by hand, reporting that it has been paid, and
cancelling it as an administrator write down the time that is passed along, or the present. Which of
the two it is makes no difference to whether the call is answered.
-/

namespace OrderDesk

/-! ## The time that is meant -/

namespace Instant

/-- Only positive numbers of seconds are times; anything else stands for the present. -/
def meant (now : Instant) (unix : Option Int) : Int :=
  (unix.filter (0 < ·)).getD now.unixSeconds

variable {now stamp : Instant} {unix : Option Int}

theorem unixSeconds_of_timeOr (timed : Work.timeOr now unix = .ok stamp) :
    stamp.unixSeconds = now.meant unix := by
  cases unix with
  | none =>
    obtain rfl := Except.ok.inj timed
    rfl
  | some seconds =>
    rw [Work.timeOr] at timed
    split at timed
    · next positive =>
      obtain ⟨-, rfl⟩ := ofUnix_eq_ok.mp timed
      simp [meant, Option.filter, positive, unixSeconds_ofSeconds]
    · next early =>
      obtain rfl := Except.ok.inj timed
      simp [meant, Option.filter, early]

theorem covers_of_le (inTime : ∀ seconds ∈ unix, seconds ≤ lastSecond) : Covers unix := by
  intro seconds given positive
  have first : firstSecond ≤ seconds := by
    rw [firstSecond]
    omega
  exact ⟨_, ofUnix_eq_ok.mpr ⟨inCalendar_ofSeconds.mpr ⟨first, inTime seconds given⟩, rfl⟩⟩

end Instant

theorem PaymentResult.timeOr_of_reportedAt {result : PaymentResult} {moment : Option Instant}
    (timed : result.reportedAt = .ok moment) (now : Instant) :
    Work.timeOr now result.paidAt = .ok (moment.getD now) := by
  rw [reportedAt] at timed
  cases given : result.paidAt with
  | none =>
    rw [given] at timed
    obtain rfl := Except.ok.inj timed
    rfl
  | some seconds =>
    rw [given] at timed
    dsimp only at timed
    rw [Work.timeOr]
    split at timed
    · next positive =>
      rw [if_pos positive]
      cases read : Instant.ofUnix seconds with
      | error fault =>
        rw [read] at timed
        cases timed
      | ok instant =>
        rw [read] at timed
        obtain rfl := Except.ok.inj timed
        rfl
    · next early =>
      obtain rfl := Except.ok.inj timed
      rw [if_neg early]
      rfl

/-! ## What has been reached for good -/

/-- What an order remembers the time of, and comes to once. -/
inductive Milestone
  | payment
  | cancellation
  deriving DecidableEq, Repr

namespace Milestone

def field : Milestone → String
  | payment => "paid_at"
  | cancellation => "cancelled_at"

/-- The order has come there, at a time that is not written again. -/
def Reached : Milestone → Order → Instant → Prop
  | payment, order, time =>
    order.paidAt = some time ∧ order.status ≠ .pending ∧ order.status ≠ .pendingPayment
  | cancellation, order, time => order.cancelledAt = some time ∧ order.status = .cancelled

variable {milestone : Milestone} {order result : Order} {time : Instant}

theorem Reached.changed {context : Context} {operation : Operation}
    (reached : milestone.Reached order time) (changes : operation.Changes context order result) :
    milestone.Reached result time := by
  cases milestone with
  | cancellation => exact absurd reached.2 changes.uncancelled
  | payment =>
    obtain ⟨paid, settled, collected⟩ := reached
    cases changes with
    | cancelled | cancelledByAdmin => exact ⟨paid, nofun, nofun⟩
    | settled pending => exact absurd pending settled
    | collected _ _ awaited | uncollected _ _ awaited => exact absurd awaited collected
    | refunded _ _ _ ending =>
      cases ending with
      | partly | closed => exact ⟨paid, nofun, nofun⟩

theorem Reached.shown (reached : milestone.Reached order time) (store : Store) :
    (store.detail order).fields.get? milestone.field = some time.json := by
  cases milestone with
  | payment => exact congrArg (fun paidAt => some (Json.ofOption Instant.json paidAt)) reached.1
  | cancellation =>
    exact congrArg (fun cancelledAt => some (Json.ofOption Instant.json cancelledAt)) reached.1

end Milestone

/-! ## Work that takes a time -/

namespace Orders

variable {context : Context} {store after : Store} {orderId : Int} {order result : Order}
  {unix : Option Int}

theorem Handled.orderId_fits (handled : Handled context store orderId order result after) :
    Store.fitsColumn orderId = true :=
  (Work.order_eq_ok.mp handled.found).1.fit orderId (List.mem_singleton_self orderId)

theorem settle_reached {adminId : Int} {method : PaymentMethod} {notice : PaidNotice}
    (done : settle adminId orderId method notice context store = .ok (result, after)) :
    ∃ stamp, Work.timeOr context.now notice.paidAt = .ok stamp ∧
      Milestone.payment.Reached result stamp := by
  obtain ⟨order, stamp, means, between, -, -, timed, -, rfl, -⟩ := settle_eq_ok.mp done
  exact ⟨stamp, timed, rfl, nofun, nofun⟩

theorem cancelAny_reached {email : String} {reason : Option String} {cancelledAt : Option Int}
    (standing : ∀ order, store.order? orderId = some order → order.status ≠ .cancelled)
    (done : cancelAny email orderId reason cancelledAt context store = .ok (result, after)) :
    ∃ stamp, Work.timeOr context.now cancelledAt = .ok stamp ∧
      Milestone.cancellation.Reached result stamp := by
  obtain ⟨order, found, ⟨cancelled, -⟩ | ⟨-, -, stamp, timed, -, rfl, -⟩⟩ :=
    cancelAny_eq_ok.mp done
  · exact absurd cancelled (standing order (Work.order_eq_ok.mp found).2.1)
  · exact ⟨stamp, timed, rfl, rfl⟩

theorem apply_reached {report : Report} (succeeded : report.outcome = .succeeded)
    (awaited : ∀ order, store.order? report.orderId = some order → order.status = .pendingPayment)
    (done : report.apply context store = .ok (result, after)) :
    Milestone.payment.Reached result (report.reportedAt.getD context.now) := by
  have reporting := apply_ok done
  obtain ⟨order, handled, -⟩ := reporting.handled
  have found := handled.order?_eq
  obtain ⟨-, rfl⟩ | ⟨failed, -⟩ := reporting.decides found (awaited order found)
  · exact ⟨rfl, nofun, nofun⟩
  · cases succeeded.symm.trans failed

/-! ### The same at another time -/

section

variable (covered : Instant.Covers unix)

include covered

theorem settle_retimed {adminId : Int} {method : PaymentMethod} {notice : PaidNotice}
    (done : settle adminId orderId method notice context store = .ok (result, after)) :
    ∃ result after, settle adminId orderId method { notice with paidAt := unix } context store =
      .ok (result, after) := by
  obtain ⟨order, _, means, between, found, pending, -, charged, -, -⟩ := settle_eq_ok.mp done
  obtain ⟨stamp, timed⟩ : ∃ stamp, Work.timeOr context.now unix = .ok stamp :=
    Work.timeOr_ok covered
  exact ⟨_, _, settle_eq_ok.mpr
    ⟨order, stamp, means, between, found, pending, timed, charged, rfl, rfl⟩⟩

theorem cancelAny_retimed {email : String} {reason : Option String} {cancelledAt : Option Int}
    (done : cancelAny email orderId reason cancelledAt context store = .ok (result, after)) :
    ∃ result after, cancelAny email orderId reason unix context store = .ok (result, after) := by
  obtain ⟨order, found, ⟨cancelled, -, -⟩ | ⟨standing, repaid, _, -, legal, -, -⟩⟩ :=
    cancelAny_eq_ok.mp done
  · exact ⟨_, _, cancelAny_eq_ok.mpr ⟨order, found, .inl ⟨cancelled, rfl, rfl⟩⟩⟩
  · obtain ⟨stamp, timed⟩ : ∃ stamp, Work.timeOr context.now unix = .ok stamp :=
      Work.timeOr_ok covered
    exact ⟨_, _, cancelAny_eq_ok.mpr
      ⟨order, found, .inr ⟨standing, repaid, stamp, timed, legal, rfl, rfl⟩⟩⟩

end

theorem applyToOrder_retimed {report : Report} {now : Instant} (moment : Option Instant)
    (applied : report.applyToOrder order now = .ok result) :
    ∃ result, { report with reportedAt := moment }.applyToOrder order now = .ok result := by
  rw [Report.applyToOrder] at applied ⊢
  cases outcome : report.outcome with
  | succeeded =>
    rw [outcome] at applied
    exact ⟨_, Order.move_bind_eq_ok.mpr ⟨(Order.move_bind_eq_ok.mp applied).1, rfl⟩⟩
  | failed =>
    rw [outcome] at applied
    exact ⟨_, Order.move_bind_eq_ok.mpr ⟨(Order.move_bind_eq_ok.mp applied).1, rfl⟩⟩

theorem apply_retimed {report : Report} (moment : Option Instant)
    (done : report.apply context store = .ok (result, after)) :
    ∃ result after, { report with reportedAt := moment }.apply context store =
      .ok (result, after) := by
  obtain ⟨order, payment, found, allowed, picked, ⟨replay, -, -⟩ | ⟨first, awaited, applied, -⟩⟩ :=
    apply_eq_ok.mp done
  · exact ⟨_, _, apply_eq_ok.mpr
      ⟨order, payment, found, allowed, picked, .inl ⟨replay, rfl, rfl⟩⟩⟩
  · obtain ⟨moved, applied⟩ := applyToOrder_retimed moment applied
    exact ⟨_, _, apply_eq_ok.mpr
      ⟨order, payment, found, allowed, picked, .inr ⟨first, awaited, applied, rfl⟩⟩⟩

theorem report_retimed (covered : Instant.Covers unix) {delivery : PaymentResult} {report : Report}
    (read : delivery.report = .ok report) :
    ∃ moment, { delivery with paidAt := unix }.report =
      .ok { report with reportedAt := moment } := by
  obtain ⟨named, outcome, _, reported, -, rfl⟩ := PaymentResult.report_eq_ok.mp read
  obtain ⟨moment, timed⟩ := PaymentResult.reportedAt_ok { delivery with paidAt := unix } covered
  exact ⟨moment, PaymentResult.report_eq_ok.mpr ⟨named, outcome, moment, reported, timed, rfl⟩⟩

end Orders

/-! ## Services that take a time -/

namespace Service

variable {α : Type} {context : Context} {desk after : Desk}

theorem run_transaction_again {work other : Work α} {value result : α} {store : Store}
    (ran : (transaction work).run context desk = (.ok value, after))
    (done : other context desk.store = .ok (result, store)) :
    (transaction other).run context desk = (.ok result, { desk with store }) := by
  rw [run_transaction] at ran ⊢
  cases timeout : context.settings.timeoutSeconds with
  | error fault =>
    rw [timeout] at ran
    cases ran
  | ok seconds =>
    dsimp only
    rw [timeout] at ran
    dsimp only at ran
    split at ran
    · next answered =>
      rw [(timed_eq_ok.mp answered).1, timed_false, done]
    · cases ran

end Service

namespace Orders

variable {context : Context} {desk after : Desk} {orderId : Int} {shown : AdminOrderDetail}
  {unix : Option Int}

theorem shows_handled {sample : Option Order → Metrics → Except Fault Unit × Metrics}
    {service : Service Order} {store : Store} {order result : Order} (intact : desk.store.Intact)
    (handled : Handled context desk.store orderId order result store)
    (served : service.run context desk = (.ok result, { desk with store }))
    (taken : ∀ metrics, (sample (some result) metrics).1 = .ok ()) :
    ∃ shown after, (Service.sampled sample service >>= fun order =>
      Service.query (Work.adminDetail order)).run context desk = (.ok shown, after) := by
  obtain ⟨fits, owner⟩ := handled.fits intact
  have counted : (Service.sampled sample service).run context desk =
      (.ok result, { desk with store, metrics := (sample (some result) desk.metrics).2 }) := by
    rw [Service.run_sampled, served]
    dsimp only [Except.toOption]
    rw [taken]
    rfl
  exact ⟨_, _, Service.run_bind_eq_ok.mpr ⟨result, _, counted,
    Service.run_query_ok (Work.adminDetail_ok (handled.intact intact) rfl fits owner)⟩⟩

section

variable (intact : desk.store.Intact) (covered : Instant.Covers unix)

include intact covered

theorem markPaid_retimed {actor : Option User} {notice : PaidNotice}
    (ran : (markPaid actor orderId notice).run context desk = (.ok shown, after)) :
    ∃ shown after, (markPaid actor orderId { notice with paidAt := unix }).run context desk =
      (.ok shown, after) := by
  obtain ⟨_, _, served, -, -⟩ := sampled_adminDetail_eq_ok ran
  obtain ⟨user, _, lifted, served⟩ := Service.run_bind_eq_ok.mp served
  obtain ⟨acts, rfl⟩ := Service.run_lift_eq_ok.mp lifted
  obtain ⟨method, _, named, served⟩ := Service.run_bind_eq_ok.mp served
  obtain ⟨-, rfl⟩ := Service.run_lift_eq_ok.mp named
  obtain ⟨_, done, -⟩ := Service.run_transaction_eq_ok served
  obtain ⟨result, store, done⟩ := settle_retimed covered done
  obtain ⟨order, handled, -⟩ := (settle_ok done).handled
  have made := Service.run_transaction_again served done
  have same : { notice with paidAt := unix }.method = notice.method := by
    delta PaidNotice.method PaidNotice.methodText
    dsimp only
  rw [← same] at named
  refine shows_handled intact handled (Service.run_bind_eq_ok.mpr ⟨user, desk, lifted,
    Service.run_bind_eq_ok.mpr ⟨method, desk, named, made⟩⟩) ?_
  exact fun _ => rfl

theorem cancelAsAdmin_retimed {actor : Option User} {reason : Option String}
    {cancelledAt : Option Int}
    (ran : (cancelAsAdmin actor orderId reason cancelledAt).run context desk =
      (.ok shown, after)) :
    ∃ shown after, (cancelAsAdmin actor orderId reason unix).run context desk =
      (.ok shown, after) := by
  obtain ⟨_, _, served, -, -⟩ := sampled_adminDetail_eq_ok ran
  obtain ⟨user, _, lifted, served⟩ := Service.run_bind_eq_ok.mp served
  obtain ⟨acts, rfl⟩ := Service.run_lift_eq_ok.mp lifted
  obtain ⟨_, done, -⟩ := Service.run_transaction_eq_ok served
  obtain ⟨result, store, done⟩ := cancelAny_retimed covered done
  obtain ⟨order, handled, -⟩ := (cancelAny_ok done).handled
  have made := Service.run_transaction_again served done
  refine shows_handled intact handled
    (Service.run_bind_eq_ok.mpr ⟨user, desk, lifted, made⟩) ?_
  exact fun _ => rfl

theorem receiveResult_retimed {delivery : PaymentResult}
    (ran : (receiveResult delivery).run context desk = (.ok shown, after)) :
    ∃ shown after, (receiveResult { delivery with paidAt := unix }).run context desk =
      (.ok shown, after) := by
  obtain ⟨_, _, served, -, -⟩ := sampled_adminDetail_eq_ok ran
  obtain ⟨report, _, lifted, served⟩ := Service.run_bind_eq_ok.mp served
  obtain ⟨read, rfl⟩ := Service.run_lift_eq_ok.mp lifted
  obtain ⟨_, done, -⟩ := Service.run_transaction_eq_ok served
  obtain ⟨moment, read⟩ := report_retimed covered read
  obtain ⟨result, store, done⟩ := apply_retimed moment done
  obtain ⟨order, handled, -⟩ := (apply_ok done).handled
  have made := Service.run_transaction_again served done
  refine shows_handled intact handled
    (Service.run_bind_eq_ok.mpr ⟨_, desk, Service.run_lift_eq_ok.mpr ⟨read, rfl⟩, made⟩) ?_
  exact fun _ => rfl

end

end Orders

end OrderDesk
