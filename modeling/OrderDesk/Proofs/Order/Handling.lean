import OrderDesk.Order.Callback
import OrderDesk.Order.Refund
import OrderDesk.Proofs.Wallet.Posting

/-!
What becomes of an order that is there already when it is cancelled, settled, refunded, or reported
on by a gateway.
-/

namespace OrderDesk

theorem OrderStatus.canMove_from {current target : OrderStatus}
    (legal : current.canMove target = true) :
    current ≠ .cancelled ∧ (current = .partiallyRefunded → target = .refunded) := by
  rw [canMove, decide_eq_true_eq] at legal
  constructor
  · rintro rfl
    cases legal
  · rintro rfl
    exact List.mem_singleton.mp legal

namespace Order

variable {order moved : Order} {target : OrderStatus} {now : Instant} {stamp : Option Instant}

def moving (order : Order) (target : OrderStatus) (now : Instant) (stamp : Option Instant) : Order :=
  { order with toProgress :=
      { order.toProgress.stamped (stamp.getD now) target with
        status := target
        updatedAt := some now } }

def paidBy (order : Order) (method : PaymentMethod) : Order :=
  { order with paymentMethod := method, paymentStatus := .succeeded }

theorem move_eq_ok :
    order.move target now stamp = .ok moved ↔
      order.status.canMove target = true ∧ moved = order.moving target now stamp := by
  rw [move, Progress.move]
  by_cases legal : order.status.canMove target = true
  · rw [if_pos legal]
    constructor
    · rintro ⟨⟩
      exact ⟨legal, rfl⟩
    · rintro ⟨-, rfl⟩
      rfl
  · rw [if_neg legal]
    constructor
    · rintro ⟨⟩
    · rintro ⟨possible, -⟩
      exact absurd possible legal

theorem move_bind_eq_ok {α : Type} {next : Order → Except Refusal α} {value : α} :
    (order.move target now stamp >>= next) = .ok value ↔
      order.status.canMove target = true ∧ next (order.moving target now stamp) = .ok value := by
  cases moves : order.move target now stamp with
  | error refusal =>
    constructor
    · rintro ⟨⟩
    · rintro ⟨legal, -⟩
      rw [move_eq_ok.mpr ⟨legal, rfl⟩] at moves
      cases moves
  | ok moved =>
    rcases move_eq_ok.mp moves with ⟨legal, rfl⟩
    exact (and_iff_right legal).symm

theorem move_paid_of_pending (pending : order.status = .pending) :
    order.move .paid now stamp = .ok (order.moving .paid now stamp) := by
  refine move_eq_ok.mpr ⟨?_, rfl⟩
  rw [pending]
  decide

theorem moving_partiallyRefunded {refundedAt : Instant} (timed : order.refundedAt = some refundedAt)
    (updated : order.updatedAt = some now) :
    order.moving .partiallyRefunded now refundedAt =
      { order with status := .partiallyRefunded } := by
  simp [moving, Progress.stamped, timed, updated]

theorem moving_refunded_cancelled {refundedAt : Instant}
    (timed : order.refundedAt = some refundedAt) (updated : order.updatedAt = some now) :
    (order.moving .refunded now refundedAt).moving .cancelled now none =
      { order with status := .cancelled, cancelledAt := some now } := by
  simp [moving, Progress.stamped, timed, updated]

end Order

namespace Orders

def saved (store : Store) (order : Order) : Store :=
  { store with orders := Store.replace (·.id) order store.orders }

variable {context : Context} {store after : Store} {orderId : Int} {result : Order}

/-! ## Cancelling -/

inductive Cancelling (context : Context) (store : Store) (orderId : Int) : Order → Store → Prop
  | already {order : Order} (found : Work.order orderId context store = .ok (order, store))
      (cancelled : order.status = .cancelled) : Cancelling context store orderId order store
  | called {order moved : Order} {stamp : Option Instant} {note : Fields}
      (found : Work.order orderId context store = .ok (order, store))
      (empty : order.status = .paid →
        order.totalCents = 0 ∨ order.totalCents ≤ order.refundedCents)
      (move : order.move .cancelled context.now stamp = .ok moved) :
      Cancelling context store orderId (moved.noteMetadata note)
        (saved store (moved.noteMetadata note))

theorem cancelOwn_ok {caller : Option User} {reason : Option String}
    (done : cancelOwn caller orderId reason context store = .ok (result, after)) :
    Cancelling context store orderId result after ∧
      ∃ user, caller = some user ∧ result.userId = user.id := by
  rw [cancelOwn, Work.bind_eq_ok] at done
  rcases done with ⟨order, _, found, done⟩
  rcases Work.order_eq_ok.mp found with ⟨-, -, rfl⟩
  cases caller with
  | none => exact (Work.breakOff_eq_ok.mp done).elim
  | some user =>
    dsimp only at done
    rw [Work.refuse_ite_eq_ok, Work.ite_eq_ok] at done
    rcases done with ⟨own, ⟨cancelled, done⟩ | ⟨-, done⟩⟩
    · rcases Work.pure_eq_ok.mp done with ⟨rfl, rfl⟩
      exact ⟨.already found cancelled, user, rfl, Decidable.not_not.mp own⟩
    · rw [Work.refuse_ite_eq_ok, Work.now_bind, Work.bind_eq_ok] at done
      rcases done with ⟨unpaid, moved, _, lifted, done⟩
      rcases Work.lift_eq_ok.mp lifted with ⟨move, rfl⟩
      rcases Order.move_eq_ok.mp move with ⟨-, rfl⟩
      rw [Work.saveOrder_bind, Work.pure_eq_ok] at done
      rcases done with ⟨rfl, rfl⟩
      refine ⟨.called found (fun paid => .inl ?_) move, user, rfl, Decidable.not_not.mp own⟩
      simpa [paid, isFreePaid] using unpaid

theorem cancelAny_eq_ok {email : String} {reason : Option String} {cancelledAt : Option Int} :
    cancelAny email orderId reason cancelledAt context store = .ok (result, after) ↔
      ∃ order, Work.order orderId context store = .ok (order, store) ∧
        (order.status = .cancelled ∧ result = order ∧ after = store ∨
          order.status ≠ .cancelled ∧
          ¬(order.status = .paid ∧ order.refundedCents < order.totalCents) ∧
          ∃ stamp, Work.timeOr context.now cancelledAt = .ok stamp ∧
            order.status.canMove .cancelled = true ∧
            result = (order.moving .cancelled context.now stamp).noteMetadata
              (cancelNote email reason stamp) ∧
            after = saved store result) := by
  rw [cancelAny, Work.bind_eq_ok]
  constructor
  · rintro ⟨order, _, found, done⟩
    rcases Work.order_eq_ok.mp found with ⟨-, -, rfl⟩
    rw [Work.ite_eq_ok] at done
    rcases done with ⟨cancelled, done⟩ | ⟨standing, done⟩
    · rcases Work.pure_eq_ok.mp done with ⟨rfl, rfl⟩
      exact ⟨order, found, .inl ⟨cancelled, rfl, rfl⟩⟩
    · rw [Work.refuse_ite_eq_ok] at done
      rcases done with ⟨repaid, done⟩
      dsimp only at done
      rw [Work.now_bind, Work.bind_eq_ok] at done
      rcases done with ⟨stamp, _, lifted, done⟩
      rcases Work.liftFault_eq_ok.mp lifted with ⟨timed, rfl⟩
      rcases Work.bind_eq_ok.mp done with ⟨moved, _, lifted, done⟩
      rcases Work.lift_eq_ok.mp lifted with ⟨move, rfl⟩
      rcases Order.move_eq_ok.mp move with ⟨legal, rfl⟩
      rw [Work.saveOrder_bind, Work.pure_eq_ok] at done
      rcases done with ⟨rfl, rfl⟩
      exact ⟨order, found, .inr ⟨standing, repaid, stamp, timed, legal, rfl, rfl⟩⟩
  · rintro ⟨order, found, ⟨cancelled, rfl, rfl⟩ |
      ⟨standing, repaid, stamp, timed, legal, rfl, rfl⟩⟩
    · refine ⟨result, after, found, ?_⟩
      rw [if_pos cancelled]
      rfl
    · refine ⟨order, store, found, ?_⟩
      rw [if_neg standing, Work.refuse_ite_eq_ok]
      refine ⟨repaid, ?_⟩
      dsimp only
      rw [Work.now_bind, Work.bind_eq_ok]
      refine ⟨stamp, store, Work.liftFault_eq_ok.mpr ⟨timed, rfl⟩, ?_⟩
      refine Work.bind_eq_ok.mpr ⟨order.moving .cancelled context.now stamp, store,
        Work.lift_eq_ok.mpr ⟨Order.move_eq_ok.mpr ⟨legal, rfl⟩, rfl⟩, ?_⟩
      rw [Work.saveOrder_bind]
      rfl

theorem cancelAny_ok {email : String} {reason : Option String} {cancelledAt : Option Int}
    (done : cancelAny email orderId reason cancelledAt context store = .ok (result, after)) :
    Cancelling context store orderId result after := by
  rcases cancelAny_eq_ok.mp done with ⟨order, found, ⟨cancelled, rfl, rfl⟩ |
    ⟨standing, repaid, stamp, timed, legal, rfl, rfl⟩⟩
  · exact .already found cancelled
  · refine .called found (fun paid => .inr ?_) (Order.move_eq_ok.mpr ⟨legal, rfl⟩)
    simpa [paid] using repaid

/-! ## Settling -/

/-- A pending order is settled by hand; what is outstanding is charged to its owner if that is asked
for. -/
inductive Settling (context : Context) (store : Store) (adminId orderId : Int)
    (method : PaymentMethod) (notice : PaidNotice) : Order → Store → Prop
  | uncharged {order moved : Order} {stamp : Option Instant} {note : Fields}
      (found : Work.order orderId context store = .ok (order, store))
      (pending : order.status = .pending)
      (free : notice.chargeBalance = true → order.outstandingCents ≤ 0)
      (move : order.move .paid context.now stamp = .ok moved) :
      Settling context store adminId orderId method notice
        ((moved.paidBy method).noteMetadata note)
        (saved store ((moved.paidBy method).noteMetadata note))
  | charged {order moved : Order} {stamp : Option Instant} {note : Fields} {posted : LedgerEntry}
      {balance : Balance} {between : Store}
      (found : Work.order orderId context store = .ok (order, store))
      (pending : order.status = .pending)
      (outstanding : 0 < order.outstandingCents)
      (posting : Wallet.Posting context store order.userId (settlementCharge order adminId notice)
        posted balance between)
      (move : order.move .paid context.now stamp = .ok moved) :
      Settling context store adminId orderId method notice
        ((moved.paidBy .balance).noteMetadata note)
        (saved between ((moved.paidBy .balance).noteMetadata note))

theorem settle_eq_ok {adminId : Int} {method : PaymentMethod} {notice : PaidNotice} :
    settle adminId orderId method notice context store = .ok (result, after) ↔
      ∃ order stamp means between, Work.order orderId context store = .ok (order, store) ∧
        order.status = .pending ∧ Work.timeOr context.now notice.paidAt = .ok stamp ∧
        chargeOutstanding order adminId method notice context store = .ok (means, between) ∧
        result = ((order.moving .paid context.now stamp).paidBy means).noteMetadata
          (settlementNote adminId notice context.now) ∧
        after = saved between result := by
  rw [settle, Work.bind_eq_ok]
  constructor
  · rintro ⟨order, _, found, done⟩
    rcases Work.order_eq_ok.mp found with ⟨-, -, rfl⟩
    rw [Work.refuse_ite_eq_ok] at done
    rcases done with ⟨pending, done⟩
    dsimp only at done
    rw [Work.now_bind, Work.bind_eq_ok] at done
    rcases done with ⟨stamp, _, lifted, done⟩
    rcases Work.liftFault_eq_ok.mp lifted with ⟨timed, rfl⟩
    rcases Work.bind_eq_ok.mp done with ⟨means, between, charged, done⟩
    rcases Work.bind_eq_ok.mp done with ⟨moved, _, lifted, done⟩
    rcases Work.lift_eq_ok.mp lifted with ⟨move, rfl⟩
    rcases Order.move_eq_ok.mp move with ⟨-, rfl⟩
    rw [Work.saveOrder_bind, Work.pure_eq_ok] at done
    rcases done with ⟨rfl, rfl⟩
    exact ⟨order, stamp, means, between, found, Decidable.not_not.mp pending, timed, charged, rfl, rfl⟩
  · rintro ⟨order, stamp, means, between, found, pending, timed, charged, rfl, rfl⟩
    refine ⟨order, store, found, ?_⟩
    rw [Work.refuse_ite_eq_ok]
    refine ⟨Decidable.not_not.mpr pending, ?_⟩
    dsimp only
    rw [Work.now_bind, Work.bind_eq_ok]
    refine ⟨stamp, store, Work.liftFault_eq_ok.mpr ⟨timed, rfl⟩, ?_⟩
    refine Work.bind_eq_ok.mpr ⟨means, between, charged, Work.bind_eq_ok.mpr ⟨_, between,
      Work.lift_eq_ok.mpr ⟨Order.move_paid_of_pending pending, rfl⟩, ?_⟩⟩
    rw [Work.saveOrder_bind]
    rfl

theorem settle_ok {adminId : Int} {method : PaymentMethod} {notice : PaidNotice}
    (done : settle adminId orderId method notice context store = .ok (result, after)) :
    Settling context store adminId orderId method notice result after := by
  rcases settle_eq_ok.mp done with
    ⟨order, stamp, means, between, found, pending, -, charged, rfl, rfl⟩
  have move : order.move .paid context.now stamp = .ok (order.moving .paid context.now stamp) :=
    Order.move_paid_of_pending pending
  rw [chargeOutstanding, Work.ite_eq_ok] at charged
  rcases charged with ⟨⟨-, outstanding⟩, charged⟩ | ⟨uncharged, charged⟩
  · rcases Work.bind_eq_ok.mp charged with ⟨⟨posted, balance⟩, _, posts, charged⟩
    rcases Work.pure_eq_ok.mp charged with ⟨rfl, rfl⟩
    exact .charged found pending outstanding (Wallet.post_ok posts) move
  · rcases Work.pure_eq_ok.mp charged with ⟨rfl, rfl⟩
    refine .uncharged found pending (fun asked => ?_) move
    simpa [asked] using uncharged

/-! ## Refunding -/

def refundedBy (order : Order) (adminId : Int) (request : RefundRequest) (posted : LedgerEntry)
    (now : Instant) : Order :=
  { order with
    refundedCents := order.refundedCents + request.amountCents
    refundedAt := some posted.createdAt
    updatedAt := some now }.noteMetadata (refundNote adminId request posted)

/-- The two rows that every refund adds: a movement of the owner's wallet, and the part refunded. -/
structure Crediting (context : Context) (store : Store) (adminId orderId : Int)
    (request : RefundRequest) (order : Order) (posted : LedgerEntry) (after : Store) : Prop where
  found : Work.order orderId context store = .ok (order, store)
  refundable : order.status = .paid ∨ order.status = .partiallyRefunded
  priced : 0 < order.totalCents
  paidFromWallet : order.paymentMethod = .balance
  positive : 0 < request.amountCents
  covered : request.amountCents ≤ order.outstandingCents
  credited : ∃ balance between,
    Wallet.Posting context store order.userId (Wallet.credit (refundCredit order adminId request))
      posted balance between ∧
    after = { between with
      orderRefunds := store.orderRefunds ++ [refundRow order adminId request posted
        (Store.nextId (store.orderRefunds.map (·.id)))] }

inductive Ending (order : Order) (email : String) (now : Instant) : Order → Prop
  | partly (remains : order.refundedCents < order.totalCents) :
      Ending order email now { order with status := .partiallyRefunded }
  | closed (exhausted : order.totalCents ≤ order.refundedCents) :
      Ending order email now
        ({ order with status := .cancelled, cancelledAt := some now }.noteMetadata
          (completionNote email now))

theorem checkRefund_ok {order : Order} {amount : Int} {done : Unit}
    (checked : checkRefund order amount = .ok done) :
    (order.status = .paid ∨ order.status = .partiallyRefunded) ∧ 0 < order.totalCents ∧
      order.paymentMethod = .balance ∧ amount ≤ order.outstandingCents := by
  rw [checkRefund] at checked
  split at checked
  · cases checked
  · next refundable =>
    split at checked
    · cases checked
    · next priced =>
      split at checked
      · cases checked
      · next paidFromWallet =>
        split at checked
        · cases checked
        · next covered =>
          refine ⟨?_, by omega, by simpa using paidFromWallet, by omega⟩
          simpa [Classical.or_iff_not_imp_left] using refundable

theorem afterRefund_ok {order : Order} {email : String} {refundedAt : Instant}
    (timed : order.refundedAt = some refundedAt) (updated : order.updatedAt = some context.now)
    (done : afterRefund order email context.now refundedAt = .ok result) :
    Ending order email context.now result := by
  rw [afterRefund] at done
  split at done
  · next remains =>
    split at done
    · next already =>
      rcases Except.ok.inj done with rfl
      have same : order = { order with status := .partiallyRefunded } := by rw [← already]
      rw [same]
      exact .partly remains
    · rcases Order.move_eq_ok.mp done with ⟨-, rfl⟩
      rw [Order.moving_partiallyRefunded timed updated]
      exact .partly remains
  · next exhausted =>
    rw [Order.move_bind_eq_ok, Order.move_bind_eq_ok] at done
    rcases done with ⟨-, -, done⟩
    rw [Order.moving_refunded_cancelled timed updated] at done
    rcases Except.ok.inj done with rfl
    exact .closed (Int.not_lt.mp exhausted)

theorem refundPart_ok {user : User} {request : RefundRequest}
    (done : refundPart user orderId request context store = .ok (result, after)) :
    ∃ order posted between,
      Crediting context store user.id orderId request order posted between ∧
        Ending (refundedBy order user.id request posted context.now) user.email context.now
          result ∧
        after = saved between result := by
  rw [refundPart, Work.bind_eq_ok] at done
  rcases done with ⟨order, _, found, done⟩
  rcases Work.order_eq_ok.mp found with ⟨-, -, rfl⟩
  rcases Work.bind_eq_ok.mp done with ⟨_, _, lifted, done⟩
  rcases Work.lift_eq_ok.mp lifted with ⟨checked, rfl⟩
  rcases checkRefund_ok checked with ⟨refundable, priced, paidFromWallet, covered⟩
  rcases Work.bind_eq_ok.mp done with ⟨⟨posted, balance⟩, between, posts, done⟩
  rcases Wallet.postRefund_ok posts with ⟨positive, posting⟩
  rcases Work.bind_eq_ok.mp done with ⟨_, _, inserted, done⟩
  rcases Work.insertRefund_eq_ok.mp inserted with ⟨-, rfl, rfl⟩
  dsimp only at done
  rw [Work.now_bind] at done
  rcases Work.bind_eq_ok.mp done with ⟨_, _, lifted, done⟩
  rcases Work.lift_eq_ok.mp lifted with ⟨ended, rfl⟩
  rw [Work.saveOrder_bind, Work.pure_eq_ok] at done
  rcases done with ⟨rfl, rfl⟩
  have refundsKept : between.orderRefunds = store.orderRefunds := by rw [posting.store_eq]
  rw [refundsKept]
  refine ⟨order, posted, _, ?_, afterRefund_ok rfl rfl ended, rfl⟩
  exact { found, refundable, priced, paidFromWallet, covered, positive
          credited := ⟨balance, between, posting, rfl⟩ }

/-! ## Reporting the result of a payment -/

def collected (report : Report) (order : Order) (now : Instant) : Order :=
  { order.moving .paid now (report.reportedAt.getD now) with
    paymentReference := (Text.nonEmpty? report.reference).or order.paymentReference
    paymentStatus := .succeeded }

def uncollected (report : Report) (order : Order) (now : Instant) : Order :=
  { order.moving .paymentFailed now none with
    paymentFailureCode := Text.nonEmpty? report.failureCode
    paymentFailureMessage := Text.nonEmpty? report.failureMessage
    paymentStatus := .failed }

theorem applyToOrder_ok {report : Report} {order : Order} {now : Instant}
    (applied : report.applyToOrder order now = .ok result) :
    (report.outcome = .succeeded ∧ result = collected report order now) ∨
      (report.outcome = .failed ∧ result = uncollected report order now) := by
  rw [Report.applyToOrder] at applied
  cases outcome : report.outcome with
  | succeeded =>
    rw [outcome] at applied
    rcases Order.move_bind_eq_ok.mp applied with ⟨-, applied⟩
    exact .inl ⟨rfl, (Except.ok.inj applied).symm⟩
  | failed =>
    rw [outcome] at applied
    rcases Order.move_bind_eq_ok.mp applied with ⟨-, applied⟩
    exact .inr ⟨rfl, (Except.ok.inj applied).symm⟩

def reported (context : Context) (store : Store) (report : Report) (payment : OrderPayment) : Store :=
  { store with orderPayments :=
      Store.replace (·.id) (report.applyToPayment payment context.now) store.orderPayments }

/-- A repeated result leaves the order alone; the first one is for an order that a gateway is to
collect. -/
inductive Reporting (context : Context) (store : Store) (report : Report) : Order → Store → Prop
  | replayed {order : Order} {payment : OrderPayment}
      (found : Work.order report.orderId context store = .ok (order, store))
      (picked : (store.paymentsOf order.id).find? (·.id == report.paymentId) = some payment)
      (replay : report.isReplay order = true) :
      Reporting context store report order (reported context store report payment)
  | accepted {order result : Order} {payment : OrderPayment}
      (found : Work.order report.orderId context store = .ok (order, store))
      (picked : (store.paymentsOf order.id).find? (·.id == report.paymentId) = some payment)
      (awaited : order.status = .pendingPayment)
      (applied : report.applyToOrder order context.now = .ok result) :
      Reporting context store report result
        (saved (reported context store report payment) result)

theorem apply_eq_ok {report : Report} :
    report.apply context store = .ok (result, after) ↔
      ∃ order payment, Work.order report.orderId context store = .ok (order, store) ∧
        Work.Allowed context store [.orderPayments] [order.id] ∧
        (store.paymentsOf order.id).find? (·.id == report.paymentId) = some payment ∧
        (report.isReplay order = true ∧ result = order ∧
            after = reported context store report payment ∨
          report.isReplay order = false ∧ order.status = .pendingPayment ∧
            report.applyToOrder order context.now = .ok result ∧
            after = saved (reported context store report payment) result) := by
  rw [Report.apply, Work.bind_eq_ok]
  constructor
  · rintro ⟨order, _, found, done⟩
    rcases Work.order_eq_ok.mp found with ⟨-, -, rfl⟩
    rcases Work.bind_eq_ok.mp done with ⟨payments, _, looked, done⟩
    rcases Work.paymentsOf_eq_ok.mp looked with ⟨allowed, rfl, rfl⟩
    cases picked : (store.paymentsOf order.id).find? (·.id == report.paymentId) with
    | none =>
      rw [picked] at done
      exact (Work.refuse_eq_ok.mp done).elim
    | some payment =>
      rw [picked] at done
      dsimp only at done
      rw [Work.refuse_ite_eq_ok] at done
      rcases done with ⟨expected, done⟩
      rw [Work.now_bind, Work.savePayment_bind, Work.ite_eq_ok] at done
      refine ⟨order, payment, found, allowed, picked, ?_⟩
      rcases done with ⟨replay, done⟩ | ⟨first, done⟩
      · rcases Work.pure_eq_ok.mp done with ⟨rfl, rfl⟩
        exact .inl ⟨replay, rfl, rfl⟩
      · rcases Work.bind_eq_ok.mp done with ⟨_, _, lifted, done⟩
        rcases Work.lift_eq_ok.mp lifted with ⟨applied, rfl⟩
        rw [Work.saveOrder_bind, Work.pure_eq_ok] at done
        rcases done with ⟨rfl, rfl⟩
        exact .inr ⟨Bool.eq_false_iff.mpr first, by simpa [first] using expected, applied, rfl⟩
  · rintro ⟨order, payment, found, allowed, picked, accepted⟩
    refine ⟨order, store, found, Work.bind_eq_ok.mpr ⟨store.paymentsOf order.id, store,
      Work.paymentsOf_eq_ok.mpr ⟨allowed, rfl, rfl⟩, ?_⟩⟩
    rw [picked]
    dsimp only
    rw [Work.refuse_ite_eq_ok, Work.now_bind, Work.savePayment_bind, Work.ite_eq_ok]
    rcases accepted with ⟨replay, rfl, rfl⟩ | ⟨first, awaited, applied, rfl⟩
    · exact ⟨by simp [replay], .inl ⟨replay, rfl⟩⟩
    · refine ⟨by simp [awaited], .inr ⟨by simp [first], Work.bind_eq_ok.mpr
        ⟨result, _, Work.lift_eq_ok.mpr ⟨applied, rfl⟩, ?_⟩⟩⟩
      rw [Work.saveOrder_bind]
      rfl

theorem apply_ok {report : Report} (done : report.apply context store = .ok (result, after)) :
    Reporting context store report result after := by
  rcases apply_eq_ok.mp done with ⟨order, payment, found, -, picked, ⟨replay, rfl, rfl⟩ |
    ⟨-, awaited, applied, rfl⟩⟩
  · exact .replayed found picked replay
  · exact .accepted found picked awaited applied

/-! ## What all of them have in common -/

/-- An order that is found by its id, and what has become of it. -/
structure Handled (context : Context) (store : Store) (orderId : Int) (order result : Order)
    (after : Store) : Prop where
  found : Work.order orderId context store = .ok (order, store)
  id_eq : result.id = order.id
  number_eq : result.number = order.number
  userId_eq : result.userId = order.userId
  totalCents_eq : result.totalCents = order.totalCents
  orders_eq : result = order ∧ after.orders = store.orders ∨
    after.orders = Store.replace (·.id) result store.orders
  plans_eq : after.plans = store.plans
  dropped_eq : after.dropped = store.dropped

namespace Handled

variable {order : Order}

theorem mem_orders (handled : Handled context store orderId order result after) {other : Order}
    (member : other ∈ after.orders) : other = result ∨ other ∈ store.orders := by
  rcases handled.orders_eq with ⟨-, same⟩ | replaced
  · exact .inr (same ▸ member)
  · rw [replaced] at member
    exact (Store.mem_replace member).imp_right And.left

theorem present (handled : Handled context store orderId order result after) :
    order ∈ store.orders :=
  (Work.order_present handled.found).1

theorem ids_eq (handled : Handled context store orderId order result after) :
    after.orders.map (·.id) = store.orders.map (·.id) := by
  rcases handled.orders_eq with ⟨-, same⟩ | replaced
  · rw [same]
  · rw [replaced, Store.map_key_replace]

theorem order?_eq (handled : Handled context store orderId order result after) :
    store.order? orderId = some order :=
  (Work.order_eq_ok.mp handled.found).2.1

theorem orderId_eq (handled : Handled context store orderId order result after) :
    result.id = orderId :=
  handled.id_eq.trans (Store.order?_eq_some handled.order?_eq).2

theorem order?_self (handled : Handled context store orderId order result after) :
    after.order? orderId = some result := by
  rcases handled.orders_eq with ⟨rfl, same⟩ | replaced
  · rw [Store.order?_congr same]
    exact handled.order?_eq
  · rw [← handled.orderId_eq, Store.order?, replaced]
    exact Store.find?_replace_self handled.present handled.id_eq.symm

theorem order?_of_ne (handled : Handled context store orderId order result after) {id : Int}
    (different : id ≠ orderId) : after.order? id = store.order? id := by
  rcases handled.orders_eq with ⟨-, same⟩ | replaced
  · rw [Store.order?_congr same]
  · rw [Store.order?, replaced]
    exact Store.find?_replace_of_ne (handled.orderId_eq ▸ different)

theorem order?_cases (handled : Handled context store orderId order result after) {id : Int}
    {present : Order} (found : store.order? id = some present) :
    present = order ∧ after.order? id = some result ∨ after.order? id = some present := by
  by_cases same : id = orderId
  · subst same
    exact .inl ⟨Option.some.inj (found.symm.trans handled.order?_eq), handled.order?_self⟩
  · exact .inr ((handled.order?_of_ne same).trans found)

end Handled

structure Advanced (order result : Order) : Prop where
  refundedCents_eq : result.refundedCents = order.refundedCents
  refundedAt_eq : result.refundedAt = order.refundedAt
  left : order.status ≠ .partiallyRefunded ∧ order.status ≠ .cancelled
  entered : result.status ≠ .partiallyRefunded ∧ result.status ≠ .refunded

structure Unrefunded (store : Store) (order result : Order) (after : Store) : Prop where
  refunds_eq : after.orderRefunds = store.orderRefunds
  advanced : result = order ∨ Advanced order result

theorem Cancelling.handled (cancelling : Cancelling context store orderId result after) :
    ∃ order, Handled context store orderId order result after ∧
      Unrefunded store order result after := by
  cases cancelling with
  | already found cancelled =>
    exact ⟨_, ⟨found, rfl, rfl, rfl, rfl, .inl ⟨rfl, rfl⟩, rfl, rfl⟩, rfl, .inl rfl⟩
  | called found empty move =>
    rcases Order.move_eq_ok.mp move with ⟨legal, rfl⟩
    rcases OrderStatus.canMove_from legal with ⟨uncancelled, partly⟩
    exact ⟨_, ⟨found, rfl, rfl, rfl, rfl, .inr rfl, rfl, rfl⟩, rfl,
      .inr ⟨rfl, rfl, ⟨fun left => OrderStatus.noConfusion (partly left), uncancelled⟩, nofun, nofun⟩⟩

theorem Settling.handled {adminId : Int} {method : PaymentMethod} {notice : PaidNotice}
    (settling : Settling context store adminId orderId method notice result after) :
    ∃ order, Handled context store orderId order result after ∧
      Unrefunded store order result after := by
  cases settling with
  | uncharged found pending free move =>
    rcases Order.move_eq_ok.mp move with ⟨-, rfl⟩
    exact ⟨_, ⟨found, rfl, rfl, rfl, rfl, .inr rfl, rfl, rfl⟩, rfl,
      .inr ⟨rfl, rfl, by simp [pending], nofun, nofun⟩⟩
  | charged found pending outstanding posting move =>
    rcases Order.move_eq_ok.mp move with ⟨-, rfl⟩
    rcases posting.store_eq with rfl
    exact ⟨_, ⟨found, rfl, rfl, rfl, rfl, .inr rfl, rfl, rfl⟩, rfl,
      .inr ⟨rfl, rfl, by simp [pending], nofun, nofun⟩⟩

theorem Crediting.added {adminId : Int} {request : RefundRequest} {order : Order}
    {posted : LedgerEntry}
    (crediting : Crediting context store adminId orderId request order posted after) :
    ∃ refund : OrderRefund, refund.orderId = order.id ∧
      refund.amountCents = request.amountCents ∧
      refund.metadata.get? "balance_transaction_id" = some (.int posted.id) ∧
      after.orderRefunds = store.orderRefunds ++ [refund] ∧ after.orders = store.orders := by
  rcases crediting.credited with ⟨balance, between, posting, rfl⟩
  refine ⟨_, rfl, rfl, ?_, rfl, ?_⟩
  · rw [refundRow, Fields.get?_put, if_pos rfl]
  · rw [posting.store_eq]

theorem Crediting.handled {user : User} {request : RefundRequest} {order : Order}
    {posted : LedgerEntry}
    (crediting : Crediting context store user.id orderId request order posted after)
    (ending : Ending (refundedBy order user.id request posted context.now) user.email context.now
      result) :
    Handled context store orderId order result (saved after result) := by
  rcases crediting.credited with ⟨balance, between, posting, rfl⟩
  rcases posting.store_eq with rfl
  cases ending with
  | partly remains => exact ⟨crediting.found, rfl, rfl, rfl, rfl, .inr rfl, rfl, rfl⟩
  | closed exhausted => exact ⟨crediting.found, rfl, rfl, rfl, rfl, .inr rfl, rfl, rfl⟩

theorem Reporting.handled {report : Report}
    (reporting : Reporting context store report result after) :
    ∃ order, Handled context store report.orderId order result after ∧
      Unrefunded store order result after := by
  cases reporting with
  | replayed found picked replay =>
    exact ⟨_, ⟨found, rfl, rfl, rfl, rfl, .inl ⟨rfl, rfl⟩, rfl, rfl⟩, rfl, .inl rfl⟩
  | accepted found picked awaited applied =>
    rcases applyToOrder_ok applied with ⟨-, rfl⟩ | ⟨-, rfl⟩
    · exact ⟨_, ⟨found, rfl, rfl, rfl, rfl, .inr rfl, rfl, rfl⟩, rfl,
        .inr ⟨rfl, rfl, by simp [awaited], nofun, nofun⟩⟩
    · exact ⟨_, ⟨found, rfl, rfl, rfl, rfl, .inr rfl, rfl, rfl⟩, rfl,
        .inr ⟨rfl, rfl, by simp [awaited], nofun, nofun⟩⟩

end Orders

end OrderDesk
