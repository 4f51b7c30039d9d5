import Mathlib.Logic.Relation
import OrderDesk.Proofs.Order.Changing

/-!
The life of an order. The legal moves between states leave more open than ever happens: an order that
has cost something is not cancelled unless all of it has been refunded, and each operation has its
own moves.
-/

namespace OrderDesk

namespace OrderStatus

def Leads : OrderStatus → OrderStatus → Prop :=
  Relation.TransGen fun current target => current.canMove target = true

theorem canMove_cancelled {current : OrderStatus} (legal : current.canMove .cancelled = true) :
    current = .pending ∨ current = .pendingPayment ∨ current = .paymentFailed ∨
      current = .paid ∨ current = .refunded := by
  cases current <;> simp_all [canMove, successors]

end OrderStatus

theorem Order.Accounted.totalCents_eq_zero {order : Order} {refunds : List OrderRefund}
    (accounted : order.Accounted refunds) (paid : order.status = .paid)
    (empty : order.totalCents = 0 ∨ order.totalCents ≤ order.refundedCents) :
    order.totalCents = 0 := by
  have unrefunded : order.refundedCents = 0 :=
    accounted.unrefunded (by simp [paid]) (by simp [paid])
  have bounded := accounted.bounded
  omega

/-! ## The moves of each operation -/

namespace Operation

/-- An operation moves the order that it addresses from one state to another. -/
inductive Moves (before after : Order) : Operation → Prop
  | settled {actorId : Option Int} {notice : PaidNotice} (left : before.status = .pending)
      (entered : after.status = .paid) : Moves before after (.markPaid actorId before.id notice)
  | cancelled {callerId : Option Int} {reason : Option String}
      (left : before.status = .pending ∨ before.status = .paid ∧ before.totalCents = 0)
      (entered : after.status = .cancelled) :
      Moves before after (.cancel callerId before.id reason)
  | cancelledByAdmin {actorId : Option Int} {reason : Option String} {cancelledAt : Option Int}
      (left : before.status = .pending ∨ before.status = .pendingPayment ∨
        before.status = .paymentFailed ∨ before.status = .paid ∧ before.totalCents = 0)
      (entered : after.status = .cancelled) :
      Moves before after (.cancelAsAdmin actorId before.id reason cancelledAt)
  | reported {delivery : PaymentResult} (addressed : delivery.orderId = some before.id)
      (left : before.status = .pendingPayment)
      (entered : after.status = .paid ∨ after.status = .paymentFailed) :
      Moves before after (.receiveResult delivery)
  | refundedPartly {actorId : Option Int} {request : RefundRequest}
      (left : before.status = .paid) (entered : after.status = .partiallyRefunded) :
      Moves before after (.refund actorId before.id request)
  | refundedWholly {actorId : Option Int} {request : RefundRequest}
      (left : before.status = .paid ∨ before.status = .partiallyRefunded)
      (entered : after.status = .cancelled)
      (whole : after.refundedCents = after.totalCents ∧ 0 < after.totalCents) :
      Moves before after (.refund actorId before.id request)

variable {context : Context} {operation : Operation} {order result : Order}
  {refunds : List OrderRefund}

theorem Moves.leads (moves : operation.Moves order result) : order.status.Leads result.status := by
  cases moves with
  | settled left entered =>
    rw [left, entered]
    exact .single rfl
  | cancelled left entered =>
    rw [entered]
    rcases left with left | ⟨left, -⟩ <;> rw [left] <;> exact .single rfl
  | cancelledByAdmin left entered =>
    rw [entered]
    rcases left with left | left | left | ⟨left, -⟩ <;> rw [left] <;> exact .single rfl
  | reported addressed left entered =>
    rw [left]
    rcases entered with entered | entered <;> rw [entered] <;> exact .single rfl
  | refundedPartly left entered =>
    rw [left, entered]
    exact .single rfl
  | refundedWholly left entered =>
    have closes : OrderStatus.refunded.canMove .cancelled = true := rfl
    rw [entered]
    rcases left with left | left <;> rw [left] <;> exact .tail (.single rfl) closes

theorem Changes.moves (accounted : order.Accounted refunds)
    (own : ∀ callerId reason, operation = .cancel callerId order.id reason →
      order.status = .pending ∨ order.status = .paid ∧ order.totalCents = 0)
    (changes : operation.Changes context order result) :
    result.status = order.status ∨ operation.Moves order result := by
  cases changes with
  | cancelled legal empty => exact .inr (.cancelled (own _ _ rfl) rfl)
  | cancelledByAdmin legal empty =>
    refine .inr (.cancelledByAdmin ?_ rfl)
    rcases OrderStatus.canMove_cancelled legal with left | left | left | left | left
    · exact .inl left
    · exact .inr (.inl left)
    · exact .inr (.inr (.inl left))
    · exact .inr (.inr (.inr ⟨left, accounted.totalCents_eq_zero left (empty left)⟩))
    · exact absurd left accounted.passed
  | settled pending => exact .inr (.settled pending rfl)
  | refunded refundable priced covered ending =>
    cases ending with
    | partly remains =>
      rcases refundable with paid | partly
      · exact .inr (.refundedPartly paid rfl)
      · exact .inl partly.symm
    | @closed exhausted =>
      refine .inr (.refundedWholly refundable rfl ⟨?_, priced⟩)
      simp only [Order.outstandingCents] at covered
      exact Int.le_antisymm (by simp [Orders.refundedBy, Order.noteMetadata]; omega) exhausted
  | collected read addressed awaited =>
    exact .inr (.reported (addressed ▸ (PaymentResult.report_ok read).1) awaited (.inl rfl))
  | uncollected read addressed awaited =>
    exact .inr (.reported (addressed ▸ (PaymentResult.report_ok read).1) awaited (.inr rfl))

end Operation

/-! ## What users may cancel -/

namespace Orders

variable {context : Context} {store after : Store} {orderId : Int} {order result : Order}

theorem cancelOwn_found {caller : Option User} {reason : Option String}
    (done : cancelOwn caller orderId reason context store = .ok (result, after))
    (found : store.order? orderId = some order) :
    order.status = .cancelled ∨ order.status = .pending ∨
      order.status = .paid ∧ order.totalCents = 0 := by
  rw [cancelOwn, Work.bind_eq_ok] at done
  rcases done with ⟨looked, _, lookedUp, done⟩
  rcases Work.order_eq_ok.mp lookedUp with ⟨-, present, rfl⟩
  rcases Option.some.inj (found.symm.trans present) with rfl
  cases caller with
  | none => exact (Work.breakOff_eq_ok.mp done).elim
  | some user =>
    dsimp only at done
    rw [Work.refuse_ite_eq_ok, Work.ite_eq_ok] at done
    rcases done with ⟨-, ⟨cancelled, -⟩ | ⟨-, done⟩⟩
    · exact .inl cancelled
    · rw [Work.refuse_ite_eq_ok] at done
      by_cases pending : order.status = .pending
      · exact .inr (.inl pending)
      · exact .inr (.inr (by simpa [isFreePaid, pending] using done.1))

end Orders

theorem Operation.cancel_commits (callerId : Option Int) (orderId : Int) (reason : Option String)
    (context : Context) (desk : Desk) :
    Service.Commits (cancel callerId orderId reason).perform context desk fun _ =>
      ∀ order, desk.store.order? orderId = some order → order.status = .cancelled ∨
        order.status = .pending ∨ order.status = .paid ∧ order.totalCents = 0 := by
  apply Service.userById_bind_commits
  refine Service.Commits.bind_quiet (Service.Commits.bind_quiet ?_ fun _ => .query _) fun _ => .pure _
  refine Service.Atomic.commits (Service.Atomic.sampled (Service.atomic_transaction _)
    fun _ _ _ _ => rfl) ?_
  exact fun _ _ done order found => Orders.cancelOwn_found done found

/-! ## Runs -/

namespace Step

variable {step : Step}

/-- A step brings in orders that are paid or wait for their payment, and moves no order but as its
operation is there for. -/
structure KeepsLifecycle (step : Step) : Prop where
  opened : ∀ order ∈ step.added (·.orders), order.status = .paid ∨ order.status = .pendingPayment
  moved : ∀ id before, step.desk.store.order? id = some before →
    ∃ after, step.after.store.order? id = some after ∧
      (after.status = before.status ∨ step.call.operation.Moves before after ∧
        before.status.Leads after.status)
  /-- Users leave alone what a gateway is to collect. -/
  awaited : ∀ callerId orderId reason before,
    step.call.operation = .cancel callerId orderId reason →
    step.desk.store.order? orderId = some before → before.status = .pendingPayment →
      step.after.store = step.desk.store

theorem store_eq_of_cancel {callerId : Option Int} {orderId : Int} {reason : Option String}
    {order : Order} (asked : step.call.operation = .cancel callerId orderId reason)
    (found : step.desk.store.order? orderId = some order) :
    step.after.store = step.desk.store ∨ order.status = .cancelled ∨ order.status = .pending ∨
      order.status = .paid ∧ order.totalCents = 0 := by
  have commits := Operation.cancel_commits callerId orderId reason step.call.context step.desk
  rw [← asked] at commits
  rcases commits with same | guarded
  · exact .inl same
  · exact .inr (guarded order found)

theorem opened_status (priced : ∀ plan ∈ step.desk.store.plans, 0 ≤ plan.priceCents) :
    ∀ order ∈ step.added (·.orders),
      order.status = .paid ∨ order.status = .pendingPayment := by
  have of_ids (ids : step.after.store.orders.map (·.id) = step.desk.store.orders.map (·.id)) :
      step.added (·.orders) = [] := by
    have same := congrArg List.length ids
    rw [List.length_map, List.length_map] at same
    rw [added, ← same, List.drop_length]
  intro order member
  rcases step.commits with same | committed
  · rw [added_eq_nil same] at member
    cases member
  · cases committed.changed with
    | kept orders =>
      rw [of_ids (congrArg _ orders)] at member
      cases member
    | changed handled =>
      rw [of_ids handled.ids_eq] at member
      cases member
    | placed named purchasing drafting settled orders =>
      rw [added_append orders, List.mem_singleton] at member
      subst member
      have total := Purchase.totalCents_nonneg priced purchasing
      cases settled with
      | free | charged => exact .inl rfl
      | collected dear byGateway =>
        rcases drafting.draft_eq with ⟨snapshot, -, rfl⟩
        have external := OrderRequest.method_ok named byGateway
        exact .inr (if_pos (Purchase.isExternal_of_priced external total dear))

end Step

namespace Desk

/-- However orders are placed, paid, cancelled and refunded, each of them only moves as the
operations are there for. -/
theorem lifecycle_kept {desk : Desk} (priced : ∀ plan ∈ desk.store.plans, 0 ≤ plan.priceCents)
    (unpaid : ∀ order ∈ desk.store.orders, order.Unpaid) (noRefunds : desk.store.orderRefunds = [])
    (calls : List Call) : ∀ step ∈ desk.steps calls, step.KeepsLifecycle := by
  have accounted : ∀ step ∈ desk.steps calls, step.desk.store.Accounted :=
    steps_induction Store.Accounted (Store.accounted_of_unpaid priced unpaid noRefunds)
      fun _ _ _ _ _ before committed => committed.accounted before
  intro step member
  have before := accounted step member
  constructor
  · exact Step.opened_status before.priced
  · intro id order found
    rcases step.order?_after found with ⟨later, stays, rfl | changes⟩
    · exact ⟨_, stays, .inl rfl⟩
    · refine ⟨later, stays, ?_⟩
      rcases Store.order?_eq_some found with ⟨present, rfl⟩
      by_cases same : step.after.store = step.desk.store
      · rw [same, found] at stays
        rcases Option.some.inj stays with rfl
        exact .inl rfl
      · have own : ∀ callerId reason, step.call.operation = .cancel callerId order.id reason →
            order.status = .pending ∨ order.status = .paid ∧ order.totalCents = 0 :=
          fun callerId reason asked => ((Step.store_eq_of_cancel asked found).resolve_left
            same).resolve_left changes.uncancelled
        exact (changes.moves (before.orders order present) own).imp_right
          fun moves => ⟨moves, moves.leads⟩
  · intro callerId orderId reason order asked found awaited
    rcases Step.store_eq_of_cancel asked found with same | guarded
    · exact same
    · simp [awaited] at guarded

def sampleLives : List Call := [
  sampleCall 10 (.cancel (some 1) 1 none),
  sampleCall 20 (.moveWallet 1 { kind := some "recharge", amountCents := 1000 }),
  sampleCall 30 (.create (some 1) { planId := some 1 }),
  sampleCall 40 (.refund (some 2) 2 { amountCents := 400 }),
  sampleCall 50 (.refund (some 2) 2 { amountCents := 600 }),
  sampleCall 60 (.create (some 1)
    { planId := some 1, paymentMethod := some "external", paymentChannel := some "card" }),
  sampleCall 70 (.receiveResult
    { orderId := some 3, paymentId := some 1, status := some "failed" })]

theorem sample_lifecycle_kept :
    (∀ step ∈ sample.steps sampleLives, step.KeepsLifecycle) ∧
      (sample.afterAll sampleLives).store.orders.map (·.status) =
        [.cancelled, .cancelled, .paymentFailed] :=
  ⟨lifecycle_kept (by decide) sample_unpaid rfl sampleLives, by decide +kernel⟩

end Desk

end OrderDesk
