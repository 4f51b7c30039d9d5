import OrderDesk.Proofs.Order.Changing

/-!
The times that orders remember. Each time is there exactly if the order has come to the state that it
belongs to; the times of payment and of cancellation are written once, and that of refunds with each
refund.
-/

namespace OrderDesk

/-! ## One order -/

/-- The times of an order, its state and the state of its payment agree. -/
structure Order.Timed (order : Order) : Prop where
  cancelled : order.cancelledAt.isSome = true ↔ order.status = .cancelled
  paid : order.paidAt.isSome = true ↔ order.paymentStatus = .succeeded
  settled : order.status = .paid ∨ order.status = .partiallyRefunded →
    order.paymentStatus = .succeeded
  failed : order.status = .paymentFailed → order.paymentStatus = .failed
  awaited : order.status = .pending ∨ order.status = .pendingPayment →
    order.paymentStatus = .pending

namespace Order.Timed

variable {order : Order}

theorem cancelledAt_eq_none (timed : order.Timed) (uncancelled : order.status ≠ .cancelled) :
    order.cancelledAt = none := by
  simpa [uncancelled] using timed.cancelled

theorem paidAt_eq_none (timed : order.Timed)
    (awaited : order.status = .pending ∨ order.status = .pendingPayment) : order.paidAt = none := by
  simpa [timed.awaited awaited] using timed.paid

theorem of_cancelled (status : order.status = .cancelled)
    (cancelled : order.cancelledAt.isSome = true)
    (paid : order.paidAt.isSome = true ↔ order.paymentStatus = .succeeded) : order.Timed := by
  constructor <;> simp [status, cancelled, paid]

theorem of_settled (status : order.status = .paid ∨ order.status = .partiallyRefunded)
    (uncancelled : order.cancelledAt = none) (paid : order.paidAt.isSome = true)
    (payment : order.paymentStatus = .succeeded) : order.Timed := by
  rcases status with status | status <;> constructor <;> simp [status, uncancelled, paid, payment]

theorem of_failed (status : order.status = .paymentFailed) (uncancelled : order.cancelledAt = none)
    (unpaid : order.paidAt = none) (payment : order.paymentStatus = .failed) : order.Timed := by
  constructor <;> simp [status, uncancelled, unpaid, payment]

theorem of_awaited (status : order.status = .pending ∨ order.status = .pendingPayment)
    (uncancelled : order.cancelledAt = none) (unpaid : order.paidAt = none)
    (payment : order.paymentStatus = .pending) : order.Timed := by
  rcases status with status | status <;> constructor <;> simp [status, uncancelled, unpaid, payment]

end Order.Timed

namespace Operation

variable {context : Context} {last : Int} {store after : Store} {operation : Operation}
  {order result : Order}

theorem Changes.timed (changes : operation.Changes context order result) (timed : order.Timed) :
    result.Timed := by
  have opened := timed.cancelledAt_eq_none changes.uncancelled
  cases changes with
  | cancelled | cancelledByAdmin => exact .of_cancelled rfl rfl timed.paid
  | settled pending => exact .of_settled (.inl rfl) opened rfl rfl
  | refunded refundable priced covered ending =>
    have payment := timed.settled refundable
    cases ending with
    | partly => exact .of_settled (.inr rfl) opened (timed.paid.mpr payment) payment
    | closed => exact .of_cancelled rfl rfl timed.paid
  | collected read addressed awaited => exact .of_settled (.inl rfl) opened rfl rfl
  | uncollected read addressed awaited =>
    exact .of_failed rfl opened (timed.paidAt_eq_none (.inr awaited)) rfl

theorem Changes.paidAt_eq (changes : operation.Changes context order result) (timed : order.Timed)
    (paid : order.paidAt.isSome = true) : result.paidAt = order.paidAt := by
  cases changes with
  | cancelled | cancelledByAdmin => rfl
  | settled pending => simp [timed.paidAt_eq_none (.inl pending)] at paid
  | refunded refundable priced covered ending =>
    cases ending with
    | partly | closed => rfl
  | collected read addressed awaited | uncollected read addressed awaited =>
    simp [timed.paidAt_eq_none (.inr awaited)] at paid

end Operation

theorem Purchase.Settled.timed {purchase : Purchase} {context : Context} {store between : Store}
    {userId : Int} {number : String} {draft : Order} {balance : Balance} {settlement : Settlement}
    (drafting : purchase.Drafting context store userId number draft)
    (settled : purchase.Settled context store draft balance settlement between) :
    settlement.order.Timed := by
  rcases drafting.draft_eq with ⟨snapshot, -, rfl⟩
  cases settled with
  | free | charged => exact .of_settled (.inl rfl) rfl rfl rfl
  | collected =>
    refine .of_awaited ?_ rfl rfl rfl
    by_cases external : purchase.isExternal = true
    · exact .inr (if_pos external)
    · exact .inl (if_neg external)

/-! ## Times that stay -/

/-- What a step leaves of the times of an order, given the refunds that it adds. -/
structure Order.KeepsTimes (before after : Order) (refunds : List OrderRefund) : Prop where
  paid : before.paidAt.isSome = true → after.paidAt = before.paidAt
  cancelled : before.cancelledAt.isSome = true → after.cancelledAt = before.cancelledAt
  unrefunded : (∀ refund ∈ refunds, refund.orderId ≠ before.id) →
    after.refundedAt = before.refundedAt
  refunded : ∀ refund ∈ refunds, refund.orderId = before.id →
    after.refundedAt = some refund.createdAt

namespace Orders

variable {context : Context} {store after : Store} {orderId : Int} {order result : Order}

theorem Unrefunded.refundedAt_eq (unrefunded : Unrefunded store order result after) :
    result.refundedAt = order.refundedAt := by
  rcases unrefunded.advanced with rfl | advance
  · rfl
  · exact advance.refundedAt_eq

end Orders

namespace Step

variable {step : Step} {id : Int} {before after : Order}

theorem refundedAt_after (found : step.desk.store.order? id = some before)
    (stays : step.after.store.order? id = some after) :
    step.added (·.orderRefunds) = [] ∧ after.refundedAt = before.refundedAt ∨
      ∃ refund, step.added (·.orderRefunds) = [refund] ∧
        (refund.orderId ≠ id ∧ after.refundedAt = before.refundedAt ∨
          refund.orderId = id ∧ after.refundedAt = some refund.createdAt) := by
  have of_kept {present : Order} (kept : step.after.store.order? id = some present)
      (refunds : step.after.store.orderRefunds = step.desk.store.orderRefunds)
      (times : present.refundedAt = before.refundedAt) :
      step.added (·.orderRefunds) = [] ∧ after.refundedAt = before.refundedAt := by
    rcases Option.some.inj (stays.symm.trans kept) with rfl
    exact ⟨added_append (refunds.trans (List.append_nil _).symm), times⟩
  rcases step.commits with same | committed
  · exact .inl (of_kept (same ▸ found) (congrArg _ same) rfl)
  · cases committed.orders with
    | kept orders refunds => exact .inl (of_kept (Store.order?_congr orders ▸ found) refunds rfl)
    | placed purchasing drafting settled orders refunds =>
      exact .inl (of_kept (Store.order?_append_of_found orders found) refunds rfl)
    | handled handled unrefunded =>
      rcases handled.order?_cases found with ⟨rfl, kept⟩ | kept
      · exact .inl (of_kept kept unrefunded.refunds_eq unrefunded.refundedAt_eq)
      · exact .inl (of_kept kept unrefunded.refunds_eq rfl)
    | @refunded user orderId request order result posted between crediting ending saved =>
      have handled := crediting.handled ending
      rcases crediting.credited with ⟨balance, wallets, -, rfl⟩
      rw [← saved] at handled
      have orderId_eq := Orders.found_id crediting.found
      refine .inr ⟨_, added_append (congrArg Store.orderRefunds saved), ?_⟩
      by_cases own : id = orderId
      · subst own
        rcases Option.some.inj (stays.symm.trans handled.order?_self) with rfl
        cases ending with
        | partly | closed => exact .inr ⟨orderId_eq, rfl⟩
      · rw [handled.order?_of_ne own, found] at stays
        rcases Option.some.inj stays with rfl
        exact .inl ⟨fun same => own (same.symm.trans orderId_eq), rfl⟩

theorem keepsTimes (timed : ∀ order ∈ step.desk.store.orders, order.Timed)
    (found : step.desk.store.order? id = some before) :
    ∃ after, step.after.store.order? id = some after ∧
      before.KeepsTimes after (step.added (·.orderRefunds)) := by
  rcases step.order?_after found with ⟨after, stays, changed⟩
  rcases Store.order?_eq_some found with ⟨present, rfl⟩
  have times := timed before present
  refine ⟨after, stays, ?_, ?_, ?_, ?_⟩
  · intro paid
    rcases changed with rfl | changes
    · rfl
    · exact changes.paidAt_eq times paid
  · intro cancelled
    rcases changed with rfl | changes
    · rfl
    · exact absurd (times.cancelled.mp cancelled) changes.uncancelled
  · intro foreign
    rcases refundedAt_after found stays with ⟨-, same⟩ | ⟨refund, added, ⟨-, same⟩ | ⟨own, -⟩⟩
    · exact same
    · exact same
    · exact absurd own (foreign refund (by simp [added]))
  · intro refund member own
    rcases refundedAt_after found stays with ⟨none, -⟩ | ⟨only, added, ⟨other, -⟩ | ⟨-, time⟩⟩
    · simp [none] at member
    · rw [added, List.mem_singleton] at member
      exact absurd (member ▸ own) other
    · rw [added, List.mem_singleton] at member
      rw [member, time]

end Step

namespace Desk

/-- However orders are placed, paid, cancelled and refunded, their times agree with their states, and
a time that is written stays. -/
theorem times_kept {desk : Desk}
    (unpaid : ∀ order ∈ desk.store.orders, order.status = .pending ∧ order.paymentStatus = .pending)
    (untimed : ∀ order ∈ desk.store.orders, order.cancelledAt = none ∧ order.paidAt = none)
    (calls : List Call) :
    (∀ order ∈ (desk.afterAll calls).store.orders, order.Timed) ∧
      ∀ step ∈ desk.steps calls, ∀ id before, step.desk.store.order? id = some before →
        ∃ after, step.after.store.order? id = some after ∧
          before.KeepsTimes after (step.added (·.orderRefunds)) := by
  have start : ∀ order ∈ desk.store.orders, order.Timed := fun order member =>
    .of_awaited (.inl (unpaid order member).1) (untimed order member).1 (untimed order member).2
      (unpaid order member).2
  have kept {context : Context} {last : Int} {store after : Store} {operation : Operation}
      (before : ∀ order ∈ store.orders, order.Timed)
      (committed : operation.Committed context last store after) :
      ∀ order ∈ after.orders, order.Timed :=
    committed.changed.forall_orders (fun drafting settled => settled.timed drafting)
      (fun changes timed => changes.timed timed) before
  constructor
  · exact afterAll_induction (fun store => ∀ order ∈ store.orders, order.Timed) start
      fun _ _ _ _ _ before committed => kept before committed
  · intro step member id before found
    have timed := steps_induction (fun store => ∀ order ∈ store.orders, order.Timed) start
      (fun _ _ _ _ _ before committed => kept before committed) step member
    exact step.keepsTimes timed found

theorem sample_times_kept :
    ((∀ order ∈ (sample.afterAll sampleCalls).store.orders, order.Timed) ∧
      ∀ step ∈ sample.steps sampleCalls, ∀ id before, step.desk.store.order? id = some before →
        ∃ after, step.after.store.order? id = some after ∧
          before.KeepsTimes after (step.added (·.orderRefunds))) ∧
      (sample.afterAll sampleCalls).store.orders.map (fun order =>
          (order.paidAt, order.cancelledAt, order.refundedAt)) =
        [(some (.ofSeconds 30), none, none), (some (.ofSeconds 20), none, some (.ofSeconds 40))] :=
  ⟨times_kept (by decide) (by decide) sampleCalls, by decide +kernel⟩

end Desk

end OrderDesk
