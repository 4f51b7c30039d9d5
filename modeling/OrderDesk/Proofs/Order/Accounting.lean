import Mathlib.Algebra.Order.BigOperators.Group.List
import Mathlib.Algebra.Ring.Int.Defs
import OrderDesk.Proofs.Desk.Commit

/-!
Refund accounting. What an order says of its refunds agrees with the rows of the refunds and with its
status, whatever has happened to it.
-/

namespace OrderDesk

/-! ## What an order notes when its last part is refunded -/

namespace Fields

theorem get?_putAll_of_absent {fields values : Fields} {key : String}
    (absent : ∀ field ∈ values, field.1 ≠ key) :
    (fields.putAll values).get? key = fields.get? key := by
  induction values generalizing fields with
  | nil => rfl
  | cons field rest induction =>
    rcases List.forall_mem_cons.mp absent with ⟨different, later⟩
    change ((fields.put field.1 field.2).putAll rest).get? key = fields.get? key
    rw [induction later, get?_put, if_neg different]

end Fields

theorem Orders.get?_completionNote (order : Order) (email : String) (now : Instant) :
    ((order.noteMetadata (completionNote email now)).metadata.getD []).get? "cancel_reason" =
      some (.text "refund_completed") := by
  rw [Order.noteMetadata, Option.getD_some, Order.mergeMetadata, completionNote,
    List.filter_cons_of_pos (by decide)]
  change (((order.metadata.getD []).put "cancel_reason" (.text "refund_completed")).putAll _).get?
    "cancel_reason" = _
  rw [Fields.get?_putAll_of_absent, Fields.get?_put, if_pos rfl]
  intro field member
  rcases List.mem_cons.mp (List.mem_filter.mp member).1 with rfl | member
  · change "cancelled_by" ≠ "cancel_reason"
    decide
  · rw [List.mem_singleton.mp member]
    change "cancelled_at" ≠ "cancel_reason"
    decide

/-! ## One order -/

/-- The refunded amount, the rows of the refunds and the status of an order agree. -/
structure Order.Accounted (order : Order) (refunds : List OrderRefund) : Prop where
  bounded : 0 ≤ order.refundedCents ∧ order.refundedCents ≤ order.totalCents
  sum : order.refundedCents = (refunds.map (·.amountCents)).sum
  positive : ∀ refund ∈ refunds, 0 < refund.amountCents
  partly : order.status = .partiallyRefunded ↔
    0 < order.refundedCents ∧ order.refundedCents < order.totalCents
  passed : order.status ≠ .refunded
  closed : order.refundedCents = order.totalCents → 0 < order.totalCents →
    order.status = .cancelled ∧
      (order.metadata.getD []).get? "cancel_reason" = some (.text "refund_completed")

namespace Order.Accounted

variable {order result : Order} {refunds : List OrderRefund}

theorem unrefunded (accounted : order.Accounted refunds) (uncancelled : order.status ≠ .cancelled)
    (whole : order.status ≠ .partiallyRefunded) : order.refundedCents = 0 := by
  rcases accounted.bounded with ⟨lower, upper⟩
  have notPartly : ¬(0 < order.refundedCents ∧ order.refundedCents < order.totalCents) :=
    fun between => whole (accounted.partly.mpr between)
  have notClosed : ¬(order.refundedCents = order.totalCents ∧ 0 < order.totalCents) :=
    fun exhausted => uncancelled (accounted.closed exhausted.1 exhausted.2).1
  omega

theorem refunds_eq_nil (accounted : order.Accounted refunds) (none : order.refundedCents = 0) :
    refunds = [] := by
  cases refunds with
  | nil => rfl
  | cons first rest =>
    have positive := accounted.positive first (List.mem_cons_self ..)
    have others : 0 ≤ (rest.map (·.amountCents)).sum := by
      refine List.sum_nonneg fun amount member => ?_
      rcases List.mem_map.mp member with ⟨refund, present, rfl⟩
      exact Int.le_of_lt (accounted.positive refund (List.mem_cons_of_mem _ present))
    have sum := accounted.sum
    rw [List.map_cons, List.sum_cons] at sum
    omega

theorem advanced (accounted : order.Accounted refunds) (total : result.totalCents = order.totalCents)
    (advance : Orders.Advanced order result) : result.Accounted refunds := by
  have none := accounted.unrefunded advance.left.2 advance.left.1
  have lower := accounted.bounded
  constructor
  · rw [advance.refundedCents_eq, total]
    exact accounted.bounded
  · rw [advance.refundedCents_eq]
    exact accounted.sum
  · exact accounted.positive
  · rw [advance.refundedCents_eq, none]
    exact iff_of_false advance.entered.1 (by omega)
  · exact advance.entered.2
  · rw [advance.refundedCents_eq, none]
    omega

theorem refunded {refund : OrderRefund} {adminId : Int} {email : String} {now : Instant}
    {request : RefundRequest} {posted : LedgerEntry} (accounted : order.Accounted refunds)
    (amount : refund.amountCents = request.amountCents) (positive : 0 < request.amountCents)
    (covered : request.amountCents ≤ order.outstandingCents)
    (ending : Orders.Ending (Orders.refundedBy order adminId request posted now) email now result) :
    result.Accounted (refunds ++ [refund]) := by
  have sum : order.refundedCents + request.amountCents =
      ((refunds ++ [refund]).map (·.amountCents)).sum := by
    rw [List.map_append, List.sum_append, ← accounted.sum, ← amount]
    simp
  have positives : ∀ row ∈ refunds ++ [refund], 0 < row.amountCents := by
    intro row member
    rcases List.mem_append.mp member with present | new
    · exact accounted.positive row present
    · rw [List.mem_singleton.mp new, amount]
      exact positive
  have lower := accounted.bounded.1
  have upper : order.refundedCents + request.amountCents ≤ order.totalCents := by
    rw [Order.outstandingCents] at covered
    omega
  cases ending with
  | partly remains =>
    change order.refundedCents + request.amountCents < order.totalCents at remains
    exact {
      bounded := ⟨by change 0 ≤ order.refundedCents + request.amountCents; omega, upper⟩
      sum := sum
      positive := positives
      partly := iff_of_true rfl ⟨by change 0 < order.refundedCents + request.amountCents; omega,
        remains⟩
      passed := nofun
      closed := fun exhausted => absurd exhausted (Int.ne_of_lt remains) }
  | closed exhausted =>
    change order.totalCents ≤ order.refundedCents + request.amountCents at exhausted
    exact {
      bounded := ⟨by change 0 ≤ order.refundedCents + request.amountCents; omega, upper⟩
      sum := sum
      positive := positives
      partly := iff_of_false nofun fun between => Int.not_le.mpr between.2 exhausted
      passed := nofun
      closed := fun _ _ => ⟨rfl, Orders.get?_completionNote _ email now⟩ }

end Order.Accounted

/-! ## All orders -/

structure Store.Accounted (store : Store) : Prop where
  priced : ∀ plan ∈ store.plans, 0 ≤ plan.priceCents
  owned : ∀ refund ∈ store.orderRefunds, refund.orderId ∈ store.orders.map (·.id)
  orders : ∀ order ∈ store.orders, order.Accounted (store.refundsOf order.id)

namespace Purchase

variable {purchase : Purchase} {context : Context} {store : Store} {request : OrderRequest}

theorem totalCents_nonneg (priced : ∀ plan ∈ store.plans, 0 ≤ plan.priceCents)
    (purchasing : Orders.Purchasing context store request purchase) : 0 ≤ purchase.totalCents := by
  have member : purchase.plan ∈ store.plans := List.mem_of_find?_eq_some purchasing.found
  have quantity : 1 ≤ purchase.quantity := by
    rw [purchasing.quantity_eq, Settings.quantity, Settings.quantityLimit]
    split <;> omega
  exact Int.mul_nonneg (priced _ member) (by omega)

theorem Settled.accounted {userId : Int} {number : String} {draft : Order} {balance : Balance}
    {settlement : Settlement} {between : Store} (total : 0 ≤ purchase.totalCents)
    (drafting : purchase.Drafting context store userId number draft)
    (settled : purchase.Settled context store draft balance settlement between) :
    settlement.order.Accounted [] := by
  have framed := settled.framed
  rcases drafting.draft_eq with ⟨snapshot, -, rfl⟩
  have none : settlement.order.refundedCents = 0 := framed.refundedCents_eq
  have price : settlement.order.totalCents = purchase.totalCents := framed.totalCents_eq
  have status : settlement.order.status ≠ .partiallyRefunded ∧
      settlement.order.status ≠ .refunded := by
    cases settled with
    | free | charged => exact ⟨nofun, nofun⟩
    | collected =>
      rw [order]
      split <;> exact ⟨nofun, nofun⟩
  exact {
    bounded := by omega
    sum := none
    positive := nofun
    partly := iff_of_false status.1 (by omega)
    passed := status.2
    closed := fun _ _ => by omega }

end Purchase

theorem Store.Accounted.refundsOf_of_fresh {store : Store} (accounted : store.Accounted) {id : Int}
    (fresh : ∀ order ∈ store.orders, order.id ≠ id) : store.refundsOf id = [] := by
  rw [Store.refundsOf, List.filter_eq_nil_iff]
  intro refund member same
  rcases List.mem_map.mp (accounted.owned refund member) with ⟨order, present, owner⟩
  exact fresh order present (owner.trans (beq_iff_eq.mp same))

namespace Store.Accounted

variable {context : Context} {store after : Store} {orderId : Int} {order result : Order}

theorem kept (accounted : store.Accounted) (plans : after.plans = store.plans)
    (orders : after.orders = store.orders) (refunds : after.orderRefunds = store.orderRefunds) :
    after.Accounted where
  priced := by
    rw [plans]
    exact accounted.priced
  owned := by
    rw [orders, refunds]
    exact accounted.owned
  orders := by
    intro order member
    rw [orders] at member
    rw [refundsOf, refunds]
    exact accounted.orders order member

theorem placed (accounted : store.Accounted) (plans : after.plans = store.plans)
    (fresh : ∀ other ∈ store.orders, other.id ≠ order.id)
    (orders : after.orders = store.orders ++ [order])
    (refunds : after.orderRefunds = store.orderRefunds) (own : order.Accounted []) :
    after.Accounted where
  priced := by
    rw [plans]
    exact accounted.priced
  owned := by
    intro refund member
    rw [refunds] at member
    rw [orders, List.map_append]
    exact List.mem_append_left _ (accounted.owned refund member)
  orders := by
    intro other member
    rw [orders] at member
    rw [refundsOf, refunds, ← refundsOf]
    rcases List.mem_append.mp member with present | new
    · exact accounted.orders other present
    · rw [List.mem_singleton.mp new, accounted.refundsOf_of_fresh fresh]
      exact own

theorem handled (accounted : store.Accounted)
    (handled : Orders.Handled context store orderId order result after)
    (unrefunded : Orders.Unrefunded store order result after) : after.Accounted where
  priced := by
    rw [handled.plans_eq]
    exact accounted.priced
  owned := by
    rw [unrefunded.refunds_eq, handled.ids_eq]
    exact accounted.owned
  orders := by
    intro other member
    rw [refundsOf, unrefunded.refunds_eq]
    rcases handled.mem_orders member with rfl | old
    · have before := accounted.orders order handled.present
      rcases unrefunded.advanced with rfl | advance
      · exact before
      · rw [handled.id_eq]
        exact before.advanced handled.totalCents_eq advance
    · exact accounted.orders other old

theorem refunded {user : User} {request : RefundRequest} {posted : LedgerEntry}
    (accounted : store.Accounted)
    (crediting : Orders.Crediting context store user.id orderId request order posted after)
    (ending : Orders.Ending (Orders.refundedBy order user.id request posted context.now)
      user.email context.now result) :
    (Orders.saved after result).Accounted := by
  have handled := crediting.handled ending
  rcases crediting.added with ⟨row, owner, amount, -, refunds, orders⟩
  change (Orders.saved after result).orderRefunds = _ at refunds
  constructor
  · rw [handled.plans_eq]
    exact accounted.priced
  · intro refund member
    rw [handled.ids_eq]
    rw [refunds] at member
    rcases List.mem_append.mp member with old | new
    · exact accounted.owned refund old
    · rw [List.mem_singleton.mp new, owner]
      exact List.mem_map_of_mem handled.present
  · intro other member
    rw [Orders.saved, orders] at member
    rw [refundsOf, refunds]
    rcases mem_replace member with rfl | ⟨old, different⟩
    · rw [filter_append_of_eq (owner.trans handled.id_eq.symm), handled.id_eq]
      exact (accounted.orders order handled.present).refunded amount crediting.positive
        crediting.covered ending
    · rw [handled.id_eq, ← owner] at different
      rw [filter_append_of_ne different.symm]
      exact accounted.orders other old

end Store.Accounted

theorem Operation.OrdersAfter.accounted {context : Context} {last : Int} {store after : Store}
    (changed : OrdersAfter context last store after) (plans : after.plans = store.plans)
    (accounted : store.Accounted) : after.Accounted := by
  cases changed with
  | kept orders refunds => exact accounted.kept plans orders refunds
  | placed purchasing drafting settled orders refunds =>
    have total := Purchase.totalCents_nonneg accounted.priced purchasing
    refine accounted.placed plans ?_ orders refunds (settled.accounted total drafting)
    rw [settled.framed.id_eq]
    exact drafting.fresh
  | handled handled unrefunded => exact accounted.handled handled unrefunded
  | refunded crediting ending saved =>
    subst saved
    exact accounted.refunded crediting ending

theorem Operation.Committed.accounted {context : Context} {last : Int} {store after : Store}
    {operation : Operation} (committed : operation.Committed context last store after)
    (accounted : store.Accounted) : after.Accounted :=
  committed.orders.accounted committed.plans_eq accounted

/-- An order remembers the time of a refund exactly if it has been refunded. -/
def Order.RefundTimed (order : Order) : Prop :=
  order.refundedAt.isSome = true ↔ 0 < order.refundedCents

theorem Operation.OrdersAfter.refundTimed {context : Context} {last : Int} {store after : Store}
    (changed : OrdersAfter context last store after) (accounted : store.Accounted)
    (timed : ∀ order ∈ store.orders, order.RefundTimed) :
    ∀ order ∈ after.orders, order.RefundTimed := by
  intro order member
  cases changed with
  | kept orders refunds => exact timed order (orders ▸ member)
  | placed purchasing drafting settled orders refunds =>
    rw [orders] at member
    rcases List.mem_append.mp member with present | new
    · exact timed order present
    · have framed := settled.framed
      rcases drafting.draft_eq with ⟨snapshot, -, rfl⟩
      rw [List.mem_singleton.mp new, Order.RefundTimed, framed.refundedAt_eq,
        framed.refundedCents_eq]
      exact iff_of_false nofun (Int.lt_irrefl 0)
  | @handled orderId found result handled unrefunded =>
    rcases handled.mem_orders member with rfl | old
    · have before := timed found handled.present
      rcases unrefunded.advanced with rfl | advance
      · exact before
      · rwa [Order.RefundTimed, advance.refundedAt_eq, advance.refundedCents_eq]
    · exact timed order old
  | @refunded user orderId request found result posted between crediting ending saved =>
    subst saved
    have handled := crediting.handled ending
    rcases handled.mem_orders member with rfl | old
    · have lower := (accounted.orders found handled.present).bounded.1
      have grown : 0 < found.refundedCents + request.amountCents := by
        have positive := crediting.positive
        omega
      cases ending with
      | partly | closed => exact iff_of_true rfl grown
    · exact timed order old

/-! ## Runs -/

structure Order.Unpaid (order : Order) : Prop where
  pending : order.status = .pending
  priced : 0 ≤ order.totalCents
  unrefunded : order.refundedCents = 0

theorem Order.Unpaid.accounted {order : Order} (unpaid : order.Unpaid) : order.Accounted [] where
  bounded := by
    have priced := unpaid.priced
    have unrefunded := unpaid.unrefunded
    omega
  sum := unpaid.unrefunded
  positive := nofun
  partly := by
    rw [unpaid.pending, unpaid.unrefunded]
    exact iff_of_false nofun fun between => Int.lt_irrefl 0 between.1
  passed := by
    rw [unpaid.pending]
    exact nofun
  closed := by
    have unrefunded := unpaid.unrefunded
    omega

theorem Store.accounted_of_unpaid {store : Store}
    (priced : ∀ plan ∈ store.plans, 0 ≤ plan.priceCents)
    (unpaid : ∀ order ∈ store.orders, order.Unpaid) (noRefunds : store.orderRefunds = []) :
    store.Accounted where
  priced := priced
  owned := by simp [noRefunds]
  orders := by
    intro order member
    rw [Store.refundsOf, noRefunds]
    exact (unpaid order member).accounted

namespace Desk

/-- However orders are paid, cancelled and refunded, what they say of their refunds agrees with the
rows of the refunds and with their status. -/
theorem refunds_accounted {desk : Desk} (priced : ∀ plan ∈ desk.store.plans, 0 ≤ plan.priceCents)
    (unpaid : ∀ order ∈ desk.store.orders, order.Unpaid)
    (untimed : ∀ order ∈ desk.store.orders, order.refundedAt = none)
    (noRefunds : desk.store.orderRefunds = []) (calls : List Call) :
    ∀ order ∈ (desk.afterAll calls).store.orders,
      order.Accounted ((desk.afterAll calls).store.refundsOf order.id) ∧ order.RefundTimed := by
  have timed : ∀ order ∈ desk.store.orders, order.RefundTimed := by
    intro order member
    rw [Order.RefundTimed, untimed order member, (unpaid order member).unrefunded]
    exact iff_of_false nofun (Int.lt_irrefl 0)
  have kept : (desk.afterAll calls).store.Accounted ∧
      ∀ order ∈ (desk.afterAll calls).store.orders, order.RefundTimed :=
    afterAll_induction (fun store => store.Accounted ∧ ∀ order ∈ store.orders, order.RefundTimed)
      ⟨Store.accounted_of_unpaid priced unpaid noRefunds, timed⟩
      fun _ _ _ _ _ before committed =>
        ⟨committed.accounted before.1, committed.orders.refundTimed before.1 before.2⟩
  exact fun order member => ⟨kept.1.orders order member, kept.2 order member⟩

theorem sample_unpaid : ∀ order ∈ sample.store.orders, order.Unpaid := by
  intro order member
  rcases List.mem_singleton.mp member with rfl
  exact ⟨rfl, by decide, rfl⟩

theorem sample_refunds_accounted :
    (∀ order ∈ (sample.afterAll sampleCalls).store.orders,
      order.Accounted ((sample.afterAll sampleCalls).store.refundsOf order.id) ∧
        order.RefundTimed) ∧
      (sample.afterAll sampleCalls).store.orders.map (·.refundedCents) = [0, 400] := by
  refine ⟨refunds_accounted ?_ sample_unpaid ?_ rfl sampleCalls, by decide +kernel⟩
  · decide
  · decide

end Desk

end OrderDesk
