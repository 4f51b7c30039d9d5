import OrderDesk.Proofs.Desk.Outside

/-!
History is only ever added to. Entries, refunds, lines and bindings stay as they are, orders and
payments stay, and the terms of an order are settled once and for all when it is made.
-/

namespace OrderDesk

/-- What an order is agreed on, and what it keeps of its plan. -/
structure Order.Terms where
  id : Int
  number : String
  userId : Int
  planId : Option Int
  totalCents : Int
  currency : String
  planSnapshot : Fields
  paymentIntentId : Option String
  createdAt : Instant

def Order.terms (order : Order) : Order.Terms :=
  ⟨order.id, order.number, order.userId, order.planId, order.totalCents, order.currency,
    order.planSnapshot, order.paymentIntentId, order.createdAt⟩

namespace Order

variable {order later : Order}

theorem id_of_terms (same : later.terms = order.terms) : later.id = order.id :=
  congrArg Terms.id same

theorem userId_of_terms (same : later.terms = order.terms) : later.userId = order.userId :=
  congrArg Terms.userId same

theorem currency_of_terms (same : later.terms = order.terms) : later.currency = order.currency :=
  congrArg Terms.currency same

theorem planSnapshot_of_terms (same : later.terms = order.terms) :
    later.planSnapshot = order.planSnapshot :=
  congrArg Terms.planSnapshot same

end Order

namespace Store

def OrdersDistinct (store : Store) : Prop :=
  (store.orders.map (·.id)).Nodup

instance (store : Store) : Decidable store.OrdersDistinct :=
  inferInstanceAs (Decidable (store.orders.map (·.id)).Nodup)

/-- A later store has all that an earlier one had, in the same place. -/
structure Grows (early late : Store) : Prop where
  ledger : early.ledger <+: late.ledger
  refunds : early.orderRefunds <+: late.orderRefunds
  items : early.orderItems <+: late.orderItems
  keyBindings : early.keyBindings <+: late.keyBindings
  orders : early.orders.map (·.terms) <+: late.orders.map (·.terms)
  payments : early.orderPayments.map (·.id) <+: late.orderPayments.map (·.id)

/-- At most one entry has been added to the ledger, with an id above all others. -/
def LedgerAdvances (before after : Store) : Prop :=
  after.ledger = before.ledger ∨ ∃ entry, after.ledger = before.ledger ++ [entry] ∧
    ∀ other ∈ before.ledger, other.id < entry.id

namespace Grows

variable {early between late : Store}

theorem refl (store : Store) : store.Grows store :=
  ⟨List.prefix_rfl, List.prefix_rfl, List.prefix_rfl, List.prefix_rfl, List.prefix_rfl,
    List.prefix_rfl⟩

theorem trans (first : early.Grows between) (second : between.Grows late) : early.Grows late where
  ledger := first.ledger.trans second.ledger
  refunds := first.refunds.trans second.refunds
  items := first.items.trans second.items
  keyBindings := first.keyBindings.trans second.keyBindings
  orders := first.orders.trans second.orders
  payments := first.payments.trans second.payments

theorem mem_terms (grows : early.Grows late) {order : Order} (member : order ∈ early.orders) :
    ∃ later ∈ late.orders, later.terms = order.terms :=
  List.mem_map.mp (grows.orders.subset (List.mem_map_of_mem member))

theorem exists_terms (grows : early.Grows late) (Meets : Order.Terms → Prop)
    (met : ∃ order ∈ early.orders, Meets order.terms) :
    ∃ order ∈ late.orders, Meets order.terms := by
  rcases met with ⟨order, member, meets⟩
  rcases grows.mem_terms member with ⟨later, stays, same⟩
  exact ⟨later, stays, same ▸ meets⟩

theorem order?_terms (grows : early.Grows late) {id : Int} {order : Order}
    (found : early.order? id = some order) :
    ∃ later, late.order? id = some later ∧ later.terms = order.terms := by
  have looked (store : Store) :
      (store.orders.map (·.terms)).find? (·.id == id) = (store.order? id).map (·.terms) :=
    List.find?_map ..
  have same : (early.orders.map (·.terms)).find? (·.id == id) = some order.terms := by
    rw [looked, found, Option.map_some]
  rcases grows.orders with ⟨new, grown⟩
  have still : (late.orders.map (·.terms)).find? (·.id == id) = some order.terms := by
    rw [← grown, List.find?_append, same, Option.some_or]
  rw [looked] at still
  exact Option.map_eq_some_iff.mp still

end Grows

section

variable {store : Store} {order : Order}

theorem OrdersDistinct.received (distinct : store.OrdersDistinct) :
    (store.receive order).OrdersDistinct :=
  nodup_append_nextId rfl distinct

theorem grows_receive : store.Grows (store.receive order) := by
  refine { Grows.refl store with orders := ?_ }
  rw [receive, List.map_append]
  exact List.prefix_append _ _

end

end Store

/-! ## What an operation adds -/

namespace Operation

variable {context : Context} {last : Int} {store after : Store} {operation : Operation}

theorem Changes.terms_eq {order result : Order}
    (changes : operation.Changes context order result) : result.terms = order.terms := by
  cases changes with
  | cancelled | cancelledByAdmin | settled | collected | uncollected => rfl
  | refunded refundable priced covered ending => cases ending <;> rfl

theorem OrdersChanged.terms (changed : OrdersChanged context last store after operation)
    (distinct : store.OrdersDistinct) :
    store.orders.map (·.terms) <+: after.orders.map (·.terms) := by
  cases changed with
  | kept orders => exact orders ▸ List.prefix_rfl
  | placed named purchasing drafting settled orders =>
    rw [orders, List.map_append]
    exact List.prefix_append _ _
  | @changed order result handled changes =>
    rcases handled.orders_eq with ⟨-, same⟩ | replaced
    · exact same ▸ List.prefix_rfl
    · have same : ∀ present ∈ store.orders, present.id = result.id →
          result.terms = present.terms := by
        intro present member same
        rw [List.inj_on_of_nodup_map distinct member handled.present (same.trans handled.id_eq)]
        exact changes.terms_eq
      have kept : after.orders.map (·.terms) = store.orders.map (·.terms) := by
        rw [replaced, Store.map_replace same]
      exact kept ▸ List.prefix_rfl

theorem Committed.ordersDistinct (committed : Committed context last store operation after)
    (distinct : store.OrdersDistinct) : after.OrdersDistinct := by
  rw [Store.OrdersDistinct] at distinct ⊢
  rcases committed.items with ⟨same, -⟩ | ⟨item, grown, -, fresh, -⟩
  · rwa [same]
  · rw [grown, List.nodup_append]
    refine ⟨distinct, List.nodup_singleton _, ?_⟩
    simpa using fresh

theorem Committed.ledgerAdvances (committed : Committed context last store operation after) :
    store.LedgerAdvances after := by
  rcases committed.wallets with ⟨-, ledger⟩ | ⟨_, _, posted, _, _, posting, -, ledger⟩
  · exact .inl ledger
  · refine .inr ⟨posted, ledger.trans posting.ledger_eq, fun other member => ?_⟩
    rw [posting.id_eq]
    exact Store.lt_nextId (List.mem_map_of_mem member)

theorem OrdersAfter.refunds (changed : OrdersAfter context last store after) :
    store.orderRefunds <+: after.orderRefunds := by
  cases changed with
  | kept orders refunds | placed _ _ _ orders refunds => exact refunds ▸ List.prefix_rfl
  | handled handled unrefunded => exact unrefunded.refunds_eq ▸ List.prefix_rfl
  | refunded crediting ending saved =>
    rcases crediting.added with ⟨refund, -, -, -, refunds, -⟩
    rw [saved, Orders.saved, refunds]
    exact List.prefix_append _ _

theorem Committed.grows (committed : Committed context last store operation after)
    (distinct : store.OrdersDistinct) : store.Grows after where
  ledger := by
    rcases committed.ledgerAdvances with same | ⟨entry, grown, -⟩
    · exact same ▸ List.prefix_rfl
    · exact grown ▸ List.prefix_append _ _
  refunds := committed.orders.refunds
  items := by
    rcases committed.items with ⟨-, same⟩ | ⟨item, -, grown, -, -⟩
    · exact same ▸ List.prefix_rfl
    · exact grown ▸ List.prefix_append _ _
  keyBindings := by
    cases committed.keyBindings with
    | kept same => exact same ▸ List.prefix_rfl
    | bound keyed activity unbound fits grown => exact grown ▸ List.prefix_append _ _
  orders := committed.changed.terms distinct
  payments := by
    cases committed.payments with
    | kept orders same => exact same ▸ List.prefix_rfl
    | placed named purchasing drafting settled orders grown =>
      rw [grown, List.map_append]
      exact List.prefix_append _ _
    | handled handled byHand => exact byHand.payments_eq ▸ List.prefix_rfl
    | delivered read delivered =>
      have kept : after.orderPayments.map (·.id) = store.orderPayments.map (·.id) := by
        rw [delivered.payments_eq, Store.map_key_replace]
      exact kept ▸ List.prefix_rfl

end Operation

namespace Desk

/-! ## Runs -/

section

variable {desk : Desk} (distinct : desk.store.OrdersDistinct)

include distinct

theorem afterEvents_grows (events : List Event) :
    (desk.afterEvents events).store.OrdersDistinct ∧
      desk.store.Grows (desk.afterEvents events).store := by
  refine afterEvents_induction (fun late => late.OrdersDistinct ∧ desk.store.Grows late)
    ⟨distinct, .refl _⟩ ?_ ?_ ?_
  · rintro _ _ store after _ ⟨distinct, grows⟩ committed
    exact ⟨committed.ordersDistinct distinct, grows.trans (committed.grows distinct)⟩
  · rintro store users plans ⟨distinct, grows⟩
    exact ⟨distinct, { grows with }⟩
  · rintro store order - ⟨distinct, grows⟩
    exact ⟨distinct.received, grows.trans Store.grows_receive⟩

/-- Whatever happens, what has been there at some time stays, and no call adds more than one entry
to the ledger. -/
theorem history_grows (before later : List Event) :
    (desk.afterEvents before).store.Grows (desk.afterEvents (before ++ later)).store ∧
      ∀ call, (desk.afterEvents before).store.LedgerAdvances
        ((desk.afterEvents before).after call).store := by
  constructor
  · rw [afterEvents_append]
    exact (afterEvents_grows (afterEvents_grows distinct before).1 later).2
  · intro call
    rcases (desk.afterEvents before).after_commits call with same | committed
    · exact .inl (congrArg Store.ledger same)
    · exact committed.ledgerAdvances

end

def sampleMeddling : List Event := [
  .edited sample.store.users [{ Demo.starter 1 with name := "Basic", priceCents := 1 }],
  .amended { now := .ofSeconds 35 } 1 (some 0),
  .struck { now := .ofSeconds 36 } 1]

theorem sample_history_grows :
    let paid := sample.afterEvents (samplePayments.map .called)
    let meddled := sample.afterEvents (samplePayments.map .called ++ sampleMeddling)
    paid.store.Grows meddled.store ∧
      paid.store.LedgerAdvances
        (paid.after (sampleCall 40 (.refund (some 2) 2 { amountCents := 400 }))).store ∧
      meddled.store.plans.map (·.priceCents) = [1] ∧
      meddled.store.orderItems.map (·.unitPriceCents) = [1000] := by
  have grows := @history_grows sample (by decide) (samplePayments.map .called) sampleMeddling
  exact ⟨grows.1, grows.2 _, by decide +kernel, by decide +kernel⟩

end Desk

end OrderDesk
