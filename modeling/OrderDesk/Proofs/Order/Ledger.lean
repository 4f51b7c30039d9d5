import Mathlib.Data.List.Forall2
import OrderDesk.Proofs.Order.Accounting
import OrderDesk.Proofs.Order.Reference

/-!
The ledger entries of orders. An order that a wallet has paid for has one charge, and one credit for
each of its refunds; any other order has no entry.
-/

namespace OrderDesk

/-! ## One order -/

namespace Order

def Charged (order : Order) : Prop :=
  order.paymentMethod = .balance ∧ 0 < order.totalCents ∧ order.paymentStatus = .succeeded

instance (order : Order) : Decidable order.Charged :=
  inferInstanceAs (Decidable (_ ∧ _ ∧ _))

structure Credits (order : Order) (credit : LedgerEntry) (refund : OrderRefund) : Prop where
  kind_eq : credit.kind = .refund
  amountCents_eq : credit.amountCents = refund.amountCents
  userId_eq : credit.userId = order.userId
  named : refund.metadata.get? "balance_transaction_id" = some (.int credit.id)

structure Charges (order : Order) (charge : LedgerEntry) : Prop where
  kind_eq : charge.kind = .purchase
  amountCents_eq : charge.amountCents = -order.totalCents
  userId_eq : charge.userId = order.userId

/-- The entries of an order are its charge and the credits of its refunds, if it is charged. -/
structure Covered (order : Order) (refunds : List OrderRefund) (entries : List LedgerEntry) :
    Prop where
  charged : order.Charged → ∃ charge credits, entries = charge :: credits ∧
    order.Charges charge ∧ List.Forall₂ order.Credits credits refunds
  uncharged : ¬order.Charged → entries = []

structure Coherent (order : Order) : Prop where
  awaited : order.status = .pending ∨ order.status = .pendingPayment →
    order.paymentStatus ≠ .succeeded
  byGateway : order.status = .pendingPayment → order.paymentMethod ≠ .balance
  paid : order.status = .paid ∨ order.status = .partiallyRefunded →
    order.paymentStatus = .succeeded

namespace Coherent

variable {order : Order}

theorem of_awaited (status : order.status = .pending ∨ order.status = .pendingPayment)
    (payment : order.paymentStatus ≠ .succeeded) (method : order.paymentMethod ≠ .balance) :
    order.Coherent where
  awaited := fun _ => payment
  byGateway := fun _ => method
  paid := by rcases status with status | status <;> simp [status]

theorem of_paid (status : order.status = .paid ∨ order.status = .partiallyRefunded)
    (payment : order.paymentStatus = .succeeded) : order.Coherent where
  awaited := by rcases status with status | status <;> simp [status]
  byGateway := by rcases status with status | status <;> simp [status]
  paid := fun _ => payment

theorem of_closed (status : order.status = .cancelled ∨ order.status = .paymentFailed) :
    order.Coherent where
  awaited := by rcases status with status | status <;> simp [status]
  byGateway := by rcases status with status | status <;> simp [status]
  paid := by rcases status with status | status <;> simp [status]

end Coherent

namespace Covered

variable {order result : Order} {refunds : List OrderRefund} {entries : List LedgerEntry}

theorem of_same (covered : order.Covered refunds entries) (userId : result.userId = order.userId)
    (method : result.paymentMethod = order.paymentMethod)
    (total : result.totalCents = order.totalCents)
    (payment : result.paymentStatus = order.paymentStatus) : result.Covered refunds entries := by
  have same : result.Charged ↔ order.Charged := by
    rw [Charged, Charged, method, total, payment]
  constructor
  · intro charged
    rcases covered.charged (same.mp charged) with ⟨charge, credits, entries_eq, charges, matched⟩
    refine ⟨charge, credits, entries_eq, ?_, matched.imp fun credit refund credited => ?_⟩
    · exact ⟨charges.kind_eq, total ▸ charges.amountCents_eq, userId ▸ charges.userId_eq⟩
    · exact { credited with userId_eq := userId ▸ credited.userId_eq }
  · intro uncharged
    exact covered.uncharged fun charged => uncharged (same.mpr charged)

theorem of_uncharged (covered : order.Covered refunds entries) (before : ¬order.Charged)
    (after : ¬result.Charged) : result.Covered refunds entries where
  charged := fun charged => absurd charged after
  uncharged := fun _ => covered.uncharged before

theorem charge {posted : LedgerEntry} (charged : order.Charged) (charges : order.Charges posted) :
    order.Covered [] [posted] where
  charged := fun _ => ⟨posted, [], rfl, charges, .nil⟩
  uncharged := fun uncharged => absurd charged uncharged

theorem credit {credit : LedgerEntry} {refund : OrderRefund}
    (covered : order.Covered refunds entries) (charged : order.Charged)
    (credits : order.Credits credit refund) :
    order.Covered (refunds ++ [refund]) (entries ++ [credit]) := by
  rcases covered.charged charged with ⟨charge, before, entries_eq, charges, matched⟩
  constructor
  · intro _
    refine ⟨charge, before ++ [credit], ?_, charges, List.rel_append matched (.cons credits .nil)⟩
    rw [entries_eq, List.cons_append]
  · exact absurd charged

theorem sum_credits {credits : List LedgerEntry}
    (matched : List.Forall₂ order.Credits credits refunds) :
    (credits.map (·.amountCents)).sum = (refunds.map (·.amountCents)).sum := by
  induction matched with
  | nil => rfl
  | cons credited _ induction =>
    rw [List.map_cons, List.map_cons, List.sum_cons, List.sum_cons, credited.amountCents_eq,
      induction]

theorem sum_eq (covered : order.Covered refunds entries) (accounted : order.Accounted refunds)
    (charged : order.Charged) :
    (entries.map (·.amountCents)).sum = order.refundedCents - order.totalCents := by
  rcases covered.charged charged with ⟨charge, credits, rfl, charges, matched⟩
  rw [List.map_cons, List.sum_cons, charges.amountCents_eq, sum_credits matched, ← accounted.sum]
  omega

theorem sum_bounds (covered : order.Covered refunds entries)
    (accounted : order.Accounted refunds) :
    -order.totalCents ≤ (entries.map (·.amountCents)).sum ∧
      (entries.map (·.amountCents)).sum ≤ 0 := by
  have bounded := accounted.bounded
  by_cases charged : order.Charged
  · rw [covered.sum_eq accounted charged]
    omega
  · rw [covered.uncharged charged, List.map_nil, List.sum_nil]
    omega

end Covered

end Order

/-! ## All orders -/

namespace Store

def entriesFor (store : Store) (order : Order) : List LedgerEntry :=
  store.ledger.filter (·.reference == Orders.ledgerReference order)

/-- What the movements for an order come to. -/
def netCents (store : Store) (order : Order) : Int :=
  ((store.entriesFor order).map (·.amountCents)).sum

/-- The ledger covers all orders, and no entry with the mark of an order is left over. -/
structure Conserved (store : Store) : Prop where
  accounted : store.Accounted
  numbered : ∀ first ∈ store.orders, ∀ second ∈ store.orders,
    first.number = second.number → first.id = second.id
  unblank : ∀ order ∈ store.orders, Text.Unblank order.number
  referenced : ∀ entry ∈ store.ledger, Orders.NamesOrder entry.reference →
    ∃ id order, store.order? id = some order ∧ entry.reference = Orders.ledgerMark order
  coherent : ∀ order ∈ store.orders, order.Coherent
  covered : ∀ order ∈ store.orders, order.number.length ≤ OrderNumber.maxLength →
    order.Covered (store.refundsOf order.id) (store.entriesFor order)

theorem Conserved.ledgerMark_ne {store : Store} (conserved : store.Conserved)
    {order other : Order} (present : order ∈ store.orders) (member : other ∈ store.orders)
    (different : other.id ≠ order.id) (fits : other.number.length ≤ OrderNumber.maxLength) :
    Orders.ledgerMark order ≠ Orders.ledgerReference other := by
  intro same
  have number := Orders.number_eq_of_ledgerMark fits same
  exact different (conserved.numbered order present other member number).symm

theorem Conserved.entriesFor_of_unused {store : Store} (conserved : store.Conserved)
    {order : Order} (unused : ∀ other ∈ store.orders, other.number ≠ order.number)
    (fits : order.number.length ≤ OrderNumber.maxLength) : store.entriesFor order = [] := by
  rw [entriesFor, List.filter_eq_nil_iff]
  intro entry member same
  rw [beq_iff_eq] at same
  rcases conserved.referenced entry member (same ▸ Orders.namesOrder_ledgerReference)
    with ⟨id, other, found, mark⟩
  exact unused other (order?_eq_some found).1
    (Orders.number_eq_of_ledgerMark fits (mark.symm.trans same))

section

variable {store after : Store} {order other : Order} {movements : List LedgerEntry}

theorem entriesFor_append_of_marked (ledger : after.ledger = store.ledger ++ movements)
    (fits : order.number.length ≤ OrderNumber.maxLength)
    (marked : ∀ entry ∈ movements, entry.reference = Orders.ledgerMark order) :
    after.entriesFor order = store.entriesFor order ++ movements := by
  have own : ∀ entry ∈ movements, (entry.reference == Orders.ledgerReference order) = true := by
    intro entry member
    rw [marked entry member, Orders.ledgerMark_eq fits, beq_self_eq_true]
  rw [entriesFor, ledger, List.filter_append, List.filter_eq_self.mpr own]
  rfl

theorem entriesFor_append_of_foreign (ledger : after.ledger = store.ledger ++ movements)
    (foreign : ∀ entry ∈ movements, entry.reference ≠ Orders.ledgerReference other) :
    after.entriesFor other = store.entriesFor other := by
  have none : movements.filter (·.reference == Orders.ledgerReference other) = [] :=
    List.filter_eq_nil_iff.mpr fun entry member same => foreign entry member (beq_iff_eq.mp same)
  rw [entriesFor, ledger, List.filter_append, none, List.append_nil]
  rfl

end

/-- One order has changed, and all that has been added to the ledger and the refunds is its own. -/
structure Changed (store : Store) (order result : Order) (rows : List OrderRefund)
    (movements : List LedgerEntry) (after : Store) : Prop where
  found : store.order? order.id = some order
  id_eq : result.id = order.id
  number_eq : result.number = order.number
  orders_eq : after.orders = replace (·.id) result store.orders
  refunds_eq : after.orderRefunds = store.orderRefunds ++ rows
  owned : ∀ row ∈ rows, row.orderId = order.id
  ledger_eq : after.ledger = store.ledger ++ movements
  marked : ∀ entry ∈ movements, entry.reference = Orders.ledgerMark order

namespace Changed

variable {store after : Store} {order result other : Order} {rows : List OrderRefund}
  {movements : List LedgerEntry}

theorem present (changed : Changed store order result rows movements after) :
    order ∈ store.orders :=
  (order?_eq_some changed.found).1

theorem mem_orders (changed : Changed store order result rows movements after)
    (member : other ∈ after.orders) :
    other = result ∨ other ∈ store.orders ∧ other.id ≠ order.id := by
  rw [changed.orders_eq] at member
  rw [← changed.id_eq]
  exact mem_replace member

theorem origin (changed : Changed store order result rows movements after)
    (member : other ∈ after.orders) :
    ∃ before ∈ store.orders, before.id = other.id ∧ before.number = other.number := by
  rcases changed.mem_orders member with rfl | ⟨old, -⟩
  · exact ⟨order, changed.present, changed.id_eq.symm, changed.number_eq.symm⟩
  · exact ⟨other, old, rfl, rfl⟩

theorem order?_eq (changed : Changed store order result rows movements after) {id : Int}
    (found : store.order? id = some other) :
    ∃ current, after.order? id = some current ∧ current.number = other.number := by
  rw [order?, changed.orders_eq]
  by_cases own : id = result.id
  · subst own
    have same : other = order := by
      rw [changed.id_eq, changed.found] at found
      exact (Option.some.inj found).symm
    subst same
    exact ⟨result, find?_replace_self changed.present changed.id_eq.symm, changed.number_eq⟩
  · rw [find?_replace_of_ne own]
    exact ⟨other, found, rfl⟩

theorem refundsOf_self (changed : Changed store order result rows movements after) :
    after.refundsOf result.id = store.refundsOf order.id ++ rows := by
  rw [refundsOf, changed.refunds_eq, List.filter_append, changed.id_eq]
  rw [List.filter_eq_self.mpr fun row member => beq_iff_eq.mpr (changed.owned row member)]
  rfl

theorem refundsOf_of_ne (changed : Changed store order result rows movements after) {id : Int}
    (different : id ≠ order.id) : after.refundsOf id = store.refundsOf id := by
  rw [refundsOf, changed.refunds_eq, List.filter_append]
  have none : rows.filter (·.orderId == id) = [] := by
    refine List.filter_eq_nil_iff.mpr fun row member same => ?_
    exact different ((beq_iff_eq.mp same).symm.trans (changed.owned row member))
  rw [none, List.append_nil]
  rfl

theorem entriesFor_self (changed : Changed store order result rows movements after)
    (fits : order.number.length ≤ OrderNumber.maxLength) :
    after.entriesFor result = store.entriesFor order ++ movements := by
  have reference : Orders.ledgerReference result = Orders.ledgerReference order := by
    rw [Orders.ledgerReference, changed.number_eq, Orders.ledgerReference]
  rw [entriesFor, reference]
  exact entriesFor_append_of_marked changed.ledger_eq fits changed.marked

theorem conserved (changed : Changed store order result rows movements after)
    (conserved : store.Conserved) (accounted : after.Accounted) (coherent : result.Coherent)
    (covered : order.number.length ≤ OrderNumber.maxLength →
      result.Covered (store.refundsOf order.id ++ rows) (store.entriesFor order ++ movements)) :
    after.Conserved where
  accounted := accounted
  numbered := by
    intro first member second member' same
    rcases changed.origin member with ⟨before, present, id_eq, number_eq⟩
    rcases changed.origin member' with ⟨before', present', id_eq', number_eq'⟩
    rw [← id_eq, ← id_eq']
    refine conserved.numbered before present before' present' ?_
    rw [number_eq, same, number_eq']
  unblank := by
    intro other member
    rcases changed.origin member with ⟨before, present, -, number_eq⟩
    rw [← number_eq]
    exact conserved.unblank before present
  referenced := by
    intro entry member names
    have origin : ∃ id before, store.order? id = some before ∧
        entry.reference = Orders.ledgerMark before := by
      rw [changed.ledger_eq] at member
      rcases List.mem_append.mp member with old | new
      · exact conserved.referenced entry old names
      · exact ⟨order.id, order, changed.found, changed.marked entry new⟩
    rcases origin with ⟨id, before, found, mark⟩
    rcases changed.order?_eq found with ⟨current, found', number_eq⟩
    exact ⟨id, current, found', mark.trans (Orders.ledgerMark_congr number_eq.symm)⟩
  coherent := by
    intro other member
    rcases changed.mem_orders member with rfl | ⟨old, -⟩
    · exact coherent
    · exact conserved.coherent other old
  covered := by
    intro other member fits
    rcases changed.mem_orders member with rfl | ⟨old, different⟩
    · rw [changed.number_eq] at fits
      rw [changed.refundsOf_self, changed.entriesFor_self fits]
      exact covered fits
    · have foreign := conserved.ledgerMark_ne changed.present old different fits
      rw [changed.refundsOf_of_ne different, entriesFor_append_of_foreign changed.ledger_eq
        fun entry new => changed.marked entry new ▸ foreign]
      exact conserved.covered other old fits

end Changed

theorem Conserved.kept {store after : Store} {movements : List LedgerEntry}
    (conserved : store.Conserved) (accounted : after.Accounted)
    (orders : after.orders = store.orders) (refunds : after.orderRefunds = store.orderRefunds)
    (ledger : after.ledger = store.ledger ++ movements)
    (foreign : ∀ entry ∈ movements, ¬Orders.NamesOrder entry.reference) : after.Conserved where
  accounted := accounted
  numbered := by
    rw [orders]
    exact conserved.numbered
  unblank := by
    rw [orders]
    exact conserved.unblank
  referenced := by
    intro entry member names
    rw [order?_congr orders]
    rw [ledger] at member
    rcases List.mem_append.mp member with old | new
    · exact conserved.referenced entry old names
    · exact absurd names (foreign entry new)
  coherent := by
    rw [orders]
    exact conserved.coherent
  covered := by
    intro order member fits
    rw [orders] at member
    have unnamed : ∀ entry ∈ movements, entry.reference ≠ Orders.ledgerReference order :=
      fun entry new same => foreign entry new (same ▸ Orders.namesOrder_ledgerReference)
    rw [refundsOf, refunds, entriesFor_append_of_foreign ledger unnamed]
    exact conserved.covered order member fits

theorem Conserved.unmoved {store after : Store} (conserved : store.Conserved)
    (accounted : after.Accounted) (orders : after.orders = store.orders)
    (refunds : after.orderRefunds = store.orderRefunds) (ledger : after.ledger = store.ledger) :
    after.Conserved := by
  refine conserved.kept accounted orders refunds ?_ (List.forall_mem_nil _)
  rw [List.append_nil]
  exact ledger

structure Added (store : Store) (order : Order) (movements : List LedgerEntry) (after : Store) :
    Prop where
  fresh : ∀ other ∈ store.orders, other.id ≠ order.id
  unused : ∀ other ∈ store.orders, other.number ≠ order.number
  orders_eq : after.orders = store.orders ++ [order]
  refunds_eq : after.orderRefunds = store.orderRefunds
  ledger_eq : after.ledger = store.ledger ++ movements
  marked : ∀ entry ∈ movements, entry.reference = Orders.ledgerMark order

namespace Added

variable {store after : Store} {order other : Order} {movements : List LedgerEntry}

theorem mem_orders (added : Added store order movements after) (member : other ∈ after.orders) :
    other ∈ store.orders ∨ other = order := by
  rw [added.orders_eq] at member
  exact (List.mem_append.mp member).imp_right List.mem_singleton.mp

theorem order?_self (added : Added store order movements after) :
    after.order? order.id = some order := by
  have absent : store.orders.find? (·.id == order.id) = none :=
    List.find?_eq_none.mpr fun other old same => added.fresh other old (beq_iff_eq.mp same)
  rw [order?, added.orders_eq, List.find?_append, absent]
  simp

theorem order?_old (added : Added store order movements after) {id : Int}
    (found : store.order? id = some other) : after.order? id = some other := by
  rw [order?, added.orders_eq, List.find?_append, ← order?, found, Option.some_or]

theorem numbered (added : Added store order movements after) (conserved : store.Conserved)
    {first second : Order} (member : first ∈ after.orders) (member' : second ∈ after.orders)
    (same : first.number = second.number) : first.id = second.id := by
  rcases added.mem_orders member with old | rfl <;> rcases added.mem_orders member' with old' | rfl
  · exact conserved.numbered first old second old' same
  · exact absurd same (added.unused first old)
  · exact absurd same.symm (added.unused second old')
  · rfl

theorem entriesFor_self (added : Added store order movements after) (conserved : store.Conserved)
    (fits : order.number.length ≤ OrderNumber.maxLength) : after.entriesFor order = movements := by
  rw [entriesFor_append_of_marked added.ledger_eq fits added.marked,
    conserved.entriesFor_of_unused added.unused fits, List.nil_append]

theorem entriesFor_old (added : Added store order movements after) (old : other ∈ store.orders)
    (fits : other.number.length ≤ OrderNumber.maxLength) :
    after.entriesFor other = store.entriesFor other := by
  refine entriesFor_append_of_foreign added.ledger_eq fun entry new same => ?_
  rw [added.marked entry new] at same
  exact added.unused other old (Orders.number_eq_of_ledgerMark fits same).symm

theorem conserved (added : Added store order movements after) (conserved : store.Conserved)
    (accounted : after.Accounted) (unblank : Text.Unblank order.number)
    (coherent : order.Coherent) (covered : order.Covered [] movements) : after.Conserved where
  accounted := accounted
  numbered := fun _ member _ member' => added.numbered conserved member member'
  unblank := by
    intro other member
    rcases added.mem_orders member with old | rfl
    · exact conserved.unblank other old
    · exact unblank
  referenced := by
    intro entry member names
    rw [added.ledger_eq] at member
    rcases List.mem_append.mp member with old | new
    · rcases conserved.referenced entry old names with ⟨id, other, found, mark⟩
      exact ⟨id, other, added.order?_old found, mark⟩
    · exact ⟨order.id, order, added.order?_self, added.marked entry new⟩
  coherent := by
    intro other member
    rcases added.mem_orders member with old | rfl
    · exact conserved.coherent other old
    · exact coherent
  covered := by
    intro other member fits
    rw [refundsOf, added.refunds_eq, ← refundsOf]
    rcases added.mem_orders member with old | rfl
    · rw [added.entriesFor_old old fits]
      exact conserved.covered other old fits
    · rw [conserved.accounted.refundsOf_of_fresh added.fresh, added.entriesFor_self conserved fits]
      exact covered

end Added

end Store

namespace Wallet.Posting

variable {context : Context} {store after : Store} {userId : Int} {movement : Movement}
  {posted : LedgerEntry} {balance : Balance} {order : Order}

theorem reference_eq (posting : Posting context store userId movement posted balance after) :
    posted.reference = Orders.keptReference movement := by
  have recorded := congrArg LedgerEntry.reference posting.entry_eq
  rw [entry] at recorded
  exact recorded

theorem marked (posting : Posting context store userId movement posted balance after)
    (unblank : Text.Unblank order.number)
    (named : movement.reference = some (Orders.ledgerReference order)) :
    ∀ entry ∈ [posted], entry.reference = Orders.ledgerMark order := by
  intro entry member
  rw [List.mem_singleton.mp member, posting.reference_eq, Orders.keptReference_eq unblank named]

theorem foreign (posting : Posting context store userId movement posted balance after)
    (apart : ¬Orders.NamesOrder (Text.trim? movement.reference)) :
    ∀ entry ∈ [posted], ¬Orders.NamesOrder entry.reference := by
  intro entry member names
  rw [List.mem_singleton.mp member, posting.reference_eq] at names
  exact apart (Orders.namesOrder_of_kept names)

end Wallet.Posting

end OrderDesk
