import Mathlib.Data.List.Nodup
import OrderDesk.Proofs.Order.Ledger
import OrderDesk.Proofs.Order.Numbering

/-!
Conservation of money. Whatever is done to orders, the ledger has one charge for each of those that a
wallet has paid for and one credit for each of their refunds, and no entry for any other order.
-/

namespace OrderDesk

/-! ## Orders that are there already -/

theorem PaidNotice.chargeBalance_of_balance {notice : PaidNotice}
    (byWallet : notice.method = .ok .balance) : notice.chargeBalance = true := by
  delta method at byWallet
  split at byWallet
  · cases byWallet
  · split at byWallet
    · assumption
    · cases byWallet
  · next wallet => exact absurd (Except.ok.inj byWallet) wallet

namespace Orders

variable {context : Context} {store after : Store} {orderId : Int} {order result : Order}

theorem saved_conserved {between : Store} (conserved : store.Conserved)
    (found : Work.order orderId context store = .ok (order, store))
    (orders : between.orders = store.orders) (refunds : between.orderRefunds = store.orderRefunds)
    (ledger : between.ledger = store.ledger) (accounted : (saved between result).Accounted)
    (id_eq : result.id = order.id) (number_eq : result.number = order.number)
    (coherent : result.Coherent)
    (covered : order.Covered (store.refundsOf order.id) (store.entriesFor order) →
      result.Covered (store.refundsOf order.id) (store.entriesFor order)) :
    (saved between result).Conserved := by
  have changed : Store.Changed store order result [] [] (saved between result) := {
    found := (Work.order_present found).2
    id_eq := id_eq
    number_eq := number_eq
    orders_eq := by rw [saved, orders]
    refunds_eq := by rw [List.append_nil]; exact refunds
    owned := List.forall_mem_nil _
    ledger_eq := by rw [List.append_nil]; exact ledger
    marked := List.forall_mem_nil _ }
  refine changed.conserved conserved accounted coherent fun fits => ?_
  rw [List.append_nil, List.append_nil]
  exact covered (conserved.covered order changed.present fits)

theorem Cancelling.conserved (cancelling : Cancelling context store orderId result after)
    (conserved : store.Conserved) (accounted : after.Accounted) : after.Conserved := by
  cases cancelling with
  | already => exact conserved
  | called found empty move =>
    rcases Order.move_eq_ok.mp move with ⟨-, rfl⟩
    exact saved_conserved conserved found rfl rfl rfl accounted rfl rfl (.of_closed (.inl rfl))
      fun covered => covered.of_same rfl rfl rfl rfl

theorem Reporting.conserved {report : Report}
    (reporting : Reporting context store report result after)
    (conserved : store.Conserved) (accounted : after.Accounted) : after.Conserved := by
  cases reporting with
  | replayed => exact conserved.unmoved accounted rfl rfl rfl
  | @accepted order _ payment found picked awaited applied =>
    have present := (Work.order_present found).1
    have byGateway := (conserved.coherent order present).byGateway awaited
    rcases applyToOrder_ok applied with ⟨-, rfl⟩ | ⟨-, rfl⟩
    · exact saved_conserved conserved found rfl rfl rfl accounted rfl rfl (.of_paid (.inl rfl) rfl)
        fun covered => covered.of_uncharged (byGateway ·.1) (byGateway ·.1)
    · exact saved_conserved conserved found rfl rfl rfl accounted rfl rfl (.of_closed (.inr rfl))
        fun covered => covered.of_uncharged (byGateway ·.1) (byGateway ·.1)

theorem pending_unmoved (conserved : store.Conserved) (present : order ∈ store.orders)
    (pending : order.status = .pending) :
    ¬order.Charged ∧ order.refundedCents = 0 ∧ store.refundsOf order.id = [] := by
  have coherent := conserved.coherent order present
  have accounted := conserved.accounted.orders order present
  have none := accounted.unrefunded (by rw [pending]; exact nofun) (by rw [pending]; exact nofun)
  refine ⟨fun charged => ?_, none, accounted.refunds_eq_nil none⟩
  exact coherent.awaited (.inl pending) charged.2.2

theorem Settling.conserved {adminId : Int} {method : PaymentMethod} {notice : PaidNotice}
    (supported : notice.method = .ok method)
    (settling : Settling context store adminId orderId method notice result after)
    (conserved : store.Conserved) (accounted : after.Accounted) : after.Conserved := by
  cases settling with
  | @uncharged order moved stamp note found pending free move =>
    have present := (Work.order_present found).1
    rcases pending_unmoved conserved present pending with ⟨unpaid, whole, -⟩
    rcases Order.move_eq_ok.mp move with ⟨-, rfl⟩
    refine saved_conserved conserved found rfl rfl rfl accounted rfl rfl (.of_paid (.inl rfl) rfl)
      fun covered => covered.of_uncharged unpaid fun charged => ?_
    -- Paying from the wallet without a charge leaves nothing that could have been charged.
    have asked : notice.chargeBalance = true :=
      PaidNotice.chargeBalance_of_balance (supported.trans (congrArg Except.ok charged.1))
    have settled : order.outstandingCents ≤ 0 := free asked
    have priced : 0 < order.totalCents := charged.2.1
    rw [Order.outstandingCents] at settled
    omega
  | @charged order moved stamp note posted balance between found pending outstanding posting move =>
    have present := (Work.order_present found).1
    rcases pending_unmoved conserved present pending with ⟨unpaid, whole, noRefunds⟩
    rcases Order.move_eq_ok.mp move with ⟨-, rfl⟩
    have total : order.outstandingCents = order.totalCents := by
      rw [Order.outstandingCents, whole, Int.sub_zero]
    have changed : Store.Changed store order
        (((order.moving .paid context.now stamp).paidBy .balance).noteMetadata note) [] [posted]
        (saved between
          (((order.moving .paid context.now stamp).paidBy .balance).noteMetadata note)) := {
      found := (Work.order_present found).2
      id_eq := rfl
      number_eq := rfl
      orders_eq := by rw [saved, posting.store_eq]
      refunds_eq := by rw [saved, posting.store_eq, List.append_nil]
      owned := List.forall_mem_nil _
      ledger_eq := posting.ledger_eq
      marked := posting.marked (conserved.unblank order present) rfl }
    refine changed.conserved conserved accounted (.of_paid (.inl rfl) rfl) fun fits => ?_
    rw [noRefunds, (conserved.covered order present fits).uncharged unpaid]
    refine .charge ⟨rfl, total ▸ outstanding, rfl⟩ ⟨posting.kind_eq_of_named rfl, ?_, ?_⟩
    · exact posting.amountCents_eq.trans (congrArg Int.neg total)
    · exact posting.userId_eq

theorem Crediting.conserved {user : User} {request : RefundRequest} {posted : LedgerEntry}
    (crediting : Crediting context store user.id orderId request order posted after)
    (ending : Ending (refundedBy order user.id request posted context.now) user.email context.now
      result)
    (conserved : store.Conserved) (accounted : (saved after result).Accounted) :
    (saved after result).Conserved := by
  have handled := crediting.handled ending
  have present := handled.present
  have charged : order.Charged :=
    ⟨crediting.paidFromWallet, crediting.priced,
      (conserved.coherent order present).paid crediting.refundable⟩
  rcases crediting.added with ⟨refund, owner, amount, named, refunds, orders⟩
  rcases crediting.credited with ⟨balance, between, posting, after_eq⟩
  have ledger : after.ledger = store.ledger ++ [posted] := by
    rw [after_eq]
    exact posting.ledger_eq
  have credits : order.Credits posted refund :=
    ⟨posting.kind_eq_of_named rfl, posting.amountCents_eq.trans amount.symm, posting.userId_eq,
      named⟩
  have changed : Store.Changed store order result [refund] [posted] (saved after result) := {
    found := (Work.order_present crediting.found).2
    id_eq := handled.id_eq
    number_eq := handled.number_eq
    orders_eq := by rw [saved, orders]
    refunds_eq := refunds
    owned := by simpa using owner
    ledger_eq := ledger
    marked := posting.marked (conserved.unblank order present) rfl }
  have payment : result.paymentMethod = order.paymentMethod ∧
      result.paymentStatus = order.paymentStatus := by
    cases ending with
    | partly | closed => exact ⟨rfl, rfl⟩
  have coherent : result.Coherent := by
    cases ending with
    | partly => exact .of_paid (.inr rfl) charged.2.2
    | closed => exact .of_closed (.inl rfl)
  refine changed.conserved conserved accounted coherent fun fits => ?_
  have covered := (conserved.covered order present fits).credit charged credits
  exact covered.of_same handled.userId_eq payment.1 handled.totalCents_eq payment.2

end Orders

/-! ## New orders -/

namespace Purchase

variable {purchase : Purchase} {context : Context} {store after between : Store} {userId number : Int}
  {draft : Order} {balance : Balance} {settlement : Settlement}

theorem order_status {snapshot : Fields} {text currency : String} {now : Instant} {id : Int} :
    (purchase.order snapshot userId text currency now id).status = .pending ∨
      (purchase.order snapshot userId text currency now id).status = .pendingPayment := by
  rw [order]
  by_cases external : purchase.isExternal = true
  · exact .inr (if_pos external)
  · exact .inl (if_neg external)

theorem Settled.recorded (total : 0 ≤ purchase.totalCents)
    (drafting : purchase.Drafting context store userId (OrderNumber.text number) draft)
    (settled : purchase.Settled context store draft balance settlement between) :
    ∃ movements, between.ledger = store.ledger ++ movements ∧
      (∀ entry ∈ movements, entry.reference = Orders.ledgerMark settlement.order) ∧
      settlement.order.Coherent ∧ settlement.order.Covered [] movements := by
  have unblank : Text.Unblank draft.number := by
    rw [drafting.number_eq]
    exact OrderNumber.unblank_text number
  have number_eq := settled.framed.number_eq
  rcases drafting.draft_eq with ⟨snapshot, -, rfl⟩
  cases settled with
  | free free =>
    refine ⟨[], (List.append_nil _).symm, List.forall_mem_nil _, .of_paid (.inl rfl) rfl, ?_,
      fun _ => rfl⟩
    exact fun charged => absurd charged.2.1 (Int.not_lt.mpr (Int.le_of_eq free))
  | @charged posted _ _ priced byWallet posting =>
    have marked := posting.marked unblank rfl
    rw [← Orders.ledgerMark_congr number_eq] at marked
    refine ⟨[posted], posting.ledger_eq, marked, .of_paid (.inl rfl) rfl, .charge ?_ ?_⟩
    · exact ⟨byWallet, lt_of_le_of_ne total priced.symm, rfl⟩
    · exact ⟨posting.kind_eq_of_named rfl, posting.amountCents_eq, posting.userId_eq⟩
  | collected priced byGateway =>
    refine ⟨[], (List.append_nil _).symm, List.forall_mem_nil _, ?_, ?_, fun _ => rfl⟩
    · exact .of_awaited order_status nofun byGateway
    · exact fun charged => absurd charged.1 byGateway

theorem Placing.conserved {request : OrderRequest} {receipt : Receipt}
    (purchasing : Orders.Purchasing context store request purchase)
    (placing : purchase.Placing context store userId (OrderNumber.text number) receipt after)
    (conserved : store.Conserved) (accounted : after.Accounted) : after.Conserved := by
  cases placing with
  | @intro draft settlement between item drafting item_eq settled unbound =>
    have total := totalCents_nonneg conserved.accounted.priced purchasing
    have framed := settled.framed
    rcases settled.recorded total drafting with ⟨movements, ledger, marked, coherent, covered⟩
    have numbered := framed.number_eq.trans drafting.number_eq
    refine Store.Added.conserved ⟨?_, ?_, rfl, framed.refunds_eq, ledger, marked⟩ conserved
      accounted ?_ coherent covered
    · rw [framed.id_eq]
      exact drafting.fresh
    · rw [numbered]
      exact drafting.unused
    · rw [numbered]
      exact OrderNumber.unblank_text number

end Purchase

/-! ## All operations -/

theorem Wallet.Posting.conserved {context : Context} {store after : Store} {userId : Int}
    {movement : Movement} {posted : LedgerEntry} {balance : Balance}
    (posting : Posting context store userId movement posted balance after)
    (apart : ¬Orders.NamesOrder (Text.trim? movement.reference)) (conserved : store.Conserved)
    (accounted : after.Accounted) : after.Conserved := by
  refine conserved.kept accounted ?_ ?_ posting.ledger_eq (posting.foreign apart)
  · rw [posting.store_eq]
  · rw [posting.store_eq]

namespace Operation

def movement? : Operation → Option Movement
  | moveWallet _ movement | refundWallet _ movement => some movement
  | _ => none

/-- Such a movement must not pass for that of an order. -/
def NamesNoOrder (operation : Operation) : Prop :=
  ∀ movement ∈ operation.movement?, ¬Orders.NamesOrder (Text.trim? movement.reference)

instance (operation : Operation) : Decidable operation.NamesNoOrder :=
  inferInstanceAs (Decidable (∀ movement ∈ operation.movement?,
    ¬Orders.NamesOrder (Text.trim? movement.reference)))

theorem Committed.conserved {context : Context} {last : Int} {store after : Store}
    {operation : Operation} (committed : operation.Committed context last store after)
    (apart : operation.NamesNoOrder) (conserved : store.Conserved) : after.Conserved := by
  have accounted := committed.accounted conserved.accounted
  cases committed with
  | moved posting => exact posting.conserved (apart _ rfl) conserved accounted
  | @credited _ movement _ _ _ positive posting =>
    exact posting.conserved (apart movement rfl) conserved accounted
  | created ordered | createdLate ordered =>
    rcases ordered with ⟨user, purchase, -, -, purchasing, placing⟩
    exact placing.conserved purchasing conserved accounted
  | cancelled cancelling | cancelledByAdmin cancelling =>
    exact cancelling.conserved conserved accounted
  | settled admin supported settling => exact settling.conserved supported conserved accounted
  | refunded admin crediting ending => exact crediting.conserved ending conserved accounted
  | reported read reporting => exact reporting.conserved conserved accounted
  | opened | patched => exact conserved.unmoved accounted rfl rfl rfl

end Operation

/-! ## Runs -/

/-- No money has moved yet: all orders are still to be paid. -/
structure Store.Unsold (store : Store) : Prop where
  priced : ∀ plan ∈ store.plans, 0 ≤ plan.priceCents
  unpaid : ∀ order ∈ store.orders, order.Unpaid ∧ order.paymentStatus = .pending
  distinct : (store.orders.map (·.number)).Nodup
  unblank : ∀ order ∈ store.orders, Text.Unblank order.number
  fits : ∀ order ∈ store.orders, order.number.length ≤ OrderNumber.maxLength
  noRefunds : store.orderRefunds = []
  noEntries : store.ledger = []

theorem Store.Unsold.conserved {store : Store} (unsold : store.Unsold) : store.Conserved where
  accounted := accounted_of_unpaid unsold.priced (fun order member => (unsold.unpaid order member).1)
    unsold.noRefunds
  numbered := by
    intro first member second member' same
    rw [List.inj_on_of_nodup_map unsold.distinct member member' same]
  unblank := unsold.unblank
  referenced := by simp [unsold.noEntries]
  coherent := by
    intro order member
    rcases unsold.unpaid order member with ⟨unpaid, awaited⟩
    constructor
    · simp [awaited]
    · simp [unpaid.pending]
    · simp [unpaid.pending]
  covered := by
    intro order member _
    rcases unsold.unpaid order member with ⟨-, awaited⟩
    have uncharged : ¬order.Charged := fun charged => by
      rw [Order.Charged, awaited] at charged
      exact PaymentStatus.noConfusion charged.2.2
    refine ⟨fun charged => absurd charged uncharged, fun _ => ?_⟩
    rw [entriesFor, unsold.noEntries]
    rfl

namespace Desk

/-- However orders are placed, paid, cancelled and refunded, the ledger takes the total of an order
from its owner once, gives back what its refunds say, and moves nothing else for it. This is said of
orders whose numbers fit their column, which all of them do while the clock has room for them. -/
theorem money_conserved {desk : Desk} (unsold : desk.store.Unsold) {calls : List Call}
    (apart : ∀ call ∈ calls, call.operation.NamesNoOrder) :
    let store := (desk.afterAll calls).store
    (∀ order ∈ store.orders, order.number.length ≤ OrderNumber.maxLength →
      order.Covered (store.refundsOf order.id) (store.entriesFor order) ∧
        (order.Charged → store.netCents order = order.refundedCents - order.totalCents) ∧
        -order.totalCents ≤ store.netCents order ∧ store.netCents order ≤ 0) ∧
      (desk.Numbered calls →
        ∀ order ∈ store.orders, order.number.length ≤ OrderNumber.maxLength) := by
  intro store
  have conserved : store.Conserved :=
    afterAll_induction Store.Conserved unsold.conserved
      fun call asked _ _ _ conserved committed =>
        committed.conserved (apart call asked) conserved
  refine ⟨fun order member fits => ?_, fun numbered => numbers_fit numbered unsold.fits⟩
  have covered := conserved.covered order member fits
  have accounted := conserved.accounted.orders order member
  exact ⟨covered, covered.sum_eq accounted, covered.sum_bounds accounted⟩

theorem sample_money_conserved :
    let store := (sample.afterAll sampleCalls).store
    (∀ order ∈ store.orders,
      order.Covered (store.refundsOf order.id) (store.entriesFor order) ∧
        (order.Charged → store.netCents order = order.refundedCents - order.totalCents) ∧
        -order.totalCents ≤ store.netCents order ∧ store.netCents order ≤ 0) ∧
      store.orders.map store.netCents = [-500, -600] := by
  intro store
  have unsold : sample.store.Unsold := {
    priced := by decide
    unpaid := fun order member =>
      ⟨sample_unpaid order member, congrArg Order.paymentStatus (List.mem_singleton.mp member)⟩
    distinct := by decide
    unblank := by decide
    fits := by decide
    noRefunds := rfl
    noEntries := rfl }
  have apart : ∀ call ∈ sampleCalls, call.operation.NamesNoOrder := by decide
  have numbered : sample.Numbered sampleCalls := ⟨by decide, by decide, by decide⟩
  have conserved := money_conserved unsold apart
  exact ⟨fun order member => conserved.1 order member (conserved.2 numbered order member),
    by decide +kernel⟩

end Desk

end OrderDesk
