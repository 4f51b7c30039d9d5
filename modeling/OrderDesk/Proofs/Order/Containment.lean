import OrderDesk.Proofs.Desk.Soundness
import OrderDesk.Proofs.Order.Viewing
import OrderDesk.Proofs.Store.Breaking

/-!
The work behind the operations on orders, on a sound store. It breaks off only if a number is too
large for its column or a time lies outside the calendar, and then only if the caller has named it.
-/

namespace OrderDesk

namespace Work.BreaksOnly

variable {faults : List Fault} {context : Context} {store : Store}

/-! ## Showing orders -/

section

variable (complete : store.dropped = [])

include complete

section

variable {orders : List Order} (ids : ∀ order ∈ orders, Store.fitsColumn order.id = true)

include ids

theorem children : BreaksOnly faults (children orders) context store := by
  have fit : ∀ id ∈ orders.map (·.id), Store.fitsColumn id = true := List.forall_mem_map.mpr ids
  refine .ite (fun _ => .pure _) fun _ => ?_
  exact .statement_bind complete fit <| .statement_bind complete fit <|
    .statement_bind complete fit <| .get_bind (.pure _)

theorem details : BreaksOnly faults (details orders) context store :=
  .bind (children complete ids) fun _ _ _ => .pure _

theorem adminDetails (owners : ∀ order ∈ orders, Store.fitsColumn order.userId = true) :
    BreaksOnly faults (adminDetails orders) context store := by
  refine .bind (children complete ids) fun _ between read => ?_
  rcases children_eq_ok read with ⟨rfl, -⟩
  refine .ite (fun _ => .pure _) fun _ => ?_
  exact .statement_bind complete (List.forall_mem_map.mpr owners) (.get_bind (.pure _))

end

section

variable {order : Order} (fits : Store.fitsColumn order.id = true)
  (owner : Store.fitsColumn order.userId = true)

include fits owner

theorem receipt : BreaksOnly faults (receipt order) context store := by
  refine .bind (balance complete owner) fun balance between looked => ?_
  rcases balance_eq_ok.mp looked with ⟨-, -, rfl⟩
  refine .bind (.bind ?_ fun _ _ _ => .pure _) fun _ _ _ => .pure _
  exact children complete (List.forall_mem_singleton.mpr fits)

theorem adminDetail : BreaksOnly faults (adminDetail order) context store := by
  refine .bind (children complete (List.forall_mem_singleton.mpr fits)) fun _ between read => ?_
  rcases children_eq_ok read with ⟨rfl, -⟩
  exact .statement_bind complete (List.forall_mem_singleton.mpr owner) (.get_bind (.pure _))

end

end

/-! ## Pages -/

section

variable (complete : store.dropped = [])

include complete

theorem pageOf {Row : Type} {table : Table} {numbers : List Int} {page : Page}
    {select : Store → List Row} (fit : ∀ number ∈ numbers, Store.fitsColumn number = true)
    (size : Store.fitsColumn page.size = true) (offset : Store.fitsColumn page.offset = true) :
    BreaksOnly faults (pageOf table numbers page select) context store := by
  refine .statement_bind complete fit (.get_bind (.ite (fun _ => .pure _) fun _ => ?_))
  refine .statement_bind complete (List.forall_mem_append.mpr ⟨fit, ?_⟩) (.pure _)
  simp [size, offset]

end

end Work.BreaksOnly

/-! ## Pages that can be asked for -/

namespace Page

def Fits (page : Page) : Prop :=
  Store.fitsColumn page.offset = true

theorem size_ofRequest (number size : Option Int) :
    Store.fitsColumn (ofRequest number size).size = true := by
  dsimp only [ofRequest]
  split
  · next asked =>
    have small : maxSize < Store.columnLimit := by decide
    rw [Store.fitsColumn_iff]
    omega
  · rfl

end Page

/-- The page of a listing can be asked for, and the text that numbers are to contain is no longer
than what the store can search for. -/
structure OrderFilter.Fits (filter : OrderFilter) : Prop where
  page : filter.pageAsked.Fits
  pattern : patternSize filter.number ≤ maxPatternSize

namespace Work.BreaksOnly

variable {faults : List Fault} {context : Context} {store : Store}

theorem orderPage (complete : store.dropped = []) {filter : OrderFilter} (fits : filter.Fits)
    (user : ∀ id ∈ filter.userId, Store.fitsColumn id = true) :
    BreaksOnly faults (orderPage filter) context store := by
  have user : ∀ id ∈ filter.userId.toList, Store.fitsColumn id = true :=
    fun id member => user id (Option.mem_toList.mp member)
  refine .statement_bind complete user (.bind ?_ fun _ between checked => ?_)
  · exact .ite (fun long => absurd long (Nat.not_lt.mpr fits.pattern)) fun _ => .pure _
  · rcases checkPattern_ok checked with rfl
    exact .pageOf complete user (Page.size_ofRequest _ _) fits.page

theorem entryPage (complete : store.dropped = []) {userId : Int} {page : Page}
    {kind : Option String} (owner : Store.fitsColumn userId = true)
    (size : Store.fitsColumn page.size = true) (fits : page.Fits) :
    BreaksOnly faults (entryPage userId page kind) context store :=
  .pageOf complete (List.forall_mem_singleton.mpr owner) size fits

end Work.BreaksOnly

theorem Work.orderPage_mem {context : Context} {store after : Store} {filter : OrderFilter}
    {read : List Order × Int} (done : orderPage filter context store = .ok (read, after)) :
    ∀ order ∈ read.1, order ∈ store.orders := by
  rcases orderPage_eq_ok done with ⟨-, rfl⟩
  exact fun order member => (OrderFilter.mem_select.mp (Page.mem_of_mem_slice member)).1

/-! ## Moving wallets -/

namespace Wallet

variable {faults : List Fault} {context : Context} {store : Store} {userId : Int}

section

variable (complete : store.dropped = []) (owner : Store.fitsColumn userId = true)

include complete owner

theorem openBalance_breaks (currency : Option String) :
    (openBalance userId currency).BreaksOnly faults context store := by
  refine .bind (.balance? complete owner) fun found between looked => ?_
  rcases Work.balance?_eq_ok.mp looked with ⟨-, -, rfl⟩
  cases found with
  | some balance => exact .pure balance
  | none =>
    have zero : Store.fitsColumn 0 = true := rfl
    exact .read_bind (.insertBalance complete (by simp [owner, zero]))

theorem post_breaks {movement : Movement}
    (amount : Store.fitsColumn movement.amountCents = true)
    (room : store.HasRoom userId movement.amountCents) :
    (post userId movement).BreaksOnly faults context store := by
  rw [post]
  refine .refuse_ite fun _ => ?_
  cases MovementKind.ofText? (Text.keyword movement.kind) with
  | none => exact .refuse _
  | some kind =>
    refine .bind (openBalance_breaks complete owner _) fun balance between opened => ?_
    rcases openBalance_ok opened with ⟨rfl, -, balances, rfl, -⟩
    have kept : { store with balances }.dropped = [] := complete
    refine .refuse_ite fun _ => .refuse_ite fun _ => .walletNow_bind ?_
    refine .bind (.insertEntry kept ?_) fun _ _ _ => .modify_bind (.pure _)
    have settled : Store.fitsColumn
        ((held context store userId movement).cents + movement.amountCents) = true := by
      rw [held_spendable]
      exact room
    simp [owner, amount, settled]

theorem postRefund_breaks {movement : Movement}
    (amount : Store.fitsColumn movement.amountCents = true)
    (room : store.HasRoom userId movement.amountCents) :
    (postRefund userId movement).BreaksOnly faults context store :=
  .refuse_ite fun _ => post_breaks complete owner amount room

end

end Wallet

/-! ## Changing orders -/

def Instant.Covers (seconds : Option Int) : Prop :=
  ∀ asked ∈ seconds, 0 < asked → ∃ instant, ofUnix asked = .ok instant

theorem Work.timeOr_ok {now : Instant} {seconds : Option Int} (covered : Instant.Covers seconds) :
    ∃ instant, timeOr now seconds = .ok instant := by
  cases seconds with
  | none => exact ⟨now, rfl⟩
  | some asked =>
    rw [timeOr]
    split
    · next positive => exact covered asked rfl positive
    · exact ⟨now, rfl⟩

namespace Orders

variable {faults : List Fault} {context : Context} {store : Store} {orderId : Int}

theorem chargeOutstanding_breaks (sound : store.Sound) {order : Order}
    (present : order ∈ store.orders) (adminId : Int) (method : PaymentMethod)
    (notice : PaidNotice) :
    (chargeOutstanding order adminId method notice).BreaksOnly faults context store := by
  refine .ite (fun charged => ?_) fun _ => .pure _
  have kept := sound.orders order present
  have owed : Store.fitsColumn order.outstandingCents = true := by
    have total := kept.total
    have refunded := kept.refunded
    have outstanding := charged.2
    rw [Store.fitsColumn_iff, Order.outstandingCents] at *
    omega
  have room := sound.hasRoom_neg order.userId (Int.le_of_lt charged.2) owed
  refine .bind (Wallet.post_breaks sound.complete (sound.owners order present) ?_ room)
    fun _ _ _ => .pure _
  have outstanding := charged.2
  rw [Store.fitsColumn_iff] at owed ⊢
  change _ ≤ -order.outstandingCents ∧ -order.outstandingCents < _
  omega

section

variable (sound : store.Sound) (fits : Store.fitsColumn orderId = true)

include sound fits

theorem cancelOwn_breaks (user : User) (reason : Option String) :
    (cancelOwn (some user) orderId reason).BreaksOnly faults context store := by
  refine .bind (.order sound.complete fits) fun order between _ => ?_
  refine .refuse_ite fun _ => .ite (fun _ => .pure _) fun _ => .refuse_ite fun _ => .now_bind ?_
  exact .bind (.lift _) fun _ _ _ => .modify_bind (.pure _)

theorem cancelAny_breaks (email : String) (reason : Option String) {cancelledAt : Option Int}
    (covered : Instant.Covers cancelledAt) :
    (cancelAny email orderId reason cancelledAt).BreaksOnly faults context store := by
  refine .bind (.order sound.complete fits) fun order between _ => ?_
  refine .ite (fun _ => .pure _) fun _ => .refuse_ite fun _ => .now_bind ?_
  rcases Work.timeOr_ok covered with ⟨stamp, timed⟩
  refine .bind (.liftFault timed) fun _ _ _ => ?_
  exact .bind (.lift _) fun _ _ _ => .modify_bind (.pure _)

theorem settle_breaks (adminId : Int) (method : PaymentMethod) {notice : PaidNotice}
    (covered : Instant.Covers notice.paidAt) :
    (settle adminId orderId method notice).BreaksOnly faults context store := by
  refine .bind (.order sound.complete fits) fun order between found => ?_
  have present := (Work.order_present found).1
  rcases Work.order_eq_ok.mp found with ⟨-, -, rfl⟩
  refine .refuse_ite fun _ => .now_bind ?_
  rcases Work.timeOr_ok covered with ⟨paidAt, timed⟩
  refine .bind (.liftFault timed) fun _ _ lifted => ?_
  rcases Work.liftFault_eq_ok.mp lifted with ⟨-, rfl⟩
  refine .bind (chargeOutstanding_breaks sound present adminId method notice) fun _ _ _ => ?_
  exact .bind (.lift _) fun _ _ _ => .modify_bind (.pure _)

theorem refundPart_breaks (user : User) {request : RefundRequest}
    (positive : 0 < request.amountCents)
    (room : ∀ order, store.order? orderId = some order →
      store.HasRoom order.userId request.amountCents) :
    (refundPart user orderId request).BreaksOnly faults context store := by
  refine .bind (.order sound.complete fits) fun order between found => ?_
  have present := (Work.order_present found).1
  rcases Work.order_eq_ok.mp found with ⟨-, looked, rfl⟩
  refine .bind (.lift _) fun _ _ lifted => ?_
  rcases Work.lift_eq_ok.mp lifted with ⟨checked, rfl⟩
  have kept := sound.orders order present
  have owner := sound.owners order present
  have amount : Store.fitsColumn request.amountCents = true := by
    have covered := (checkRefund_ok checked).2.2.2
    have total := kept.total
    have refunded := kept.refunded
    rw [Store.fitsColumn_iff, Order.outstandingCents] at *
    omega
  refine .bind (Wallet.postRefund_breaks sound.complete owner amount (room order looked))
    fun moved after posted => ?_
  rcases Wallet.postRefund_ok posted with ⟨-, posting⟩
  have complete : after.dropped = [] := by
    rw [posting.store_eq]
    exact sound.complete
  have id_fits : Store.fitsColumn order.id = true := kept.id
  refine .bind (.insertRefund complete ?_) fun _ _ _ => .now_bind ?_
  · simp [refundRow, id_fits, amount]
  · exact .bind (.lift _) fun _ _ _ => .modify_bind (.pure _)

end

theorem apply_breaks {report : Report} (sound : store.Sound)
    (fits : Store.fitsColumn report.orderId = true) :
    report.apply.BreaksOnly faults context store := by
  refine .bind (.order sound.complete fits) fun order between found => ?_
  have present := (Work.order_present found).1
  rcases Work.order_eq_ok.mp found with ⟨-, -, rfl⟩
  have id_fits := (sound.orders order present).id
  refine .bind (.paymentsOf sound.complete id_fits) fun payments between _ => ?_
  cases payments.find? (·.id == report.paymentId) with
  | none => exact .refuse _
  | some payment =>
    refine .refuse_ite fun _ => .now_bind (.modify_bind (.ite (fun _ => .pure _) fun _ => ?_))
    exact .bind (.lift _) fun _ _ _ => .modify_bind (.pure _)

end Orders

/-! ## Placing orders -/

/-- All that a purchase by a user writes fits the columns. -/
structure Purchase.Fits (purchase : Purchase) (store : Store) (userId : Int) : Prop where
  owner : Store.fitsColumn userId = true
  plan : purchase.plan.Sound
  planId : Store.fitsColumn purchase.plan.id = true
  orderId : Store.fitsColumn (Store.nextId (store.orders.map (·.id))) = true
  quantity : Store.fitsColumn purchase.quantity = true
  total : Store.fitsColumn purchase.totalCents = true
  room : store.HasRoom userId (-purchase.totalCents)

namespace Purchase

variable {faults : List Fault} {context : Context} {store : Store} {purchase : Purchase}

theorem paid_breaks (order : Order) (now : Instant) (stamp : Option Instant) :
    (paid order now stamp).BreaksOnly faults context store :=
  .bind (.lift _) fun _ _ _ => .modify_bind (.pure _)

theorem settle_breaks {order : Order} (complete : store.dropped = [])
    (owner : Store.fitsColumn order.userId = true) (id : Store.fitsColumn order.id = true)
    (total : Store.fitsColumn purchase.totalCents = true)
    (charge : Store.fitsColumn (-purchase.totalCents) = true)
    (room : store.HasRoom order.userId (-purchase.totalCents)) (balance : Balance) :
    (purchase.settle order balance).BreaksOnly faults context store := by
  refine .now_bind (.ite (fun _ => ?_) fun _ => .ite (fun _ => ?_) fun _ => ?_)
  · exact .bind (paid_breaks _ _ _) fun _ _ _ => .pure _
  · refine .bind (Wallet.post_breaks complete owner charge room) fun _ _ _ => ?_
    exact .bind (paid_breaks _ _ _) fun _ _ _ => .pure _
  · refine .bind (.insertPayment complete ?_) fun _ _ _ => .pure _
    simp [payment, id, total]

theorem place_breaks {userId : Int} (sound : store.Sound) (fits : purchase.Fits store userId)
    (number : String) (member : Fault.uniqueKeyTaken ∈ faults) :
    (purchase.place userId number).BreaksOnly faults context store := by
  refine .read_bind (.bind (.balance sound.complete fits.owner) fun balance _ looked => ?_)
  rcases Work.balance_eq_ok.mp looked with ⟨-, -, rfl⟩
  rcases fits.plan.snapshot_ok (purchase.currency context.settings balance) with ⟨snapshot, taken⟩
  refine .bind (.liftFault taken) fun _ _ lifted => ?_
  rcases Work.liftFault_eq_ok.mp lifted with ⟨-, rfl⟩
  refine .bind (.insertOrder sound.complete member ?_) fun draft _ inserted => ?_
  · have zero : Store.fitsColumn 0 = true := rfl
    simp [order, fits.owner, fits.total, fits.planId, zero]
  rcases Work.insertOrder_eq_ok.mp inserted with ⟨-, -, draft_eq, rfl⟩
  have draftId : Store.fitsColumn draft.id = true := draft_eq ▸ fits.orderId
  have draftOwner : draft.userId = userId := congrArg Order.userId draft_eq
  have fresh : ∀ other ∈ store.orders, other.id ≠ draft.id := by
    rw [draft_eq]
    exact fun other present => Int.ne_of_lt (Store.lt_nextId (List.mem_map_of_mem present))
  have drafted : { store with orders := store.orders ++ [draft] }.dropped = [] := sound.complete
  refine .bind (.insertItem drafted ?_) fun item _ inserted => ?_
  · simp [Purchase.item, draftId, fits.planId, fits.quantity, fits.plan.price, fits.total]
  rcases Work.insertItem_eq_ok.mp inserted with ⟨-, -, rfl⟩
  have charge : Store.fitsColumn (-purchase.totalCents) = true := by
    have total := fits.total
    have room := fits.room
    have covered := (sound.spendable userId).2
    rw [Store.HasRoom] at room
    rw [Store.fitsColumn_iff] at *
    omega
  have listed : { store with
      orders := store.orders ++ [draft]
      orderItems := store.orderItems ++ [item] }.dropped = [] := sound.complete
  have owner : Store.fitsColumn draft.userId = true := draftOwner ▸ fits.owner
  refine .bind (settle_breaks listed owner draftId fits.total charge (draftOwner ▸ fits.room) _)
    fun settlement _ settles => ?_
  rcases settle_ok fresh settles with ⟨between, settled, rfl⟩
  refine .ite (fun _ => ?_) fun _ => .pure _
  refine .bind (.insertBinding ?_ member ?_) fun _ _ _ => .pure _
  · exact settled.framed.dropped_eq.trans sound.complete
  · simp [fits.owner, draftId]

end Purchase

end OrderDesk
