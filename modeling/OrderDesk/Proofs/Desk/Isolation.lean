import OrderDesk.Proofs.Order.Answering
import OrderDesk.Proofs.Order.Once
import OrderDesk.Proofs.Order.Viewing

/-!
Users are isolated from each other. Whatever a user calls changes nothing of what others own, shows
nothing that others own, and finds the same whatever others own.
-/

namespace OrderDesk

/-! ## Answers made of a user's own rows -/

namespace Store

def BalanceOf (store : Store) (userId : Int) (balance : Balance) : Prop :=
  (balance ∈ store.balances ∧ balance.userId = userId) ∨
    (store.balance? userId = none ∧ ∃ currency, balance = .empty userId currency)

structure DetailOf (store : Store) (userId : Int) (detail : OrderDetail) : Prop where
  order : detail.order ∈ store.ordersOf userId
  items : ∀ item ∈ detail.items, item ∈ store.itemsOf detail.order.id
  refunds : ∀ refund ∈ detail.refunds, refund ∈ store.refundsOf detail.order.id
  payments : ∀ payment ∈ detail.payments, payment ∈ store.paymentsOf detail.order.id

structure ReceiptOf (store : Store) (userId : Int) (receipt : Receipt) : Prop where
  order : store.DetailOf userId receipt.order
  balance : store.BalanceOf userId receipt.balance
  entry : ∀ entry ∈ receipt.transaction, entry ∈ store.entriesOf userId

/-- The answer has been made of rows of the user. -/
inductive ReplyOf (store : Store) (userId : Int) : Reply → Prop
  | receipt {receipt : Receipt} (own : store.ReceiptOf userId receipt) :
      ReplyOf store userId (.receipt receipt)
  | orders {listing : Listing OrderDetail}
      (own : ∀ detail ∈ listing.entries, store.DetailOf userId detail) :
      ReplyOf store userId (.orders listing)
  | account {account : Account} (balance : store.BalanceOf userId account.balance)
      (entries : ∀ entry ∈ account.entries, entry ∈ store.entriesOf userId) :
      ReplyOf store userId (.account account)

variable {store : Store} {userId : Int}

theorem detailOf {order : Order} (own : order ∈ store.ordersOf userId) :
    store.DetailOf userId (store.detail order) :=
  ⟨own, fun _ => id, fun _ => id, fun _ => id⟩

theorem balanceOf_shown (context : Context) :
    store.BalanceOf userId (Purchase.shownBalance context store userId) := by
  rw [Purchase.shownBalance]
  cases found : store.balance? userId with
  | none => exact .inr ⟨found, _, rfl⟩
  | some balance => exact .inl (balance?_eq_some found)

theorem receiptOf (context : Context) {order : Order} (own : order ∈ store.ordersOf userId) :
    store.ReceiptOf userId (store.receipt context order) where
  order := detailOf own
  balance := by
    rcases (mem_ordersOf.mp own).2 with rfl
    exact balanceOf_shown context
  entry := nofun

end Store

/-! ### New orders -/

namespace Purchase.Settled

variable {purchase : Purchase} {context : Context} {store between : Store} {draft : Order}
  {settlement : Settlement}

theorem balanceOf (settled : purchase.Settled context store draft
      (shownBalance context store draft.userId) settlement between) :
    between.BalanceOf draft.userId settlement.balance := by
  cases settled with
  | free | collected => exact Store.balanceOf_shown context
  | charged priced byWallet posting =>
    exact .inl ⟨posting.mem_balances.mpr (.inl rfl), posting.balance_userId⟩

theorem entryOf {balance : Balance}
    (settled : purchase.Settled context store draft balance settlement between) :
    ∀ entry ∈ settlement.entry, entry ∈ between.entriesOf draft.userId := by
  cases settled with
  | free | collected => exact nofun
  | charged priced byWallet posting =>
    rintro entry ⟨⟩
    rw [posting.entriesOf_self]
    exact List.mem_concat_self

end Purchase.Settled

namespace Orders

variable {context : Context} {desk after : Desk} {user : User}

theorem Ordered.receiptOf {last : Int} {store after : Store} {request : OrderRequest}
    {receipt : Receipt}
    (ordered : Ordered context last store (some user) request receipt after) :
    after.ReceiptOf user.id receipt := by
  rcases ordered with ⟨_, purchase, ⟨⟩, -, -, placing⟩
  cases placing with
  | @intro draft settlement between item drafting item_eq settled unbound itemAllowed =>
    have item_orderId : item.orderId = settlement.order.id := by
      rw [item_eq, settled.framed.id_eq]
      rfl
    rw [← drafting.userId_eq] at settled ⊢
    refine ⟨⟨?_, ?_, nofun, ?_⟩, settled.balanceOf, settled.entryOf⟩
    · refine Store.mem_ordersOf.mpr ⟨?_, settled.framed.userId_eq⟩
      exact List.mem_concat_self
    · intro other member
      rcases List.mem_singleton.mp member with rfl
      refine List.mem_filter.mpr ⟨?_, beq_iff_eq.mpr item_orderId⟩
      exact List.mem_concat_self
    · intro payment member
      refine List.mem_filter.mpr ⟨List.mem_append_right _ member, beq_iff_eq.mpr ?_⟩
      rcases settled.payments_cases with none | ⟨only, one, -, owner⟩
      · rw [none] at member
        cases member
      · rw [one] at member
        rw [List.mem_singleton.mp member, owner]

theorem Serving.receiptOf {request : OrderRequest} {receipt : Receipt} {after : Store}
    (serving : Serving context desk user request receipt after)
    (distinct : desk.store.OrdersDistinct) (owned : desk.store.KeysOwned) :
    after.ReceiptOf user.id receipt := by
  cases serving with
  | recalled bound receipt_eq same =>
    rw [receipt_eq, same]
    exact Store.receiptOf context (Store.mem_ordersOf.mpr (owned.boundOrder? distinct bound))
  | ordered ordered => exact ordered.receiptOf

/-! ### Orders that are there already -/

theorem cancel_ok {caller : Option User} {orderId : Int} {reason : Option String}
    {receipt : Receipt}
    (ran : (cancel caller orderId reason).run context desk = (.ok receipt, after)) :
    ∃ user, caller = some user ∧ after.store.ReceiptOf user.id receipt := by
  rcases cancel_eq_ok ran with ⟨result, done, rfl⟩
  rcases cancelOwn_ok done with ⟨cancelling, user, rfl, own⟩
  rcases cancelling.handled with ⟨before, handled, -⟩
  have present := (Store.order?_eq_some handled.order?_self).1
  exact ⟨user, rfl, Store.receiptOf _ (Store.mem_ordersOf.mpr ⟨present, own⟩)⟩

theorem get_ok {caller : Option User} {orderId : Int} {receipt : Receipt}
    (ran : (get caller orderId).run context desk = (.ok receipt, after)) :
    ∃ user, caller = some user ∧ after.store.ReceiptOf user.id receipt := by
  rcases Service.run_query_bind_eq_ok.mp ran with ⟨order, ⟨_, looked⟩, ran⟩
  have present := (Store.order?_eq_some (Work.order_eq_ok.mp looked).2.1).1
  cases caller with
  | none => cases ran
  | some user =>
    dsimp only at ran
    rw [Service.run_refuse_ite_eq_ok] at ran
    rcases ran with ⟨own, ran⟩
    rcases Service.run_query_eq_ok.mp ran with ⟨⟨_, read⟩, rfl⟩
    refine ⟨user, rfl, ?_⟩
    rw [Work.receipt_eq_ok read]
    exact Store.receiptOf _ (Store.mem_ordersOf.mpr ⟨present, Decidable.not_not.mp own⟩)

theorem list_ok {caller : Option User} {filter : OrderFilter} {listing : Listing OrderDetail}
    (ran : (list caller filter).run context desk = (.ok listing, after)) :
    ∃ user, caller = some user ∧
      ∀ detail ∈ listing.entries, after.store.DetailOf user.id detail := by
  cases caller with
  | none => cases ran
  | some user =>
    rcases Service.run_query_bind_eq_ok.mp ran with ⟨read, ⟨_, paged⟩, ran⟩
    rcases Service.run_query_bind_eq_ok.mp ran with ⟨shown, ⟨_, viewed⟩, ran⟩
    rcases Service.run_pure_eq_ok.mp ran with ⟨rfl, rfl⟩
    rcases Work.details_eq_ok viewed with ⟨-, rfl⟩
    refine ⟨user, rfl, fun detail member => ?_⟩
    rcases List.mem_map.mp member with ⟨order, listed, rfl⟩
    exact Store.detailOf (Work.orderPage_ok rfl paged order listed)

end Orders

theorem Wallet.account_ok {context : Context} {desk after : Desk} {userId : Int}
    {number size : Option Int} {kind : Option String} {shown : Account}
    (ran : (account userId number size kind).run context desk = (.ok shown, after)) :
    after.store.BalanceOf userId shown.balance ∧
      ∀ entry ∈ shown.entries, entry ∈ after.store.entriesOf userId := by
  rcases Service.run_query_bind_eq_ok.mp ran with ⟨balance, ⟨_, looked⟩, ran⟩
  rcases Service.run_query_bind_eq_ok.mp ran with ⟨read, ⟨_, paged⟩, ran⟩
  rcases Service.run_pure_eq_ok.mp ran with ⟨rfl, rfl⟩
  rcases Work.balance_eq_ok.mp looked with ⟨-, rfl, -⟩
  exact ⟨Store.balanceOf_shown _, Work.entryPage_ok paged⟩

/-! ## Calls of a user -/

namespace Operation

variable {context : Context} {desk after : Desk} {operation : Operation} {userId : Int}

theorem CalledBy.replyOf (called : operation.CalledBy userId) (distinct : desk.store.OrdersDistinct)
    (owned : desk.store.KeysOwned) {reply : Reply}
    (ran : operation.perform.run context desk = (.ok reply, after)) :
    after.store.ReplyOf userId reply := by
  cases called with
  | create request =>
    rcases calling_ok ran with ⟨caller, receipt, served, rfl, named⟩
    rcases Orders.create_ok served with ⟨user, rfl, serving⟩
    exact .receipt (named user rfl ▸ serving.receiptOf distinct owned)
  | createAfterMiss request =>
    rcases calling_ok ran with ⟨caller, receipt, served, rfl, named⟩
    rcases Orders.createAfterMiss_ok served with ⟨user, rfl, serving⟩
    exact .receipt (named user rfl ▸ serving.receiptOf distinct owned)
  | cancel orderId reason =>
    rcases calling_ok ran with ⟨caller, receipt, served, rfl, named⟩
    rcases Orders.cancel_ok served with ⟨user, rfl, own⟩
    exact .receipt (named user rfl ▸ own)
  | getOrder orderId =>
    rcases calling_ok ran with ⟨caller, receipt, served, rfl, named⟩
    rcases Orders.get_ok served with ⟨user, rfl, own⟩
    exact .receipt (named user rfl ▸ own)
  | listOrders filter =>
    rcases calling_ok ran with ⟨caller, listing, served, rfl, named⟩
    rcases Orders.list_ok served with ⟨user, rfl, own⟩
    exact .orders (named user rfl ▸ own)
  | account page size kind =>
    rcases Service.run_bind_eq_ok.mp ran with ⟨shown, _, served, answered⟩
    rcases Service.run_pure_eq_ok.mp answered with ⟨rfl, rfl⟩
    rcases Wallet.account_ok served with ⟨balance, entries⟩
    exact .account balance entries

end Operation

namespace Desk

/-! ## Runs -/

theorem afterEvents_keysOwned {start : Desk} (distinct : start.store.OrdersDistinct)
    (owned : start.store.KeysOwned) (events : List Event) :
    (start.afterEvents events).store.KeysOwned := by
  refine (afterEvents_induction (fun store => store.OrdersDistinct ∧ store.KeysOwned)
    ⟨distinct, owned⟩ ?_ ?_ ?_).2
  · rintro _ _ store after _ ⟨distinct, owned⟩ committed
    exact ⟨committed.ordersDistinct distinct, committed.keysOwned distinct owned⟩
  · rintro store users plans ⟨distinct, owned⟩
    exact ⟨distinct, owned⟩
  · rintro store order - ⟨distinct, owned⟩
    exact ⟨distinct.received, owned.received⟩

/-- Wherever events have led, a user's calls change nothing of what others own and are answered with
rows of the user; and of two desks that agree on what the user owns, both show the user the same. -/
theorem users_isolated {start : Desk} (distinct : start.store.OrdersDistinct)
    (owned : start.store.KeysOwned) (userId : Int) :
    (∀ (events : List Event) (call : Call), call.operation.CalledBy userId →
      let before := start.afterEvents events
      before.store.SameBut userId (before.after call).store ∧
        ∀ reply, (call.outcome before).1 = .ok reply →
          (before.after call).store.ReplyOf userId reply) ∧
    ∀ (left right : Desk), left.store.AgreeOn userId right.store → ∀ context : Context,
      (∀ (user : User) (filter : OrderFilter), user.id = userId →
        ((Orders.list (some user) filter).run context left).1 =
          ((Orders.list (some user) filter).run context right).1) ∧
      ∀ (page size : Option Int) (kind : Option String),
        ((Wallet.account userId page size kind).run context left).1 =
          ((Wallet.account userId page size kind).run context right).1 := by
  refine ⟨fun events call called => ⟨?_, fun reply answered => ?_⟩, fun left right agree context =>
    ⟨?_, Wallet.account_alike agree⟩⟩
  · rcases (start.afterEvents events).after_commits call with same | committed
    · exact same ▸ .refl userId _
    · exact committed.sameBut called (afterEvents_grows distinct events).1
  · exact called.replyOf (afterEvents_grows distinct events).1
      (afterEvents_keysOwned distinct owned events) (Prod.ext answered rfl)
  · rintro user filter rfl
    exact Orders.list_alike agree filter

def sampleNeighbour : Call :=
  sampleCall 40 (.create (some 2) { planId := some 2, idempotencyKey := some "k1" })

set_option maxRecDepth 4000 in
theorem sample_users_isolated :
    let paid := sample.afterEvents (samplePayments.map .called)
    paid.store.SameBut 2 (paid.after sampleNeighbour).store ∧
      (∃ reply, (sampleNeighbour.outcome paid).1 = .ok reply ∧
        (paid.after sampleNeighbour).store.ReplyOf 2 reply) ∧
      ∀ user : User, user.id = 2 →
        ((Orders.list (some user) { userId := some 1 }).run { now := .ofSeconds 50 } sample).1 =
          ((Orders.list (some user) { userId := some 1 }).run { now := .ofSeconds 50 } paid).1 := by
  intro paid
  rcases @users_isolated sample (by decide) nofun 2 with ⟨calls, reads⟩
  rcases calls (samplePayments.map .called) sampleNeighbour (.create _) with ⟨same, own⟩
  have answered : ∃ reply, (sampleNeighbour.outcome paid).1 = .ok reply := ⟨_, rfl⟩
  rcases answered with ⟨reply, answered⟩
  have none : sample.store.ordersOf 2 = [] := rfl
  have agree : sample.store.AgreeOn 2 paid.store := {
    orders := rfl
    items := by simp [none]
    refunds := by simp [none]
    payments := by simp [none]
    balance := rfl
    entries := rfl
    dropped := rfl }
  exact ⟨same, ⟨reply, answered, own reply answered⟩,
    fun user named => (reads sample paid agree { now := .ofSeconds 50 }).1 user _ named⟩

end Desk

end OrderDesk
