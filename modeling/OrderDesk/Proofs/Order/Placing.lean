import OrderDesk.Proofs.Desk.Service
import OrderDesk.Proofs.Order.Handling

/-! What placing a new order writes: one row for the order as it stands in the end, and the rows that
come with it. -/

namespace OrderDesk.Purchase

def paidUp (order : Order) (now : Instant) (stamp : Option Instant) : Order :=
  { order.moving .paid now stamp with paymentStatus := .succeeded }

variable {purchase : Purchase} {context : Context} {store after : Store} {userId : Int}
  {number : String} {draft : Order} {balance : Balance} {settlement : Settlement}

def shownBalance (context : Context) (store : Store) (userId : Int) : Balance :=
  (store.balance? userId).getD (.empty userId context.settings.walletCurrency)

structure Drafting (purchase : Purchase) (context : Context) (store : Store) (userId : Int)
    (number : String) (draft : Order) : Prop where
  allowed : Work.Allowed context store [.orders] [userId, purchase.totalCents, 0, purchase.plan.id]
  unused : ∀ other ∈ store.orders, other.number ≠ number
  draft_eq : let currency := purchase.currency context.settings (shownBalance context store userId)
    ∃ snapshot, purchase.plan.snapshot currency = .ok snapshot ∧
      draft = purchase.order snapshot userId number currency context.now
        (Store.nextId (store.orders.map (·.id)))

namespace Drafting

theorem id_eq (drafting : Drafting purchase context store userId number draft) :
    draft.id = Store.nextId (store.orders.map (·.id)) := by
  rcases drafting.draft_eq with ⟨snapshot, -, rfl⟩
  rfl

theorem number_eq (drafting : Drafting purchase context store userId number draft) :
    draft.number = number := by
  rcases drafting.draft_eq with ⟨snapshot, -, rfl⟩
  rfl

theorem userId_eq (drafting : Drafting purchase context store userId number draft) :
    draft.userId = userId := by
  rcases drafting.draft_eq with ⟨snapshot, -, rfl⟩
  rfl

theorem fresh (drafting : Drafting purchase context store userId number draft) :
    ∀ other ∈ store.orders, other.id ≠ draft.id := by
  intro other member
  rw [drafting.id_eq]
  exact Int.ne_of_lt (Store.lt_nextId (List.mem_map_of_mem member))

end Drafting

/-- The three ways in which a new order is settled, and the wallets and payments afterwards. -/
inductive Settled (purchase : Purchase) (context : Context) (store : Store) (draft : Order)
    (balance : Balance) : Settlement → Store → Prop
  | free (free : purchase.totalCents = 0) :
      Settled purchase context store draft balance
        { order := paidUp draft context.now none, balance } store
  | charged {posted : LedgerEntry} {kept : Balance} {between : Store}
      (priced : purchase.totalCents ≠ 0) (byWallet : purchase.method = .balance)
      (posting : Wallet.Posting context store draft.userId (purchase.charge draft) posted kept
        between) :
      Settled purchase context store draft balance
        { order := paidUp draft context.now posted.createdAt, balance := kept
          entry := some posted } between
  | collected (priced : purchase.totalCents ≠ 0) (byGateway : purchase.method ≠ .balance) :
      Settled purchase context store draft balance
        { order := draft, balance
          payments := [purchase.payment draft (Store.nextId (store.orderPayments.map (·.id)))] }
        store

structure Framed (store : Store) (draft result : Order) (between : Store) : Prop where
  id_eq : result.id = draft.id
  number_eq : result.number = draft.number
  userId_eq : result.userId = draft.userId
  totalCents_eq : result.totalCents = draft.totalCents
  refundedCents_eq : result.refundedCents = draft.refundedCents
  refundedAt_eq : result.refundedAt = draft.refundedAt
  plans_eq : between.plans = store.plans
  refunds_eq : between.orderRefunds = store.orderRefunds
  keyBindings_eq : between.keyBindings = store.keyBindings
  dropped_eq : between.dropped = store.dropped

theorem Settled.framed {between : Store}
    (settled : Settled purchase context store draft balance settlement between) :
    Framed store draft settlement.order between := by
  cases settled with
  | free => constructor <;> rfl
  | charged priced byWallet posting =>
    rcases posting.store_eq with rfl
    constructor <;> rfl
  | collected => constructor <;> rfl

theorem paid_ok {order result : Order} {stamp : Option Instant} {orders : List Order}
    (last : store.orders = orders ++ [order]) (fresh : ∀ other ∈ orders, other.id ≠ order.id)
    (done : paid order context.now stamp context store = .ok (result, after)) :
    result = paidUp order context.now stamp ∧
      after = { store with orders := orders ++ [result] } := by
  rcases Work.bind_eq_ok.mp done with ⟨moved, _, lifted, done⟩
  rcases Work.lift_eq_ok.mp lifted with ⟨move, rfl⟩
  rcases Order.move_eq_ok.mp move with ⟨-, rfl⟩
  rw [Work.saveOrder_bind, Work.pure_eq_ok] at done
  rcases done with ⟨rfl, rfl⟩
  have replaced : Store.replace (·.id) (paidUp order context.now stamp) store.orders =
      orders ++ [paidUp order context.now stamp] := by
    rw [last]
    exact Store.replace_append_of_fresh fresh rfl
  exact ⟨rfl, congrArg (fun orders => { store with orders }) replaced⟩

theorem settle_ok {items : List OrderItem} (fresh : ∀ other ∈ store.orders, other.id ≠ draft.id)
    (done : purchase.settle draft balance context
      { store with orders := store.orders ++ [draft], orderItems := items } =
        .ok (settlement, after)) :
    ∃ between, Settled purchase context store draft balance settlement between ∧
      after = { between with
        orders := store.orders ++ [settlement.order]
        orderItems := items
        orderPayments := store.orderPayments ++ settlement.payments } := by
  rw [settle, Work.now_bind, Work.ite_eq_ok] at done
  rcases done with ⟨free, done⟩ | ⟨priced, done⟩
  · rcases Work.bind_eq_ok.mp done with ⟨order, _, settled, done⟩
    rcases Work.pure_eq_ok.mp done with ⟨rfl, rfl⟩
    rcases paid_ok rfl fresh settled with ⟨rfl, rfl⟩
    exact ⟨store, .free free, by simp⟩
  · rw [Work.ite_eq_ok] at done
    rcases done with ⟨byWallet, done⟩ | ⟨byGateway, done⟩
    · rcases Work.bind_eq_ok.mp done with ⟨⟨posted, kept⟩, between, posts, done⟩
      rcases Work.bind_eq_ok.mp done with ⟨order, _, settled, done⟩
      rcases Work.pure_eq_ok.mp done with ⟨rfl, rfl⟩
      have posting := Wallet.post_ok posts
      rcases posting.store_eq with rfl
      rcases paid_ok rfl fresh settled with ⟨rfl, rfl⟩
      have elsewhere := posting.of_same_wallets store rfl rfl rfl
      exact ⟨_, .charged priced byWallet elsewhere, by simp⟩
    · rcases Work.bind_eq_ok.mp done with ⟨payment, _, inserted, done⟩
      rcases Work.insertPayment_eq_ok.mp inserted with ⟨-, rfl, rfl⟩
      rcases Work.pure_eq_ok.mp done with ⟨rfl, rfl⟩
      exact ⟨store, .collected priced byGateway, rfl⟩

def bindings (purchase : Purchase) (context : Context) (store : Store) (userId orderId : Int) :
    List KeyBinding :=
  if purchase.key = "" then [] else
    [⟨Store.nextId (store.keyBindings.map (·.id)), userId, OrderRequest.endpoint, purchase.key,
      orderId, context.now⟩]

/-- A new order has been placed: each table grows by the rows that belong to it. -/
inductive Placing (purchase : Purchase) (context : Context) (store : Store) (userId : Int)
    (number : String) : Receipt → Store → Prop
  | intro {draft : Order} {settlement : Settlement} {between : Store} {item : OrderItem}
      (drafting : Drafting purchase context store userId number draft)
      (item_eq : item = purchase.item draft (Store.nextId (store.orderItems.map (·.id))))
      (settled : Settled purchase context store draft (shownBalance context store userId)
        settlement between)
      (unbound : purchase.key ≠ "" →
        store.binding? userId OrderRequest.endpoint purchase.key = none)
      (itemAllowed : Work.Allowed context store [.orderItems]
        [draft.id, item.itemId, item.quantity, item.unitPriceCents, item.subtotalCents]) :
      Placing purchase context store userId number
        { order := ⟨settlement.order, [item], [], settlement.payments⟩
          balance := settlement.balance
          transaction := settlement.entry }
        { between with
          orders := store.orders ++ [settlement.order]
          orderItems := store.orderItems ++ [item]
          orderPayments := store.orderPayments ++ settlement.payments
          keyBindings := store.keyBindings ++ purchase.bindings context store userId draft.id }

theorem place_ok {receipt : Receipt}
    (done : purchase.place userId number context store = .ok (receipt, after)) :
    Placing purchase context store userId number receipt after := by
  rw [place, Work.read_bind] at done
  rcases Work.bind_eq_ok.mp done with ⟨_, _, looked, done⟩
  rcases Work.balance_eq_ok.mp looked with ⟨-, rfl, rfl⟩
  rcases Work.bind_eq_ok.mp done with ⟨snapshot, _, lifted, done⟩
  rcases Work.liftFault_eq_ok.mp lifted with ⟨taken, rfl⟩
  rcases Work.bind_eq_ok.mp done with ⟨draft, _, inserted, done⟩
  rcases Work.insertOrder_eq_ok.mp inserted with ⟨allowed, unused, draft_eq, rfl⟩
  rcases Work.bind_eq_ok.mp done with ⟨item, _, inserted, done⟩
  rcases Work.insertItem_eq_ok.mp inserted with ⟨itemAllowed, item_eq, rfl⟩
  have itemAllowed : Work.Allowed context store [.orderItems]
      [draft.id, item.itemId, item.quantity, item.unitPriceCents, item.subtotalCents] := by
    have owner : item.orderId = draft.id := congrArg OrderItem.orderId item_eq
    exact ⟨itemAllowed.inTime, itemAllowed.present, owner ▸ itemAllowed.fit⟩
  rcases Work.bind_eq_ok.mp done with ⟨settlement, _, settles, done⟩
  have drafting : Drafting purchase context store userId number draft := {
    allowed := by rw [draft_eq] at allowed; exact allowed
    unused := by rw [draft_eq] at unused; exact unused
    draft_eq := ⟨snapshot, taken, draft_eq⟩ }
  rcases settle_ok drafting.fresh settles with ⟨between, settled, rfl⟩
  have bindingsKept := settled.framed.keyBindings_eq
  rw [Work.ite_eq_ok] at done
  rcases done with ⟨keyed, done⟩ | ⟨unkeyed, done⟩
  · rcases Work.bind_eq_ok.mp done with ⟨binding, _, inserted, done⟩
    rcases Work.insertBinding_eq_ok.mp inserted with ⟨-, unbound, rfl, rfl⟩
    rcases Work.pure_eq_ok.mp done with ⟨rfl, rfl⟩
    have free : store.binding? userId OrderRequest.endpoint purchase.key = none := by
      rw [Store.binding?, ← bindingsKept]
      exact unbound
    have placing := Placing.intro drafting item_eq settled (fun _ => free) itemAllowed
    rw [bindings, if_neg keyed, ← bindingsKept] at placing
    exact placing
  · rcases Work.pure_eq_ok.mp done with ⟨rfl, rfl⟩
    have placing := Placing.intro drafting item_eq settled (absurd · unkeyed) itemAllowed
    rw [bindings, if_pos (Decidable.not_not.mp unkeyed), List.append_nil, ← bindingsKept] at placing
    exact placing

end OrderDesk.Purchase

namespace OrderDesk.Orders

variable {context : Context} {desk after : Desk} {request : OrderRequest} {method : PaymentMethod}

/-- What a request comes to when its plan is there and can be bought. -/
structure Purchasing (context : Context) (store : Store) (request : OrderRequest)
    (purchase : Purchase) : Prop where
  found : store.plan? (request.planId.getD 0) = some purchase.plan
  purchasable : purchase.plan.isPurchasable = true
  quantity_eq : purchase.quantity = context.settings.quantity request.quantity
  key_eq : purchase.key = request.key
  channelled : purchase.isExternal = true → purchase.channel ≠ ""

theorem plan_ok {bought : Plan}
    (ran : (plan request).run context desk = (.ok bought, after)) :
    desk.store.plan? (request.planId.getD 0) = some bought ∧ bought.isPurchasable = true ∧
      desk = after := by
  rw [plan, Service.run_refuse_ite_eq_ok] at ran
  rcases ran with ⟨-, ran⟩
  rcases Service.run_query_bind_eq_ok.mp ran with ⟨found, ⟨_, looked⟩, ran⟩
  rcases Work.plan?_eq_ok.mp looked with ⟨-, rfl, -⟩
  cases present : desk.store.plan? (request.planId.getD 0) with
  | none =>
    rw [present] at ran
    cases ran
  | some plan =>
    rw [present] at ran
    dsimp only at ran
    rw [Service.run_refuse_ite_eq_ok] at ran
    rcases ran with ⟨purchasable, ran⟩
    rcases Service.run_pure_eq_ok.mp ran with ⟨rfl, rfl⟩
    exact ⟨rfl, by simpa using purchasable, rfl⟩

theorem purchase_ok {bought : Purchase}
    (ran : (purchase method request).run context desk = (.ok bought, after)) :
    Purchasing context desk.store request bought ∧ bought.method = method ∧ desk = after := by
  rcases Service.run_bind_eq_ok.mp ran with ⟨plan, _, chosen, ran⟩
  rcases plan_ok chosen with ⟨found, purchasable, rfl⟩
  rw [Service.run_bind_eq_ok] at ran
  rcases ran with ⟨_, _, ⟨⟩, ran⟩
  rw [Service.run_refuse_ite_eq_ok] at ran
  rcases ran with ⟨channelled, ran⟩
  rcases Service.run_pure_eq_ok.mp ran with ⟨rfl, rfl⟩
  refine ⟨⟨found, purchasable, rfl, rfl, fun external unnamed => channelled ?_⟩, rfl, rfl⟩
  exact Bool.and_eq_true_iff.mpr ⟨external, beq_iff_eq.mpr unnamed⟩

theorem quiet_plan (request : OrderRequest) : Service.Quiet (plan request) := by
  refine .refuse_ite (.bind (.query _) fun found => ?_)
  cases found with
  | none => exact .refuse _
  | some plan => exact .refuse_ite (.pure _)

theorem quiet_purchase (method : PaymentMethod) (request : OrderRequest) :
    Service.Quiet (purchase method request) :=
  .bind (quiet_plan request) fun _ => .bind .read fun _ => .refuse_ite (.pure _)

end OrderDesk.Orders
