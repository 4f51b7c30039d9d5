import OrderDesk.Proofs.Desk.Permanence
import OrderDesk.Proofs.Wallet.Agreement

/-!
Whose rows are whose. A user who orders or cancels works on rows of their own: the orders, wallets
and bindings of all others stay as they are, and so do the rows that belong to their orders.
-/

namespace OrderDesk

namespace Store

def ordersOf (store : Store) (userId : Int) : List Order :=
  store.orders.filter (·.userId == userId)

def balancesOf (store : Store) (userId : Int) : List Balance :=
  store.balances.filter (·.userId == userId)

def bindingsOf (store : Store) (userId : Int) : List KeyBinding :=
  store.keyBindings.filter (·.userId == userId)

def owner? (store : Store) (orderId : Int) : Option Int :=
  (store.order? orderId).map (·.userId)

/-- Two stores differ at the most in what a user owns: in the user's orders, wallet and bindings,
and in the rows that belong to the user's orders. -/
structure SameBut (userId : Int) (before after : Store) : Prop where
  users : after.users = before.users
  plans : after.plans = before.plans
  securitySettings : after.securitySettings = before.securitySettings
  dropped : after.dropped = before.dropped
  orders : ∀ other, other ≠ userId → after.ordersOf other = before.ordersOf other
  balances : ∀ other, other ≠ userId → after.balancesOf other = before.balancesOf other
  entries : ∀ other, other ≠ userId → after.entriesOf other = before.entriesOf other
  bindings : ∀ other, other ≠ userId → after.bindingsOf other = before.bindingsOf other
  items : ∀ orderId, after.owner? orderId ≠ some userId →
    after.itemsOf orderId = before.itemsOf orderId
  refunds : ∀ orderId, after.owner? orderId ≠ some userId →
    after.refundsOf orderId = before.refundsOf orderId
  payments : ∀ orderId, after.owner? orderId ≠ some userId →
    after.paymentsOf orderId = before.paymentsOf orderId

theorem SameBut.refl (userId : Int) (store : Store) : store.SameBut userId store := by
  constructor <;> intros <;> rfl

theorem filter_keep_of_ne {balance : Balance} {balances : List Balance} {other : Int}
    (foreign : other ≠ balance.userId) :
    (keep balance balances).filter (·.userId == other) =
      balances.filter (·.userId == other) := by
  rw [keep]
  split
  · exact filter_replace_of_ne (fun _ _ own => own ▸ foreign.symm) foreign.symm
  · exact filter_append_of_ne foreign.symm

theorem owner?_of_found {store : Store} {orderId : Int} {order : Order}
    (found : store.order? orderId = some order) : store.owner? orderId = some order.userId := by
  rw [owner?, found, Option.map_some]

theorem id_ne_of_foreign {store after : Store} {order : Order} {orderId : Int}
    (appended : after.orders = store.orders ++ [order])
    (fresh : ∀ other ∈ store.orders, other.id ≠ order.id)
    (foreign : after.owner? orderId ≠ some order.userId) : order.id ≠ orderId := by
  rintro rfl
  exact foreign (owner?_of_found (order?_append_self appended fresh))

def KeysOwned (store : Store) : Prop :=
  ∀ binding ∈ store.keyBindings, ∃ order ∈ store.orders,
    order.id = binding.orderId ∧ order.userId = binding.userId

theorem KeysOwned.boundOrder? {store : Store} (owned : store.KeysOwned)
    (distinct : store.OrdersDistinct) {userId : Int} {endpoint key : String} {order : Order}
    (bound : store.boundOrder? userId endpoint key = some order) :
    order ∈ store.orders ∧ order.userId = userId := by
  rcases boundOrder?_eq_some.mp bound with ⟨binding, keyed, found⟩
  rcases binding?_eq_some keyed with ⟨member, rfl, -, -⟩
  rcases order?_eq_some found with ⟨present, id_eq⟩
  rcases owned binding member with ⟨own, ownPresent, own_id, own_userId⟩
  rw [List.inj_on_of_nodup_map distinct present ownPresent (id_eq.trans own_id.symm)]
  exact ⟨ownPresent, own_userId⟩

theorem KeysOwned.received {store : Store} (owned : store.KeysOwned) {order : Order} :
    (store.receive order).KeysOwned := by
  intro binding member
  rcases owned binding member with ⟨own, present, same⟩
  exact ⟨own, List.mem_append_left _ present, same⟩

end Store

/-! ## What changes when a user orders or cancels -/

theorem Wallet.Posting.sameBut {context : Context} {store after : Store} {userId : Int}
    {movement : Movement} {posted : LedgerEntry} {balance : Balance}
    (posting : Posting context store userId movement posted balance after) :
    store.SameBut userId after := by
  have balances : ∀ other, other ≠ userId → after.balancesOf other = store.balancesOf other := by
    intro other foreign
    rw [Store.balancesOf, posting.store_eq]
    exact Store.filter_keep_of_ne (posting.balance_userId.symm ▸ foreign)
  have entries : ∀ other, other ≠ userId → after.entriesOf other = store.entriesOf other :=
    fun other foreign => posting.entriesOf_of_ne foreign
  rcases posting.store_eq with rfl
  exact { Store.SameBut.refl userId store with balances, entries }

theorem Purchase.Settled.sameBut {purchase : Purchase} {context : Context} {store between : Store}
    {draft : Order} {balance : Balance} {settlement : Settlement}
    (settled : purchase.Settled context store draft balance settlement between) :
    store.SameBut draft.userId between := by
  cases settled with
  | free | collected => exact .refl _ store
  | charged priced byWallet posting => exact posting.sameBut

theorem Purchase.of_mem_bindings {purchase : Purchase} {context : Context} {store : Store}
    {userId orderId : Int} {binding : KeyBinding}
    (member : binding ∈ purchase.bindings context store userId orderId) :
    binding.userId = userId ∧ binding.orderId = orderId := by
  rw [bindings] at member
  split at member
  · cases member
  · rw [List.mem_singleton.mp member]
    exact ⟨rfl, rfl⟩

namespace Orders

variable {context : Context} {last : Int} {store after : Store}

theorem Ordered.sameBut {user : User} {request : OrderRequest} {receipt : Receipt}
    (ordered : Ordered context last store (some user) request receipt after) :
    store.SameBut user.id after := by
  rcases ordered with ⟨_, purchase, ⟨⟩, -, -, placing⟩
  cases placing with
  | @intro draft settlement between item drafting item_eq settled unbound itemAllowed =>
    have framed := settled.framed
    have settling := settled.sameBut
    rw [drafting.userId_eq] at settling
    have owner : settlement.order.userId = user.id := framed.userId_eq.trans drafting.userId_eq
    have fresh : ∀ other ∈ store.orders, other.id ≠ settlement.order.id :=
      framed.id_eq ▸ drafting.fresh
    have item_orderId : item.orderId = settlement.order.id := by
      rw [item_eq, framed.id_eq]
      rfl
    refine { settling with
      orders := fun other foreign => Store.filter_append_of_ne (owner ▸ foreign.symm)
      bindings := fun other foreign => ?_
      items := fun orderId foreign => ?_
      refunds := fun orderId foreign => ?_
      payments := fun orderId foreign => ?_ }
    · have none :
          (purchase.bindings context store user.id draft.id).filter (·.userId == other) = [] := by
        rw [List.filter_eq_nil_iff]
        intro binding member own
        exact foreign ((beq_iff_eq.mp own).symm.trans (Purchase.of_mem_bindings member).1)
      rw [Store.bindingsOf, List.filter_append, none, List.append_nil]
      rfl
    · have different := Store.id_ne_of_foreign rfl fresh (owner ▸ foreign)
      exact Store.filter_append_of_ne (item_orderId ▸ different)
    · rw [Store.refundsOf, Store.refundsOf]
      exact congrArg _ framed.refunds_eq
    · have different := Store.id_ne_of_foreign rfl fresh (owner ▸ foreign)
      rcases settled.payments_cases with none | ⟨payment, one, -, orderId_eq⟩
      · rw [Store.paymentsOf, none, List.append_nil]
        rfl
      · rw [Store.paymentsOf, one]
        exact Store.filter_append_of_ne (orderId_eq ▸ different)

theorem Cancelling.sameBut {orderId : Int} {result : Order}
    (cancelling : Cancelling context store orderId result after) (distinct : store.OrdersDistinct) :
    store.SameBut result.userId after := by
  rcases cancelling.handled with ⟨order, handled, -⟩
  have orders : ∀ other, other ≠ result.userId → after.ordersOf other = store.ordersOf other := by
    intro other foreign
    rcases handled.orders_eq with ⟨-, same⟩ | replaced
    · rw [Store.ordersOf, same, Store.ordersOf]
    · rw [Store.ordersOf, replaced, Store.ordersOf]
      refine Store.filter_replace_of_ne (fun present member same => ?_) foreign.symm
      rw [List.inj_on_of_nodup_map distinct member handled.present (same.trans handled.id_eq),
        ← handled.userId_eq]
      exact foreign.symm
  cases cancelling with
  | already => exact .refl _ store
  | called =>
    exact { Store.SameBut.refl _ store with
      orders
      items := fun _ _ => rfl
      refunds := fun _ _ => rfl
      payments := fun _ _ => rfl }

end Orders

namespace Operation

/-- The operations that a user calls, and whose answers are for that user alone. -/
inductive CalledBy (userId : Int) : Operation → Prop
  | create (request : OrderRequest) : CalledBy userId (.create (some userId) request)
  | createAfterMiss (request : OrderRequest) :
      CalledBy userId (.createAfterMiss (some userId) request)
  | cancel (orderId : Int) (reason : Option String) :
      CalledBy userId (.cancel (some userId) orderId reason)
  | getOrder (orderId : Int) : CalledBy userId (.getOrder (some userId) orderId)
  | listOrders (filter : OrderFilter) : CalledBy userId (.listOrders (some userId) filter)
  | account (page size : Option Int) (kind : Option String) :
      CalledBy userId (.account userId page size kind)

variable {context : Context} {last : Int} {store after : Store} {userId : Int}

theorem sameBut_of_ordered {request : OrderRequest} {receipt : Receipt}
    (ordered : Orders.Ordered context last store ((some userId).bind store.user?) request receipt
      after) : store.SameBut userId after := by
  rcases id ordered with ⟨user, -, caller, -⟩
  rcases Option.some.inj (key?_of_caller caller) with rfl
  rw [caller] at ordered
  exact ordered.sameBut

theorem Committed.sameBut {operation : Operation}
    (committed : Committed context last store operation after)
    (called : operation.CalledBy userId) (distinct : store.OrdersDistinct) :
    store.SameBut userId after := by
  cases called with
  | create =>
    cases committed with
    | created ordered => exact sameBut_of_ordered ordered
  | createAfterMiss =>
    cases committed with
    | createdLate ordered => exact sameBut_of_ordered ordered
  | cancel =>
    cases committed with
    | cancelled cancelling owner =>
      rcases owner with ⟨user, caller, own⟩
      rcases Option.some.inj (key?_of_caller caller) with rfl
      exact own ▸ cancelling.sameBut distinct
  | getOrder | listOrders | account => cases committed

theorem Committed.keysOwned {operation : Operation}
    (committed : Committed context last store operation after) (distinct : store.OrdersDistinct)
    (owned : store.KeysOwned) : after.KeysOwned := by
  have old : ∀ binding ∈ store.keyBindings, ∃ order ∈ after.orders,
      order.id = binding.orderId ∧ order.userId = binding.userId := fun binding member =>
    (committed.grows distinct).exists_terms
      (fun terms => terms.id = binding.orderId ∧ terms.userId = binding.userId)
      (owned binding member)
  rcases committed.placing with ⟨-, -, bindings⟩ | ⟨purchase, userId, number, receipt, placing⟩
  · rwa [Store.KeysOwned, bindings]
  · cases placing with
    | @intro draft settlement between item drafting item_eq settled =>
      intro binding member
      rcases List.mem_append.mp member with present | new
      · exact old binding present
      · rcases Purchase.of_mem_bindings new with ⟨owner, bound⟩
        refine ⟨settlement.order, List.mem_concat_self, ?_, ?_⟩
        · rw [bound, settled.framed.id_eq]
        · rw [owner, settled.framed.userId_eq, drafting.userId_eq]

end Operation

end OrderDesk
