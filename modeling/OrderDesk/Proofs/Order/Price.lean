import OrderDesk.Proofs.Desk.Soundness
import OrderDesk.Proofs.Order.Settlement

/-!
What the sign of a price does to the money of a buyer. Nothing looks at the sign of a price: as long
as it is not negative an order costs what it comes to, and otherwise it pays its buyer.
-/

namespace OrderDesk

theorem Purchase.totalCents_neg {purchase : Purchase} (some : 1 ≤ purchase.quantity) :
    purchase.totalCents < 0 ↔ purchase.plan.priceCents < 0 := by
  constructor
  · intro negative
    apply Int.not_le.mp
    intro priced
    exact Int.not_lt.mpr (Int.mul_nonneg priced (Int.le_of_lt some)) negative
  · intro negative
    exact Int.mul_neg_of_neg_of_pos negative some

namespace Wallet

theorem Posting.spendableCents {context : Context} {store after : Store} {userId : Int}
    {movement : Movement} {posted : LedgerEntry} {balance : Balance}
    (posting : Posting context store userId movement posted balance after) :
    after.spendableCents userId = store.spendableCents userId + posted.amountCents := by
  have shown : after.spendableCents userId = posted.balanceAfterCents := by
    rw [Store.spendableCents, posting.balance?_self, posting.balance_eq]
    rfl
  rw [shown, posting.balanceAfterCents_spendable, posting.amountCents_eq]

end Wallet

namespace Orders

/-- A new order of a plan, and the money of its buyer: the sign of the price decides about all of
it, and whether the wallet pays. -/
structure FollowsPrice (before : Store) (userId : Int) (plan : Plan) (order : Order)
    (after : Store) : Prop where
  appended : after.orders = before.orders ++ [order]
  owner : order.userId = userId
  total : order.totalCents < 0 ↔ plan.priceCents < 0
  balance : before.spendableCents userId < after.spendableCents userId ↔
    plan.priceCents < 0 ∧ order.paymentMethod = .balance
  entry : (∃ entry, after.ledger = before.ledger ++ [entry] ∧ entry.userId = userId ∧
      entry.kind = .purchase ∧ 0 < entry.amountCents) ↔
    plan.priceCents < 0 ∧ order.paymentMethod = .balance

end Orders

namespace Purchase

variable {purchase : Purchase} {context : Context} {store after between : Store} {userId : Int}
  {number : String} {draft : Order} {balance : Balance} {settlement : Settlement}

theorem Settled.follows_price (drafting : Drafting purchase context store userId number draft)
    (settled : Settled purchase context store draft balance settlement between)
    (some : 1 ≤ purchase.quantity) :
    (store.spendableCents userId < between.spendableCents userId ↔
        purchase.plan.priceCents < 0 ∧ purchase.method = .balance) ∧
      ((∃ entry, between.ledger = store.ledger ++ [entry] ∧ entry.userId = userId ∧
          entry.kind = .purchase ∧ 0 < entry.amountCents) ↔
        purchase.plan.priceCents < 0 ∧ purchase.method = .balance) := by
  have unmoved : ¬∃ entry : LedgerEntry, store.ledger = store.ledger ++ [entry] ∧
      entry.userId = userId ∧ entry.kind = .purchase ∧ 0 < entry.amountCents := by
    rintro ⟨entry, grown, -⟩
    simp at grown
  rw [← totalCents_neg some]
  cases settled with
  | free free =>
    have due : ¬purchase.totalCents < 0 := by omega
    exact ⟨iff_of_false (Int.lt_irrefl _) fun paid => due paid.1,
      iff_of_false unmoved fun paid => due paid.1⟩
  | @charged posted kept between costly byWallet posting =>
    have amount : posted.amountCents = -purchase.totalCents := posting.amountCents_eq
    have grown := posting.ledger_eq
    have spent := posting.spendableCents
    rw [drafting.userId_eq] at spent
    constructor
    · rw [spent, amount, and_iff_left byWallet]
      omega
    · rw [grown, and_iff_left byWallet]
      constructor
      · rintro ⟨entry, same, -, -, positive⟩
        rcases List.singleton_inj.mp (List.append_cancel_left same) with rfl
        omega
      · intro negative
        exact ⟨posted, rfl, posting.userId_eq.trans drafting.userId_eq,
          posting.kind_eq_of_named rfl, by omega⟩
  | collected costly byGateway =>
    exact ⟨iff_of_false (Int.lt_irrefl _) fun paid => byGateway paid.2,
      iff_of_false unmoved fun paid => byGateway paid.2⟩

theorem Placing.followsPrice {receipt : Receipt}
    (placing : purchase.Placing context store userId number receipt after)
    (some : 1 ≤ purchase.quantity) :
    Orders.FollowsPrice store userId purchase.plan receipt.order.order after := by
  cases placing with
  | @intro draft settlement between item drafting item_eq settled unbound itemAllowed =>
    have paid := settled.follows_price drafting some
    rw [← drafting.paymentMethod_eq, ← settled.written.2.2] at paid
    refine ⟨rfl, settled.framed.userId_eq.trans drafting.userId_eq, ?_, paid.1, paid.2⟩
    rw [settled.framed.totalCents_eq, drafting.totalCents_eq]
    exact totalCents_neg some

end Purchase

namespace Desk

/-- Whatever the rows are, a call that orders leaves all of them alone, or it makes one order, and the
sign of the price decides whether the buyer is paid. -/
theorem buying_follows_price (desk : Desk) (context : Context) (userId : Int)
    (request : OrderRequest) {operation : Operation}
    (orders : operation ∈ [.create (some userId) request, .createAfterMiss (some userId) request]) :
    let after := desk.after ⟨operation, context⟩
    after.store = desk.store ∨ ∃ plan order,
      desk.store.plan? (request.planId.getD 0) = some plan ∧
        Orders.FollowsPrice desk.store userId plan order after.store := by
  intro after
  simp only [List.mem_cons, List.not_mem_nil, or_false] at orders
  rcases desk.after_commits ⟨operation, context⟩ with same | committed
  · exact .inl same
  · right
    have ordered : ∃ receipt, Orders.Ordered context desk.lastNumber desk.store
        (desk.store.user? userId) request receipt after.store := by
      rcases orders with rfl | rfl
      · cases committed with
        | created ordered => exact ⟨_, ordered⟩
      · cases committed with
        | createdLate ordered => exact ⟨_, ordered⟩
    obtain ⟨receipt, user, purchase, found, -, purchasing, placing⟩ := ordered
    have owner : user.id = userId := by simpa using List.find?_some found
    have some : 1 ≤ purchase.quantity := by
      rw [purchasing.quantity_eq]
      exact (context.settings.quantity_bounds request.quantity).1
    exact ⟨purchase.plan, _, purchasing.found, owner ▸ placing.followsPrice some⟩

def sampleBargains : Desk :=
  { sample with store := { sample.store with
      plans := [{ Demo.starter 1 with priceCents := -500 }] } }

def sampleCollected : OrderRequest :=
  { planId := some 1, paymentMethod := some "external", paymentChannel := some "card" }

theorem sample_bargain_follows_price :
    let after := sampleBargains.after (sampleCall 20 (.create (some 1) sampleCollected))
    ∃ plan order, sampleBargains.store.plan? 1 = some plan ∧ plan.priceCents = -500 ∧
      Orders.FollowsPrice sampleBargains.store 1 plan order after.store ∧
        order.totalCents < 0 ∧
          ¬sampleBargains.store.spendableCents 1 < after.store.spendableCents 1 := by
  intro after
  have grown : after.store.orders.length = 2 := by decide +kernel
  have kept : after.store.spendableCents 1 = 0 := by decide +kernel
  rcases buying_follows_price sampleBargains (sampleCall 20 .securitySetting).context 1
    sampleCollected (List.mem_cons_self ..) with same | ⟨plan, order, found, follows⟩
  · have unchanged : after.store.orders.length = 1 := congrArg (·.orders.length) same
    omega
  · have price : plan.priceCents = -500 := by
      rw [← Option.some.inj (show some { Demo.starter 1 with priceCents := -500 } = some plan
        from found)]
    exact ⟨plan, order, found, price, follows, follows.total.mpr (by omega), by
      rw [kept]
      decide⟩

theorem sample_bargain_pays_buyer :
    let after := sampleBargains.after (sampleCall 20 (.create (some 1) { planId := some 1 }))
    sampleBargains.store.spendableCents 1 = 0 ∧ after.store.spendableCents 1 = 500 ∧
      after.store.ledger.map (fun entry => (entry.kind, entry.amountCents)) = [(.purchase, 500)] ∧
        after.store.orders.map (·.totalCents) = [500, -500] := by
  decide +kernel

end Desk

end OrderDesk
