import OrderDesk.Proofs.Desk.Permanence
import OrderDesk.Proofs.Wallet.Currency

/-!
Orders and their currencies. An order is in one currency, with its lines, its payment and what it
keeps of its plan; and wherever money moves between an order and a wallet, the two are in the same
one.
-/

namespace OrderDesk

namespace Store

/-- Every order is in a currency, and no line and no payment is in another one than its order. -/
structure OrdersInCurrency (store : Store) : Prop where
  orders : ∀ order ∈ store.orders, Text.IsCode order.currency
  items : ∀ item ∈ store.orderItems, ∃ order ∈ store.orders, order.id = item.orderId ∧
    order.currency = item.currency ∧
    order.planSnapshot.get? "currency" = some (.text item.currency)
  payments : ∀ payment ∈ store.orderPayments, ∃ order ∈ store.orders,
    order.id = payment.orderId ∧ order.currency = payment.currency

end Store

/-! ## New orders -/

theorem Plan.snapshot_currency {plan : Plan} {currency : String} {snapshot : Fields}
    (taken : plan.snapshot currency = .ok snapshot) :
    snapshot.get? "currency" = some (.text currency) := by
  rw [Plan.snapshot] at taken
  cases features : listOf plan.features with
  | error fault =>
    rw [features] at taken
    cases taken
  | ok members =>
    cases tags : listOf plan.tags with
    | error fault =>
      rw [features, tags] at taken
      cases taken
    | ok others =>
      rw [features, tags] at taken
      rcases taken with ⟨⟩
      rfl

namespace Purchase

variable {purchase : Purchase} {context : Context} {store between : Store} {userId : Int}
  {number : String} {draft : Order} {balance : Balance} {settlement : Settlement}

theorem isCode_shownBalance (wallets : store.WalletsInCurrency) :
    Text.IsCode (shownBalance context store userId).currency := by
  rw [shownBalance]
  cases found : store.balance? userId with
  | none =>
    rw [Option.getD_none, Balance.empty]
    dsimp only
    exact context.settings.isCode_walletCurrency
  | some present => exact wallets.balances present (Store.balance?_eq_some found).1

namespace Drafting

theorem isCode_currency (drafting : purchase.Drafting context store userId number draft)
    (wallets : store.WalletsInCurrency) : Text.IsCode draft.currency := by
  rcases drafting.draft_eq with ⟨snapshot, -, rfl⟩
  rw [order]
  dsimp only
  rw [Purchase.currency]
  refine Text.isCode_orElse ?_
  rw [Text.orElse]
  split
  · exact context.settings.isCode_walletCurrency
  · exact isCode_shownBalance wallets

theorem snapshot_currency (drafting : purchase.Drafting context store userId number draft) :
    draft.planSnapshot.get? "currency" = some (.text draft.currency) := by
  rcases drafting.draft_eq with ⟨snapshot, taken, rfl⟩
  rw [order]
  dsimp only
  exact Plan.snapshot_currency taken

end Drafting

theorem Settled.terms_eq
    (settled : purchase.Settled context store draft balance settlement between) :
    settlement.order.terms = draft.terms := by
  cases settled with
  | free | charged | collected => rfl

theorem Settled.payments_currency
    (settled : purchase.Settled context store draft balance settlement between) :
    ∀ payment ∈ settlement.payments,
      payment.orderId = draft.id ∧ payment.currency = draft.currency := by
  intro payment member
  cases settled with
  | free | charged => cases member
  | collected =>
    rw [List.mem_singleton.mp member]
    exact ⟨rfl, rfl⟩

end Purchase

namespace Operation

variable {context : Context} {last : Int} {store after : Store} {operation : Operation}

/-! ## What operations keep -/

theorem OrdersChanged.isCode (changed : OrdersChanged context last store after operation)
    (wallets : store.WalletsInCurrency)
    (before : ∀ order ∈ store.orders, Text.IsCode order.currency) :
    ∀ order ∈ after.orders, Text.IsCode order.currency := by
  refine changed.forall_orders (fun drafting settled => ?_) (fun changes code => ?_) before
  · rw [Order.currency_of_terms settled.terms_eq]
    exact drafting.isCode_currency wallets
  · rwa [Order.currency_of_terms changes.terms_eq]

theorem Committed.items_inCurrency (committed : Committed context last store operation after)
    (grows : store.Grows after) (orders : store.OrdersInCurrency) :
    ∀ item ∈ after.orderItems, ∃ order ∈ after.orders, order.id = item.orderId ∧
      order.currency = item.currency ∧
      order.planSnapshot.get? "currency" = some (.text item.currency) := by
  have old : ∀ item ∈ store.orderItems, ∃ order ∈ after.orders, order.id = item.orderId ∧
      order.currency = item.currency ∧
      order.planSnapshot.get? "currency" = some (.text item.currency) := fun item member =>
    grows.exists_terms
      (fun terms => terms.id = item.orderId ∧ terms.currency = item.currency ∧
        terms.planSnapshot.get? "currency" = some (.text item.currency))
      (orders.items item member)
  rcases committed.placing with ⟨-, items, -⟩ | ⟨purchase, userId, number, receipt, placing⟩
  · rwa [items]
  · cases placing with
    | @intro draft settlement between item drafting item_eq settled =>
      intro other member
      rcases List.mem_append.mp member with present | added
      · exact old other present
      · rcases List.mem_singleton.mp added with rfl
        have same := settled.terms_eq
        have currency : other.currency = draft.currency := congrArg OrderItem.currency item_eq
        refine ⟨settlement.order, List.mem_concat_self, ?_, ?_, ?_⟩
        · rw [Order.id_of_terms same]
          exact (congrArg OrderItem.orderId item_eq).symm
        · rw [Order.currency_of_terms same, currency]
        · rw [Order.planSnapshot_of_terms same, currency]
          exact drafting.snapshot_currency

theorem PaymentsAfter.inCurrency (changed : PaymentsAfter context last store after operation)
    (grows : store.Grows after) (orders : store.OrdersInCurrency) :
    ∀ payment ∈ after.orderPayments, ∃ order ∈ after.orders, order.id = payment.orderId ∧
      order.currency = payment.currency := by
  have old : ∀ payment ∈ store.orderPayments, ∃ order ∈ after.orders,
      order.id = payment.orderId ∧ order.currency = payment.currency := fun payment member =>
    grows.exists_terms
      (fun terms => terms.id = payment.orderId ∧ terms.currency = payment.currency)
      (orders.payments payment member)
  cases changed with
  | kept _ payments => rwa [payments]
  | placed named purchasing drafting settled grown payments =>
    intro payment member
    rw [payments] at member
    rcases List.mem_append.mp member with present | added
    · exact old payment present
    · rcases settled.payments_currency payment added with ⟨owner, currency⟩
      have same := settled.terms_eq
      refine ⟨_, grown ▸ List.mem_concat_self, ?_, ?_⟩
      · rw [Order.id_of_terms same, owner]
      · rw [Order.currency_of_terms same, currency]
  | handled handled byHand => rwa [byHand.payments_eq]
  | delivered read delivered =>
    intro payment member
    rw [delivered.payments_eq] at member
    rcases Store.mem_replace member with rfl | ⟨present, -⟩
    · rw [Report.applyToPayment_orderId, Report.applyToPayment_currency]
      exact old _ delivered.present
    · exact old payment present

theorem Committed.ordersInCurrency (committed : Committed context last store operation after)
    (distinct : store.OrdersDistinct) (wallets : store.WalletsInCurrency)
    (orders : store.OrdersInCurrency) : after.OrdersInCurrency where
  orders := committed.changed.isCode wallets orders.orders
  items := committed.items_inCurrency (committed.grows distinct) orders
  payments := committed.payments.inCurrency (committed.grows distinct) orders

end Operation

/-! ## Money between orders and wallets -/

namespace Operation

variable {context : Context} {last : Int} {store after : Store} {operation : Operation}

/-- An entry that is added to the ledger for an order: none but that one is made or changed, and the
wallet is that of its owner. -/
structure Funds (store after : Store) (entry : LedgerEntry) (order : Order) : Prop where
  found : after.order? order.id = some order
  others : ∀ id, id ≠ order.id → after.order? id = store.order? id
  owner : entry.userId = order.userId
  currency : Text.currencyCode (some order.currency) ≠ "" →
    Text.currencyCode (some order.currency) = entry.currency

theorem Committed.funds (committed : Committed context last store operation after)
    {entry : LedgerEntry} (entered : after.ledger = store.ledger ++ [entry]) :
    after.order? = store.order? ∨ ∃ order, Funds store after entry order := by
  have unmoved (same : after.ledger = store.ledger) : False := by
    rw [same] at entered
    simp at entered
  cases committed with
  | moved posting | credited positive posting =>
    refine .inl (Store.order?_congr ?_)
    rw [posting.store_eq]
  | created ordered | createdLate ordered =>
    rcases ordered with ⟨user, purchase, -, -, -, placing⟩
    cases placing with
    | intro drafting item_eq settled =>
      cases settled with
      | free | collected => exact (unmoved rfl).elim
      | charged priced byWallet posting =>
        rcases posting.posted_eq entered with rfl
        exact .inr ⟨_, {
          found := Store.order?_append_self rfl drafting.fresh
          others := fun id different => Store.order?_append_of_ne rfl different
          owner := posting.userId_eq
          currency := posting.currency_matches }⟩
  | cancelled cancelling | cancelledByAdmin cancelling =>
    cases cancelling with
    | already | called => exact (unmoved rfl).elim
  | settled admin supported settling =>
    rcases settling.handled with ⟨_, handled, -⟩
    cases settling with
    | uncharged => exact (unmoved rfl).elim
    | charged found pending outstanding posting move =>
      rcases posting.posted_eq entered with rfl
      rcases Order.move_eq_ok.mp move with ⟨-, rfl⟩
      exact .inr ⟨_, {
        found := handled.orderId_eq ▸ handled.order?_self
        others := fun id different => handled.order?_of_ne (handled.orderId_eq ▸ different)
        owner := posting.userId_eq
        currency := posting.currency_matches }⟩
  | @refunded _ _ _ _ order result _ _ admin crediting ending =>
    have handled := crediting.handled ending
    have terms : result.terms = order.terms := by cases ending <;> rfl
    rcases crediting.credited with ⟨balance, between, posting, rfl⟩
    rcases posting.posted_eq entered with rfl
    exact .inr ⟨result, {
      found := handled.orderId_eq ▸ handled.order?_self
      others := fun id different => handled.order?_of_ne (handled.orderId_eq ▸ different)
      owner := posting.userId_eq.trans (Order.userId_of_terms terms).symm
      currency := by
        rw [Order.currency_of_terms terms]
        exact posting.currency_matches }⟩
  | reported read reporting =>
    cases reporting with
    | replayed | accepted => exact (unmoved rfl).elim
  | opened | patched => exact (unmoved rfl).elim

end Operation

/-! ## Runs -/

namespace Store

/-- Orders are told apart by their ids, and all money is in the right currency. -/
structure InCurrency (store : Store) : Prop where
  distinct : store.OrdersDistinct
  wallets : store.WalletsInCurrency
  orders : store.OrdersInCurrency

structure Unused (store : Store) : Prop where
  orders : store.orders = []
  items : store.orderItems = []
  payments : store.orderPayments = []
  balances : store.balances = []
  ledger : store.ledger = []

def InWalletCurrency (store : Store) (orderId : Int) : Prop :=
  ∃ order balance, store.order? orderId = some order ∧
    store.balance? order.userId = some balance ∧ order.currency = balance.currency

/-- An order is in a currency, with its lines, its payments, and what it keeps of its plan. -/
structure OrderedIn (store : Store) (orderId : Int) (currency : String) : Prop where
  order : ∃ order, store.order? orderId = some order ∧ order.currency = currency ∧
    order.planSnapshot.get? "currency" = some (.text currency)
  lined : store.itemsOf orderId ≠ []
  items : ∀ item ∈ store.itemsOf orderId, item.currency = currency
  payments : ∀ payment ∈ store.paymentsOf orderId, payment.currency = currency

theorem Unused.inCurrency {store : Store} (unused : store.Unused) : store.InCurrency where
  distinct := by simp [OrdersDistinct, unused.orders]
  wallets := by constructor <;> simp [unused.balances, unused.ledger]
  orders := by constructor <;> simp [unused.orders, unused.items, unused.payments]

namespace InCurrency

variable {context : Context} {last : Int} {store after : Store} {operation : Operation}

theorem committed (inCurrency : store.InCurrency)
    (committed : operation.Committed context last store after) : after.InCurrency where
  distinct := committed.ordersDistinct inCurrency.distinct
  wallets := committed.walletsInCurrency inCurrency.wallets
  orders := committed.ordersInCurrency inCurrency.distinct inCurrency.wallets inCurrency.orders

theorem received (inCurrency : store.InCurrency) {order : Order}
    (code : Text.IsCode order.currency) : (store.receive order).InCurrency := by
  refine ⟨inCurrency.distinct.received, ⟨inCurrency.wallets.oneBalance,
    inCurrency.wallets.balances, inCurrency.wallets.entries⟩, ?_, ?_, ?_⟩
  · intro other member
    rcases List.mem_append.mp member with present | new
    · exact inCurrency.orders.orders other present
    · rw [List.mem_singleton.mp new]
      exact code
  · intro item member
    rcases inCurrency.orders.items item member with ⟨other, present, same⟩
    exact ⟨other, List.mem_append_left _ present, same⟩
  · intro payment member
    rcases inCurrency.orders.payments payment member with ⟨other, present, same⟩
    exact ⟨other, List.mem_append_left _ present, same⟩

theorem orderedIn (inCurrency : store.InCurrency) {item : OrderItem}
    (member : item ∈ store.orderItems) {order : Order}
    (found : store.order? item.orderId = some order) :
    store.OrderedIn item.orderId order.currency := by
  rcases Store.order?_eq_some found with ⟨present, id_eq⟩
  have own {other : Order} (member : other ∈ store.orders) (same : other.id = item.orderId) :
      other = order :=
    List.inj_on_of_nodup_map inCurrency.distinct member present (same.trans id_eq.symm)
  refine ⟨⟨order, found, rfl, ?_⟩, ?_, ?_, ?_⟩
  · rcases inCurrency.orders.items item member with ⟨other, otherMember, same, currency, noted⟩
    rcases own otherMember same with rfl
    rwa [currency]
  · exact List.ne_nil_of_mem (List.mem_filter.mpr ⟨member, beq_self_eq_true _⟩)
  · intro line filtered
    rcases List.mem_filter.mp filtered with ⟨lineMember, owner⟩
    rcases inCurrency.orders.items line lineMember with ⟨other, otherMember, same, currency, -⟩
    rcases own otherMember (same.trans (beq_iff_eq.mp owner)) with rfl
    exact currency.symm
  · intro payment filtered
    rcases List.mem_filter.mp filtered with ⟨paymentMember, owner⟩
    rcases inCurrency.orders.payments payment paymentMember with
      ⟨other, otherMember, same, currency⟩
    rcases own otherMember (same.trans (beq_iff_eq.mp owner)) with rfl
    exact currency.symm

end InCurrency

end Store

/-- A step has moved a wallet for an order, which it has made or changed. -/
def Step.MovesFor (step : Step) (entry : LedgerEntry) (order : Order) : Prop :=
  step.added (·.ledger) = [entry] ∧ step.after.store.order? order.id = some order ∧
    step.desk.store.order? order.id ≠ some order

/-- Wherever money has met in a run, the currencies match by the end of it. -/
structure Desk.CurrenciesMatch (desk : Desk) (events : List Event) : Prop where
  /-- No wallet ever changes its currency. -/
  purses : ∀ before later, events = before ++ later →
    (desk.afterEvents before).store.balances.map (·.purse) <+:
      (desk.afterEvents events).store.balances.map (·.purse)
  entries : ∀ entry ∈ (desk.afterEvents events).store.ledger,
    ∃ balance, (desk.afterEvents events).store.balance? entry.userId = some balance ∧
      balance.currency = entry.currency
  /-- Orders that have been charged or refunded are in the currency of the wallet. -/
  moved : ∀ before call later, events = before ++ .called call :: later → ∀ entry order,
    (Step.mk (desk.afterEvents before) call).MovesFor entry order →
      (desk.afterEvents events).store.InWalletCurrency order.id
  /-- Orders that have been made here are in one currency. -/
  made : ∀ before call later, events = before ++ .called call :: later → ∀ id order,
    (desk.afterEvents before).store.order? id = none →
    ((desk.afterEvents before).after call).store.order? id = some order →
      (desk.afterEvents events).store.OrderedIn id order.currency
  refused : ∀ context userId movement balance,
    (desk.afterEvents events).store.balance? userId = some balance →
    Wallet.AsksForOther movement balance →
      (desk.afterEvents events).RefusesCurrency context userId movement balance

namespace Desk

variable {desk : Desk} {events : List Event}

theorem afterEvents_inCurrency (inCurrency : desk.store.InCurrency)
    (coded : ∀ order, .received order ∈ events → Text.IsCode order.currency) :
    (desk.afterEvents events).store.InCurrency ∧
      desk.store.balances.map (·.purse) <+:
        (desk.afterEvents events).store.balances.map (·.purse) := by
  refine afterEvents_induction (fun late => late.InCurrency ∧
    desk.store.balances.map (·.purse) <+: late.balances.map (·.purse))
    ⟨inCurrency, List.prefix_rfl⟩ ?_ ?_ ?_
  · rintro _ _ store after _ ⟨inCurrency, purses⟩ committed
    exact ⟨inCurrency.committed committed,
      purses.trans (committed.purses inCurrency.wallets.oneBalance)⟩
  · rintro store users plans ⟨⟨distinct, wallets, orders⟩, purses⟩
    exact ⟨⟨distinct, { wallets with }, { orders with }⟩, purses⟩
  · rintro store order member ⟨inCurrency, purses⟩
    exact ⟨inCurrency.received (coded order member), purses⟩

end Desk

namespace Step

variable {step : Step} {late : Store}

theorem MovesFor.inWalletCurrency {entry : LedgerEntry} {order : Order}
    (moves : step.MovesFor entry order) (grows : step.after.store.Grows late)
    (inCurrency : late.InCurrency) : late.InWalletCurrency order.id := by
  rcases moves with ⟨added, found, changed⟩
  rcases step.commits with same | committed
  · rw [Step.added_eq_nil same] at added
    cases added
  · have entered : step.after.store.ledger = step.desk.store.ledger ++ [entry] := by
      rcases committed.ledgerAdvances with same | ⟨posted, grown, -⟩
      · rw [Step.added, same, List.drop_length] at added
        cases added
      · rw [Step.added_append grown] at added
        rw [grown, added]
    rcases committed.funds entered with same | ⟨funded, funds⟩
    · exact absurd (same ▸ found) changed
    · have own : order.id = funded.id := by
        refine Classical.byContradiction fun different => changed ?_
        rw [← funds.others _ different, found]
      have same : funded = order := Option.some.inj (funds.found.symm.trans (own ▸ found))
      subst same
      rcases grows.order?_terms found with ⟨later, stays, terms⟩
      have code := inCurrency.orders.orders later (Store.order?_eq_some stays).1
      rw [Order.currency_of_terms terms] at code
      have currency : funded.currency = entry.currency := by
        have compared := funds.currency (code.formed.symm ▸ code.nonempty)
        rwa [code.formed] at compared
      have kept : entry ∈ late.ledger := by
        refine grows.ledger.subset ?_
        rw [entered]
        exact List.mem_concat_self
      rcases inCurrency.wallets.entries entry kept with ⟨balance, held, sameCurrency⟩
      refine ⟨later, balance, stays, ?_, ?_⟩
      · rw [Order.userId_of_terms terms, ← funds.owner, held]
      · rw [Order.currency_of_terms terms, currency, sameCurrency]

theorem orderedIn {id : Int} {order : Order} (grows : step.after.store.Grows late)
    (inCurrency : late.InCurrency) (missing : step.desk.store.order? id = none)
    (found : step.after.store.order? id = some order) : late.OrderedIn id order.currency := by
  rcases step.commits with same | committed
  · rw [same, missing] at found
    cases found
  · rcases Store.order?_eq_some found with ⟨member, rfl⟩
    have isNew : order.id ∉ step.desk.store.orders.map (·.id) := by
      simpa [Store.order?] using missing
    have known : order.id ∈ step.after.store.orders.map (·.id) := List.mem_map_of_mem member
    rcases committed.items with ⟨same, -⟩ | ⟨item, ids, items, -⟩
    · exact absurd (same ▸ known) isNew
    · rw [ids] at known
      have own := List.mem_singleton.mp ((List.mem_append.mp known).resolve_left isNew)
      have line : item ∈ late.orderItems := by
        refine grows.items.subset ?_
        rw [items]
        exact List.mem_concat_self
      rcases grows.order?_terms found with ⟨later, stays, terms⟩
      rw [← Order.currency_of_terms terms, own]
      exact inCurrency.orderedIn line (own ▸ stays)

end Step

namespace Desk

/-- In whatever currencies plans are offered and movements are asked for, the currencies match where
money meets, as long as orders come from elsewhere in currencies that are codes. -/
theorem currencies_match {desk : Desk} (unused : desk.store.Unused) {events : List Event}
    (coded : ∀ order, .received order ∈ events → Text.IsCode order.currency) :
    desk.CurrenciesMatch events := by
  have reached (before later : List Event) (split : events = before ++ later) :
      (desk.afterEvents before).store.InCurrency :=
    (afterEvents_inCurrency unused.inCurrency fun order member =>
      coded order (split ▸ List.mem_append_left later member)).1
  have last := reached events [] (List.append_nil _).symm
  have grows (before : List Event) (call : Call) (later : List Event)
      (split : events = before ++ .called call :: later) :
      (Step.mk (desk.afterEvents before) call).after.store.Grows
        (desk.afterEvents events).store := by
    have front : events = (before ++ [.called call]) ++ later := by simp [split]
    have after := reached _ later front
    rw [front, afterEvents_append, afterEvents_append]
    rw [afterEvents_append] at after
    exact (afterEvents_grows after.distinct later).2
  constructor
  · intro before later split
    rw [split, afterEvents_append]
    refine (afterEvents_inCurrency (reached before later split) fun order member => ?_).2
    exact coded order (split ▸ List.mem_append_right before member)
  · exact last.wallets.entries
  · intro before call later split entry order moves
    exact moves.inWalletCurrency (grows before call later split) last
  · intro before call later split id order missing found
    exact Step.orderedIn (grows before call later split) last missing found
  · exact fun _ _ _ _ found other => refusesCurrency found other

def sampleUnused : Desk :=
  { sample with store := { sample.store with orders := [] } }

def sampleSettlement (currency : String) : List Event := [
  .received {
    id := 0
    number := "ORD-1"
    userId := 1
    status := .pending
    paymentMethod := .manual
    paymentStatus := .pending
    totalCents := 500
    currency := currency
    metadata := none
    createdAt := .ofSeconds 0 },
  .called (sampleCall 10 (.moveWallet 1 { kind := some "recharge", amountCents := 1000 })),
  .called (sampleCall 20
    (.markPaid (some 2) 1 { paymentMethod := some "balance", chargeBalance := true }))]

theorem sample_currencies_match :
    sampleUnused.CurrenciesMatch (sampleSettlement "CNY") ∧
      (sampleUnused.afterEvents (sampleSettlement "CNY")).store.ledger.map (·.currency) =
        ["CNY", "CNY"] := by
  have coded : ∀ order, .received order ∈ sampleSettlement "CNY" → Text.IsCode order.currency := by
    intro order member
    simp only [sampleSettlement, List.mem_cons, Event.received.injEq, reduceCtorEq,
      List.not_mem_nil, or_false] at member
    rcases member with rfl
    decide +kernel
  exact ⟨currencies_match ⟨rfl, rfl, rfl, rfl, rfl⟩ coded, by decide +kernel⟩

set_option maxRecDepth 4000 in
/-- A blank currency has the form of a code too, but a charge in it is not compared with the
currency of the wallet. -/
theorem sample_blank_currency :
    Text.currencyCode (some "") = "" ∧
      ¬sampleUnused.CurrenciesMatch (sampleSettlement "") := by
  refine ⟨by decide +kernel, fun currencies => ?_⟩
  let settling := sampleCall 20
    (.markPaid (some 2) 1 { paymentMethod := some "balance", chargeBalance := true })
  let step : Step := ⟨sampleUnused.afterEvents ((sampleSettlement "").take 2), settling⟩
  have entered : ∃ entry, step.added (·.ledger) = [entry] := ⟨_, rfl⟩
  have found : ∃ order, step.after.store.order? 1 = some order := ⟨_, rfl⟩
  rcases entered with ⟨entry, entered⟩
  rcases found with ⟨order, found⟩
  have one : order.id = 1 := (Store.order?_eq_some found).2
  have settles : (step.desk.store.order? 1).map (·.status.text) ≠
      (step.after.store.order? 1).map (·.status.text) := by decide +kernel
  have moves : step.MovesFor entry order := by
    refine ⟨entered, one ▸ found, fun same => settles ?_⟩
    rw [found, ← one, same]
  rcases currencies.moved _ settling [] rfl entry order moves with
    ⟨late, balance, stays, held, same⟩
  have differ : (step.after.store.order? 1).map (·.currency) ≠
      ((step.after.store.order? 1).bind fun order => step.after.store.balance? order.userId).map
        (·.currency) := by decide +kernel
  refine differ ?_
  change step.after.store.order? order.id = some late at stays
  change step.after.store.balance? late.userId = some balance at held
  rw [← one, stays, Option.bind_some, held, Option.map_some, Option.map_some, same]

end Desk

end OrderDesk
