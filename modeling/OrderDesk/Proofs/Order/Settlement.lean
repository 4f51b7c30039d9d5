import OrderDesk.Proofs.Order.Filing
import OrderDesk.Proofs.Order.Once

/-!
How new orders are settled. What an order comes to is exactly what is ordered of a plan, and it is
settled in one of three ways: nothing is due, the wallet pays, or a gateway is to collect it.
-/

namespace OrderDesk

/-! ## Quantities -/

namespace Settings

variable {settings : Settings}

theorem quantity_bounds (asked : Option Int) :
    1 ≤ settings.quantity asked ∧ settings.quantity asked ≤ settings.quantityLimit := by
  have limit : 1 ≤ settings.quantityLimit := Int.le_max_right _ _
  rw [quantity]
  split <;> omega

theorem quantity_of_allowed {number : Int} (positive : 1 ≤ number)
    (allowed : number ≤ settings.quantityLimit) : settings.quantity (some number) = number := by
  rw [quantity, Option.getD_some, if_neg (by omega), Int.min_eq_left allowed]

end Settings

/-! ## Requests that no earlier order answers -/

namespace Orders

variable {context : Context} {desk after : Desk} {userId : Int} {method : PaymentMethod}
  {caller : Option User} {request : OrderRequest} {receipt : Receipt}

theorem purchase_buying {bought : Purchase}
    (ran : (purchase method request).run context desk = (.ok bought, after)) :
    bought = buying request context.settings method bought.plan := by
  rw [purchase_eq] at ran
  rcases Service.run_bind_eq_ok.mp ran with ⟨plan, _, -, ran⟩
  rcases Service.run_bind_eq_ok.mp ran with ⟨_, _, ⟨⟩, ran⟩
  rw [channelled, Service.run_refuse_ite_eq_ok] at ran
  rcases Service.run_pure_eq_ok.mp ran.2 with ⟨rfl, -⟩
  rfl

/-- A request is new if it carries no key, or one that finds no order yet. -/
def IsNew (store : Store) (userId : Int) (request : OrderRequest) : Prop :=
  request.key = "" ∨ store.boundOrder? userId OrderRequest.endpoint request.key = none

inductive Bought (context : Context) (store : Store) (userId : Int) (request : OrderRequest)
    (receipt : Receipt) (after : Store) : Prop
  | intro {method : PaymentMethod} {plan : Plan} {number : String}
      (named : request.method = .ok method)
      (found : store.plan? (request.planId.getD 0) = some plan)
      (placing : (buying request context.settings method plan).Placing context store userId number
        receipt after)

theorem not_recovered {failure : Failure}
    (ran : (recovery userId request.key failure).run context desk = (.ok receipt, after)) :
    ¬IsNew desk.store userId request := by
  intro new
  rcases new with blank | unbound
  · rw [blank, run_recovery_of_none run_replay?_of_blank] at ran
    cases ran
  · rcases recovery_ok ran with ⟨-, order, bound, -⟩
    rw [unbound] at bound
    cases bound

theorem place_bought (new : IsNew desk.store userId request) (named : request.method = .ok method)
    (ran : (place userId method request).run context desk = (.ok receipt, after)) :
    Bought context desk.store userId request receipt after.store := by
  rcases Service.run_bind_eq_ok.mp ran with ⟨purchase, _, bought, ran⟩
  rcases purchase_ok bought with ⟨purchasing, -, rfl⟩
  have found := purchasing.found
  rw [purchase_buying bought] at ran
  rcases Service.run_bind_eq_ok.mp ran with ⟨number, _, drawn, ran⟩
  cases drawn
  rcases Service.run_tryCatch_eq_ok ran with placed | ⟨failure, between, failed, recovered⟩
  · rcases Service.run_transaction_eq_ok placed with ⟨store, done, rfl⟩
    exact .intro named found (Purchase.place_ok done)
  · rcases Service.run_transaction_eq_error failed with rfl
    have late := not_recovered recovered
    exact (late new).elim

theorem create_bought (new : ∀ user, caller = some user → IsNew desk.store user.id request)
    (ran : (create caller request).run context desk = (.ok receipt, after)) :
    ∃ user, caller = some user ∧
      Bought context desk.store user.id request receipt after.store := by
  rw [create] at ran
  rcases countCreation_ok ran with ⟨between, served, store_eq⟩
  rw [store_eq]
  rcases Service.run_bind_eq_ok.mp served with ⟨⟨userId, method⟩, _, opened, looking⟩
  rcases opening_ok opened with ⟨user, rfl, rfl, named, rfl⟩
  rcases Service.run_bind_eq_ok.mp looking with ⟨found, _, looked, answering⟩
  have unfound : found = none := by
    rcases replay?_ok looked with ⟨-, ⟨-, none⟩ | ⟨filled, found_eq⟩⟩
    · exact none
    · rw [found_eq, (new user rfl).resolve_left filled]
      rfl
  rcases replay?_ok looked with ⟨rfl, -⟩
  rw [unfound] at answering
  exact ⟨user, rfl, place_bought (new user rfl) named answering⟩

theorem createAfterMiss_bought
    (new : ∀ user, caller = some user → IsNew desk.store user.id request)
    (ran : (createAfterMiss caller request).run context desk = (.ok receipt, after)) :
    ∃ user, caller = some user ∧
      Bought context desk.store user.id request receipt after.store := by
  rw [createAfterMiss_eq] at ran
  rcases countCreation_ok ran with ⟨between, placed, store_eq⟩
  rw [store_eq]
  rcases Service.run_bind_eq_ok.mp placed with ⟨⟨userId, method⟩, _, opened, placed⟩
  rcases opening_ok opened with ⟨user, rfl, rfl, named, rfl⟩
  exact ⟨user, rfl, place_bought (new user rfl) named placed⟩

theorem perform_bought {operation : Operation}
    (orders : operation ∈ [.create (some userId) request, .createAfterMiss (some userId) request])
    (new : IsNew desk.store userId request) {reply : Reply}
    (ran : operation.perform.run context desk = (.ok reply, after)) :
    ∃ receipt, reply = .receipt receipt ∧
      Bought context desk.store userId request receipt after.store := by
  have owner : ∀ user, desk.store.user? userId = some user → user.id = userId :=
    fun user found => by simpa using List.find?_some found
  have new' : ∀ user, desk.store.user? userId = some user → IsNew desk.store user.id request :=
    fun user found => by rwa [owner user found]
  simp only [List.mem_cons, List.not_mem_nil, or_false] at orders
  rcases orders with rfl | rfl
  · rcases Operation.asking_ok ran with ⟨receipt, served, rfl⟩
    rcases create_bought new' served with ⟨user, found, bought⟩
    exact ⟨receipt, rfl, owner user found ▸ bought⟩
  · rcases Operation.asking_ok ran with ⟨receipt, served, rfl⟩
    rcases createAfterMiss_bought new' served with ⟨user, found, bought⟩
    exact ⟨receipt, rfl, owner user found ▸ bought⟩

end Orders

/-! ## What is billed -/

theorem Plan.snapshot_price {plan : Plan} {currency : String} {fields : Fields}
    (taken : plan.snapshot currency = .ok fields) :
    fields.get? "price_cents" = some (.int plan.priceCents) := by
  rw [snapshot] at taken
  rcases Outcome.bind_eq_ok.mp taken with ⟨features, -, taken⟩
  rcases Outcome.bind_eq_ok.mp taken with ⟨tags, -, taken⟩
  rcases Except.ok.inj taken with rfl
  rfl

namespace Orders

/-- An order bills what is ordered of a plan: as many as asked for within the limit, at the price of
the plan, and so it is written down in all places. -/
structure Bills (settings : Settings) (request : OrderRequest) (plan : Plan) (order : Order)
    (item : OrderItem) : Prop where
  some : 1 ≤ item.quantity
  limited : item.quantity ≤ max settings.orderMaxQuantity 1
  asked : ∀ number, request.quantity = .some number → 1 ≤ number →
    number ≤ max settings.orderMaxQuantity 1 → item.quantity = number
  total : order.totalCents = item.quantity * plan.priceCents
  subtotal : item.subtotalCents = order.totalCents
  written : ∃ price metadata quantity, order.planSnapshot.get? "price_cents" = .some (.int price) ∧
    order.metadata = .some metadata ∧ metadata.get? "quantity" = .some (.int quantity) ∧
      order.totalCents = price * quantity

/-- How an order may be settled when it is made. -/
inductive Way
  | free
  | charged
  | collected
  deriving DecidableEq, Repr

def Way.Taken (before : Store) (request : OrderRequest) (order : Order) (after : Store) :
    Way → Prop
  | free =>
    order.totalCents = 0 ∧ order.status = .paid ∧ after.ledger = before.ledger ∧
      after.orderPayments = before.orderPayments
  | charged =>
    0 < order.totalCents ∧ order.paymentMethod = .balance ∧ order.status = .paid ∧
      (∃ entry, after.ledger = before.ledger ++ [entry] ∧ entry.userId = order.userId ∧
        entry.kind = .purchase ∧ entry.amountCents = -order.totalCents ∧
          order.paidAt = some entry.createdAt) ∧
      after.orderPayments = before.orderPayments
  | collected =>
    let channel := Text.keyword request.paymentChannel
    0 < order.totalCents ∧ order.paymentMethod = .external ∧ order.status = .pendingPayment ∧
      (∃ payment, after.orderPayments = before.orderPayments ++ [payment] ∧
        payment.orderId = order.id ∧ payment.status = .pending ∧
          payment.amountCents = order.totalCents ∧ payment.provider = some channel ∧
            payment.intentId = some (channel ++ "-" ++ order.number)) ∧
      after.ledger = before.ledger ∧ after.balances = before.balances

def Way.of (order : Order) : Way :=
  if order.totalCents = 0 then free else if order.paymentMethod = .balance then charged
  else collected

theorem Way.Taken.eq_of {before after : Store} {request : OrderRequest} {order : Order} {way : Way}
    (taken : way.Taken before request order after) : way = Way.of order := by
  cases way with
  | free => exact (if_pos taken.1).symm
  | charged =>
    rcases taken with ⟨due, byWallet, -⟩
    rw [of, if_neg (Int.ne_of_gt due), if_pos byWallet]
  | collected =>
    rcases taken with ⟨due, byGateway, -⟩
    rw [of, if_neg (Int.ne_of_gt due), if_neg (by simp [byGateway])]

theorem Way.Taken.existsUnique {before after : Store} {request : OrderRequest} {order : Order}
    {way : Way} (taken : way.Taken before request order after) :
    ∃! way : Way, way.Taken before request order after :=
  ⟨way, taken, fun _ other => other.eq_of.trans taken.eq_of.symm⟩

/-- What becomes of a new order, in full. -/
structure SettledOneWay (context : Context) (before : Store) (userId : Int)
    (request : OrderRequest) (plan : Plan) (order : Order) (after : Store) : Prop where
  orders : after.orders = before.orders ++ [order]
  owner : order.userId = userId
  method : request.method = .ok order.paymentMethod
  line : ∃ item, after.itemsOf order.id = [item] ∧ Bills context.settings request plan order item
  way : ∃! way : Way, way.Taken before request order after

end Orders

namespace Purchase

variable {purchase : Purchase} {context : Context} {store between : Store} {userId : Int}
  {number : String} {draft : Order} {balance : Balance} {settlement : Settlement}

theorem Settled.written
    (settled : Settled purchase context store draft balance settlement between) :
    settlement.order.planSnapshot = draft.planSnapshot ∧
      settlement.order.metadata = draft.metadata ∧
        settlement.order.paymentMethod = draft.paymentMethod := by
  cases settled <;> exact ⟨rfl, rfl, rfl⟩

theorem Drafting.totalCents_eq (drafting : Drafting purchase context store userId number draft) :
    draft.totalCents = purchase.totalCents := by
  rcases drafting.draft_eq with ⟨snapshot, -, rfl⟩
  rfl

theorem Drafting.paymentMethod_eq (drafting : Drafting purchase context store userId number draft) :
    draft.paymentMethod = purchase.method := by
  rcases drafting.draft_eq with ⟨snapshot, -, rfl⟩
  rfl

theorem Drafting.awaits (drafting : Drafting purchase context store userId number draft)
    (external : purchase.isExternal = true) :
    draft.status = .pendingPayment ∧
      draft.paymentIntentId = some (purchase.channel ++ "-" ++ draft.number) := by
  rcases drafting.draft_eq with ⟨snapshot, -, rfl⟩
  exact ⟨if_pos external, if_pos external⟩

end Purchase

namespace Orders

variable {context : Context} {store after : Store} {userId : Int} {request : OrderRequest}
  {receipt : Receipt}

section

variable {between : Store} {method : PaymentMethod} {plan : Plan} {number : String} {draft : Order}
  {settlement : Purchase.Settlement} {balance : Balance} {id : Int}
  (drafting : (buying request context.settings method plan).Drafting context store userId number
    draft)
  (settled : (buying request context.settings method plan).Settled context store draft balance
    settlement between)

include drafting settled

theorem totalCents_eq :
    settlement.order.totalCents = context.settings.quantity request.quantity * plan.priceCents := by
  rw [settled.framed.totalCents_eq, drafting.totalCents_eq]
  exact Int.mul_comm _ _

theorem bills : Bills context.settings request plan settlement.order
    ((buying request context.settings method plan).item draft id) := by
  have total := totalCents_eq drafting settled
  rcases settled.written with ⟨snapshot_eq, metadata_eq, -⟩
  rcases drafting.draft_eq with ⟨snapshot, taken, drafted⟩
  have bounds := context.settings.quantity_bounds request.quantity
  have metadata : settlement.order.metadata =
      some (buying request context.settings method plan).metadata := by
    rw [metadata_eq, drafted]
    rfl
  refine ⟨bounds.1, bounds.2, ?_, total, ?_, plan.priceCents, _,
    context.settings.quantity request.quantity, ?_, metadata, rfl, ?_⟩
  · intro number asked positive allowed
    change context.settings.quantity request.quantity = number
    rw [asked, Settings.quantity_of_allowed positive allowed]
  · rw [settled.framed.totalCents_eq, drafted]
    rfl
  · rw [snapshot_eq, drafted]
    exact Plan.snapshot_price taken
  · rw [total, Int.mul_comm]

theorem existsUnique_taken (named : request.method = .ok method) (priced : 0 ≤ plan.priceCents)
    (ledger : after.ledger = between.ledger) (balances : after.balances = between.balances)
    (payments : after.orderPayments = store.orderPayments ++ settlement.payments) :
    ∃! way : Way, way.Taken store request settlement.order after := by
  have due : 0 ≤ draft.totalCents := by
    have some := (context.settings.quantity_bounds request.quantity).1
    rw [drafting.totalCents_eq]
    exact Int.mul_nonneg priced (Int.le_of_lt some)
  have total := drafting.totalCents_eq
  have positive (costly : (buying request context.settings method plan).totalCents ≠ 0) :
      0 < draft.totalCents := by omega
  have method_eq := drafting.paymentMethod_eq
  cases settled with
  | free free =>
    have taken : Way.free.Taken store request (Purchase.paidUp draft context.now none) after :=
      ⟨total.trans free, rfl, ledger, payments.trans (List.append_nil _)⟩
    exact taken.existsUnique
  | @charged posted kept between costly byWallet posting =>
    have amount : posted.amountCents = -draft.totalCents :=
      posting.amountCents_eq.trans (congrArg Neg.neg total.symm)
    have taken : Way.charged.Taken store request
        (Purchase.paidUp draft context.now posted.createdAt) after :=
      ⟨positive costly, method_eq.trans byWallet, rfl,
        ⟨posted, ledger.trans posting.ledger_eq, posting.userId_eq, posting.kind_eq_of_named rfl,
          amount, rfl⟩,
        payments.trans (List.append_nil _)⟩
    exact taken.existsUnique
  | collected costly byGateway =>
    have external : method = .external := OrderRequest.method_ok named byGateway
    have collects := Purchase.isExternal_of_priced external (total ▸ due) costly
    rcases drafting.awaits collects with ⟨pending, intent⟩
    have taken : Way.collected.Taken store request draft after :=
      ⟨positive costly, method_eq.trans external, pending,
        ⟨_, payments, rfl, rfl, total.symm, rfl, intent⟩, ledger, balances⟩
    exact taken.existsUnique

end

theorem Bought.settledOneWay (bought : Bought context store userId request receipt after)
    (filed : store.Filed) {plan : Plan} (found : store.plan? (request.planId.getD 0) = some plan)
    (priced : 0 ≤ plan.priceCents) :
    SettledOneWay context store userId request plan receipt.order.order after := by
  rcases bought with ⟨named, present, placing⟩
  rcases Option.some.inj (found.symm.trans present) with rfl
  cases placing with
  | @intro draft settlement between item drafting item_eq settled unbound itemAllowed =>
    have framed := settled.framed
    have absent : settlement.order.id ∉ store.orders.map (·.id) := by
      rw [framed.id_eq]
      simpa using drafting.fresh
    refine ⟨rfl, framed.userId_eq.trans drafting.userId_eq, ?_, ⟨item, ?_, ?_⟩, ?_⟩
    · rw [settled.written.2.2, drafting.paymentMethod_eq]
      exact named
    · apply filed.items.filter_of_new absent
      rw [List.forall_mem_singleton, item_eq]
      exact framed.id_eq.symm
    · rw [item_eq]
      exact bills drafting settled
    · exact existsUnique_taken drafting settled named priced rfl rfl rfl

end Orders

namespace Desk

theorem afterEvents_filed {desk : Desk} (filed : desk.store.Filed) (events : List Event) :
    (desk.afterEvents events).store.Filed := by
  apply afterEvents_induction Store.Filed filed
  · intro _ _ _ _ _ filed committed
    exact committed.filed filed
  · intro store users plans filed
    exact ⟨filed.items, filed.refunds, filed.payments, filed.ledger⟩
  · intro store order _ filed
    exact filed.received

/-- Wherever events have led, an order that is made at a price of none or more is billed for what is
ordered, and is settled in exactly one of the three ways. -/
theorem new_order_settled_one_way {start : Desk} (filed : start.store.Filed) (events : List Event)
    {context : Context} {userId : Int} {request : OrderRequest} {operation : Operation}
    (orders : operation ∈ [.create (some userId) request, .createAfterMiss (some userId) request])
    {reply : Reply} {after : Desk}
    (answered : (Call.mk operation context).outcome (start.afterEvents events) = (.ok reply, after))
    (new : Orders.IsNew (start.afterEvents events).store userId request) {plan : Plan}
    (found : (start.afterEvents events).store.plan? (request.planId.getD 0) = some plan)
    (priced : 0 ≤ plan.priceCents) :
    ∃ receipt, reply = .receipt receipt ∧
      Orders.SettledOneWay context (start.afterEvents events).store userId request plan
        receipt.order.order after.store := by
  obtain ⟨receipt, replied, bought⟩ := Orders.perform_bought orders new answered
  exact ⟨receipt, replied, bought.settledOneWay (afterEvents_filed filed events) found priced⟩

set_option maxRecDepth 4000 in
theorem sample_winner_settled_one_way :
    sample.store.Filed ∧ ∃ receipt after,
      let request : OrderRequest := { planId := some 1, idempotencyKey := some "k1" }
      let desk := sample.afterEvents [.called sampleRecharge]
      sampleWinner.outcome desk = (.ok (.receipt receipt), after) ∧
        Orders.IsNew desk.store 1 request ∧
        Orders.SettledOneWay sampleWinner.context desk.store 1 request (Demo.starter 1)
          receipt.order.order after.store ∧
        Orders.Way.of receipt.order.order = .charged := by
  have filed : sample.store.Filed := {
    items := { ascending := List.Pairwise.nil, attached := by simp [sample] }
    refunds := { ascending := List.Pairwise.nil, attached := by simp [sample] }
    payments := { ascending := List.Pairwise.nil, attached := by simp [sample] }
    ledger := List.Pairwise.nil }
  have served : ∃ receipt after,
      sampleWinner.outcome (sample.afterEvents [.called sampleRecharge]) =
          (.ok (.receipt receipt), after) ∧
        Orders.Way.of receipt.order.order = .charged := ⟨_, _, rfl, rfl⟩
  obtain ⟨receipt, after, answered, way⟩ := served
  have new : Orders.IsNew (sample.afterEvents [.called sampleRecharge]).store 1
      { planId := some 1, idempotencyKey := some "k1" } := .inr rfl
  have found : (sample.afterEvents [.called sampleRecharge]).store.plan? 1 =
      some (Demo.starter 1) := rfl
  obtain ⟨_, replied, settled⟩ := new_order_settled_one_way filed [.called sampleRecharge]
    (List.mem_cons_self ..) answered new found (by decide)
  cases replied
  exact ⟨filed, receipt, after, answered, new, settled, way⟩

end Desk

end OrderDesk
