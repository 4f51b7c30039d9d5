import OrderDesk.Proofs.Order.Recall

/-!
What a key adds to a request. Apart from the binding, a request with a key is served as the same
request without one.
-/

namespace OrderDesk

namespace Work

variable {α β : Type} {context : Context} {store after : Store}

theorem run_bind {work : Work α} {next : α → Work β} :
    (work >>= next) context store =
      work context store >>= fun done => next done.1 context done.2 :=
  rfl

theorem run_statement_bind {tables : List Table} {numbers : List Int} {next : Unit → Work β}
    (allowed : Allowed context store tables numbers) :
    (statement tables numbers >>= next) context store = next () context store := by
  rw [run_bind, statement_eq_ok.mpr ⟨allowed, rfl⟩]
  rfl

theorem run_insertBinding {draft : Int → KeyBinding}
    (allowed : let binding := draft (Store.nextId (store.keyBindings.map (·.id)))
      Allowed context store [.keyBindings] [binding.userId, binding.orderId]) :
    insertBinding draft context store =
      let binding := draft (Store.nextId (store.keyBindings.map (·.id)))
      match store.binding? binding.userId binding.endpoint binding.key with
      | some _ => .error (.broken .uniqueKeyTaken)
      | none => .ok (binding, { store with keyBindings := store.keyBindings ++ [binding] }) := by
  rw [insertBinding, get_bind, run_statement_bind allowed, get_bind]
  dsimp only
  cases store.binding? _ _ _ <;> rfl

theorem statement_error {tables : List Table} {numbers : List Int} {failure : Failure}
    (failed : statement tables numbers context store = .error failure) :
    failure ∈ [.refused .deadlinePassed, .broken .tableMissing, .broken .columnOverflow] := by
  rw [statement, read_bind] at failed
  split at failed
  · cases failed
    simp
  · dsimp only at failed
    rw [get_bind] at failed
    split at failed
    · cases failed
      simp
    · split at failed
      · cases failed
        simp
      · cases failed

theorem plan?_error {id : Int} {failure : Failure}
    (failed : plan? id context store = .error failure) :
    failure ≠ .refused .uniquenessViolated := by
  change (statement [.plans] [id] context store >>= fun done => .ok (done.2.plan? id, done.2)) = _
    at failed
  cases stated : statement [.plans] [id] context store with
  | ok done =>
    rw [stated] at failed
    cases failed
  | error cause =>
    rw [stated] at failed
    cases failed
    rintro rfl
    simpa using statement_error stated
end Work

namespace Purchase

variable {purchase : Purchase} {context : Context} {store after : Store} {userId : Int}
  {number : String}

def keyless (purchase : Purchase) : Purchase :=
  { purchase with key := "" }

/-- All of an order but the binding of its key: the id that the order receives, and the answer. -/
def issue (purchase : Purchase) (userId : Int) (number : String) (context : Context) :
    Work (Int × Receipt) := do
  let balance ← Work.balance userId
  let currency := purchase.currency context.settings balance
  let snapshot ← Work.liftFault (purchase.plan.snapshot currency)
  let order ← Work.insertOrder (purchase.order snapshot userId number currency context.now)
  let item ← Work.insertItem (purchase.item order)
  let settlement ← purchase.settle order balance
  return (order.id, {
    order := ⟨settlement.order, [item], [], settlement.payments⟩
    balance := settlement.balance
    transaction := settlement.entry })

def bind (purchase : Purchase) (userId orderId : Int) (now : Instant) : Work KeyBinding :=
  Work.insertBinding fun id =>
    ⟨id, userId, OrderRequest.endpoint, purchase.key, orderId, now⟩

theorem place_eq_of_blank (blank : purchase.key = "") :
    purchase.place userId number = do
      let context ← read
      let issued ← purchase.issue userId number context
      return issued.2 := by
  simp only [place, issue, blank, ne_eq, not_true_eq_false, if_false, bind_assoc, pure_bind]

theorem place_eq_of_named (named : purchase.key ≠ "") :
    purchase.place userId number = do
      let context ← read
      let issued ← purchase.issue userId number context
      let _ ← purchase.bind userId issued.1 context.now
      return issued.2 := by
  simp only [place, issue, bind, if_pos named, bind_assoc, pure_bind]

theorem issue_keyless : purchase.keyless.issue userId number = purchase.issue userId number :=
  rfl

theorem run_place_keyless :
    purchase.keyless.place userId number context store =
      (purchase.issue userId number context context store).map fun done => (done.1.2, done.2) := by
  rw [place_eq_of_blank rfl, Work.read_bind, issue_keyless, Work.run_bind]
  cases purchase.issue userId number context context store <;> rfl

theorem run_place_of_named (named : purchase.key ≠ "") :
    purchase.place userId number context store =
      purchase.issue userId number context context store >>= fun done =>
        ((purchase.bind userId done.1.1 context.now context done.2).map Prod.snd).map
          (done.1.2, ·) := by
  rw [place_eq_of_named named, Work.read_bind, Work.run_bind]
  cases purchase.issue userId number context context store with
  | error failure => rfl
  | ok done =>
    change (purchase.bind userId done.1.1 context.now >>= fun _ => pure done.1.2) context done.2 = _
    rw [Work.run_bind]
    change _ = ((purchase.bind userId done.1.1 context.now context done.2).map Prod.snd).map
      (done.1.2, ·)
    cases purchase.bind userId done.1.1 context.now context done.2 <;> rfl

structure Issued (context : Context) (store : Store) (userId id : Int) (receipt : Receipt)
    (after : Store) : Prop where
  inTime : context.deadlinePassed = false
  caller_fits : Store.fitsColumn userId = true
  id_fits : Store.fitsColumn id = true
  id_eq : receipt.order.order.id = id
  keyBindings_eq : after.keyBindings = store.keyBindings
  dropped_eq : after.dropped = store.dropped

theorem issue_ok {id : Int} {receipt : Receipt}
    (done : purchase.issue userId number context context store = .ok ((id, receipt), after)) :
    Issued context store userId id receipt after := by
  have id_eq : id = Store.nextId (store.orders.map (·.id)) := by
    rcases Work.bind_eq_ok.mp done with ⟨_, _, looked, rest⟩
    rcases Work.balance_eq_ok.mp looked with ⟨-, -, rfl⟩
    rcases Work.bind_eq_ok.mp rest with ⟨_, _, lifted, rest⟩
    rcases Work.liftFault_eq_ok.mp lifted with ⟨-, rfl⟩
    rcases Work.bind_eq_ok.mp rest with ⟨draft, _, inserted, rest⟩
    rcases Work.insertOrder_eq_ok.mp inserted with ⟨-, -, rfl, -⟩
    rcases Work.bind_eq_ok.mp rest with ⟨_, _, -, rest⟩
    rcases Work.bind_eq_ok.mp rest with ⟨_, _, -, rest⟩
    exact (congrArg Prod.fst (Work.pure_eq_ok.mp rest).1).symm
  have placed : purchase.keyless.place userId number context store = .ok (receipt, after) := by
    rw [run_place_keyless, done]
    rfl
  cases place_ok placed with
  | intro drafting item_eq settled unbound itemAllowed =>
    have framed := settled.framed
    rw [← drafting.id_eq] at id_eq
    subst id_eq
    exact {
      inTime := drafting.allowed.inTime
      caller_fits := drafting.allowed.fit _ (List.mem_cons_self ..)
      id_fits := itemAllowed.fit _ (List.mem_cons_self ..)
      id_eq := framed.id_eq
      keyBindings_eq := List.append_nil _
      dropped_eq := framed.dropped_eq }

end Purchase

def Store.binding (store : Store) (userId orderId : Int) (key : String) (now : Instant) : Store :=
  { store with keyBindings := store.keyBindings ++
      [⟨Store.nextId (store.keyBindings.map (·.id)), userId, OrderRequest.endpoint, key, orderId,
        now⟩] }

namespace Purchase

variable {purchase : Purchase} {context : Context} {store after : Store} {userId : Int}
  {number : String}

theorem Issued.run_bind {id : Int} {receipt : Receipt}
    (issued : Issued context store userId id receipt after) (complete : store.dropped = []) :
    (purchase.bind userId id context.now context after).map Prod.snd =
      match store.binding? userId OrderRequest.endpoint purchase.key with
      | some _ => .error (.broken .uniqueKeyTaken)
      | none => .ok (after.binding userId id purchase.key context.now) := by
  have allowed : Work.Allowed context after [.keyBindings] [userId, id] := {
    inTime := issued.inTime
    present := by simp [issued.dropped_eq, complete]
    fit := by simp [issued.caller_fits, issued.id_fits] }
  rw [bind, Work.run_insertBinding allowed, Store.binding?_congr issued.keyBindings_eq]
  dsimp only
  cases store.binding? userId OrderRequest.endpoint purchase.key <;> rfl

theorem run_place_of_unbound (complete : store.dropped = []) (named : purchase.key ≠ "")
    (unbound : store.binding? userId OrderRequest.endpoint purchase.key = none) :
    purchase.place userId number context store =
      (purchase.keyless.place userId number context store).map fun done =>
        (done.1, done.2.binding userId done.1.order.order.id purchase.key context.now) := by
  rw [run_place_of_named named, run_place_keyless]
  cases issues : purchase.issue userId number context context store with
  | error failure => rfl
  | ok done =>
    rcases done with ⟨⟨id, receipt⟩, after⟩
    have issued := issue_ok issues
    change ((purchase.bind userId id context.now context after).map Prod.snd).map _ = _
    rw [issued.run_bind complete, unbound, ← issued.id_eq]
    rfl

theorem run_place_of_bound (complete : store.dropped = []) (named : purchase.key ≠ "")
    {binding : KeyBinding}
    (bound : store.binding? userId OrderRequest.endpoint purchase.key = some binding) :
    purchase.place userId number context store =
      (purchase.keyless.place userId number context store >>= fun _ =>
        .error (.broken .uniqueKeyTaken)) := by
  rw [run_place_of_named named, run_place_keyless]
  cases issues : purchase.issue userId number context context store with
  | error failure => rfl
  | ok done =>
    rcases done with ⟨⟨id, receipt⟩, after⟩
    have issued := issue_ok issues
    change ((purchase.bind userId id context.now context after).map Prod.snd).map _ = _
    rw [issued.run_bind complete, bound]
    rfl

end Purchase

namespace Service

variable {α : Type} {context : Context} {desk : Desk}

def attempt (work : Work α) (context : Context) (store : Store) : Except Failure (α × Store) := do
  let _ ← Failure.breaking context.settings.timeoutSeconds
  (timed context.runsOut (work context store)).mapError Failure.atCommit

theorem attempt_map {β : Type} {work : Work α} {other : Work β} {store : Store}
    {change : β × Store → α × Store}
    (same : work context store = (other context store).map change) :
    attempt work context store = (attempt other context store).map change := by
  rw [attempt, attempt, same, timed_map]
  cases context.settings.timeoutSeconds with
  | error fault => rfl
  | ok seconds => cases timed context.runsOut (other context store) <;> rfl

/-- Work that finds a key taken where other work is done fails as it does, or for that reason. -/
theorem attempt_of_taken {β : Type} {work : Work α} {other : Work β} {store : Store}
    (same : work context store =
      (other context store >>= fun _ => .error (.broken .uniqueKeyTaken))) :
    attempt work context store =
      (attempt other context store >>= fun _ => .error (.refused .uniquenessViolated)) := by
  rw [attempt, attempt, same]
  cases context.settings.timeoutSeconds with
  | error fault => rfl
  | ok seconds =>
    cases other context store with
    | ok done => cases context.runsOut <;> rfl
    | error failure =>
      by_cases taken : failure = .broken .uniqueKeyTaken
      · rw [taken]
        cases context.runsOut <;> rfl
      · change Except.mapError _ (timed _ (.error failure)) = _
        rw [timed_error taken, timed_error taken]
        rfl

theorem run_transaction_eq_attempt {work : Work α} :
    (transaction work).run context desk =
      match attempt work context desk.store with
      | .ok (value, store) => (.ok value, { desk with store })
      | .error failure => (.error failure, desk) := by
  rw [run_transaction, attempt]
  cases context.settings.timeoutSeconds with
  | error fault => rfl
  | ok seconds => cases timed context.runsOut (work context desk.store) <;> rfl

theorem run_transaction_eq_error {work : Work α} {failure : Failure} {after : Desk}
    (failed : (transaction work).run context desk = (.error failure, after)) : desk = after := by
  rw [run_transaction_eq_attempt] at failed
  split at failed
  · cases failed
  · exact congrArg Prod.snd failed

end Service

namespace OrderRequest

def keyless (request : OrderRequest) : OrderRequest :=
  { request with idempotencyKey := none }

theorem key_keyless {request : OrderRequest} : request.keyless.key = "" :=
  rfl

end OrderRequest

namespace Orders

variable {context : Context} {desk after : Desk} {userId : Int} {method : PaymentMethod}
  {request : OrderRequest}

def recovery (userId : Int) (key : String) (failure : Failure) : Service Receipt := do
  if failure = .refused .uniquenessViolated then
    if let some receipt ← replay? userId key then return receipt
  throw failure

theorem run_recovery_of_none {key : String} {failure : Failure}
    (missing : (replay? userId key).run context desk = (.ok none, desk)) :
    (recovery userId key failure).run context desk = (.error failure, desk) := by
  rw [recovery]
  split
  · rw [Service.run_bind, missing]
    rfl
  · rfl

def channelled (purchase : Purchase) : Service Purchase := do
  if purchase.isExternal && purchase.channel == "" then Service.refuse .channelRequired
  return purchase

theorem run_channelled_keyless {purchase : Purchase} :
    (channelled purchase.keyless).run context desk =
      (((channelled purchase).run context desk).1.map Purchase.keyless, desk) := by
  have external_eq : purchase.keyless.isExternal = purchase.isExternal := rfl
  have channel_eq : purchase.keyless.channel = purchase.channel := rfl
  rw [channelled, channelled, external_eq, channel_eq]
  split <;> rfl

def buying (request : OrderRequest) (settings : Settings) (method : PaymentMethod) (plan : Plan) :
    Purchase where
  plan := plan
  method := method
  quantity := settings.quantity request.quantity
  channel := Text.keyword request.paymentChannel
  returnUrl := Text.trim? request.paymentReturnUrl
  key := request.key

theorem purchase_eq :
    purchase method request = (do
      let plan ← plan request
      let context ← read
      channelled (buying request context.settings method plan)) :=
  rfl

theorem run_purchase_keyless :
    (purchase method request.keyless).run context desk =
      (((purchase method request).run context desk).1.map Purchase.keyless, desk) := by
  have same := quiet_plan request context desk
  rcases planned : (plan request).run context desk with ⟨found, between⟩
  rw [planned] at same
  rcases same with rfl
  have replanned : (plan request.keyless).run context between = (found, between) := planned
  rw [purchase_eq, purchase_eq, Service.run_bind, Service.run_bind, planned, replanned]
  cases found with
  | error failure => rfl
  | ok plan =>
    dsimp only
    rw [Service.run_bind, Service.run_bind, Service.run_read]
    dsimp only
    have keyless_eq : buying request.keyless context.settings method plan =
        (buying request context.settings method plan).keyless := rfl
    rw [keyless_eq, run_channelled_keyless]

theorem plan_error {failure : Failure}
    (ran : (plan request).run context desk = (.error failure, after)) :
    failure ≠ .refused .uniquenessViolated := by
  rw [plan] at ran
  dsimp only at ran
  split at ran
  · cases ran
    rintro ⟨⟩
  · rw [Service.run_bind, Service.run_query] at ran
    cases looked : Work.plan? (request.planId.getD 0) { context with deadlinePassed := false }
        desk.store with
    | error cause =>
      rw [looked] at ran
      cases ran
      exact Work.plan?_error looked
    | ok done =>
      rw [looked] at ran
      rcases done with ⟨found, seen⟩
      cases found with
      | none =>
        cases ran
        rintro ⟨⟩
      | some plan =>
        dsimp only at ran
        split at ran
        · cases ran
          rintro ⟨⟩
        · cases ran

theorem purchase_error {failure : Failure}
    (ran : (purchase method request).run context desk = (.error failure, after)) :
    failure ≠ .refused .uniquenessViolated := by
  rw [purchase_eq, Service.run_bind] at ran
  rcases planned : (plan request).run context desk with ⟨found, between⟩
  rw [planned] at ran
  cases found with
  | error cause =>
    cases ran
    exact plan_error planned
  | ok plan =>
    dsimp only at ran
    rw [Service.run_bind, Service.run_read] at ran
    dsimp only at ran
    rw [channelled] at ran
    split at ran
    · cases ran
      nofun
    · cases ran

theorem run_place {purchase : Purchase}
    (bought : (Orders.purchase method request).run context desk = (.ok purchase, desk)) :
    (place userId method request).run context desk =
      let number := nextNumber context desk.lastNumber
      match Service.attempt (purchase.place userId (OrderNumber.text number)) context desk.store with
      | .ok (receipt, store) => (.ok receipt, { desk with store, lastNumber := number })
      | .error failure =>
        (recovery userId request.key failure).run context { desk with lastNumber := number } := by
  rw [place, Service.run_bind, bought]
  dsimp only
  rw [Service.run_bind]
  change (tryCatch (Service.transaction (purchase.place userId
    (OrderNumber.text (nextNumber context desk.lastNumber)))) (recovery userId request.key)).run
      context { desk with lastNumber := nextNumber context desk.lastNumber } = _
  rw [Service.run_tryCatch, Service.run_transaction_eq_attempt]
  dsimp only
  cases Service.attempt _ context desk.store <;> rfl

theorem run_place_keyless {purchase : Purchase}
    (bought : (Orders.purchase method request.keyless).run context desk = (.ok purchase, desk)) :
    (place userId method request.keyless).run context desk =
      let number := nextNumber context desk.lastNumber
      match Service.attempt (purchase.place userId (OrderNumber.text number)) context desk.store with
      | .ok (receipt, store) => (.ok receipt, { desk with store, lastNumber := number })
      | .error failure => (.error failure, { desk with lastNumber := number }) := by
  rw [run_place bought]
  dsimp only
  cases Service.attempt _ context desk.store with
  | ok done => rfl
  | error failure => exact run_recovery_of_none run_replay?_of_blank

end Orders

def Desk.binding (desk : Desk) (userId : Int) (key : String) (now : Instant) :
    Except Failure Receipt → Desk
  | .ok receipt =>
    { desk with store := desk.store.binding userId receipt.order.order.id key now }
  | .error _ => desk

namespace Orders

variable {context : Context} {desk : Desk} {userId : Int} {method : PaymentMethod}
  {request : OrderRequest}

theorem run_place_of_error {failure : Failure} {between : Desk}
    (refused : (purchase method request).run context desk = (.error failure, between)) :
    (place userId method request).run context desk = (.error failure, between) := by
  rw [place, Service.run_bind, refused]

theorem run_place_of_unbound (complete : desk.store.dropped = [])
    (caller_fits : Store.fitsColumn userId = true) (named : request.key ≠ "")
    (unbound : desk.store.binding? userId OrderRequest.endpoint request.key = none) :
    (place userId method request).run context desk =
      let served := (place userId method request.keyless).run context desk
      (served.1, served.2.binding userId request.key context.now served.1) := by
  have rebought : (purchase method request.keyless).run context desk = _ := run_purchase_keyless
  rcases bought : (purchase method request).run context desk with ⟨found, between⟩
  rw [bought] at rebought
  cases found with
  | error failure =>
    have same := quiet_purchase method request context desk
    rw [bought] at same
    rcases same with rfl
    rw [run_place_of_error bought, run_place_of_error rebought]
    rfl
  | ok purchase =>
    rcases purchase_ok bought with ⟨purchasing, -, rfl⟩
    have missing : (replay? userId request.key).run context
        { desk with lastNumber := nextNumber context desk.lastNumber } = (.ok none, _) :=
      run_replay?_of_unbound complete caller_fits
        fun _ => Store.boundOrder?_eq_none_of_unbound unbound
    rw [← purchasing.key_eq] at named unbound
    have attempted (number : String) :
        Service.attempt (purchase.place userId number) context desk.store = _ :=
      Service.attempt_map (Purchase.run_place_of_unbound complete named unbound)
    rw [run_place bought, run_place_keyless rebought]
    dsimp only
    rw [attempted, purchasing.key_eq]
    cases Service.attempt (purchase.keyless.place userId _) context desk.store with
    | ok done => rfl
    | error failure => exact run_recovery_of_none missing

/-- The answer to a request that finds its key bound when all else has been done. -/
def recalled {Answer : Type} (answer : Answer) : Except Failure Answer → Except Failure Answer
  | .ok _ => .ok answer
  | .error failure =>
    if failure = .refused .uniquenessViolated then .ok answer else .error failure

theorem run_recovery_of_bound {key : String} {receipt : Receipt} {failure : Failure}
    (found : (replay? userId key).run context desk = (.ok (some receipt), desk)) :
    (recovery userId key failure).run context desk = (recalled receipt (.error failure), desk) := by
  rw [recovery, recalled]
  split
  · rw [Service.run_bind, found]
    rfl
  · rfl

theorem run_place_of_bound {order : Order} (intact : desk.store.Intact) (fit : desk.store.KeysFit)
    (named : request.key ≠ "")
    (bound : desk.store.boundOrder? userId OrderRequest.endpoint request.key = some order) :
    (place userId method request).run context desk =
      let served := (place userId method request.keyless).run context desk
      (recalled (desk.store.receipt context order) served.1,
        { desk with lastNumber := served.2.lastNumber }) := by
  have rebought : (purchase method request.keyless).run context desk = _ := run_purchase_keyless
  rcases bought : (purchase method request).run context desk with ⟨found, between⟩
  rw [bought] at rebought
  cases found with
  | error failure =>
    have same := quiet_purchase method request context desk
    rw [bought] at same
    rcases same with rfl
    rw [run_place_of_error bought, run_place_of_error rebought]
    dsimp only [recalled]
    rw [if_neg (purchase_error bought)]
  | ok purchase =>
    rcases purchase_ok bought with ⟨purchasing, -, rfl⟩
    have found : (replay? userId request.key).run context
        { desk with lastNumber := nextNumber context desk.lastNumber } =
          (.ok (some (desk.store.receipt context order)), _) :=
      run_replay?_of_bound intact fit named bound
    rcases Store.boundOrder?_eq_some.mp bound with ⟨binding, keyed, -⟩
    rw [← purchasing.key_eq] at named keyed
    have attempted (number : String) :
        Service.attempt (purchase.place userId number) context desk.store = _ :=
      Service.attempt_of_taken (Purchase.run_place_of_bound intact.complete named keyed)
    rw [run_place bought, run_place_keyless rebought]
    dsimp only
    rw [attempted]
    cases Service.attempt (purchase.keyless.place userId _) context desk.store with
    | ok done => exact run_recovery_of_bound found
    | error failure => exact run_recovery_of_bound found

end Orders

end OrderDesk
