import OrderDesk.Proofs.Order.Keyless

/-!
Users are blind to the keys of others. Two stores are alike to a user if they differ in nothing but
the bindings of keys, and the user's own keys are bound to the same orders; ordering is served in the
same way in both, and leaves them alike.
-/

namespace OrderDesk

namespace Store

def rekeyed (store : Store) (bindings : List KeyBinding) : Store :=
  { store with keyBindings := bindings }

def boundId? (store : Store) (userId : Int) (endpoint key : String) : Option Int :=
  (store.binding? userId endpoint key).map (·.orderId)

theorem boundOrder?_eq_bind {store : Store} {userId : Int} {endpoint key : String} :
    store.boundOrder? userId endpoint key =
      (store.boundId? userId endpoint key).bind store.order? := by
  rw [boundId?, Option.bind_map]
  rfl

theorem boundId?_append {store after : Store} {binding : KeyBinding}
    (appended : after.keyBindings = store.keyBindings ++ [binding]) {userId : Int}
    {endpoint key : String} :
    after.boundId? userId endpoint key = (store.boundId? userId endpoint key).or
      (if binding.userId = userId ∧ binding.endpoint = endpoint ∧ binding.key = key then
        some binding.orderId else none) := by
  rw [boundId?, binding?, appended, List.find?_append, Option.map_or, ← binding?, ← boundId?]
  congr 1
  by_cases own : binding.userId = userId ∧ binding.endpoint = endpoint ∧ binding.key = key
  · simp [own]
  · rw [if_neg own]
    simpa [and_assoc] using own

/-- To a user both stores are the same. -/
structure Alike (userId : Int) (first second : Store) : Prop where
  second_eq : second = first.rekeyed second.keyBindings
  boundId?_eq : ∀ endpoint key,
    second.boundId? userId endpoint key = first.boundId? userId endpoint key

theorem Alike.boundOrder?_eq {userId : Int} {first second : Store} (alike : Alike userId first second)
    {endpoint key : String} :
    second.boundOrder? userId endpoint key = first.boundOrder? userId endpoint key := by
  have orders : second.order? = first.order? := by
    rw [alike.second_eq]
    rfl
  rw [boundOrder?_eq_bind, boundOrder?_eq_bind, alike.boundId?_eq, orders]

end Store

/-! ## Work -/

namespace Work

variable {α β : Type} {userId : Int}

inductive Alike (userId : Int) : Except Failure (α × Store) → Except Failure (α × Store) → Prop
  | failed (failure : Failure) : Alike userId (.error failure) (.error failure)
  | done (value : α) {first second : Store} (alike : Store.Alike userId first second) :
    Alike userId (.ok (value, first)) (.ok (value, second))

/-- Work that is blind to the keys of all users but one. -/
def Blind (userId : Int) (work : Work α) : Prop :=
  ∀ (context : Context) {first second : Store}, Store.Alike userId first second →
    Alike userId (work context first) (work context second)

namespace Blind

theorem pure (value : α) : Blind userId (pure value : Work α) :=
  fun _ _ _ alike => .done value alike

theorem refuse (refusal : Refusal) : Blind userId (refuse refusal : Work α) :=
  fun _ _ _ _ => .failed _

theorem breakOff (fault : Fault) : Blind userId (breakOff fault : Work α) :=
  fun _ _ _ _ => .failed _

theorem read : Blind userId (read : Work Context) :=
  fun context _ _ alike => .done context alike

theorem bind {work : Work α} {next : α → Work β} (first : Blind userId work)
    (rest : ∀ value, Blind userId (next value)) : Blind userId (work >>= next) := by
  intro context store other alike
  have related := first context alike
  rw [run_bind, run_bind]
  generalize work context store = early at related ⊢
  generalize work context other = late at related ⊢
  cases related with
  | failed failure => exact .failed failure
  | done value alike => exact rest value context alike

theorem now : Blind userId now :=
  .bind .read fun _ => .pure _

theorem walletNow : Blind userId walletNow :=
  .bind .read fun _ => .pure _

theorem ite {condition : Prop} [Decidable condition] {first second : Work α}
    (left : Blind userId first) (right : Blind userId second) :
    Blind userId (if condition then first else second) := by
  split
  · exact left
  · exact right

theorem refuse_ite {condition : Prop} [Decidable condition] {refusal : Refusal} {next : α → Work β}
    {rest : Work β} (passed : Blind userId rest) :
    Blind userId (if condition then (Work.refuse refusal >>= next) else rest) :=
  .ite (fun _ _ _ _ => .failed _) passed

theorem breakOff_ite {condition : Prop} [Decidable condition] {fault : Fault} {next : α → Work β}
    {rest : Work β} (passed : Blind userId rest) :
    Blind userId (if condition then (Work.breakOff fault >>= next) else rest) :=
  .ite (fun _ _ _ _ => .failed _) passed

theorem lift (outcome : Except Refusal α) : Blind userId (lift outcome) := by
  cases outcome with
  | error refusal => exact .refuse refusal
  | ok value => exact .pure value

theorem liftFault (outcome : Except Fault α) : Blind userId (liftFault outcome) := by
  cases outcome with
  | error fault => exact .breakOff fault
  | ok value => exact .pure value

theorem get_bind {next : Store → Work β}
    (ignores : ∀ store bindings, next (store.rekeyed bindings) = next store)
    (rest : ∀ store, Blind userId (next store)) : Blind userId (get >>= next) := by
  intro context first second alike
  rw [Work.get_bind, Work.get_bind, alike.second_eq, ignores, ← alike.second_eq]
  exact rest first context alike

theorem modify {change : Store → Store}
    (commutes : ∀ store bindings, change (store.rekeyed bindings) = (change store).rekeyed bindings) :
    Blind userId (modify change : Work Unit) := by
  intro context first second alike
  have kept (store : Store) : (change store).keyBindings = store.keyBindings := by
    have same : change store = (change store).rekeyed store.keyBindings :=
      commutes store store.keyBindings
    rw [same]
    rfl
  refine .done () ⟨?_, fun endpoint key => ?_⟩
  · rw [kept, ← commutes, ← alike.second_eq]
  · rw [Store.boundId?, Store.boundId?, Store.binding?_congr (kept _), Store.binding?_congr (kept _)]
    exact alike.boundId?_eq endpoint key

theorem statement (tables : List Table) (numbers : List Int) :
    Blind userId (statement tables numbers) := by
  refine .bind .read fun context => .refuse_ite (.get_bind (fun _ _ => rfl) fun store => ?_)
  exact .breakOff_ite (.ite (.breakOff _) (.pure _))

theorem statement_bind {tables : List Table} {numbers : List Int} {next : Unit → Work β}
    (rest : Blind userId (next ())) : Blind userId (Work.statement tables numbers >>= next) :=
  .bind (.statement tables numbers) fun _ => rest

/-! ### Rows -/

theorem user? (id : Int) : Blind userId (user? id) :=
  .statement_bind (.get_bind (fun _ _ => rfl) fun _ => .pure _)

theorem plan? (id : Int) : Blind userId (plan? id) :=
  .statement_bind (.get_bind (fun _ _ => rfl) fun _ => .pure _)

theorem balance? (id : Int) : Blind userId (balance? id) :=
  .statement_bind (.get_bind (fun _ _ => rfl) fun _ => .pure _)

theorem balance (id : Int) : Blind userId (balance id) := by
  refine .bind (.balance? id) fun found => ?_
  cases found with
  | some balance => exact .pure balance
  | none => exact .bind .read fun _ => .pure _

theorem boundOrder? (endpoint key : String) : Blind userId (boundOrder? userId endpoint key) := by
  refine .statement_bind fun context first second alike => ?_
  rw [Work.get_bind, Work.get_bind, alike.boundOrder?_eq]
  exact .done _ alike

theorem children (orders : List Order) : Blind userId (children orders) := by
  refine .ite (.pure _) (.statement_bind (.statement_bind (.statement_bind ?_)))
  exact .get_bind (fun _ _ => rfl) fun _ => .pure _

theorem receipt (order : Order) : Blind userId (receipt order) :=
  .bind (.balance _) fun _ => .bind (.bind (.children _) fun _ => .pure _) fun _ => .pure _

theorem insertOrder (draft : Int → Order) : Blind userId (insertOrder draft) := by
  refine .get_bind (fun _ _ => rfl) fun store => .statement_bind ?_
  exact .breakOff_ite (.bind (.modify fun _ _ => rfl) fun _ => .pure _)

theorem insertItem (draft : Int → OrderItem) : Blind userId (insertItem draft) := by
  refine .get_bind (fun _ _ => rfl) fun store => .statement_bind ?_
  exact .bind (.modify fun _ _ => rfl) fun _ => .pure _

theorem insertPayment (draft : Int → OrderPayment) : Blind userId (insertPayment draft) := by
  refine .get_bind (fun _ _ => rfl) fun store => .statement_bind ?_
  exact .bind (.modify fun _ _ => rfl) fun _ => .pure _

theorem insertBalance (balance : Balance) : Blind userId (insertBalance balance) :=
  .statement_bind (.bind (.modify fun _ _ => rfl) fun _ => .pure _)

theorem insertEntry (draft : Int → LedgerEntry) : Blind userId (insertEntry draft) := by
  refine .get_bind (fun _ _ => rfl) fun store => .statement_bind ?_
  exact .bind (.modify fun _ _ => rfl) fun _ => .pure _

theorem saveOrder (order : Order) : Blind userId (saveOrder order) :=
  .modify fun _ _ => rfl

theorem saveBalance (balance : Balance) : Blind userId (saveBalance balance) :=
  .modify fun _ _ => rfl

/-! ### Placing an order -/

theorem openBalance (id : Int) (currency : Option String) :
    Blind userId (Wallet.openBalance id currency) := by
  refine .bind (.balance? id) fun found => ?_
  cases found with
  | some balance => exact .pure balance
  | none => exact .bind .read fun _ => .insertBalance _

theorem post (id : Int) (movement : Movement) : Blind userId (Wallet.post id movement) := by
  refine .refuse_ite ?_
  cases MovementKind.ofText? (Text.keyword movement.kind) with
  | none => exact .refuse _
  | some kind =>
    refine .bind (.openBalance id movement.currency) fun balance => ?_
    refine .refuse_ite (.refuse_ite (.bind .walletNow fun now =>
      .bind (.insertEntry _) fun entry => ?_))
    exact .bind (.saveBalance _) fun _ => .pure _

theorem paid (order : Order) (now : Instant) (stamp : Option Instant) :
    Blind userId (Purchase.paid order now stamp) :=
  .bind (.lift _) fun _ => .bind (.saveOrder _) fun _ => .pure _

theorem settle (purchase : Purchase) (order : Order) (balance : Balance) :
    Blind userId (purchase.settle order balance) := by
  refine .bind .now fun now => .ite (.bind (.paid _ _ _) fun _ => .pure _) (.ite ?_ ?_)
  · exact .bind (.post _ _) fun _ => .bind (.paid _ _ _) fun _ => .pure _
  · exact .bind (.insertPayment _) fun _ => .pure _

theorem issue (purchase : Purchase) (id : Int) (number : String) (context : Context) :
    Blind userId (purchase.issue id number context) := by
  refine .bind (.balance id) fun balance => .bind (.liftFault _) fun snapshot => ?_
  refine .bind (.insertOrder _) fun order => .bind (.insertItem _) fun item => ?_
  exact .bind (.settle _ _ _) fun _ => .pure _

/-- Binding a key of one's own comes to the same; only the ids of the bindings may differ. -/
theorem bind_binding (purchase : Purchase) (orderId : Int) (now : Instant) {next : Work β}
    (rest : Blind userId next) :
    Blind userId (purchase.bind userId orderId now >>= fun _ => next) := by
  intro context first second alike
  have related : Alike userId _ _ :=
    Blind.statement [.keyBindings] [userId, orderId] context alike
  have failed {store : Store} {failure : Failure}
      (stated : Work.statement [.keyBindings] [userId, orderId] context store = .error failure) :
      purchase.bind userId orderId now context store = .error failure := by
    rw [Purchase.bind, insertBinding, Work.get_bind, run_bind, stated]
    rfl
  rw [run_bind, run_bind]
  generalize early : Work.statement [.keyBindings] [userId, orderId] context first = outcome
    at related
  generalize late : Work.statement [.keyBindings] [userId, orderId] context second = outcome'
    at related
  cases related with
  | failed failure =>
    rw [failed early, failed late]
    exact .failed failure
  | done =>
    rcases statement_eq_ok.mp early with ⟨allowed, rfl⟩
    rcases statement_eq_ok.mp late with ⟨allowed', rfl⟩
    have bound := alike.boundId?_eq OrderRequest.endpoint purchase.key
    rw [Purchase.bind, run_insertBinding allowed, run_insertBinding allowed']
    rw [Store.boundId?, Store.boundId?] at bound
    dsimp only
    cases present : first.binding? userId OrderRequest.endpoint purchase.key with
    | some binding =>
      rw [present] at bound
      rcases Option.map_eq_some_iff.mp bound with ⟨other, present', -⟩
      rw [present']
      exact .failed _
    | none =>
      rw [present, Option.map_none, Option.map_eq_none_iff] at bound
      rw [bound]
      refine rest context ⟨?_, fun endpoint key => ?_⟩
      · rw [alike.second_eq]
        rfl
      · have appended (store : Store) (binding : KeyBinding) :
            ({ store with keyBindings := store.keyBindings ++ [binding] } : Store).boundId? userId
              endpoint key = _ := Store.boundId?_append rfl
        rw [appended first, appended second, alike.boundId?_eq]

theorem place (purchase : Purchase) (number : String) :
    Blind userId (purchase.place userId number) := by
  by_cases named : purchase.key = ""
  · rw [Purchase.place_eq_of_blank named]
    exact .bind .read fun context => .bind (.issue _ _ _ _) fun _ => .pure _
  · rw [Purchase.place_eq_of_named named]
    exact .bind .read fun context => .bind (.issue _ _ _ _) fun _ => .bind_binding _ _ _ (.pure _)

end Blind

end Work

/-! ## Services -/

structure Desk.Alike (userId : Int) (first second : Desk) : Prop where
  second_eq : second = { first with store := second.store }
  stores : Store.Alike userId first.store second.store

namespace Service

variable {α β : Type} {userId : Int}

inductive Alike (userId : Int) : Except Failure α × Desk → Except Failure α × Desk → Prop
  | intro (answer : Except Failure α) {first second : Desk} (alike : Desk.Alike userId first second) :
    Alike userId (answer, first) (answer, second)

def Blind (userId : Int) (service : Service α) : Prop :=
  ∀ (context : Context) {first second : Desk}, Desk.Alike userId first second →
    Alike userId (service.run context first) (service.run context second)

namespace Blind

theorem pure (value : α) : Blind userId (pure value : Service α) :=
  fun _ _ _ alike => .intro _ alike

theorem refuse (refusal : Refusal) : Blind userId (refuse refusal : Service α) :=
  fun _ _ _ alike => .intro _ alike

theorem breakOff (fault : Fault) : Blind userId (breakOff fault : Service α) :=
  fun _ _ _ alike => .intro _ alike

theorem throw (failure : Failure) : Blind userId (throw failure : Service α) :=
  fun _ _ _ alike => .intro _ alike

theorem read : Blind userId (read : Service Context) :=
  fun _ _ _ alike => .intro _ alike

theorem lift (outcome : Except Failure α) : Blind userId (lift outcome) := by
  intro context first second alike
  rw [run_lift, run_lift]
  exact .intro outcome alike

theorem bind_of_ok {service : Service α} {next : α → Service β} (first : Blind userId service)
    (rest : ∀ {context desk value after}, service.run context desk = (.ok value, after) →
      Blind userId (next value)) : Blind userId (service >>= next) := by
  intro context desk other alike
  have related := first context alike
  rw [run_bind, run_bind]
  generalize ran : service.run context desk = early at related ⊢
  generalize service.run context other = late at related ⊢
  cases related with
  | intro answer alike =>
    cases answer with
    | ok value => exact rest ran context alike
    | error failure => exact .intro _ alike

theorem bind {service : Service α} {next : α → Service β} (first : Blind userId service)
    (rest : ∀ value, Blind userId (next value)) : Blind userId (service >>= next) :=
  first.bind_of_ok fun _ => rest _

theorem ite {condition : Prop} [Decidable condition] {first second : Service α}
    (left : Blind userId first) (right : Blind userId second) :
    Blind userId (if condition then first else second) := by
  split
  · exact left
  · exact right

theorem refuse_ite {condition : Prop} [Decidable condition] {refusal : Refusal}
    {next : α → Service β} {rest : Service β} (passed : Blind userId rest) :
    Blind userId (if condition then (Service.refuse refusal >>= next) else rest) :=
  .ite (fun _ _ _ alike => .intro _ alike) passed

theorem query {work : Work α} (blind : Work.Blind userId work) : Blind userId (query work) := by
  intro context first second alike
  have related := blind { context with deadlinePassed := false } alike.stores
  rw [run_query, run_query]
  generalize work _ first.store = early at related ⊢
  generalize work _ second.store = late at related ⊢
  cases related with
  | failed failure => exact .intro _ alike
  | done value => exact .intro _ alike

theorem timed_alike {early late : Except Failure (α × Store)}
    (alike : Work.Alike userId early late) (runsOut : Bool) :
    Work.Alike userId (timed runsOut early) (timed runsOut late) := by
  cases runsOut with
  | false => exact alike
  | true =>
    cases alike with
    | done value stores => exact .failed _
    | failed failure =>
      cases ended : timed true (.error failure : Except Failure (α × Store)) with
      | ok value => cases (timed_eq_ok.mp ended).1
      | error answered => exact .failed answered

theorem transaction {work : Work α} (blind : Work.Blind userId work) :
    Blind userId (transaction work) := by
  intro context first second alike
  have related := timed_alike (blind context alike.stores) context.runsOut
  rw [run_transaction, run_transaction]
  cases context.settings.timeoutSeconds with
  | error fault => exact .intro _ alike
  | ok seconds =>
    dsimp only
    generalize timed context.runsOut (work context first.store) = early at related ⊢
    generalize timed context.runsOut (work context second.store) = late at related ⊢
    cases related with
    | failed failure => exact .intro _ alike
    | done value stores =>
      refine .intro _ ⟨?_, stores⟩
      rw [alike.second_eq]

theorem nextOrderNumber : Blind userId nextOrderNumber := by
  intro context first second alike
  have same : second.lastNumber = first.lastNumber := by rw [alike.second_eq]
  change Alike userId (.ok (OrderNumber.text (Orders.nextNumber context first.lastNumber)), _)
    (.ok (OrderNumber.text (Orders.nextNumber context second.lastNumber)), _)
  rw [same]
  refine .intro _ ⟨?_, alike.stores⟩
  rw [alike.second_eq]

theorem tryCatch {service : Service α} {handler : Failure → Service α}
    (first : Blind userId service) (rest : ∀ failure, Blind userId (handler failure)) :
    Blind userId (tryCatch service handler) := by
  intro context desk other alike
  have related := first context alike
  rw [run_tryCatch, run_tryCatch]
  generalize service.run context desk = early at related ⊢
  generalize service.run context other = late at related ⊢
  cases related with
  | intro answer alike =>
    cases answer with
    | ok value => exact .intro _ alike
    | error failure => exact rest failure context alike

theorem sampled {sample : Option α → Metrics → Except Fault Unit × Metrics} {service : Service α}
    (blind : Blind userId service) : Blind userId (sampled sample service) := by
  intro context first second alike
  have related := blind context alike
  rw [run_sampled, run_sampled]
  generalize service.run context first = early at related ⊢
  generalize service.run context second = late at related ⊢
  cases related with
  | @intro answer between between' alike =>
    have same : between'.metrics = between.metrics := by rw [alike.second_eq]
    dsimp only
    rw [same]
    refine .intro _ ⟨?_, alike.stores⟩
    rw [alike.second_eq]

end Blind

end Service

/-! ## Ordering -/

namespace Orders

variable {userId : Int}

theorem blind_replay? (key : String) : Service.Blind userId (replay? userId key) := by
  refine .ite (.pure _) (.bind (.query (.boundOrder? _ _)) fun found => ?_)
  cases found with
  | none => exact .pure _
  | some order => exact .bind (.query (.receipt order)) fun _ => .pure _

theorem blind_purchase (method : PaymentMethod) (request : OrderRequest) :
    Service.Blind userId (purchase method request) := by
  refine .bind (.refuse_ite (.bind (.query (.plan? _)) fun found => ?_)) fun plan =>
    .bind .read fun context => .refuse_ite (.pure _)
  cases found with
  | none => exact .refuse _
  | some plan => exact .refuse_ite (.pure _)

theorem blind_recovery (key : String) (failure : Failure) :
    Service.Blind userId (recovery userId key failure) := by
  refine .ite (.bind (blind_replay? key) fun found => ?_) (.throw failure)
  cases found with
  | none => exact .throw failure
  | some receipt => exact .pure receipt

theorem blind_place (method : PaymentMethod) (request : OrderRequest) :
    Service.Blind userId (place userId method request) := by
  refine .bind (blind_purchase method request) fun purchase => .bind .nextOrderNumber fun number => ?_
  exact .tryCatch (.transaction (.place _ _)) (blind_recovery request.key)

theorem blind_opening (caller : Option User) (request : OrderRequest) :
    Service.Blind userId (opening caller request) := by
  cases caller with
  | none => exact .breakOff _
  | some user => exact .bind (.lift _) fun _ => .pure _

theorem opening_userId {context : Context} {desk after : Desk} {caller : Option User}
    {request : OrderRequest} {opened : Int × PaymentMethod}
    (own : ∀ user, caller = some user → user.id = userId)
    (ran : (opening caller request).run context desk = (.ok opened, after)) :
    opened.1 = userId := by
  rcases opening_ok ran with ⟨user, present, opened_eq, -⟩
  rw [opened_eq, own user present]

theorem blind_createAfterMiss {caller : Option User}
    (own : ∀ user, caller = some user → user.id = userId) (request : OrderRequest) :
    Service.Blind userId (createAfterMiss caller request) := by
  rw [createAfterMiss, countCreation]
  refine .sampled (.bind_of_ok (blind_opening caller request) fun opened => ?_)
  rcases opening_userId own opened with rfl
  exact blind_place _ request

theorem blind_create {caller : Option User}
    (own : ∀ user, caller = some user → user.id = userId) (request : OrderRequest) :
    Service.Blind userId (create caller request) := by
  rw [create, countCreation]
  refine .sampled (.bind_of_ok (blind_opening caller request) fun opened => ?_)
  rcases opening_userId own opened with rfl
  refine .bind (blind_replay? request.key) fun found => ?_
  cases found with
  | none => exact blind_place _ request
  | some receipt => exact .pure receipt

end Orders

theorem Operation.blind_of_keyed {operation : Operation} {userId : Int} {key : String}
    (keyed : operation.key? = some (userId, key)) : Service.Blind userId operation.perform := by
  have own {context : Context} {desk after : Desk} {caller : Option User}
      (looked : (Service.userById (some userId)).run context desk = (.ok caller, after)) :
      ∀ user, caller = some user → user.id = userId := by
    rintro user rfl
    rcases Service.run_query_eq_ok.mp looked with ⟨⟨_, read⟩, -⟩
    simpa using List.find?_some (Work.user?_eq_ok.mp read).2.1
  have blind_userById : Service.Blind userId (Service.userById (some userId)) := .query (.user? _)
  rcases key?_eq_some keyed with ⟨request, -, rfl | rfl⟩
  · exact .bind_of_ok blind_userById fun looked =>
      .bind (Orders.blind_create (own looked) request) fun _ => .pure _
  · exact .bind_of_ok blind_userById fun looked =>
      .bind (Orders.blind_createAfterMiss (own looked) request) fun _ => .pure _

end OrderDesk
