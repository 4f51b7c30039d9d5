import OrderDesk.Proofs.Desk.History
import OrderDesk.Proofs.Order.Blindness
import OrderDesk.Proofs.Order.Race

/-!
At most one order for a key. Of all the calls by which a user orders with one key, the first one
that is answered makes the order; the later ones find it, and write nothing.
-/

namespace OrderDesk

namespace Orders

variable {context : Context} {desk after : Desk} {userId : Int} {method : PaymentMethod}
  {caller : Option User} {request : OrderRequest} {receipt : Receipt}

/-! ## What a request that is answered has come to -/

theorem recovery_ok {key : String} {failure : Failure}
    (ran : (recovery userId key failure).run context desk = (.ok receipt, after)) :
    desk = after ∧ ∃ order, desk.store.boundOrder? userId OrderRequest.endpoint key = some order ∧
      receipt = desk.store.receipt context order := by
  rw [recovery] at ran
  split at ran
  · rcases Service.run_bind_eq_ok.mp ran with ⟨found, between, looked, ran⟩
    rcases replay?_ok looked with ⟨rfl, ⟨-, rfl⟩ | ⟨-, rfl⟩⟩
    · cases ran
    · cases bound : desk.store.boundOrder? userId OrderRequest.endpoint key with
      | none =>
        rw [bound] at ran
        cases ran
      | some order =>
        rw [bound] at ran
        rcases Service.run_pure_eq_ok.mp ran with ⟨rfl, rfl⟩
        exact ⟨rfl, order, rfl, rfl⟩
  · cases ran

/-- A request is answered with an order that its key was bound to, or with a new one. -/
inductive Serving (context : Context) (desk : Desk) (user : User) (request : OrderRequest)
    (receipt : Receipt) (after : Store) : Prop
  | recalled {order : Order}
      (bound : desk.store.boundOrder? user.id OrderRequest.endpoint request.key = some order)
      (receipt_eq : receipt = desk.store.receipt context order) (same : after = desk.store)
  | ordered
      (ordered : Ordered context desk.lastNumber desk.store (some user) request receipt after)

theorem place_ok {user : User} (named : request.method = .ok method)
    (ran : (place user.id method request).run context desk = (.ok receipt, after)) :
    Serving context desk user request receipt after.store := by
  rcases Service.run_bind_eq_ok.mp ran with ⟨purchase, _, bought, ran⟩
  rcases purchase_ok bought with ⟨purchasing, method_eq, rfl⟩
  rcases Service.run_bind_eq_ok.mp ran with ⟨number, _, drawn, ran⟩
  cases drawn
  rcases Service.run_tryCatch_eq_ok ran with placed | ⟨failure, between, failed, recovered⟩
  · rcases Service.run_transaction_eq_ok placed with ⟨store, done, rfl⟩
    exact .ordered ⟨user, purchase, rfl, method_eq ▸ named, purchasing, Purchase.place_ok done⟩
  · rcases Service.run_transaction_eq_error failed with rfl
    rcases recovery_ok recovered with ⟨rfl, order, bound, receipt_eq⟩
    exact .recalled bound receipt_eq rfl

theorem countCreation_ok {service : Service Receipt}
    (ran : (countCreation request service).run context desk = (.ok receipt, after)) :
    ∃ between, service.run context desk = (.ok receipt, between) ∧ after.store = between.store := by
  rw [countCreation] at ran
  rcases Service.run_sampled_eq_ok ran with ⟨between, served, after_eq⟩
  exact ⟨between, served, by rw [after_eq]⟩

theorem placing_ok (ran : (placing caller request).run context desk = (.ok receipt, after)) :
    ∃ user, caller = some user ∧ Serving context desk user request receipt after.store := by
  rcases Service.run_bind_eq_ok.mp ran with ⟨⟨userId, method⟩, _, opened, placed⟩
  rcases opening_ok opened with ⟨user, rfl, rfl, named, rfl⟩
  exact ⟨user, rfl, place_ok named placed⟩

theorem createAfterMiss_ok
    (ran : (createAfterMiss caller request).run context desk = (.ok receipt, after)) :
    ∃ user, caller = some user ∧ Serving context desk user request receipt after.store := by
  rw [createAfterMiss_eq] at ran
  rcases countCreation_ok ran with ⟨between, placed, store_eq⟩
  rw [store_eq]
  exact placing_ok placed

theorem create_ok (ran : (create caller request).run context desk = (.ok receipt, after)) :
    ∃ user, caller = some user ∧ Serving context desk user request receipt after.store := by
  rw [create] at ran
  rcases countCreation_ok ran with ⟨between, served, store_eq⟩
  rw [store_eq]
  rcases Service.run_bind_eq_ok.mp served with ⟨⟨userId, method⟩, _, opened, looking⟩
  rcases opening_ok opened with ⟨user, rfl, rfl, named, rfl⟩
  rcases Service.run_bind_eq_ok.mp looking with ⟨found, _, looked, answering⟩
  rcases replay?_ok looked with ⟨rfl, ⟨-, rfl⟩ | ⟨-, found_eq⟩⟩
  · exact ⟨user, rfl, place_ok named answering⟩
  · refine ⟨user, rfl, ?_⟩
    rw [found_eq] at answering
    cases bound : desk.store.boundOrder? user.id OrderRequest.endpoint request.key with
    | none =>
      rw [bound] at answering
      exact place_ok named answering
    | some order =>
      rw [bound] at answering
      rcases Service.run_pure_eq_ok.mp answering with ⟨rfl, rfl⟩
      exact .recalled bound rfl rfl

end Orders

namespace Operation

variable {context : Context} {desk after : Desk} {operation : Operation} {userId : Int}
  {key : String}

theorem asking_ok {α : Type} {callerId : Option Int} {serve : Option User → Service α}
    {answer : α → Reply} {reply : Reply}
    (ran : (do return answer (← serve (← Service.userById callerId)) : Service Reply).run
      context desk = (.ok reply, after)) :
    ∃ value, (serve (callerId.bind desk.store.user?)).run context desk = (.ok value, after) ∧
      reply = answer value := by
  rcases Service.run_bind_eq_ok.mp ran with ⟨caller, between, looked, served⟩
  have same : desk = between := by
    have quiet := Service.Quiet.userById callerId context desk
    rw [looked] at quiet
    exact quiet.symm
  rcases Service.run_userById_eq_ok looked with rfl
  rcases Service.run_bind_eq_ok.mp served with ⟨value, _, serving, answered⟩
  rcases Service.run_pure_eq_ok.mp answered with ⟨rfl, rfl⟩
  exact ⟨value, same ▸ serving, rfl⟩

theorem calling_ok {α : Type} {serve : Option User → Service α} {answer : α → Reply}
    {reply : Reply}
    (ran : (do return answer (← serve (← Service.userById (some userId))) : Service Reply).run
      context desk = (.ok reply, after)) :
    ∃ caller value, (serve caller).run context desk = (.ok value, after) ∧ reply = answer value ∧
      ∀ user, caller = some user → user.id = userId := by
  rcases asking_ok ran with ⟨value, served, rfl⟩
  refine ⟨desk.store.user? userId, value, served, rfl, fun user found => ?_⟩
  simpa using List.find?_some found

theorem ordering_ok {reply : Reply} (keyed : operation.key? = some (userId, key))
    (ran : operation.perform.run context desk = (.ok reply, after)) :
    ∃ user request receipt, (desk.store.user? userId = some user ∧
        Store.fitsColumn userId = true) ∧ user.id = userId ∧ request.key = key ∧
      reply = .receipt receipt ∧ Orders.Serving context desk user request receipt after.store := by
  rcases key?_eq_some keyed with ⟨request, key_eq, rfl | rfl⟩
  · have fits := Service.fits_of_userById ran
    rcases asking_ok ran with ⟨receipt, served, reply_eq⟩
    rcases Orders.create_ok served with ⟨user, found, serving⟩
    have named : user.id = userId := by simpa using List.find?_some found
    exact ⟨user, request, receipt, ⟨found, fits⟩, named, key_eq, reply_eq, serving⟩
  · have fits := Service.fits_of_userById ran
    rcases asking_ok ran with ⟨receipt, served, reply_eq⟩
    rcases Orders.createAfterMiss_ok served with ⟨user, found, serving⟩
    have named : user.id = userId := by simpa using List.find?_some found
    exact ⟨user, request, receipt, ⟨found, fits⟩, named, key_eq, reply_eq, serving⟩

theorem ordering_atomic (keyed : operation.key? = some (userId, key)) :
    Service.Atomic operation.perform context desk fun _ _ => True := by
  rcases key?_eq_some keyed with ⟨request, -, rfl | rfl⟩
  · exact Service.userById_bind_atomic <|
      (Orders.create_atomic _ request).bind (fun _ => .pure _) fun _ _ _ => ⟨_, rfl, trivial⟩
  · exact Service.userById_bind_atomic <|
      (Orders.createAfterMiss_atomic _ request).bind (fun _ => .pure _)
        fun _ _ _ => ⟨_, rfl, trivial⟩

end Operation

namespace Orders

variable {context : Context} {last : Int} {store after : Store} {user : User}
  {request : OrderRequest} {receipt : Receipt}

theorem Ordered.binds (ordered : Ordered context last store (some user) request receipt after)
    (named : request.key ≠ "") :
    store.binding? user.id OrderRequest.endpoint request.key = none ∧
      after.Binds user.id request.key receipt.order.order.id receipt.order.order.number := by
  rcases ordered with ⟨_, purchase, ⟨⟩, -, purchasing, placing⟩
  rw [← purchasing.key_eq] at named ⊢
  cases placing with
  | @intro draft settlement between item drafting item_eq settled unbound itemAllowed =>
    have id_eq := settled.framed.id_eq
    rw [Purchase.bindings_of_named named]
    refine ⟨unbound named, settlement.order, Store.boundOrder?_eq_some.mpr
      ⟨_, Store.binding?_append_self rfl rfl rfl rfl (unbound named), ?_⟩, rfl, rfl⟩
    rw [← id_eq]
    exact Store.order?_append_self rfl (id_eq ▸ drafting.fresh)

theorem Ordered.rows (ordered : Ordered context last store (some user) request receipt after) :
    (∃ order, after.orders = store.orders ++ [order]) ∧
      (∃ entries, entries.length ≤ 1 ∧ after.ledger = store.ledger ++ entries) ∧
      ∃ payments, payments.length ≤ 1 ∧ after.orderPayments = store.orderPayments ++ payments := by
  rcases ordered with ⟨_, purchase, ⟨⟩, -, purchasing, placing⟩
  cases placing with
  | intro drafting item_eq settled unbound itemAllowed =>
    refine ⟨⟨_, rfl⟩, ?_, ?_⟩
    · cases settled with
      | free | collected => exact ⟨[], Nat.zero_le 1, (List.append_nil _).symm⟩
      | charged priced byWallet posting => exact ⟨[_], Nat.le_refl 1, posting.ledger_eq⟩
    · refine ⟨_, ?_, rfl⟩
      cases settled with
      | free | charged => exact Nat.zero_le 1
      | collected => exact Nat.le_refl 1

end Orders

/-! ## Keys that are unbound -/

namespace Service

variable {α β : Type}

/-- Two runs have ended alike but for the bindings of keys. -/
def SameButKeys (first second : Except Failure α × Desk) : Prop :=
  second.1 = first.1 ∧ second.2.store = first.2.store.rekeyed second.2.store.keyBindings

theorem Alike.sameButKeys {userId : Int} {first second : Except Failure α × Desk}
    (alike : Alike userId first second) : SameButKeys first second := by
  cases alike with
  | intro answer desks => exact ⟨rfl, desks.stores.second_eq⟩

theorem SameButKeys.refl (ran : Except Failure α × Desk) : SameButKeys ran ran :=
  ⟨rfl, rfl⟩

theorem SameButKeys.told {context : Context} {desk : Desk} {first second : Service α}
    (same : SameButKeys (first.run context desk) (second.run context desk)) (tell : α → β) :
    SameButKeys ((first >>= fun value => pure (tell value)).run context desk)
      ((second >>= fun value => pure (tell value)).run context desk) := by
  rw [run_bind, run_bind]
  generalize first.run context desk = ended at same ⊢
  generalize second.run context desk = ended' at same ⊢
  rcases ended with ⟨answer, after⟩
  rcases ended' with ⟨answer', after'⟩
  rcases same with ⟨⟨⟩, stores⟩
  cases answer <;> exact ⟨rfl, stores⟩

end Service

namespace Orders

variable {context : Context} {desk : Desk} {user : User} {request : OrderRequest}

theorem run_placing_of_none :
    (placing none request).run context desk = (.error (.broken .absent), desk) :=
  rfl

theorem run_placing_of_unbound (complete : desk.store.dropped = [])
    (caller_fits : Store.fitsColumn user.id = true) (named : request.key ≠ "")
    (unbound : desk.store.binding? user.id OrderRequest.endpoint request.key = none) :
    (placing (some user) request).run context desk =
      let served := (placing (some user) request.keyless).run context desk
      (served.1, served.2.binding user.id request.key context.now served.1) := by
  rw [run_placing, run_placing, OrderRequest.method_keyless]
  cases request.method with
  | error refusal => rfl
  | ok method => exact run_place_of_unbound complete caller_fits named unbound

theorem createAfterMiss_sameButKeys {caller : Option User} (complete : desk.store.dropped = [])
    (named : request.key ≠ "")
    (unbound : ∀ user, caller = some user → Store.fitsColumn user.id = true ∧
      desk.store.binding? user.id OrderRequest.endpoint request.key = none) :
    Service.SameButKeys ((createAfterMiss caller request.keyless).run context desk)
      ((createAfterMiss caller request).run context desk) := by
  have placed : Service.SameButKeys ((placing caller request.keyless).run context desk)
      ((placing caller request).run context desk) := by
    cases caller with
    | none =>
      rw [run_placing_of_none, run_placing_of_none]
      exact .refl _
    | some user =>
      rcases unbound user rfl with ⟨caller_fits, unbound⟩
      rw [run_placing_of_unbound complete caller_fits named unbound]
      generalize (placing (some user) request.keyless).run context desk = served
      rcases served with ⟨answer, after⟩
      cases answer <;> exact ⟨rfl, rfl⟩
  rcases run_countCreation request (placing caller request) context desk with ⟨metrics, counted⟩
  rcases run_countCreation request.keyless (placing caller request.keyless) context desk with
    ⟨metrics', countedKeyless⟩
  rw [createAfterMiss_eq, createAfterMiss_eq, counted, countedKeyless]
  exact placed

end Orders

def Operation.keyless : Operation → Operation
  | create callerId request => create callerId request.keyless
  | createAfterMiss callerId request => createAfterMiss callerId request.keyless
  | operation => operation

theorem Operation.sameButKeys {context : Context} {desk : Desk} {operation : Operation}
    {userId : Int} {key : String} (complete : desk.store.dropped = [])
    (keyed : operation.key? = some (userId, key)) (named : key ≠ "")
    (unbound : desk.store.binding? userId OrderRequest.endpoint key = none) :
    Service.SameButKeys (operation.keyless.perform.run context desk)
      (operation.perform.run context desk) := by
  have late {request : OrderRequest} (key_eq : request.key = key) :
      Service.SameButKeys ((createAfterMiss (some userId) request.keyless).perform.run context desk)
        ((createAfterMiss (some userId) request).perform.run context desk) := by
    subst key_eq
    rw [perform, perform, Service.run_bind, Service.run_bind]
    rcases looked : (Service.userById (some userId)).run context desk with ⟨found, between⟩
    cases found with
    | error failure => exact .refl _
    | ok caller =>
      rcases Service.run_query_eq_ok.mp looked with ⟨⟨_, read⟩, rfl⟩
      rcases Work.user?_eq_ok.mp read with ⟨allowed, present, -⟩
      refine (Orders.createAfterMiss_sameButKeys complete named ?_).told _
      rintro user rfl
      have same : user.id = userId := by simpa using List.find?_some present
      subst same
      exact ⟨allowed.fit _ (List.mem_singleton_self _), unbound⟩
  rcases key?_eq_some keyed with ⟨request, key_eq, rfl | rfl⟩
  · have missed : request.key ≠ "" →
        desk.store.boundOrder? userId OrderRequest.endpoint request.key = none :=
      fun _ => key_eq ▸ Store.boundOrder?_eq_none_of_unbound unbound
    rw [keyless, run_create_of_unbound complete missed,
      run_create_of_unbound complete fun blank => absurd OrderRequest.key_keyless blank]
    exact late key_eq
  · exact late key_eq

/-! ## Steps that order with a key -/

namespace Step

variable {step early late : Step} {userId : Int} {key : String}

/-- What becomes of a step whose call orders with a key. -/
inductive Served (step : Step) (userId : Int) (key : String) : Prop
  | failed {failure : Failure} (answered : step.answer = .error failure)
      (untouched : step.desk.Untouched step.after)
  | recalled {receipt : Receipt} (answered : step.answer = .ok (.receipt receipt))
      (same : step.after.store = step.desk.store)
      (binds : step.desk.store.Binds userId key receipt.order.order.id receipt.order.order.number)
  | placed {user : User} {request : OrderRequest} {receipt : Receipt}
      (answered : step.answer = .ok (.receipt receipt))
      (ordered : Orders.Ordered step.call.context step.desk.lastNumber step.desk.store (some user)
        request receipt step.after.store)
      (unbound : step.desk.store.binding? userId OrderRequest.endpoint key = none)
      (binds : step.after.store.Binds userId key receipt.order.order.id receipt.order.order.number)

theorem served (keyed : step.call.operation.key? = some (userId, key)) (named : key ≠ "") :
    step.Served userId key := by
  cases answered : step.answer with
  | error failure =>
    have atomic : Service.Atomic step.call.operation.perform step.call.context step.desk _ :=
      Operation.ordering_atomic keyed
    rcases atomic with untouched | ⟨reply, replied, -⟩
    · exact .failed answered untouched
    · cases answered.symm.trans replied
  | ok reply =>
    have ran : step.call.operation.perform.run step.call.context step.desk =
        (.ok reply, step.after) := Prod.ext answered rfl
    rcases Operation.ordering_ok keyed ran with
      ⟨user, request, receipt, -, rfl, rfl, rfl, serving⟩
    cases serving with
    | @recalled order bound receipt_eq same =>
      subst receipt_eq
      exact .recalled answered same ⟨order, bound, rfl, rfl⟩
    | ordered ordered =>
      rcases ordered.binds named with ⟨unbound, binds⟩
      exact .placed answered ordered unbound binds

namespace Served

theorem store_eq_of_binds {id : Int} {number : String} (served : step.Served userId key)
    (binds : step.desk.store.Binds userId key id number) :
    step.after.store = step.desk.store := by
  cases served with
  | failed answered untouched => exact untouched.store_eq
  | recalled answered same => exact same
  | placed answered ordered unbound =>
    rcases binds with ⟨order, found, -⟩
    rw [Store.boundOrder?_eq_none_of_unbound unbound] at found
    cases found

theorem of_answer {reply : Reply} (served : step.Served userId key)
    (answered : step.answer = .ok reply) :
    ∃ receipt, reply = .receipt receipt ∧
      step.after.store.Binds userId key receipt.order.order.id receipt.order.order.number := by
  cases served with
  | failed failed => cases failed.symm.trans answered
  | @recalled receipt replied same binds =>
    cases replied.symm.trans answered
    exact ⟨receipt, rfl, same ▸ binds⟩
  | @placed user request receipt replied ordered unbound binds =>
    cases replied.symm.trans answered
    exact ⟨receipt, rfl, binds⟩

theorem answered_of_changed (served : step.Served userId key)
    (changed : step.after.store ≠ step.desk.store) :
    ∃ receipt, step.answer = .ok (.receipt receipt) := by
  cases served with
  | failed answered untouched => exact absurd untouched.store_eq changed
  | recalled answered | placed answered => exact ⟨_, answered⟩

theorem length_added_le (served : step.Served userId key) :
    (step.added Store.orders).length ≤ 1 ∧ (step.added Store.ledger).length ≤ 1 ∧
      (step.added Store.orderPayments).length ≤ 1 := by
  have of_same (same : step.after.store = step.desk.store) :
      (step.added Store.orders).length ≤ 1 ∧ (step.added Store.ledger).length ≤ 1 ∧
        (step.added Store.orderPayments).length ≤ 1 := by
    simp [added_eq_nil same]
  cases served with
  | failed answered untouched => exact of_same untouched.store_eq
  | recalled answered same => exact of_same same
  | placed answered ordered =>
    rcases ordered.rows with ⟨⟨order, orders⟩, ⟨entries, one, ledger⟩, payments, one', added⟩
    rw [added_append orders, added_append ledger, added_append added]
    exact ⟨Nat.le_refl 1, one, one'⟩

end Served

/-- At most one of the steps that order with a key adds to a table: an earlier one that has been
answered leaves the key bound. -/
theorem length_added_le_one {Row : Type} {rows : Store → List Row} {steps : List Step}
    (served : ∀ step ∈ steps, step.Served userId key)
    (bound : steps.Pairwise fun early late => ∀ receipt, early.answer = .ok (.receipt receipt) →
      late.desk.store.Binds userId key receipt.order.order.id receipt.order.order.number)
    (each : ∀ step ∈ steps, (step.added rows).length ≤ 1) :
    (steps.flatMap (·.added rows)).length ≤ 1 := by
  induction steps with
  | nil => exact Nat.zero_le 1
  | cons early rest induction =>
    rcases List.pairwise_cons.mp bound with ⟨later, bound⟩
    have servedLater := fun step member => served step (List.mem_cons_of_mem early member)
    have eachLater := fun step member => each step (List.mem_cons_of_mem early member)
    rw [List.flatMap_cons, List.length_append]
    by_cases same : early.after.store = early.desk.store
    · rw [added_eq_nil same, List.length_nil, Nat.zero_add]
      exact induction servedLater bound eachLater
    · rcases (served early (List.mem_cons_self ..)).answered_of_changed same with
        ⟨receipt, answered⟩
      have none_later : rest.flatMap (·.added rows) = [] :=
        List.flatMap_eq_nil_iff.mpr fun late member => added_eq_nil <|
          (servedLater late member).store_eq_of_binds (later late member receipt answered)
      rw [none_later, List.length_nil, Nat.add_zero]
      exact each early (List.mem_cons_self ..)

def Repeats (early late : Step) : Prop :=
  ∀ first second, early.answer = .ok (.receipt first) → late.answer = .ok (.receipt second) →
    second.order.order.id = first.order.order.id ∧
      second.order.order.number = first.order.order.number ∧
      late.after.store = late.desk.store

end Step

/-! ## Runs -/

namespace Desk

variable {desk : Desk} {calls : List Call} {userId : Int} {key : String}

def keyedSteps (desk : Desk) (calls : List Call) (userId : Int) (key : String) : List Step :=
  (desk.steps calls).filter fun step => step.call.operation.key? = some (userId, key)

theorem served_of_mem (named : key ≠ "") {step : Step}
    (member : step ∈ desk.keyedSteps calls userId key) : step.Served userId key :=
  Step.served (by simpa using (List.mem_filter.mp member).2) named

theorem keyedSteps_bound (named : key ≠ "") :
    (desk.keyedSteps calls userId key).Pairwise fun early late =>
      ∀ receipt, early.answer = .ok (.receipt receipt) →
        late.desk.store.Binds userId key receipt.order.order.id receipt.order.order.number := by
  refine List.pairwise_filter.mpr (steps_pairwise
    (fun early store => early.call.operation.key? = some (userId, key) → ∀ receipt,
      early.answer = .ok (.receipt receipt) →
        store.Binds userId key receipt.order.order.id receipt.order.order.number) ?_ ?_ ?_)
  · intro early call _ last store after bound committed keyed receipt answered
    exact committed.binds_stays (bound keyed receipt answered)
  · intro early _ keyed receipt answered
    rcases (Step.served keyed named).of_answer answered with ⟨_, ⟨⟩, binds⟩
    exact binds
  · intro early late bound keyed _
    exact bound (by simpa using keyed)

theorem unbound_of_failed (named : key ≠ "")
    (unbound : desk.store.binding? userId OrderRequest.endpoint key = none)
    (failed : ∀ step ∈ desk.keyedSteps calls userId key,
      ∃ failure, step.answer = .error failure) :
    (desk.afterAll calls).store.binding? userId OrderRequest.endpoint key = none := by
  induction calls generalizing desk with
  | nil => exact unbound
  | cons call rest induction =>
    have next : (desk.after call).store.binding? userId OrderRequest.endpoint key = none := by
      rcases desk.after_commits call with same | committed
      · rwa [same]
      · by_cases keyed : call.operation.key? = some (userId, key)
        · rcases failed ⟨desk, call⟩ (List.mem_filter.mpr ⟨List.mem_cons_self .., by simpa⟩) with
            ⟨failure, answered⟩
          have served : (Step.mk desk call).Served userId key := Step.served keyed named
          cases served with
          | failed _ untouched =>
            rw [← unbound]
            exact congrArg (Store.binding? · userId OrderRequest.endpoint key) untouched.store_eq
          | recalled replied | placed replied => cases answered.symm.trans replied
        · rw [committed.keyBindings.binding?_of_ne keyed]
          exact unbound
    refine induction next fun step member => failed step ?_
    rcases List.mem_filter.mp member with ⟨later, keyed⟩
    exact List.mem_filter.mpr ⟨List.mem_cons_of_mem _ later, keyed⟩

end Desk

def Store.forgetting (store : Store) (userId : Int) (key : String) : Store :=
  store.rekeyed (store.keyBindings.filter fun binding =>
    !(binding.userId == userId && binding.key == key))

theorem Store.alike_forgetting {store : Store} {userId other : Int} {key : String}
    (different : other ≠ userId) : Alike other (store.forgetting userId key) store where
  second_eq := rfl
  boundId?_eq endpoint text := by
    rw [boundId?, boundId?, binding?, binding?, forgetting, rekeyed, List.find?_filter]
    congr 2
    funext binding
    by_cases own : binding.userId = userId
    · have foreign : (binding.userId == other) = false := by simpa [own] using different.symm
      simp [foreign]
    · have kept : (binding.userId == userId) = false := by simpa using own
      simp only [kept, Bool.false_and, Bool.not_false, true_and, Bool.decide_eq_true]

namespace Desk

def forgetting (desk : Desk) (userId : Int) (key : String) : Desk :=
  { desk with store := desk.store.forgetting userId key }

structure OrderedOnce (desk : Desk) (calls : List Call) (userId : Int) (key : String) : Prop where
  /-- They make one order at the most, … -/
  orders : ((desk.keyedSteps calls userId key).flatMap (·.added Store.orders)).length ≤ 1
  /-- … with one movement … -/
  ledger : ((desk.keyedSteps calls userId key).flatMap (·.added Store.ledger)).length ≤ 1
  /-- … and one payment. -/
  payments : ((desk.keyedSteps calls userId key).flatMap (·.added Store.orderPayments)).length ≤ 1
  /-- One that fails leaves all rows as they are, … -/
  failed : ∀ step ∈ desk.keyedSteps calls userId key, ∀ failure,
    step.answer = .error failure → step.desk.Untouched step.after
  /-- … so that the key stays unbound as long as they fail, … -/
  unbound : desk.store.binding? userId OrderRequest.endpoint key = none →
    (∀ step ∈ desk.keyedSteps calls userId key, ∃ failure, step.answer = .error failure) →
      (desk.afterAll calls).store.binding? userId OrderRequest.endpoint key = none
  /-- … and as long as it is, they are served as they would be without it. -/
  unhindered : desk.store.dropped = [] → ∀ step ∈ desk.keyedSteps calls userId key,
    step.desk.store.binding? userId OrderRequest.endpoint key = none →
      Service.SameButKeys
        ((Call.mk step.call.operation.keyless step.call.context).outcome step.desk)
        (step.call.outcome step.desk)
  /-- One that is answered is told of the order that the key is bound to by then. -/
  answered : ∀ step ∈ desk.keyedSteps calls userId key, ∀ reply, step.answer = .ok reply →
    ∃ receipt, reply = .receipt receipt ∧
      step.after.store.Binds userId key receipt.order.order.id receipt.order.order.number
  /-- All that are answered are told of the same order, and all but the first change no table. -/
  repeated : (desk.keyedSteps calls userId key).Pairwise Step.Repeats
  /-- They leave the keys of other users alone, … -/
  others : ∀ step ∈ desk.keyedSteps calls userId key, ∀ other, other ≠ userId → ∀ text,
    step.after.store.binding? other OrderRequest.endpoint text =
      step.desk.store.binding? other OrderRequest.endpoint text
  /-- … who are served, whatever their keys, as if this one had never been bound. -/
  blind : ∀ step ∈ desk.steps calls, ∀ other text,
    step.call.operation.key? = some (other, text) → other ≠ userId →
      Service.SameButKeys (step.call.outcome (step.desk.forgetting userId key))
        (step.call.outcome step.desk)

/-- In every run, for every user and every key, the user's calls with the key order once. -/
theorem ordered_once (desk : Desk) (calls : List Call) (userId : Int) {key : String}
    (named : key ≠ "") : desk.OrderedOnce calls userId key where
  orders := Step.length_added_le_one (fun _ => served_of_mem named) (keyedSteps_bound named)
    fun _ member => (served_of_mem named member).length_added_le.1
  ledger := Step.length_added_le_one (fun _ => served_of_mem named) (keyedSteps_bound named)
    fun _ member => (served_of_mem named member).length_added_le.2.1
  payments := Step.length_added_le_one (fun _ => served_of_mem named) (keyedSteps_bound named)
    fun _ member => (served_of_mem named member).length_added_le.2.2
  failed step member failure answered := by
    cases served_of_mem named member with
    | failed _ untouched => exact untouched
    | recalled replied | placed replied => cases answered.symm.trans replied
  unbound := unbound_of_failed named
  unhindered complete step member unbound := by
    rcases List.mem_filter.mp member with ⟨ran, keyed⟩
    have complete : step.desk.store.dropped = [] :=
      steps_induction (fun store => store.dropped = []) complete
        (fun _ _ _ _ _ complete committed => committed.dropped_eq.trans complete) step ran
    exact Operation.sameButKeys complete (by simpa using keyed) named unbound
  answered step member reply := (served_of_mem named member).of_answer
  repeated := by
    refine (keyedSteps_bound named).imp_of_mem ?_
    intro early late _ member bound first second answered repeated
    have binds := bound first answered
    have served := served_of_mem named member
    have same := served.store_eq_of_binds binds
    rcases served.of_answer repeated with ⟨_, ⟨⟩, bindsStill⟩
    rw [same] at bindsStill
    rcases binds.unique bindsStill with ⟨id_eq, number_eq⟩
    exact ⟨id_eq, number_eq, same⟩
  others step member other different text := by
    have keyed : step.call.operation.key? = some (userId, key) := by
      simpa using (List.mem_filter.mp member).2
    rcases step.commits with same | committed
    · rw [same]
    · refine committed.keyBindings.binding?_of_ne fun foreign => different ?_
      exact (congrArg Prod.fst (Option.some.inj (keyed.symm.trans foreign))).symm
  blind step member other text keyed different := by
    have alike : Desk.Alike other (step.desk.forgetting userId key) step.desk :=
      ⟨rfl, Store.alike_forgetting different⟩
    exact (Operation.blind_of_keyed keyed step.call.context alike).sameButKeys

def sampleRetries : List Call := [
  sampleCall 10 (.create (some 1) { planId := some 1, idempotencyKey := some "k1" }),
  sampleCall 20 (.create (some 1) { planId := some 2, idempotencyKey := some " k1 " }),
  sampleCall 30 (.create (some 2) { planId := some 2, idempotencyKey := some "k1" }),
  sampleCall 40 (.create (some 1) { planId := none, idempotencyKey := some "k1" })]

set_option maxRecDepth 4000 in
theorem sample_ordered_once :
    sample.OrderedOnce sampleRetries 1 "k1" ∧
      (sample.keyedSteps sampleRetries 1 "k1").map (·.answer.toOption.isSome) =
        [false, true, true] ∧
      ((sample.keyedSteps sampleRetries 1 "k1").flatMap (·.added Store.orders)).map (·.id) = [2] :=
  ⟨ordered_once sample sampleRetries 1 (by decide), rfl, rfl⟩

end Desk

end OrderDesk
