import OrderDesk.Proofs.Order.Binding

/-!
Requests that repeat a key. A bound key is answered with its order as it stands by now; of all that
such a request asks for only the payment method is looked at before.
-/

namespace OrderDesk

def Store.receipt (store : Store) (context : Context) (order : Order) : Receipt :=
  ⟨store.detail order, Purchase.shownBalance context store order.userId, none⟩

namespace Work

variable {context : Context} {store after : Store}

theorem children_eq_ok {orders : List Order} {found : Children}
    (done : children orders context store = .ok (found, after)) :
    after = store ∧ ∀ order ∈ orders, found.detail order = store.detail order := by
  rw [children, ite_eq_ok] at done
  rcases done with ⟨none, done⟩ | ⟨-, done⟩
  · rcases pure_eq_ok.mp done with ⟨-, rfl⟩
    simp [List.isEmpty_iff.mp none]
  · rcases statement_bind_eq_ok.mp done with ⟨-, done⟩
    rcases statement_bind_eq_ok.mp done with ⟨-, done⟩
    rcases statement_bind_eq_ok.mp done with ⟨-, done⟩
    rw [get_bind, pure_eq_ok] at done
    rcases done with ⟨rfl, rfl⟩
    exact ⟨rfl, fun order member => store.children_detail (List.mem_map_of_mem member)⟩

theorem details_eq_ok {orders : List Order} {shown : List OrderDetail}
    (done : details orders context store = .ok (shown, after)) :
    after = store ∧ shown = orders.map store.detail := by
  rcases bind_eq_ok.mp done with ⟨found, _, read, viewed⟩
  rcases children_eq_ok read with ⟨rfl, grouped⟩
  rcases pure_eq_ok.mp viewed with ⟨rfl, rfl⟩
  exact ⟨rfl, List.map_congr_left grouped⟩

theorem adminDetails_eq_ok {orders : List Order} {shown : List AdminOrderDetail}
    (done : adminDetails orders context store = .ok (shown, after)) :
    after = store ∧ shown = orders.map store.adminDetail := by
  rcases bind_eq_ok.mp done with ⟨found, _, read, viewed⟩
  rcases children_eq_ok read with ⟨rfl, grouped⟩
  rw [ite_eq_ok, statement_bind_eq_ok, get_bind] at viewed
  rcases viewed with ⟨none, viewed⟩ | ⟨-, -, viewed⟩
  · rcases pure_eq_ok.mp viewed with ⟨rfl, rfl⟩
    simp [List.isEmpty_iff.mp none]
  · rcases pure_eq_ok.mp viewed with ⟨rfl, rfl⟩
    refine ⟨rfl, List.map_congr_left fun order member => ?_⟩
    rw [grouped order member, Store.adminDetail]

theorem adminDetail_eq_ok {order : Order} {shown : AdminOrderDetail}
    (done : adminDetail order context store = .ok (shown, after)) :
    shown = store.adminDetail order := by
  rcases bind_eq_ok.mp done with ⟨found, _, read, viewed⟩
  rcases children_eq_ok read with ⟨rfl, grouped⟩
  rw [statement_bind_eq_ok, get_bind] at viewed
  rcases (pure_eq_ok.mp viewed.2).1 with rfl
  rw [grouped order (List.mem_singleton_self order), Store.adminDetail]

theorem receipt_eq_ok {order : Order} {receipt : Receipt}
    (done : Work.receipt order context store = .ok (receipt, after)) :
    receipt = store.receipt context order := by
  rcases bind_eq_ok.mp done with ⟨balance, _, looked, done⟩
  rcases balance_eq_ok.mp looked with ⟨-, rfl, rfl⟩
  rcases bind_eq_ok.mp done with ⟨detail, _, shown, done⟩
  rcases bind_eq_ok.mp shown with ⟨found, between, read, viewed⟩
  rcases (pure_eq_ok.mp viewed).1 with rfl
  rw [(children_eq_ok read).2 order (List.mem_singleton_self order)] at done
  exact (pure_eq_ok.mp done).1.symm

theorem boundOrder?_eq_ok {userId : Int} {endpoint key : String} {found : Option Order} :
    boundOrder? userId endpoint key context store = .ok (found, after) ↔
      Allowed context store [.orders, .keyBindings] [userId] ∧
        store.boundOrder? userId endpoint key = found ∧ store = after := by
  rw [boundOrder?, statement_bind_eq_ok, get_bind, pure_eq_ok]

end Work

namespace Orders

variable {context : Context} {desk after : Desk} {userId : Int} {key : String} {order : Order}
  {request : OrderRequest}

/-! ## Looking up a key -/

theorem run_replay?_of_blank : (replay? userId "").run context desk = (.ok none, desk) :=
  rfl

theorem replay?_ok {found : Option Receipt}
    (ran : (replay? userId key).run context desk = (.ok found, after)) :
    desk = after ∧
      (key = "" ∧ found = none ∨ key ≠ "" ∧
        found = (desk.store.boundOrder? userId OrderRequest.endpoint key).map
          (desk.store.receipt context)) := by
  have same : desk = after := by
    have quiet := quiet_replay? userId key context desk
    rw [ran] at quiet
    exact quiet.symm
  refine ⟨same, ?_⟩
  by_cases named : key = ""
  · subst named
    cases ran
    exact .inl ⟨rfl, rfl⟩
  · refine .inr ⟨named, ?_⟩
    rw [replay?, if_neg named] at ran
    rcases Service.run_query_bind_eq_ok.mp ran with ⟨bound, ⟨_, looked⟩, ran⟩
    rcases Work.boundOrder?_eq_ok.mp looked with ⟨-, rfl, -⟩
    cases present : desk.store.boundOrder? userId OrderRequest.endpoint key with
    | none =>
      rw [present] at ran
      exact (Service.run_pure_eq_ok.mp ran).1.symm
    | some order =>
      rw [present] at ran
      rcases Service.run_query_bind_eq_ok.mp ran with ⟨receipt, ⟨_, read⟩, ran⟩
      rcases Service.run_pure_eq_ok.mp ran with ⟨rfl, -⟩
      rw [Work.receipt_eq_ok read]
      rfl

theorem run_replay?_of_unbound (complete : desk.store.dropped = [])
    (caller_fits : Store.fitsColumn userId = true)
    (unbound : key ≠ "" → desk.store.boundOrder? userId OrderRequest.endpoint key = none) :
    (replay? userId key).run context desk = (.ok none, desk) := by
  have allowed : Work.Allowed { context with deadlinePassed := false } desk.store
      [.orders, .keyBindings] [userId] :=
    ⟨rfl, by simp [complete], by simpa using caller_fits⟩
  rw [replay?]
  split
  · rfl
  · next named =>
    rw [Service.run_bind, Service.run_query_ok (Work.boundOrder?_eq_ok.mpr ⟨allowed, rfl, rfl⟩),
      unbound named]
    rfl

theorem run_replay?_of_bound (intact : desk.store.Intact) (fit : desk.store.KeysFit)
    (named : key ≠ "")
    (bound : desk.store.boundOrder? userId OrderRequest.endpoint key = some order) :
    (replay? userId key).run context desk =
      (.ok (some (desk.store.receipt context order)), desk) := by
  rcases Store.boundOrder?_eq_some.mp bound with ⟨binding, keyed, present⟩
  rcases Store.binding?_eq_some keyed with ⟨bindingPresent, rfl, -, -⟩
  rcases Store.order?_eq_some present with ⟨orderPresent, id_eq⟩
  have fits := fit binding bindingPresent
  have order_fits : Store.fitsColumn order.id = true := id_eq ▸ fits.2
  have allowed : Work.Allowed { context with deadlinePassed := false } desk.store
      [.orders, .keyBindings] [binding.userId] :=
    Work.allowed_of_intact intact rfl (by simpa using fits.1)
  have shown : Work.receipt order { context with deadlinePassed := false } desk.store =
      .ok (_, desk.store) :=
    Work.receipt_ok intact rfl order_fits (intact.owners order orderPresent)
  rw [replay?, if_neg named, Service.run_bind,
    Service.run_query_ok (Work.boundOrder?_eq_ok.mpr ⟨allowed, rfl, rfl⟩), bound]
  dsimp only
  rw [Service.run_bind, Service.run_query_ok shown]
  rfl

/-! ## Requests with a bound key -/

theorem run_countCreation (request : OrderRequest) (service : Service Receipt) (context : Context)
    (desk : Desk) :
    ∃ metrics, (countCreation request service).run context desk =
      ((service.run context desk).1, { (service.run context desk).2 with metrics }) :=
  ⟨_, Service.run_sampled⟩

theorem run_opening {user : User} :
    (opening (some user) request).run context desk =
      ((Failure.refusing request.method).map (user.id, ·), desk) := by
  rw [opening, Service.run_bind, Service.run_lift]
  cases request.method <;> rfl

theorem opening_ok {caller : Option User} {opened : Int × PaymentMethod}
    (ran : (opening caller request).run context desk = (.ok opened, after)) :
    ∃ user, caller = some user ∧ opened.1 = user.id ∧ request.method = .ok opened.2 ∧
      desk = after := by
  cases caller with
  | none => cases ran
  | some user =>
    rcases Service.run_bind_eq_ok.mp ran with ⟨method, _, chosen, ran⟩
    rcases Service.run_lift_eq_ok.mp chosen with ⟨named, rfl⟩
    rcases Service.run_pure_eq_ok.mp ran with ⟨rfl, rfl⟩
    exact ⟨user, rfl, rfl, Failure.refusing_eq_ok.mp named, rfl⟩

theorem run_create_of_bound {user : User} {order : Order} (intact : desk.store.Intact)
    (fit : desk.store.KeysFit) (named : request.key ≠ "")
    (bound : desk.store.boundOrder? user.id OrderRequest.endpoint request.key = some order) :
    ∃ metrics, (create (some user) request).run context desk =
      ((Failure.refusing request.method).map fun _ => desk.store.receipt context order,
        { desk with metrics }) := by
  have looked : (replay? user.id request.key).run context desk =
      (.ok (some (desk.store.receipt context order)), desk) :=
    run_replay?_of_bound intact fit named bound
  rcases run_countCreation request _ context desk with ⟨metrics, counted⟩
  refine ⟨metrics, counted.trans ?_⟩
  rw [Service.run_bind, run_opening]
  cases Failure.refusing request.method with
  | error failure => rfl
  | ok method =>
    dsimp only [Except.map]
    rw [Service.run_bind, looked]
    rfl

end Orders

namespace Service

variable {context : Context} {desk : Desk}

theorem run_userById (complete : desk.store.dropped = []) {userId : Int}
    (fits : Store.fitsColumn userId = true) :
    (userById (some userId)).run context desk = (.ok (desk.store.user? userId), desk) := by
  have allowed : Work.Allowed { context with deadlinePassed := false } desk.store [.users]
      [userId] := ⟨rfl, by simp [complete], by simpa using fits⟩
  exact run_query_ok (Work.user?_eq_ok.mpr ⟨allowed, rfl, rfl⟩)

theorem fits_of_userById {α : Type} {userId : Int} {next : Option User → Service α} {value : α}
    {after : Desk}
    (ran : (userById (some userId) >>= next).run context desk = (.ok value, after)) :
    Store.fitsColumn userId = true := by
  rcases run_query_bind_eq_ok.mp ran with ⟨caller, ⟨_, read⟩, -⟩
  exact (Work.user?_eq_ok.mp read).1.fit userId (List.mem_singleton_self userId)

end Service

theorem Operation.run_create_of_bound (context : Context) {desk : Desk} {user : User}
    {request : OrderRequest} {order : Order} (intact : desk.store.Intact) (fit : desk.store.KeysFit)
    (present : desk.store.user? user.id = some user) (named : request.key ≠ "")
    (bound : desk.store.boundOrder? user.id OrderRequest.endpoint request.key = some order) :
    ∃ metrics, (create (some user.id) request).perform.run context desk =
      ((Failure.refusing request.method).map fun _ => .receipt (desk.store.receipt context order),
        { desk with metrics }) := by
  rcases Store.boundOrder?_eq_some.mp bound with ⟨binding, keyed, -⟩
  rcases Store.binding?_eq_some keyed with ⟨member, owner, -, -⟩
  have caller_fits : Store.fitsColumn user.id = true := owner ▸ (fit binding member).1
  rcases Orders.run_create_of_bound intact fit named bound with ⟨metrics, answered⟩
  refine ⟨metrics, ?_⟩
  rw [perform, Service.run_bind, Service.run_userById intact.complete caller_fits, present]
  dsimp only
  rw [Service.run_bind, answered]
  cases Failure.refusing request.method <;> rfl

namespace Desk

/-- Wherever a run has led, a request that repeats a bound key is answered with the order of the key
unless its payment method is at fault. It uses up no order number and changes no row. -/
theorem bound_key_answered {desk : Desk} (intact : desk.store.Intact) (fit : desk.store.KeysFit)
    (calls : List Call) (context : Context) {userId : Int} {user : User} {request : OrderRequest}
    {order : Order} (present : (desk.afterAll calls).store.user? userId = some user)
    (named : request.key ≠ "")
    (bound : (desk.afterAll calls).store.boundOrder? userId OrderRequest.endpoint request.key =
      some order) :
    ∃ metrics, (Call.mk (.create (some userId) request) context).outcome (desk.afterAll calls) =
      ((Failure.refusing request.method).map fun _ =>
          .receipt ((desk.afterAll calls).store.receipt context order),
        { desk.afterAll calls with metrics }) := by
  have same : user.id = userId := by simpa using List.find?_some present
  subst same
  exact Operation.run_create_of_bound context (afterAll_intact intact calls)
    (afterAll_keysFit fit calls) present named bound

def sampleKeyed : List Call :=
  [sampleCall 10 (.create (some 1) { planId := some 2, idempotencyKey := some "k1" })]

def sampleRetry (paymentMethod : Option String) : OrderRequest where
  planId := none
  paymentMethod := paymentMethod
  idempotencyKey := some " k1 "

set_option maxRecDepth 4000 in
theorem sample_retry_answered :
    ∃ order metrics, order.id = 2 ∧
      (sampleCall 20 (.create (some 1) (sampleRetry none))).outcome (sample.afterAll sampleKeyed) =
        (.ok (.receipt ((sample.afterAll sampleKeyed).store.receipt
            { now := .ofSeconds 20 } order)),
          { sample.afterAll sampleKeyed with metrics }) := by
  have intact : sample.store.Intact := ⟨rfl, by decide⟩
  have fit : sample.store.KeysFit := nofun
  have found : ((sample.afterAll sampleKeyed).store.boundOrder? 1 OrderRequest.endpoint
      (sampleRetry none).key).map (·.id) = some 2 := rfl
  rcases Option.map_eq_some_iff.mp found with ⟨order, bound, id_eq⟩
  have present : (sample.afterAll sampleKeyed).store.user? 1 =
      some { id := 1, email := Demo.userEmail } := rfl
  rcases bound_key_answered intact fit sampleKeyed { now := .ofSeconds 20 } present (by decide)
    bound with ⟨metrics, answered⟩
  exact ⟨order, metrics, id_eq, answered⟩

set_option maxRecDepth 4000 in
theorem sample_retry_refused :
    ((sample.afterAll sampleKeyed).store.boundOrder? 1 OrderRequest.endpoint
        (sampleRetry (some "card")).key).map (·.id) = some 2 ∧
      ((sampleCall 20 (.create (some 1) (sampleRetry (some "card")))).outcome
        (sample.afterAll sampleKeyed)).1 =
          .error (.refused (.unsupportedPaymentMethod "card")) :=
  ⟨rfl, rfl⟩

end Desk

end OrderDesk
