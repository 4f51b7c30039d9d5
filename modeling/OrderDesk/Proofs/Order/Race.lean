import OrderDesk.Proofs.Order.Keyless

/-!
Requests that race with one key. A request that has found its key unbound goes on to place its
order; if another one has bound the key meanwhile, it ends with the order of the other, unless its
own order could not have been placed anyway.
-/

namespace OrderDesk

theorem OrderRequest.methodText_keyless {request : OrderRequest} :
    request.keyless.methodText = request.methodText := by
  rw [methodText, methodText, keyless]

theorem OrderRequest.method_keyless {request : OrderRequest} :
    request.keyless.method = request.method := by
  delta method
  rw [methodText_keyless]

theorem OrderRequest.method_error {request : OrderRequest} {refusal : Refusal}
    (unsupported : request.method = .error refusal) :
    refusal = .unsupportedPaymentMethod request.methodText := by
  delta method at unsupported
  split at unsupported
  · cases unsupported
  · cases unsupported
  · cases unsupported
    rfl

namespace Orders

variable {context : Context} {desk : Desk} {user : User} {request : OrderRequest}

def placing (caller : Option User) (request : OrderRequest) : Service Receipt := do
  let (userId, method) ← opening caller request
  place userId method request

theorem createAfterMiss_eq {caller : Option User} :
    createAfterMiss caller request = countCreation request (placing caller request) :=
  rfl

theorem run_placing :
    (placing (some user) request).run context desk =
      match request.method with
      | .ok method => (place user.id method request).run context desk
      | .error refusal => (.error (.refused refusal), desk) := by
  rw [placing, Service.run_bind, run_opening]
  cases request.method <;> rfl

theorem run_placing_of_bound {order : Order} (intact : desk.store.Intact)
    (fit : desk.store.KeysFit) (named : request.key ≠ "")
    (bound : desk.store.boundOrder? user.id OrderRequest.endpoint request.key = some order) :
    (placing (some user) request).run context desk =
      let served := (placing (some user) request.keyless).run context desk
      (recalled (desk.store.receipt context order) served.1,
        { desk with lastNumber := served.2.lastNumber }) := by
  rw [run_placing, run_placing, OrderRequest.method_keyless]
  cases chosen : request.method with
  | error refusal =>
    rcases OrderRequest.method_error chosen with rfl
    dsimp only [recalled]
    rw [if_neg nofun]
  | ok method => exact run_place_of_bound intact fit named bound

/-- A request that finds its key bound in the end answers with the order of the key if it could have
been served without. -/
theorem run_createAfterMiss_of_bound {order : Order} (intact : desk.store.Intact)
    (fit : desk.store.KeysFit) (named : request.key ≠ "")
    (bound : desk.store.boundOrder? user.id OrderRequest.endpoint request.key = some order) :
    ∃ metrics,
      let served := (createAfterMiss (some user) request.keyless).run context desk
      (createAfterMiss (some user) request).run context desk =
        (recalled (desk.store.receipt context order) served.1,
          { desk with lastNumber := served.2.lastNumber, metrics }) := by
  rcases run_countCreation request (placing (some user) request) context desk with
    ⟨metrics, counted⟩
  rcases run_countCreation request.keyless (placing (some user) request.keyless) context desk with
    ⟨_, countedKeyless⟩
  refine ⟨metrics, ?_⟩
  rw [createAfterMiss_eq, createAfterMiss_eq, counted, countedKeyless,
    run_placing_of_bound intact fit named bound]

theorem run_countCreation_congr {first second : Service Receipt}
    (same : first.run context desk = second.run context desk) :
    (countCreation request first).run context desk =
      (countCreation request second).run context desk := by
  rw [countCreation, Service.run_sampled, Service.run_sampled, same]

theorem map_recalled {Answer Reply : Type} {answer : Answer} {served : Except Failure Answer}
    {reply : Answer → Reply} :
    (recalled answer served).map reply = recalled (reply answer) (served.map reply) := by
  cases served with
  | ok _ => rfl
  | error failure =>
    by_cases clash : failure = .refused .uniquenessViolated <;> simp [recalled, Except.map, clash]

theorem run_create_of_unbound (complete : desk.store.dropped = [])
    (caller_fits : Store.fitsColumn user.id = true)
    (unbound : request.key ≠ "" →
      desk.store.boundOrder? user.id OrderRequest.endpoint request.key = none) :
    (create (some user) request).run context desk =
      (createAfterMiss (some user) request).run context desk := by
  refine run_countCreation_congr ?_
  rw [Service.run_bind, Service.run_bind, run_opening]
  cases Failure.refusing request.method with
  | error failure => rfl
  | ok method =>
    dsimp only [Except.map]
    rw [Service.run_bind, run_replay?_of_unbound complete caller_fits unbound]

end Orders

namespace Operation

variable {context : Context} {desk : Desk} {userId : Int} {request : OrderRequest}

theorem run_create_of_unbound (complete : desk.store.dropped = [])
    (unbound : request.key ≠ "" →
      desk.store.boundOrder? userId OrderRequest.endpoint request.key = none) :
    (create (some userId) request).perform.run context desk =
      (createAfterMiss (some userId) request).perform.run context desk := by
  rw [perform, perform, Service.run_bind, Service.run_bind]
  rcases looked : (Service.userById (some userId)).run context desk with ⟨found, between⟩
  cases found with
  | error failure => rfl
  | ok caller =>
    rcases Service.run_query_eq_ok.mp looked with ⟨⟨_, read⟩, rfl⟩
    rcases Work.user?_eq_ok.mp read with ⟨allowed, present, -⟩
    dsimp only
    rw [Service.run_bind, Service.run_bind]
    cases caller with
    | none => rfl
    | some user =>
      have same : user.id = userId := by simpa using List.find?_some present
      subst same
      have caller_fits := allowed.fit _ (List.mem_singleton_self _)
      rw [Orders.run_create_of_unbound complete caller_fits unbound]

theorem run_createAfterMiss (complete : desk.store.dropped = [])
    (caller_fits : Store.fitsColumn userId = true) :
    (createAfterMiss (some userId) request).perform.run context desk =
      let served := (Orders.createAfterMiss (desk.store.user? userId) request).run context desk
      (served.1.map .receipt, served.2) := by
  rw [perform, Service.run_bind, Service.run_userById complete caller_fits]
  dsimp only
  rw [Service.run_bind]
  rcases (Orders.createAfterMiss (desk.store.user? userId) request).run context desk with
    ⟨answer, after⟩
  cases answer <;> rfl

theorem run_createAfterMiss_of_bound (context : Context) {user : User} {order : Order}
    (intact : desk.store.Intact) (fit : desk.store.KeysFit)
    (present : desk.store.user? user.id = some user) (named : request.key ≠ "")
    (bound : desk.store.boundOrder? user.id OrderRequest.endpoint request.key = some order) :
    ∃ metrics,
      let served := (createAfterMiss (some user.id) request.keyless).perform.run context desk
      (createAfterMiss (some user.id) request).perform.run context desk =
        (Orders.recalled (.receipt (desk.store.receipt context order)) served.1,
          { desk with lastNumber := served.2.lastNumber, metrics }) := by
  rcases Store.boundOrder?_eq_some.mp bound with ⟨binding, keyed, -⟩
  rcases Store.binding?_eq_some keyed with ⟨member, owner, -, -⟩
  have caller_fits : Store.fitsColumn user.id = true := owner ▸ (fit binding member).1
  rcases Orders.run_createAfterMiss_of_bound intact fit named bound with ⟨metrics, answered⟩
  refine ⟨metrics, ?_⟩
  rw [run_createAfterMiss intact.complete caller_fits,
    run_createAfterMiss intact.complete caller_fits, present, answered]
  dsimp only
  rw [Orders.map_recalled]

end Operation

namespace Desk

/-- Once the key of a request has been bound, by whatever has run since it was looked up and not
found, the request changes no row. It is answered with the order of the key if it could have been
served without one, or would have violated uniqueness; any other failure stays one. -/
theorem late_key_answered {desk : Desk} (intact : desk.store.Intact) (fit : desk.store.KeysFit)
    (before between : List Call) (context : Context) {userId : Int} {user : User}
    {request : OrderRequest} {order : Order}
    (unbound : (desk.afterAll before).store.boundOrder? userId OrderRequest.endpoint request.key =
      none)
    (present : (desk.afterAll (before ++ between)).store.user? userId = some user)
    (named : request.key ≠ "")
    (bound : (desk.afterAll (before ++ between)).store.boundOrder? userId OrderRequest.endpoint
      request.key = some order) :
    let whole := Call.mk (.create (some userId) request) context
    let late := Call.mk (.createAfterMiss (some userId) request) context
    let unkeyed := Call.mk (.createAfterMiss (some userId) request.keyless) context
    let early := desk.afterAll before
    let met := desk.afterAll (before ++ between)
    whole.outcome early = late.outcome early ∧
      ∃ metrics, late.outcome met =
        (Orders.recalled (.receipt (met.store.receipt context order)) (unkeyed.outcome met).1,
          { met with lastNumber := (unkeyed.outcome met).2.lastNumber, metrics }) := by
  have same : user.id = userId := by simpa using List.find?_some present
  subst same
  have complete := (afterAll_intact intact before).complete
  exact ⟨Operation.run_create_of_unbound complete fun _ => unbound,
    Operation.run_createAfterMiss_of_bound context (afterAll_intact intact _)
      (afterAll_keysFit fit _) present named bound⟩

def sampleLate : OrderRequest where
  planId := some 2
  idempotencyKey := some " k1 "

set_option maxRecDepth 4000 in
theorem sample_late_key_answered :
    ∃ order last metrics, order.id = 2 ∧
      (Call.mk (.createAfterMiss (some 1) sampleLate) { now := .ofSeconds 20 }).outcome
          (sample.afterAll ([] ++ sampleKeyed)) =
        (.ok (.receipt ((sample.afterAll ([] ++ sampleKeyed)).store.receipt
            { now := .ofSeconds 20 } order)),
          { sample.afterAll ([] ++ sampleKeyed) with lastNumber := last, metrics }) := by
  have intact : sample.store.Intact := ⟨rfl, by decide⟩
  have fit : sample.store.KeysFit := nofun
  have unbound : (sample.afterAll []).store.boundOrder? 1 OrderRequest.endpoint sampleLate.key =
      none := rfl
  have present : (sample.afterAll ([] ++ sampleKeyed)).store.user? 1 =
      some { id := 1, email := Demo.userEmail } := rfl
  have found : ((sample.afterAll ([] ++ sampleKeyed)).store.boundOrder? 1 OrderRequest.endpoint
      sampleLate.key).map (·.id) = some 2 := rfl
  rcases Option.map_eq_some_iff.mp found with ⟨order, bound, id_eq⟩
  rcases late_key_answered intact fit [] sampleKeyed { now := .ofSeconds 20 } unbound present
    (by decide) bound with ⟨-, metrics, answered⟩
  have served : ((Call.mk (.createAfterMiss (some 1) sampleLate.keyless)
      { now := .ofSeconds 20 }).outcome (sample.afterAll ([] ++ sampleKeyed))).1.toOption.isSome =
        true := rfl
  cases unkeyed : ((Call.mk (.createAfterMiss (some 1) sampleLate.keyless)
      { now := .ofSeconds 20 }).outcome (sample.afterAll ([] ++ sampleKeyed))).1 with
  | error failure =>
    rw [unkeyed] at served
    cases served
  | ok reply =>
    rw [unkeyed] at answered
    exact ⟨order, _, metrics, id_eq, answered⟩

def sampleRecharge : Call :=
  sampleCall 10 (.moveWallet 1 { kind := some "recharge", amountCents := 1000 })

def sampleWinner : Call :=
  sampleCall 20 (.create (some 1) { planId := some 1, idempotencyKey := some "k1" })

set_option maxRecDepth 4000 in
theorem sample_loser_refused :
    ((sample.afterAll [sampleRecharge]).store.boundOrder? 1 OrderRequest.endpoint "k1").isNone ∧
      ((sample.afterAll [sampleRecharge, sampleWinner]).store.boundOrder? 1 OrderRequest.endpoint
        "k1").map (·.id) = some 2 ∧
      ((sampleCall 30 (.createAfterMiss (some 1) {
          planId := some 1, idempotencyKey := some "k1" })).outcome
        (sample.afterAll [sampleRecharge, sampleWinner])).1 =
          .error (.refused .insufficientBalance) :=
  ⟨rfl, rfl, rfl⟩

end Desk

end OrderDesk
