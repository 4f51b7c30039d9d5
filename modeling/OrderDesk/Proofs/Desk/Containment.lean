import OrderDesk.Proofs.Order.Containment

/-!
Operations on orders stay inside the taxonomy as long as their numbers, times and texts fit what the
store, the calendar and the counters can hold. Where they do not, the operation breaks off.
-/

namespace OrderDesk

/-! ## Services that do not break off -/

/-- The service does not break off, and what it is answered with satisfies a condition. -/
structure Service.Contained {α : Type} (service : Service α) (context : Context) (desk : Desk)
    (Answered : α → Store → Prop) : Prop where
  unbroken : ∀ fault, (service.run context desk).1 ≠ .error (.broken fault)
  answered : ∀ value after, service.run context desk = (.ok value, after) →
    Answered value after.store

namespace Service.Contained

variable {α β : Type} {context : Context} {desk : Desk} {Answered : α → Store → Prop}
  {Finished : β → Store → Prop}

theorem of_run_ok {service : Service α} {value : α} {after : Desk}
    (ran : service.run context desk = (.ok value, after)) (holds : Answered value after.store) :
    Contained service context desk Answered where
  unbroken := by simp [ran]
  answered := by
    rintro _ _ again
    rcases Prod.mk.inj (ran.symm.trans again) with ⟨⟨⟩, rfl⟩
    exact holds

theorem of_run_refused {service : Service α} {refusal : Refusal} {after : Desk}
    (ran : service.run context desk = (.error (.refused refusal), after)) :
    Contained service context desk Answered where
  unbroken := by simp [ran]
  answered := by simp [ran]

theorem pure {value : α} (holds : Answered value desk.store) :
    Contained (pure value) context desk Answered :=
  of_run_ok rfl holds

theorem refuse (refusal : Refusal) : Contained (refuse refusal) context desk Answered :=
  of_run_refused rfl

theorem bind {service : Service α} {next : α → Service β}
    (first : Contained service context desk Answered)
    (rest : ∀ value between, service.run context desk = (.ok value, between) →
      Answered value between.store → Contained (next value) context between Finished) :
    Contained (service >>= next) context desk Finished := by
  rcases ran : service.run context desk with ⟨result, between⟩
  cases result with
  | ok value =>
    have later := rest value between ran (first.answered value between ran)
    have same : (service >>= next).run context desk = (next value).run context between := by
      rw [run_bind, ran]
    exact ⟨by simpa only [same] using later.unbroken, by simpa only [same] using later.answered⟩
  | error failure =>
    have failed : (service >>= next).run context desk = (.error failure, between) := by
      rw [run_bind, ran]
    cases failure with
    | refused refusal => exact of_run_refused failed
    | broken fault => exact absurd (congrArg Prod.fst ran) (first.unbroken fault)

theorem read_bind {next : Context → Service β}
    (rest : Contained (next context) context desk Finished) :
    Contained (read >>= next) context desk Finished :=
  ⟨rest.unbroken, rest.answered⟩

theorem nextOrderNumber_bind {next : String → Service β}
    (rest : ∀ number lastNumber,
      Contained (next number) context { desk with lastNumber } Finished) :
    Contained (nextOrderNumber >>= next) context desk Finished :=
  have later := rest _ _
  ⟨later.unbroken, later.answered⟩

theorem refuse_ite {condition : Prop} [Decidable condition] {refusal : Refusal}
    {next : α → Service β} {rest : Service β}
    (passed : ¬condition → Contained rest context desk Finished) :
    Contained (if condition then (Service.refuse refusal >>= next) else rest) context desk
      Finished := by
  split
  · exact of_run_refused rfl
  · next fails => exact passed fails

theorem lift {outcome : Except Failure α} (unbroken : ∀ fault, outcome ≠ .error (.broken fault)) :
    Contained (lift outcome) context desk fun value _ => outcome = .ok value where
  unbroken := by simpa only [run_lift] using unbroken
  answered value after ran := (run_lift_eq_ok.mp ran).1

theorem unconditional {service : Service α} (contained : Contained service context desk Answered) :
    Contained service context desk fun _ _ => True :=
  ⟨contained.unbroken, fun _ _ _ => trivial⟩

theorem query {work : Work α}
    (breaks : work.BreaksOnly [] { context with deadlinePassed := false } desk.store) :
    Contained (query work) context desk fun _ after => after = desk.store where
  unbroken fault broken := by
    rw [run_query] at broken
    split at broken
    · cases broken
    · next failed =>
      rcases Except.error.inj broken with rfl
      cases breaks fault failed
  answered value after ran := congrArg Desk.store (run_query_eq_ok.mp ran).2.symm

theorem transaction {work : Work α} {seconds : Binary64}
    (configured : context.settings.timeoutSeconds = .ok seconds)
    (breaks : work.BreaksOnly [.uniqueKeyTaken] context desk.store) :
    Contained (transaction work) context desk fun value after =>
      work context desk.store = .ok (value, after) where
  unbroken fault broken := by
    rw [run_transaction, configured] at broken
    cases done : work context desk.store with
    | ok result =>
      rw [done] at broken
      cases runsOut : context.runsOut <;> rw [runsOut] at broken <;> cases broken
    | error failure =>
      rw [done] at broken
      cases failure with
      | refused refusal =>
        rw [timed_error (by simp)] at broken
        cases broken
      | broken other =>
        rcases List.mem_singleton.mp (breaks other done) with rfl
        cases runsOut : context.runsOut <;> rw [runsOut] at broken <;> cases broken
  answered value after ran := by
    rcases run_transaction_eq_ok ran with ⟨store, done, rfl⟩
    exact done

theorem sampled {service : Service α}
    {sample : Option α → Metrics → Except Fault Unit × Metrics}
    (contained : Contained service context desk Answered)
    (taken : ∀ result metrics, (sample result metrics).1 = .ok ()) :
    Contained (sampled sample service) context desk Answered where
  unbroken fault broken := by
    rw [run_sampled, taken] at broken
    exact contained.unbroken fault broken
  answered value after ran := by
    rcases run_sampled_eq_ok ran with ⟨between, served, after_eq⟩
    rw [after_eq]
    exact contained.answered value between served

theorem tryCatch {service : Service α} {handler : Failure → Service α}
    (contained : Contained service context desk Answered)
    (recovers : ∀ refusal between, service.run context desk = (.error (.refused refusal), between) →
      Contained (handler (.refused refusal)) context between Answered) :
    Contained (tryCatch service handler) context desk Answered := by
  rcases ran : service.run context desk with ⟨result, between⟩
  cases result with
  | ok value =>
    have same : (MonadExcept.tryCatch service handler).run context desk = (.ok value, between) := by
      rw [run_tryCatch, ran]
    exact of_run_ok same (contained.answered value between ran)
  | error failure =>
    cases failure with
    | refused refusal =>
      have later := recovers refusal between ran
      have same : (MonadExcept.tryCatch service handler).run context desk =
          (handler (.refused refusal)).run context between := by
        rw [run_tryCatch, ran]
      exact ⟨by simpa only [same] using later.unbroken, by simpa only [same] using later.answered⟩
    | broken fault => exact absurd (congrArg Prod.fst ran) (contained.unbroken fault)

end Service.Contained

/-! ## Changing an order and showing it -/

theorem PaymentResult.reportedAt_ok (result : PaymentResult)
    (covered : Instant.Covers result.paidAt) : ∃ moment, result.reportedAt = .ok moment := by
  rw [reportedAt]
  cases given : result.paidAt with
  | none => exact ⟨none, rfl⟩
  | some seconds =>
    dsimp only
    split
    · next positive =>
      rcases covered seconds given positive with ⟨instant, read⟩
      exact ⟨some instant, by rw [read]; rfl⟩
    · exact ⟨none, rfl⟩

theorem PaymentResult.report_contained (result : PaymentResult)
    (covered : Instant.Covers result.paidAt) :
    ∀ fault, result.report ≠ .error (.broken fault) := by
  rcases result.reportedAt_ok covered with ⟨moment, timed⟩
  intro fault broken
  rw [report, timed] at broken
  dsimp only at broken
  split at broken
  · cases broken
  · cases outcome : Outcome.ofText? (Text.keyword result.status) with
    | none =>
      rw [outcome] at broken
      cases broken
    | some reported =>
      rw [outcome] at broken
      cases broken

structure Order.Showable (order : Order) (store : Store) : Prop where
  complete : store.dropped = []
  id : Store.fitsColumn order.id = true
  owner : Store.fitsColumn order.userId = true

namespace Orders

variable {context : Context} {desk : Desk} {orderId : Int} {seconds : Binary64}

theorem Handled.showable {store after : Store} {order result : Order}
    (handled : Handled context store orderId order result after) (intact : store.Intact) :
    result.Showable after where
  complete := (handled.intact intact).complete
  id := (handled.fits intact).1
  owner := (handled.fits intact).2

theorem admin_contained {actor : User} (sound : actor.Sound) :
    ∀ fault, admin (some actor) ≠ .error (.broken fault) := by
  rcases sound.isAdmin_ok with ⟨decision, decided⟩
  intro fault broken
  rw [admin, decided] at broken
  cases decision <;> cases broken

theorem refusing_contained {α : Type} (outcome : Except Refusal α) :
    ∀ fault, Failure.refusing outcome ≠ .error (.broken fault) := by
  cases outcome <;> exact nofun

section

variable {service : Service Order}
  (contained : service.Contained context desk fun result after => result.Showable after)

include contained

theorem adminDetail_contained :
    Service.Contained (service >>= fun order => Service.query (Work.adminDetail order)) context desk
      fun _ _ => True :=
  contained.bind fun _ _ _ showable =>
    .unconditional (.query (.adminDetail showable.complete showable.id showable.owner))

theorem receipt_contained :
    Service.Contained (service >>= fun order => Service.query (Work.receipt order)) context desk
      fun _ _ => True :=
  contained.bind fun _ _ _ showable =>
    .unconditional (.query (.receipt showable.complete showable.id showable.owner))

end

section

variable (sound : desk.store.Sound) (configured : context.settings.timeoutSeconds = .ok seconds)

include sound configured

theorem transaction_contained {work : Work Order}
    (breaks : work.BreaksOnly [.uniqueKeyTaken] context desk.store)
    (handles : ∀ result after, work context desk.store = .ok (result, after) →
      ∃ orderId order, Handled context desk.store orderId order result after) :
    (Service.transaction work).Contained context desk fun result after =>
      result.Showable after := by
  have contained := Service.Contained.transaction configured breaks
  refine ⟨contained.unbroken, fun result after ran => ?_⟩
  rcases handles result after.store (contained.answered result after ran) with ⟨_, _, handled⟩
  exact handled.showable sound.toIntact

section

variable (fits : Store.fitsColumn orderId = true)

include fits

theorem cancel_contained (user : User) (reason : Option String) :
    (cancel (some user) orderId reason).Contained context desk fun _ _ => True := by
  refine receipt_contained (.sampled ?_ fun _ _ => rfl)
  refine transaction_contained sound configured (cancelOwn_breaks sound fits user reason) ?_
  exact fun _ _ done => ⟨orderId, (cancelOwn_ok done).1.handled.imp fun _ => And.left⟩

theorem cancelAsAdmin_contained {actor : User} (acts : actor.Sound) (reason : Option String)
    {cancelledAt : Option Int} (covered : Instant.Covers cancelledAt) :
    (cancelAsAdmin (some actor) orderId reason cancelledAt).Contained context desk
      fun _ _ => True := by
  refine adminDetail_contained (.sampled ?_ fun _ _ => rfl)
  refine .bind (.lift (admin_contained acts)) fun user between ran _ => ?_
  rcases Service.run_lift_eq_ok.mp ran with ⟨-, rfl⟩
  refine transaction_contained sound configured
    (cancelAny_breaks sound fits user.email reason covered) ?_
  exact fun _ _ done => ⟨orderId, (cancelAny_ok done).handled.imp fun _ => And.left⟩

theorem markPaid_contained {actor : User} (acts : actor.Sound) {notice : PaidNotice}
    (covered : Instant.Covers notice.paidAt) :
    (markPaid (some actor) orderId notice).Contained context desk fun _ _ => True := by
  refine adminDetail_contained (.sampled ?_ fun _ _ => rfl)
  refine .bind (.lift (admin_contained acts)) fun user between ran _ => ?_
  rcases Service.run_lift_eq_ok.mp ran with ⟨-, rfl⟩
  refine .bind (.lift (refusing_contained _)) fun method between ran _ => ?_
  rcases Service.run_lift_eq_ok.mp ran with ⟨-, rfl⟩
  refine transaction_contained sound configured (settle_breaks sound fits user.id method covered) ?_
  exact fun _ _ done => ⟨orderId, (settle_ok done).handled.imp fun _ => And.left⟩

theorem refund_contained {actor : User} (acts : actor.Sound) {request : RefundRequest}
    (countable : Binary64.holdsInt request.amountCents = true)
    (room : ∀ order, desk.store.order? orderId = some order →
      desk.store.HasRoom order.userId request.amountCents) :
    (refund (some actor) orderId request).Contained context desk fun _ _ => True := by
  refine adminDetail_contained (.sampled ?_ fun _ _ => ?_)
  · refine .bind (.lift (admin_contained acts)) fun user between ran _ => ?_
    rcases Service.run_lift_eq_ok.mp ran with ⟨-, rfl⟩
    refine .refuse_ite fun positive => transaction_contained sound configured ?_ ?_
    · exact refundPart_breaks sound fits user (Int.not_le.mp positive) room
    · intro result after done
      rcases refundPart_ok done with ⟨order, posted, between, crediting, ending, rfl⟩
      exact ⟨orderId, order, crediting.handled ending⟩
  · simp only [Metrics.observeRefund, Metrics.attempted, Service.elapsed, Except.map,
      Metrics.countable, countable, if_true]

end

theorem receiveResult_contained {result : PaymentResult}
    (fits : ∀ id ∈ result.orderId, Store.fitsColumn id = true)
    (covered : Instant.Covers result.paidAt) :
    (receiveResult result).Contained context desk fun _ _ => True := by
  refine adminDetail_contained (.sampled ?_ fun _ _ => rfl)
  refine .bind (.lift (result.report_contained covered)) fun report between ran _ => ?_
  rcases Service.run_lift_eq_ok.mp ran with ⟨read, rfl⟩
  have named := fits report.orderId (PaymentResult.report_ok read).1
  refine transaction_contained sound configured (apply_breaks sound named) ?_
  exact fun _ _ done => ⟨_, (apply_ok done).handled.imp fun _ => And.left⟩

/-! ## Making orders -/

end

end Orders

/-- All that a request of a user writes fits the columns: its numbers, those of the order that it
comes to, and what is left in the wallet. -/
structure OrderRequest.Fits (request : OrderRequest) (settings : Settings) (store : Store)
    (userId : Int) : Prop where
  planId : Store.fitsColumn (request.planId.getD 0) = true
  orderId : Store.fitsColumn (Store.nextId (store.orders.map (·.id))) = true
  quantity : Store.fitsColumn (settings.quantity request.quantity) = true
  priced : ∀ plan, store.plan? (request.planId.getD 0) = some plan →
    let total := plan.priceCents * settings.quantity request.quantity
    Store.fitsColumn total = true ∧ store.HasRoom userId (-total)

namespace Orders

variable {context : Context} {desk : Desk} {seconds : Binary64}

theorem replay?_contained (sound : desk.store.Sound) {userId : Int}
    (owner : Store.fitsColumn userId = true) (key : String) :
    (replay? userId key).Contained context desk fun _ _ => True := by
  rw [replay?]
  split
  · exact .pure trivial
  refine .bind (.query (.boundOrder? sound.complete owner _ _)) fun found between ran _ => ?_
  rcases Service.run_query_eq_ok.mp ran with ⟨⟨_, looked⟩, rfl⟩
  cases found with
  | none => exact .pure trivial
  | some order =>
    rcases Store.boundOrder?_eq_some.mp (Work.boundOrder?_eq_ok.mp looked).2.1 with
      ⟨binding, -, found⟩
    have present := (Store.order?_eq_some found).1
    refine .bind (.query ?_) fun _ _ _ _ => .pure trivial
    exact .receipt sound.complete (sound.orders order present).id (sound.owners order present)

section

variable {request : OrderRequest}

theorem plan_contained (sound : desk.store.Sound)
    (fits : Store.fitsColumn (request.planId.getD 0) = true) :
    (plan request).Contained context desk fun _ _ => True := by
  refine .refuse_ite fun _ => .bind (.query (.plan? sound.complete fits)) fun found _ _ _ => ?_
  cases found with
  | none => exact .refuse _
  | some plan => exact .refuse_ite fun _ => .pure trivial

theorem purchase_contained (sound : desk.store.Sound)
    (fits : Store.fitsColumn (request.planId.getD 0) = true) (method : PaymentMethod) :
    (purchase method request).Contained context desk fun _ _ => True := by
  refine .bind (plan_contained sound fits) fun plan between _ _ => .read_bind ?_
  exact .refuse_ite fun _ => .pure trivial

theorem Purchasing.fits {store : Store} {purchase : Purchase} {userId : Int}
    (purchasing : Purchasing context store request purchase) (sound : store.Sound)
    (owner : Store.fitsColumn userId = true)
    (fits : request.Fits context.settings store userId) : purchase.Fits store userId := by
  rcases sound.plan purchasing.found with ⟨plan, id_eq⟩
  have priced := fits.priced purchase.plan purchasing.found
  rw [← purchasing.quantity_eq] at priced
  exact {
    owner
    plan
    planId := id_eq ▸ fits.planId
    orderId := fits.orderId
    quantity := purchasing.quantity_eq ▸ fits.quantity
    total := priced.1
    room := priced.2 }

theorem opening_bind_contained {user : User} {next : Int × PaymentMethod → Service Receipt}
    {Answered : Receipt → Store → Prop}
    (rest : ∀ method, (next (user.id, method)).Contained context desk Answered) :
    (opening (some user) request >>= next).Contained context desk Answered := by
  rw [opening, bind_assoc]
  refine .bind (.lift (refusing_contained _)) fun method between ran _ => ?_
  rcases Service.run_lift_eq_ok.mp ran with ⟨-, rfl⟩
  rw [pure_bind]
  exact rest method

variable (sound : desk.store.Sound) (configured : context.settings.timeoutSeconds = .ok seconds)
  {user : User} (buys : user.Sound) (fits : request.Fits context.settings desk.store user.id)

include sound configured buys fits

theorem place_contained (method : PaymentMethod) :
    (place user.id method request).Contained context desk fun _ _ => True := by
  rw [place]
  refine .bind (purchase_contained sound fits.planId method) fun purchase _ ran _ => ?_
  rcases purchase_ok ran with ⟨purchasing, -, rfl⟩
  have writes := purchasing.fits sound buys.id fits
  refine .nextOrderNumber_bind fun number lastNumber => ?_
  have later : { desk with lastNumber }.store.Sound := sound
  refine .tryCatch (.unconditional (.transaction configured ?_)) fun refusal between ran => ?_
  · exact Purchase.place_breaks sound writes number (List.mem_singleton_self _)
  rcases Service.run_transaction_eq_error ran with rfl
  split
  · refine .bind (replay?_contained later buys.id _) fun found _ _ _ => ?_
    cases found with
    | some receipt => exact .pure trivial
    | none => exact .of_run_refused rfl
  · exact .of_run_refused rfl

theorem create_contained :
    (create (some user) request).Contained context desk fun _ _ => True := by
  rw [create, countCreation]
  refine .sampled (opening_bind_contained fun method => ?_) fun _ _ => rfl
  refine .bind (replay?_contained sound buys.id _) fun found between ran _ => ?_
  rcases (replay?_ok ran).1 with rfl
  cases found with
  | some receipt => exact .pure trivial
  | none => exact place_contained sound configured buys fits method

theorem createAfterMiss_contained :
    (createAfterMiss (some user) request).Contained context desk fun _ _ => True := by
  rw [createAfterMiss, countCreation]
  refine .sampled (opening_bind_contained fun method => ?_) fun _ _ => rfl
  exact place_contained sound configured buys fits method

end

/-! ## Reading orders and accounts -/

section

variable (sound : desk.store.Sound)

include sound

theorem get_contained (user : User) {orderId : Int} (fits : Store.fitsColumn orderId = true) :
    (get (some user) orderId).Contained context desk fun _ _ => True := by
  refine .bind (.query (.order sound.complete fits)) fun order between ran _ => ?_
  rcases Service.run_query_eq_ok.mp ran with ⟨⟨_, found⟩, rfl⟩
  have present := (Work.order_present found).1
  refine .refuse_ite fun _ => .unconditional (.query ?_)
  exact .receipt sound.complete (sound.orders order present).id (sound.owners order present)

theorem getAsAdmin_contained {actor : User} (acts : actor.Sound) {orderId : Int}
    (fits : Store.fitsColumn orderId = true) :
    (getAsAdmin (some actor) orderId).Contained context desk fun _ _ => True := by
  refine .bind (.lift (admin_contained acts)) fun _ between ran _ => ?_
  rcases Service.run_lift_eq_ok.mp ran with ⟨-, rfl⟩
  refine .bind (.query (.order sound.complete fits)) fun order between ran _ => ?_
  rcases Service.run_query_eq_ok.mp ran with ⟨⟨_, found⟩, rfl⟩
  have present := (Work.order_present found).1
  refine .unconditional (.query ?_)
  exact .adminDetail sound.complete (sound.orders order present).id (sound.owners order present)

theorem list_contained {user : User} (owner : Store.fitsColumn user.id = true)
    {filter : OrderFilter} (fits : filter.Fits) :
    (list (some user) filter).Contained context desk fun _ _ => True := by
  have own : OrderFilter.Fits { filter with userId := some user.id } := ⟨fits.page, fits.pattern⟩
  have named : ∀ id ∈ some user.id, Store.fitsColumn id = true := by simpa using owner
  refine .bind (.query (.orderPage sound.complete own named)) fun read between ran _ => ?_
  rcases Service.run_query_eq_ok.mp ran with ⟨⟨_, paged⟩, rfl⟩
  refine .bind (.query (.details sound.complete ?_)) fun _ _ _ _ => .pure trivial
  exact fun order member => (sound.orders order (Work.orderPage_mem paged order member)).id

theorem listAsAdmin_contained {actor : User} (acts : actor.Sound) {filter : OrderFilter}
    (fits : filter.Fits) (named : ∀ id ∈ filter.userId, Store.fitsColumn id = true) :
    (listAsAdmin (some actor) filter).Contained context desk fun _ _ => True := by
  refine .bind (.lift (admin_contained acts)) fun _ between ran _ => ?_
  rcases Service.run_lift_eq_ok.mp ran with ⟨-, rfl⟩
  refine .bind (.query (.orderPage sound.complete fits named)) fun read between ran _ => ?_
  rcases Service.run_query_eq_ok.mp ran with ⟨⟨_, paged⟩, rfl⟩
  have present := Work.orderPage_mem paged
  refine .bind (.query (.adminDetails sound.complete ?_ ?_)) fun _ _ _ _ => .pure trivial
  · exact fun order member => (sound.orders order (present order member)).id
  · exact fun order member => sound.owners order (present order member)

end

end Orders

theorem Wallet.account_contained {context : Context} {desk : Desk} (sound : desk.store.Sound)
    {userId : Int} (owner : Store.fitsColumn userId = true) {page size : Option Int}
    (fits : (Page.ofRequest page size).Fits) (kind : Option String) :
    (account userId page size kind).Contained context desk fun _ _ => True := by
  refine .bind (.query (.balance sound.complete owner)) fun _ between ran _ => ?_
  rcases Service.run_query_eq_ok.mp ran with ⟨-, rfl⟩
  refine .bind (.query ?_) fun _ _ _ _ => .pure trivial
  exact .entryPage sound.complete owner (Page.size_ofRequest page size) fits

/-! ## Operations on orders -/

def Store.Knows (store : Store) (id : Option Int) (user : User) : Prop :=
  id.bind store.user? = some user

theorem Store.Sound.known {store : Store} {id : Option Int} {user : User} (sound : store.Sound)
    (known : store.Knows id user) : user.Sound ∧ id = some user.id := by
  cases id with
  | none => cases known
  | some id =>
    rcases sound.user known with ⟨kept, rfl⟩
    exact ⟨kept, rfl⟩

namespace Operation

/-- An operation on orders by a user who is there, with numbers, times and texts of a size that the
desk can deal with. -/
def Fits (settings : Settings) (store : Store) : Operation → Prop
  | create callerId request | createAfterMiss callerId request =>
    ∃ user, store.Knows callerId user ∧ request.Fits settings store user.id
  | cancel callerId orderId _ | getOrder callerId orderId | getAsAdmin callerId orderId =>
    (∃ user, store.Knows callerId user) ∧ Store.fitsColumn orderId = true
  | listOrders callerId filter => (∃ user, store.Knows callerId user) ∧ filter.Fits
  | account userId page size _ =>
    (∃ user, store.Knows (some userId) user) ∧ (Page.ofRequest page size).Fits
  | listAsAdmin actorId filter =>
    (∃ user, store.Knows actorId user) ∧ filter.Fits ∧
      ∀ id ∈ filter.userId, Store.fitsColumn id = true
  | markPaid actorId orderId notice =>
    (∃ user, store.Knows actorId user) ∧ Store.fitsColumn orderId = true ∧
      Instant.Covers notice.paidAt
  | cancelAsAdmin actorId orderId _ cancelledAt =>
    (∃ user, store.Knows actorId user) ∧ Store.fitsColumn orderId = true ∧
      Instant.Covers cancelledAt
  | refund actorId orderId request =>
    (∃ user, store.Knows actorId user) ∧ Store.fitsColumn orderId = true ∧
      Binary64.holdsInt request.amountCents = true ∧
      ∀ order, store.order? orderId = some order →
        store.HasRoom order.userId request.amountCents
  | receiveResult result =>
    (∀ id ∈ result.orderId, Store.fitsColumn id = true) ∧ Instant.Covers result.paidAt
  | moveWallet .. | refundWallet .. | securitySetting | updateSecurity _ => False

variable {context : Context} {desk : Desk}

theorem calling_contained {α : Type} {callerId : Option Int} {user : User}
    {serve : Option User → Service α} {reply : α → Reply} (sound : desk.store.Sound)
    (known : desk.store.Knows callerId user)
    (contained : (serve (some user)).Contained context desk fun _ _ => True) :
    (do return reply (← serve (← Service.userById callerId)) : Service Reply).Contained context desk
      fun _ _ => True := by
  rcases sound.known known with ⟨kept, rfl⟩
  refine .bind (.query (.user? sound.complete kept.id)) fun found between ran _ => ?_
  rcases Service.run_query_eq_ok.mp ran with ⟨⟨_, looked⟩, rfl⟩
  rcases (Work.user?_eq_ok.mp looked).2.1.symm.trans known with rfl
  exact contained.bind fun _ _ _ _ => .pure trivial

theorem Fits.contained {operation : Operation} {seconds : Binary64}
    (fits : operation.Fits context.settings desk.store) (sound : desk.store.Sound)
    (configured : context.settings.timeoutSeconds = .ok seconds) :
    operation.perform.Contained context desk fun _ _ => True := by
  cases operation with
  | create callerId request =>
    rcases fits with ⟨user, known, fits⟩
    exact calling_contained sound known
      (Orders.create_contained sound configured (sound.known known).1 fits)
  | createAfterMiss callerId request =>
    rcases fits with ⟨user, known, fits⟩
    exact calling_contained sound known
      (Orders.createAfterMiss_contained sound configured (sound.known known).1 fits)
  | cancel callerId orderId reason =>
    rcases fits with ⟨⟨user, known⟩, fits⟩
    exact calling_contained sound known (Orders.cancel_contained sound configured fits user reason)
  | getOrder callerId orderId =>
    rcases fits with ⟨⟨user, known⟩, fits⟩
    exact calling_contained sound known (Orders.get_contained sound user fits)
  | listOrders callerId filter =>
    rcases fits with ⟨⟨user, known⟩, fits⟩
    exact calling_contained sound known (Orders.list_contained sound (sound.known known).1.id fits)
  | account userId page size kind =>
    rcases fits with ⟨⟨user, known⟩, fits⟩
    rcases sound.known known with ⟨kept, ⟨⟩⟩
    exact (Wallet.account_contained sound kept.id fits kind).bind fun _ _ _ _ => .pure trivial
  | getAsAdmin actorId orderId =>
    rcases fits with ⟨⟨user, known⟩, fits⟩
    exact calling_contained sound known
      (Orders.getAsAdmin_contained sound (sound.known known).1 fits)
  | listAsAdmin actorId filter =>
    rcases fits with ⟨⟨user, known⟩, fits, named⟩
    exact calling_contained sound known
      (Orders.listAsAdmin_contained sound (sound.known known).1 fits named)
  | markPaid actorId orderId notice =>
    rcases fits with ⟨⟨user, known⟩, fits, covered⟩
    exact calling_contained sound known
      (Orders.markPaid_contained sound configured fits (sound.known known).1 covered)
  | cancelAsAdmin actorId orderId reason cancelledAt =>
    rcases fits with ⟨⟨user, known⟩, fits, covered⟩
    exact calling_contained sound known
      (Orders.cancelAsAdmin_contained sound configured fits (sound.known known).1 reason covered)
  | refund actorId orderId request =>
    rcases fits with ⟨⟨user, known⟩, fits, countable, room⟩
    exact calling_contained sound known
      (Orders.refund_contained sound configured fits (sound.known known).1 countable room)
  | receiveResult result =>
    rcases fits with ⟨fits, covered⟩
    exact (Orders.receiveResult_contained sound configured fits covered).bind
      fun _ _ _ _ => .pure trivial
  | moveWallet | refundWallet | securitySetting | updateSecurity => exact fits.elim

end Operation

end OrderDesk
