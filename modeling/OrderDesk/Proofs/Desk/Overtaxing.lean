import OrderDesk.Proofs.Desk.Containment

/-!
Operations on orders that break off, and with which fault. Nothing stands between what a caller
names and the columns, the calendar and the counters that it reaches. The main statement says of
every run where the taxonomy is kept to and where it is not.
-/

namespace OrderDesk

/-! ## Work that breaks off -/

namespace Work

variable {α β : Type} {context : Context} {store : Store}

section

variable (complete : store.dropped = []) (inTime : context.deadlinePassed = false)

include complete inTime

theorem statement_of_unfit {tables : List Table} {numbers : List Int} {number : Int}
    (member : number ∈ numbers) (unfit : Store.fitsColumn number = false) :
    statement tables numbers context store = .error (.broken .columnOverflow) := by
  have late : ¬context.deadlinePassed = true := by simp [inTime]
  have missing : ¬(tables.any store.dropped.contains) = true := by simp [complete]
  have overflows : (numbers.any fun number => !Store.fitsColumn number) = true :=
    List.any_eq_true.mpr ⟨number, member, by simp [unfit]⟩
  simp only [statement, read_bind, get_bind, if_neg late, if_neg missing, if_pos overflows]
  rfl

theorem order_of_unfit {id : Int} (unfit : Store.fitsColumn id = false) :
    order id context store = .error (.broken .columnOverflow) :=
  bind_of_error (statement_of_unfit complete inTime (List.mem_singleton_self id) unfit)

theorem pageOf_of_unfit {Row : Type} {table : Table} {numbers : List Int} {page : Page}
    {select : Store → List Row} (fit : ∀ number ∈ numbers, Store.fitsColumn number = true)
    (some : select store ≠ []) (unfit : ¬page.Fits) :
    pageOf table numbers page select context store = .error (.broken .columnOverflow) := by
  have allowed : Allowed context store [table] numbers := ⟨inTime, by simp [complete], fit⟩
  have filled : ¬(select store).isEmpty = true := by simpa using some
  have stated : statement [table] numbers context store = .ok ((), store) :=
    statement_eq_ok.mpr ⟨allowed, rfl⟩
  rw [pageOf, bind_of_ok stated, get_bind, if_neg filled]
  refine bind_of_error (statement_of_unfit complete inTime ?_ (Bool.eq_false_iff.mpr unfit))
  simp

end

theorem orderPage_of_unfit (complete : store.dropped = [])
    (inTime : context.deadlinePassed = false) {filter : OrderFilter} {order : Order}
    (named : ∀ id ∈ filter.userId, Store.fitsColumn id = true) (present : order ∈ store.orders)
    (admitted : filter.admits order = true)
    (short : OrderFilter.patternSize filter.number ≤ OrderFilter.maxPatternSize)
    (unfit : ¬filter.pageAsked.Fits) :
    orderPage filter context store = .error (.broken .columnOverflow) := by
  have fit : ∀ number ∈ filter.userId.toList, Store.fitsColumn number = true :=
    fun number member => named number (Option.mem_toList.mp member)
  have stated : statement [.orders] filter.userId.toList context store = .ok ((), store) :=
    statement_eq_ok.mpr ⟨⟨inTime, by simp [complete], fit⟩, rfl⟩
  have selected : filter.select store.orders ≠ [] :=
    List.ne_nil_of_mem (List.mem_mergeSort.mpr (List.mem_filter.mpr ⟨present, admitted⟩))
  rw [orderPage, bind_of_ok stated, bind_of_ok (checkPattern_of_short short)]
  exact pageOf_of_unfit complete inTime fit selected unfit

theorem entryPage_of_unfit (complete : store.dropped = [])
    (inTime : context.deadlinePassed = false) {userId : Int} {page : Page} {kind : Option String}
    {entry : LedgerEntry} (own : Store.fitsColumn userId = true)
    (present : entry ∈ store.entriesOf userId) (asked : entry.matchesKind kind = true)
    (unfit : ¬page.Fits) :
    entryPage userId page kind context store = .error (.broken .columnOverflow) := by
  have selected : LedgerEntry.newestFirst
      ((store.entriesOf userId).filter (·.matchesKind kind)) ≠ [] :=
    List.ne_nil_of_mem (List.mem_mergeSort.mpr (List.mem_filter.mpr ⟨present, asked⟩))
  exact pageOf_of_unfit complete inTime (List.forall_mem_singleton.mpr own) selected unfit

end Work

def Instant.Misses (seconds : Option Int) (fault : Fault) : Prop :=
  ∃ number, seconds = some number ∧ 0 < number ∧ ofUnix number = .error fault

namespace Instant.Misses

variable {seconds : Option Int} {fault : Fault}

theorem timeOr_eq (misses : Misses seconds fault) (now : Instant) :
    Work.timeOr now seconds = .error fault := by
  rcases misses with ⟨number, rfl, positive, timeless⟩
  rw [Work.timeOr, if_pos positive, timeless]

theorem atCommit_eq (misses : Misses seconds fault) :
    (Failure.broken fault).atCommit = .broken fault := by
  rcases misses with ⟨number, -, -, timeless⟩
  rw [ofUnix] at timeless
  split at timeless
  · rcases Except.error.inj timeless with rfl
    rfl
  · dsimp only at timeless
    split at timeless
    · rcases Except.error.inj timeless with rfl
      rfl
    · split at timeless
      · rcases Except.error.inj timeless with rfl
        rfl
      · cases timeless

end Instant.Misses

namespace Orders

variable {context : Context} {store : Store} {orderId : Int} {order : Order} {fault : Fault}
  (found : Work.order orderId context store = .ok (order, store))

include found

theorem settle_of_untimely {adminId : Int} {method : PaymentMethod} {notice : PaidNotice}
    (pending : order.status = .pending) (misses : Instant.Misses notice.paidAt fault) :
    settle adminId orderId method notice context store = .error (.broken fault) := by
  rw [settle, Work.bind_of_ok found, if_neg (not_not_intro pending)]
  dsimp only
  rw [Work.now_bind, misses.timeOr_eq]
  exact Work.bind_of_error rfl

theorem cancelAny_of_untimely {email : String} {reason : Option String}
    {cancelledAt : Option Int} (standing : order.status ≠ .cancelled)
    (repaid : order.status = .paid → order.totalCents ≤ order.refundedCents)
    (misses : Instant.Misses cancelledAt fault) :
    cancelAny email orderId reason cancelledAt context store = .error (.broken fault) := by
  have free : ¬(order.status = .paid ∧ order.refundedCents < order.totalCents) :=
    fun held => Int.not_lt.mpr (repaid held.1) held.2
  rw [cancelAny, Work.bind_of_ok found, if_neg standing, if_neg free]
  dsimp only
  rw [Work.now_bind, misses.timeOr_eq]
  exact Work.bind_of_error rfl

end Orders

theorem Purchase.place_of_unfit {purchase : Purchase} {context : Context} {store : Store}
    {userId : Int} (sound : store.Sound) (inTime : context.deadlinePassed = false)
    (owner : Store.fitsColumn userId = true) (plan : purchase.plan.Sound)
    (unfit : Store.fitsColumn purchase.totalCents = false) (number : String) :
    purchase.place userId number context store = .error (.broken .columnOverflow) := by
  have allowed : Work.Allowed context store [.balances] [userId] :=
    Work.allowed_of_intact sound.toIntact inTime (List.forall_mem_singleton.mpr owner)
  have looked : Work.balance userId context store = .ok (_, store) :=
    Work.balance_eq_ok.mpr ⟨allowed, rfl, rfl⟩
  rw [place, Work.read_bind, Work.bind_of_ok looked]
  rcases plan.snapshot_ok (purchase.currency context.settings (shownBalance context store userId))
    with ⟨snapshot, taken⟩
  have lifted : Work.liftFault (purchase.plan.snapshot (purchase.currency context.settings
      (shownBalance context store userId))) context store = .ok (snapshot, store) :=
    Work.liftFault_eq_ok.mpr ⟨taken, rfl⟩
  refine (Work.bind_of_ok lifted).trans (Work.bind_of_error ?_)
  rw [Work.insertOrder, Work.get_bind]
  have total : purchase.totalCents ∈ [userId, purchase.totalCents, 0, purchase.plan.id] :=
    List.mem_cons_of_mem userId (List.mem_cons_self ..)
  exact Work.bind_of_error (Work.statement_of_unfit sound.complete inTime total unfit)

/-! ## Services that break off -/

/-- The service breaks off with a fault. -/
def Service.Breaks {α : Type} (service : Service α) (context : Context) (desk : Desk)
    (fault : Fault) : Prop :=
  (service.run context desk).1 = .error (.broken fault)

namespace Service.Breaks

variable {α β : Type} {context : Context} {desk : Desk} {fault : Fault}

theorem bind {service : Service α} {next : α → Service β}
    (breaks : service.Breaks context desk fault) :
    (service >>= next).Breaks context desk fault := by
  rw [Breaks, run_bind]
  rcases ran : service.run context desk with ⟨result, between⟩
  rw [Breaks, ran] at breaks
  rw [show result = .error (.broken fault) from breaks]

theorem of_answered {service : Service α} {next : α → Service β} {value : α} {between : Desk}
    (ran : service.run context desk = (.ok value, between))
    (rest : (next value).Breaks context between fault) :
    (service >>= next).Breaks context desk fault := by
  rwa [Breaks, run_bind, ran]

theorem query {work : Work α}
    (failed : work { context with deadlinePassed := false } desk.store = .error (.broken fault)) :
    (query work).Breaks context desk fault := by
  rw [Breaks, run_query, failed]

theorem transaction {work : Work α} {seconds : Binary64}
    (configured : context.settings.timeoutSeconds = .ok seconds)
    (failed : work context desk.store = .error (.broken fault))
    (kept : (Failure.broken fault).atCommit = .broken fault) :
    (transaction work).Breaks context desk fault := by
  have other : fault ≠ .uniqueKeyTaken := by
    rintro rfl
    cases kept
  rw [Breaks, run_transaction, configured, failed, timed_error (by simpa using other)]
  exact congrArg Except.error kept

theorem sampled {service : Service α}
    {sample : Option α → Metrics → Except Fault Unit × Metrics}
    (breaks : service.Breaks context desk fault)
    (taken : ∀ result metrics, (sample result metrics).1 = .ok ()) :
    (sampled sample service).Breaks context desk fault := by
  rw [Breaks, run_sampled, taken]
  exact breaks

theorem of_untaken {service : Service α}
    {sample : Option α → Metrics → Except Fault Unit × Metrics}
    (untaken : ∀ result metrics, (sample result metrics).1 = .error fault) :
    (Service.sampled sample service).Breaks context desk fault := by
  rw [Breaks, run_sampled, untaken]
  rfl

end Service.Breaks

/-! ## Operations that break off -/

structure OrderRequest.Placeable (request : OrderRequest) (settings : Settings) (store : Store)
    (userId : Int) (method : PaymentMethod) (plan : Plan) : Prop where
  supported : request.method = .ok method
  unbound : request.key ≠ "" →
    store.boundOrder? userId OrderRequest.endpoint request.key = none
  named : request.planId.getD 0 ≠ 0
  fits : Store.fitsColumn (request.planId.getD 0) = true
  found : store.plan? (request.planId.getD 0) = some plan
  purchasable : plan.isPurchasable = true
  channelled : (Orders.buying request settings method plan).isExternal = true →
    Text.keyword request.paymentChannel ≠ ""

namespace Orders

variable {context : Context} {desk : Desk} {user : User} {request : OrderRequest}
  {method : PaymentMethod} {plan : Plan}

theorem run_purchase_of_placeable (complete : desk.store.dropped = [])
    (placeable : request.Placeable context.settings desk.store user.id method plan) :
    (purchase method request).run context desk =
      (.ok (buying request context.settings method plan), desk) := by
  have allowed : Work.Allowed { context with deadlinePassed := false } desk.store [.plans]
      [request.planId.getD 0] :=
    ⟨rfl, by simp [complete], List.forall_mem_singleton.mpr placeable.fits⟩
  have looked : Work.plan? (request.planId.getD 0) { context with deadlinePassed := false }
      desk.store = .ok (some plan, desk.store) :=
    Work.plan?_eq_ok.mpr ⟨allowed, placeable.found, rfl⟩
  have planned : (Orders.plan request).run context desk = (.ok plan, desk) := by
    rw [Orders.plan, if_neg placeable.named, Service.run_bind, Service.run_query_ok looked]
    simp only [placeable.purchasable]
    rfl
  have unrefused : ¬((buying request context.settings method plan).isExternal &&
      (buying request context.settings method plan).channel == "") = true := by
    intro refused
    rcases Bool.and_eq_true_iff.mp refused with ⟨external, blank⟩
    exact placeable.channelled external (beq_iff_eq.mp blank)
  rw [purchase_eq, Service.run_bind, planned]
  dsimp only
  rw [Service.run_bind, Service.run_read]
  dsimp only
  rw [channelled, if_neg unrefused]
  rfl

theorem create_breaks {seconds : Binary64} (sound : desk.store.Sound) (buys : user.Sound)
    (configured : context.settings.timeoutSeconds = .ok seconds)
    (inTime : context.deadlinePassed = false)
    (placeable : request.Placeable context.settings desk.store user.id method plan)
    (unfit : Store.fitsColumn (buying request context.settings method plan).totalCents = false) :
    (create (some user) request).Breaks context desk .columnOverflow := by
  have opened : (opening (some user) request).run context desk = (.ok (user.id, method), desk) := by
    rw [run_opening, placeable.supported]
    rfl
  have missed : (replay? user.id request.key).run context desk = (.ok none, desk) :=
    run_replay?_of_unbound sound.complete buys.id placeable.unbound
  have bought := run_purchase_of_placeable sound.complete placeable
  rw [create, countCreation]
  refine .sampled (.of_answered opened (.of_answered missed ?_)) fun _ _ => rfl
  have failed := Purchase.place_of_unfit sound inTime buys.id (sound.plan placeable.found).1 unfit
    (OrderNumber.text (nextNumber context desk.lastNumber))
  have attempted : Service.attempt ((buying request context.settings method plan).place user.id
      (OrderNumber.text (nextNumber context desk.lastNumber))) context desk.store =
        .error (.broken .columnOverflow) := by
    rw [Service.attempt, configured, failed, Service.timed_error (by simp)]
    rfl
  dsimp only
  rw [Service.Breaks, run_place bought]
  dsimp only
  rw [attempted]
  rfl

end Orders

structure PaymentResult.Readable (result : PaymentResult) : Prop where
  order : result.orderId.getD 0 ≠ 0
  payment : result.paymentId.getD 0 ≠ 0
  outcome : (Outcome.ofText? (Text.keyword result.status)).isSome = true

namespace Operation

/-- Operations that ask too much of a column, of the calendar or of a counter, and the fault that
comes of it. Where an order or a page is looked for, the caller is entitled to it. -/
inductive Overtaxes (settings : Settings) (store : Store) : Operation → Fault → Prop
  | create {callerId : Option Int} {user : User} {request : OrderRequest} {method : PaymentMethod}
      {plan : Plan} (known : store.Knows callerId user)
      (placeable : request.Placeable settings store user.id method plan)
      (unfit : Store.fitsColumn (Orders.buying request settings method plan).totalCents = false) :
      Overtaxes settings store (.create callerId request) .columnOverflow
  | getOrder {callerId : Option Int} {user : User} {orderId : Int}
      (known : store.Knows callerId user) (unfit : Store.fitsColumn orderId = false) :
      Overtaxes settings store (.getOrder callerId orderId) .columnOverflow
  | cancel {callerId : Option Int} {user : User} {orderId : Int} {reason : Option String}
      (known : store.Knows callerId user) (unfit : Store.fitsColumn orderId = false) :
      Overtaxes settings store (.cancel callerId orderId reason) .columnOverflow
  | getAsAdmin {actorId : Option Int} {user : User} {orderId : Int}
      (known : store.Knows actorId user) (admin : user.isAdmin = .ok true)
      (unfit : Store.fitsColumn orderId = false) :
      Overtaxes settings store (.getAsAdmin actorId orderId) .columnOverflow
  | cancelAsAdmin {actorId : Option Int} {user : User} {orderId : Int} {reason : Option String}
      {cancelledAt : Option Int} (known : store.Knows actorId user)
      (admin : user.isAdmin = .ok true) (unfit : Store.fitsColumn orderId = false) :
      Overtaxes settings store (.cancelAsAdmin actorId orderId reason cancelledAt) .columnOverflow
  | markPaid {actorId : Option Int} {user : User} {orderId : Int} {notice : PaidNotice}
      {method : PaymentMethod} (known : store.Knows actorId user)
      (admin : user.isAdmin = .ok true) (supported : notice.method = .ok method)
      (unfit : Store.fitsColumn orderId = false) :
      Overtaxes settings store (.markPaid actorId orderId notice) .columnOverflow
  | cancelledAt {actorId : Option Int} {user : User} {orderId : Int} {reason : Option String}
      {cancelledAt : Option Int} {order : Order} {fault : Fault} (known : store.Knows actorId user)
      (admin : user.isAdmin = .ok true) (fits : Store.fitsColumn orderId = true)
      (found : store.order? orderId = some order) (standing : order.status ≠ .cancelled)
      (repaid : order.status = .paid → order.totalCents ≤ order.refundedCents)
      (misses : Instant.Misses cancelledAt fault) :
      Overtaxes settings store (.cancelAsAdmin actorId orderId reason cancelledAt) fault
  | paidAt {actorId : Option Int} {user : User} {orderId : Int} {notice : PaidNotice}
      {method : PaymentMethod} {order : Order} {fault : Fault} (known : store.Knows actorId user)
      (admin : user.isAdmin = .ok true) (supported : notice.method = .ok method)
      (fits : Store.fitsColumn orderId = true) (found : store.order? orderId = some order)
      (pending : order.status = .pending) (misses : Instant.Misses notice.paidAt fault) :
      Overtaxes settings store (.markPaid actorId orderId notice) fault
  | refund {actorId : Option Int} {user : User} {orderId : Int} {request : RefundRequest}
      (known : store.Knows actorId user)
      (uncountable : Binary64.holdsInt request.amountCents = false) :
      Overtaxes settings store (.refund actorId orderId request) .floatOverflow
  | listOrders {callerId : Option Int} {user : User} {filter : OrderFilter} {order : Order}
      (known : store.Knows callerId user) (present : order ∈ store.orders)
      (admitted : OrderFilter.admits { filter with userId := some user.id } order = true)
      (short : OrderFilter.patternSize filter.number ≤ OrderFilter.maxPatternSize)
      (unfit : ¬filter.pageAsked.Fits) :
      Overtaxes settings store (.listOrders callerId filter) .columnOverflow
  | account {userId : Int} {user : User} {page size : Option Int} {kind : Option String}
      {entry : LedgerEntry} (known : store.Knows (some userId) user)
      (present : entry ∈ store.entriesOf userId) (asked : entry.matchesKind kind = true)
      (unfit : ¬(Page.ofRequest page size).Fits) :
      Overtaxes settings store (.account userId page size kind) .columnOverflow
  | listAsAdmin {actorId : Option Int} {user : User} {filter : OrderFilter} {order : Order}
      (known : store.Knows actorId user) (admin : user.isAdmin = .ok true)
      (named : ∀ id ∈ filter.userId, Store.fitsColumn id = true) (present : order ∈ store.orders)
      (admitted : filter.admits order = true)
      (short : OrderFilter.patternSize filter.number ≤ OrderFilter.maxPatternSize)
      (unfit : ¬filter.pageAsked.Fits) :
      Overtaxes settings store (.listAsAdmin actorId filter) .columnOverflow
  | listFor {actorId : Option Int} {user : User} {filter : OrderFilter} {id : Int}
      (known : store.Knows actorId user) (admin : user.isAdmin = .ok true)
      (named : id ∈ filter.userId) (unfit : Store.fitsColumn id = false) :
      Overtaxes settings store (.listAsAdmin actorId filter) .columnOverflow
  | reportedAt {result : PaymentResult} {fault : Fault} (readable : result.Readable)
      (misses : Instant.Misses result.paidAt fault) :
      Overtaxes settings store (.receiveResult result) fault
  | receiveResult {result : PaymentResult} (readable : result.Readable)
      (covered : Instant.Covers result.paidAt)
      (unfit : Store.fitsColumn (result.orderId.getD 0) = false) :
      Overtaxes settings store (.receiveResult result) .columnOverflow

variable {context : Context} {desk : Desk} {fault : Fault}

theorem calling_breaks {α : Type} {callerId : Option Int} {user : User}
    {serve : Option User → Service α} {reply : α → Reply} (sound : desk.store.Sound)
    (known : desk.store.Knows callerId user)
    (breaks : (serve (some user)).Breaks context desk fault) :
    (do return reply (← serve (← Service.userById callerId)) : Service Reply).Breaks context desk
      fault := by
  rcases sound.known known with ⟨kept, rfl⟩
  have allowed : Work.Allowed { context with deadlinePassed := false } desk.store [.users]
      [user.id] :=
    Work.allowed_of_intact sound.toIntact rfl (by simpa using kept.id)
  have found : (Service.userById (some user.id)).run context desk = (.ok (some user), desk) :=
    Service.run_query_ok (Work.user?_eq_ok.mpr ⟨allowed, known, rfl⟩)
  exact .of_answered found breaks.bind

theorem admin_of_isAdmin {user : User} (decided : user.isAdmin = .ok true) :
    Orders.admin (some user) = .ok user := by
  rw [Orders.admin, decided]
  rfl

theorem admin_bind_breaks {α : Type} {user : User} {next : User → Service α}
    (decided : user.isAdmin = .ok true) (breaks : (next user).Breaks context desk fault) :
    (Service.lift (Orders.admin (some user)) >>= next).Breaks context desk fault :=
  .of_answered (Service.run_lift_eq_ok.mpr ⟨admin_of_isAdmin decided, rfl⟩) breaks

theorem lift_refusing_run {α : Type} {outcome : Except Refusal α} {value : α}
    (accepted : outcome = .ok value) :
    (Service.lift (Failure.refusing outcome)).run context desk = (.ok value, desk) :=
  Service.run_lift_eq_ok.mpr ⟨Failure.refusing_eq_ok.mpr accepted, rfl⟩

theorem order_of_fits {store : Store} {orderId : Int} {order : Order} (sound : store.Sound)
    (inTime : context.deadlinePassed = false) (fits : Store.fitsColumn orderId = true)
    (found : store.order? orderId = some order) :
    Work.order orderId context store = .ok (order, store) := by
  refine Work.order_eq_ok.mpr ⟨?_, found, rfl⟩
  exact Work.allowed_of_intact sound.toIntact inTime (List.forall_mem_singleton.mpr fits)

theorem receiveResult_breaks {result : PaymentResult}
    (breaks : Service.Breaks (do
      let report ← Service.lift result.report
      Service.transaction report.apply) context desk fault) :
    (receiveResult result).perform.Breaks context desk fault := by
  rw [perform, Orders.receiveResult, Orders.countCallback]
  exact .bind (.bind (.sampled breaks fun _ _ => rfl))

theorem report_of_untimely {result : PaymentResult} (readable : result.Readable)
    (misses : Instant.Misses result.paidAt fault) : result.report = .error (.broken fault) := by
  have timeless : result.reportedAt = .error fault := by
    rcases misses with ⟨number, given, positive, timeless⟩
    simp only [PaymentResult.reportedAt, given, if_pos positive, timeless]
    rfl
  rcases Option.isSome_iff_exists.mp readable.outcome with ⟨outcome, read⟩
  have named : ¬(result.orderId.getD 0 = 0 ∨ result.paymentId.getD 0 = 0) :=
    not_or.mpr ⟨readable.order, readable.payment⟩
  rw [PaymentResult.report, if_neg named, read, timeless]
  rfl

theorem report_of_timed {result : PaymentResult} (readable : result.Readable)
    (covered : Instant.Covers result.paidAt) :
    ∃ report, result.report = .ok report ∧ report.orderId = result.orderId.getD 0 := by
  rcases result.reportedAt_ok covered with ⟨moment, timed⟩
  rcases Option.isSome_iff_exists.mp readable.outcome with ⟨outcome, read⟩
  have named : ¬(result.orderId.getD 0 = 0 ∨ result.paymentId.getD 0 = 0) :=
    not_or.mpr ⟨readable.order, readable.payment⟩
  rw [PaymentResult.report, if_neg named, read, timed]
  exact ⟨_, rfl, rfl⟩

theorem Overtaxes.breaks {operation : Operation} {seconds : Binary64}
    (overtaxes : operation.Overtaxes context.settings desk.store fault) (sound : desk.store.Sound)
    (configured : context.settings.timeoutSeconds = .ok seconds)
    (inTime : context.deadlinePassed = false) :
    operation.perform.Breaks context desk fault := by
  cases overtaxes with
  | create known placeable unfit =>
    have buys := (sound.known known).1
    have breaks := Orders.create_breaks sound buys configured inTime placeable unfit
    exact calling_breaks sound known breaks
  | getOrder known unfit =>
    refine calling_breaks sound known (.bind (.query ?_))
    exact Work.order_of_unfit sound.complete rfl unfit
  | cancel known unfit =>
    refine calling_breaks sound known (.bind (.sampled (.transaction configured ?_ rfl) ?_))
    · exact Work.bind_of_error (Work.order_of_unfit sound.complete inTime unfit)
    · exact fun _ _ => rfl
  | getAsAdmin known admin unfit =>
    refine calling_breaks sound known (admin_bind_breaks admin (.bind (.query ?_)))
    exact Work.order_of_unfit sound.complete rfl unfit
  | cancelAsAdmin known admin unfit =>
    refine calling_breaks sound known (.bind (.sampled (admin_bind_breaks admin ?_) ?_))
    · refine .transaction configured (Work.bind_of_error ?_) rfl
      exact Work.order_of_unfit sound.complete inTime unfit
    · exact fun _ _ => rfl
  | @markPaid actorId user orderId notice method known admin supported unfit =>
    refine calling_breaks sound known (.bind (.sampled (admin_bind_breaks admin ?_) ?_))
    · refine .of_answered (lift_refusing_run supported) ?_
      refine .transaction configured (Work.bind_of_error ?_) rfl
      exact Work.order_of_unfit sound.complete inTime unfit
    · exact fun _ _ => rfl
  | cancelledAt known admin fits found standing repaid misses =>
    have looked := order_of_fits sound inTime fits found
    refine calling_breaks sound known (.bind (.sampled (admin_bind_breaks admin ?_) ?_))
    · refine .transaction configured ?_ misses.atCommit_eq
      exact Orders.cancelAny_of_untimely looked standing repaid misses
    · exact fun _ _ => rfl
  | @paidAt actorId user orderId notice method order fault known admin supported fits found pending
      misses =>
    have looked := order_of_fits sound inTime fits found
    refine calling_breaks sound known (.bind (.sampled (admin_bind_breaks admin ?_) ?_))
    · refine .of_answered (lift_refusing_run supported) ?_
      refine .transaction configured ?_ misses.atCommit_eq
      exact Orders.settle_of_untimely looked pending misses
    · exact fun _ _ => rfl
  | refund known uncountable =>
    refine calling_breaks sound known (.bind (.of_untaken fun result metrics => ?_))
    simp [Metrics.observeRefund, Metrics.attempted, Service.elapsed, Except.map,
      Metrics.countable, uncountable]
  | @listOrders callerId user filter order known present admitted short unfit =>
    have own : ∀ id ∈ some user.id, Store.fitsColumn id = true := by
      simpa using (sound.known known).1.id
    refine calling_breaks sound known (.bind (.query ?_))
    exact Work.orderPage_of_unfit sound.complete rfl own present admitted short unfit
  | @account userId user page size kind entry known present asked unfit =>
    have own : Store.fitsColumn userId = true := by
      rcases sound.known known with ⟨kept, ⟨⟩⟩
      exact kept.id
    have allowed : Work.Allowed { context with deadlinePassed := false } desk.store [.balances]
        [userId] :=
      Work.allowed_of_intact sound.toIntact rfl (by simpa using own)
    have looked : (Service.query (Work.balance userId)).run context desk = (.ok _, desk) :=
      Service.run_query_ok (Work.balance_eq_ok.mpr ⟨allowed, rfl, rfl⟩)
    refine .bind (.of_answered looked (.bind (.query ?_)))
    exact Work.entryPage_of_unfit sound.complete rfl own present asked unfit
  | listAsAdmin known admin named present admitted short unfit =>
    refine calling_breaks sound known (admin_bind_breaks admin (.bind (.query ?_)))
    exact Work.orderPage_of_unfit sound.complete rfl named present admitted short unfit
  | listFor known admin named unfit =>
    refine calling_breaks sound known (admin_bind_breaks admin (.bind (.query ?_)))
    refine Work.bind_of_error (Work.statement_of_unfit sound.complete rfl ?_ unfit)
    exact Option.mem_toList.mpr named
  | reportedAt readable misses =>
    have unread := report_of_untimely readable misses
    refine receiveResult_breaks (.bind ?_)
    rw [Service.Breaks, Service.run_lift, unread]
  | receiveResult readable covered unfit =>
    rcases report_of_timed readable covered with ⟨report, read, named⟩
    refine receiveResult_breaks (.of_answered (Service.run_lift_eq_ok.mpr ⟨read, rfl⟩) ?_)
    refine .transaction configured (Work.bind_of_error ?_) rfl
    exact Work.order_of_unfit sound.complete inTime (named ▸ unfit)

end Operation

namespace Desk

/-! ## Runs -/

/-- Wherever a run from a sound store has led, an operation on orders that fits is answered or
refused; and one that asks too much of a column, of the calendar or of a counter breaks off with the
fault that tells which. -/
theorem taxonomy_kept {start : Desk} (sound : start.store.Sound) (calls : List Call) {call : Call}
    {seconds : Binary64} (configured : call.context.settings.timeoutSeconds = .ok seconds) :
    let desk := start.afterAll calls
    (call.operation.Fits call.context.settings desk.store →
      (∃ reply, (call.outcome desk).1 = .ok reply) ∨
        ∃ refusal, (call.outcome desk).1 = .error (.refused refusal)) ∧
    ∀ fault, call.operation.Overtaxes call.context.settings desk.store fault →
      call.context.deadlinePassed = false → (call.outcome desk).1 = .error (.broken fault) := by
  intro desk
  have later : desk.store.Sound := afterAll_sound sound calls
  refine ⟨fun fits => ?_, fun fault overtaxes inTime => overtaxes.breaks later configured inTime⟩
  have contained := fits.contained later configured
  cases outcome : (call.outcome desk).1 with
  | ok reply => exact .inl ⟨reply, rfl⟩
  | error failure =>
    cases failure with
    | refused refusal => exact .inr ⟨refusal, rfl⟩
    | broken fault => exact absurd outcome (contained.unbroken fault)

theorem sample_sound : sample.store.Sound where
  complete := rfl
  owners := by decide
  users := by
    simp only [sample, List.forall_mem_cons, List.not_mem_nil, false_imp_iff, implies_true,
      and_true]
    exact ⟨⟨rfl, rfl⟩, ⟨rfl, rfl⟩⟩
  plans := by
    simp only [sample, List.forall_mem_cons, List.not_mem_nil, false_imp_iff, implies_true,
      and_true]
    exact ⟨⟨rfl, rfl, rfl⟩, ⟨rfl, rfl, rfl⟩⟩
  orders := by
    simp only [sample, List.forall_mem_singleton]
    exact ⟨rfl, rfl, by decide⟩
  balances := nofun

def sampleRefund : Call :=
  sampleCall 40 (.refund (some 2) 2 { amountCents := 400 })

def sampleDelivery : Call :=
  sampleCall 40 (.receiveResult {
    orderId := some 1
    paymentId := some 1
    status := some "succeeded"
    paidAt := some 1772366400000 })

def sampleLookup : Call :=
  sampleCall 40 (.getOrder (some 1) Store.columnLimit)

set_option maxRecDepth 4000 in
theorem sample_taxonomy_kept :
    let desk := sample.afterAll samplePayments
    sample.store.Sound ∧
      (∃ seconds, sampleRefund.context.settings.timeoutSeconds = .ok seconds) ∧
      sampleRefund.operation.Fits sampleRefund.context.settings desk.store ∧
      ((∃ reply, (sampleRefund.outcome desk).1 = .ok reply) ∨
        ∃ refusal, (sampleRefund.outcome desk).1 = .error (.refused refusal)) ∧
      ∃ fault, sampleDelivery.operation.Overtaxes sampleDelivery.context.settings desk.store fault ∧
        (sampleDelivery.outcome desk).1 = .error (.broken fault) := by
  intro desk
  have fits : sampleRefund.operation.Fits sampleRefund.context.settings desk.store := by
    refine ⟨⟨_, rfl⟩, rfl, by decide +kernel, fun order found => ?_⟩
    rcases Option.some.inj (found.symm.trans rfl) with rfl
    rfl
  have overtaxes : sampleDelivery.operation.Overtaxes sampleDelivery.context.settings desk.store
      (.yearOutOfRange 58134) :=
    .reportedAt ⟨by decide, by decide, rfl⟩ ⟨_, rfl, by decide, rfl⟩
  exact ⟨sample_sound, ⟨_, rfl⟩, fits,
    (taxonomy_kept sample_sound samplePayments rfl).1 fits,
    _, overtaxes, (taxonomy_kept sample_sound samplePayments rfl).2 _ overtaxes rfl⟩

set_option maxRecDepth 4000 in
theorem sample_calls_break :
    (sampleLookup.outcome sample).1 = .error (.broken .columnOverflow) ∧
      (sampleDelivery.outcome sample).1 = .error (.broken (.yearOutOfRange 58134)) :=
  ⟨rfl, rfl⟩

end Desk

end OrderDesk
