import OrderDesk.Metrics.Exposition
import OrderDesk.Proofs.Order.Numbering

/-!
Which samples the operations take, and what the written figures say of them. An operation takes
samples of its own activity only, and what is written about an activity depends on nothing else.
-/

namespace OrderDesk

/-! ## Written figures -/

namespace Metrics

variable {α : Type} [BEq α] [LawfulBEq α]

theorem mem_foldl_distinct {member : α} {members found : List α} :
    member ∈ members.foldl
        (fun found member => if found.contains member then found else member :: found) found ↔
      member ∈ found ∨ member ∈ members := by
  induction members generalizing found with
  | nil => simp
  | cons first rest induction =>
      rw [List.foldl_cons, induction, List.mem_cons]
      cases known : found.contains first with
      | false => rw [if_neg Bool.false_ne_true, List.mem_cons, or_assoc, or_left_comm]
      | true =>
          have present : member = first → member ∈ found := by
            intro same
            exact same ▸ List.contains_iff_mem.mp known
          rw [if_pos rfl, ← or_assoc, or_iff_left_of_imp present]

theorem mem_distinct {member : α} {members : List α} :
    member ∈ distinct members ↔ member ∈ members := by
  rw [distinct, List.mem_reverse, mem_foldl_distinct]
  simp

theorem lookup_map {Value : Type} {keys : List α} {value : α → Value} {key : α} :
    (keys.map fun key => (key, value key)).lookup key =
      if key ∈ keys then some (value key) else none := by
  induction keys with
  | nil => rfl
  | cons first rest induction =>
      rw [List.map_cons, List.lookup_cons]
      by_cases same : key = first
      · subst same
        simp
      · rw [beq_false_of_ne same, induction]
        simp [same]

theorem lookup_distinct {Row Value : Type} {rows : List Row} {label : Row → α}
    (values : List Row → List Value) (nothing : values [] = []) (key : α) :
    (((distinct (rows.map label)).map fun key =>
      (key, values (rows.filter (label · == key)))).lookup key).getD [] =
        values (rows.filter (label · == key)) := by
  rw [lookup_map]
  split
  · rfl
  · next absent =>
      have none : rows.filter (label · == key) = [] := by
        apply List.filter_eq_nil_iff.mpr
        intro row member same
        exact absent (mem_distinct.mpr (List.mem_map.mpr ⟨row, member, eq_of_beq same⟩))
      rw [none, nothing]
      rfl

/-- The values in the written histogram of the amounts that an actor has refunded. -/
def amountsOf (metrics : Metrics) (actor : String) : List Binary64 :=
  (metrics.amountSeries.lookup actor).getD []

/-- How many attempts the written counter with these labels tells of. -/
def countAttempts (metrics : Metrics) (activity : Activity) (labels : List String) : Nat :=
  (((metrics.series activity).lookup labels).getD []).length

theorem amountsOf_eq (metrics : Metrics) (actor : String) :
    metrics.amountsOf actor =
      (metrics.refundAmounts.filter (·.actor == actor)).filterMap fun amount =>
        amount.cents.map hundredths :=
  lookup_distinct (List.filterMap fun amount : RefundAmount => amount.cents.map hundredths) rfl actor

theorem countAttempts_eq (metrics : Metrics) (activity : Activity) (labels : List String) :
    metrics.countAttempts activity labels =
      ((metrics.attempts.filter (·.activity == activity)).filter (·.labels == labels)).length :=
  congrArg List.length (lookup_distinct id rfl labels)

/-! ## Samples of one activity -/

def about (activity : Activity) (metrics : Metrics) : Metrics where
  attempts := metrics.attempts.filter (·.activity == activity)
  refundAmounts := if activity = .refund then metrics.refundAmounts else []

theorem amountsOf_about (metrics : Metrics) (actor : String) :
    (metrics.about .refund).amountsOf actor = metrics.amountsOf actor := by
  rw [amountsOf_eq, amountsOf_eq]
  rfl

theorem countAttempts_about (metrics : Metrics) (activity : Activity) (labels : List String) :
    (metrics.about activity).countAttempts activity labels =
      metrics.countAttempts activity labels := by
  rw [countAttempts_eq, countAttempts_eq]
  simp only [about, List.filter_filter, Bool.and_self]

variable {activity other : Activity}

theorem about_attempted (different : other ≠ activity) (metrics : Metrics) (labels : List String)
    (seconds : Except Fault Binary64) :
    (metrics.attempted other labels seconds).2.about activity = metrics.about activity := by
  simp [about, attempted, different]

theorem about_observeRefund (different : Activity.refund ≠ activity) (metrics : Metrics)
    (actor result : Option String) (amount : Except IntegerFault Int)
    (seconds : Except Fault Binary64) :
    (observeRefund actor amount result seconds metrics).2.about activity =
      metrics.about activity := by
  rw [observeRefund]
  cases seconds <;> simp [about, attempted, different, different.symm, Except.map]

end Metrics

/-! ## Services that take no samples of some kind -/

namespace Service

variable {α β View : Type} {view : Metrics → View}

def Keeps (view : Metrics → View) (service : Service α) : Prop :=
  ∀ (context : Context) (desk : Desk), view (service.run context desk).2.metrics = view desk.metrics

theorem Quiet.keeps {service : Service α} (quiet : Quiet service) : Keeps view service := by
  intro context desk
  rw [quiet context desk]

namespace Keeps

theorem transaction (work : Work α) : Keeps view (transaction work) := by
  intro context desk
  rw [run_transaction]
  cases context.settings.timeoutSeconds with
  | error fault => rfl
  | ok seconds => cases timed context.runsOut (work context desk.store) <;> rfl

theorem nextOrderNumber : Keeps view nextOrderNumber :=
  fun _ _ => rfl

theorem bind {service : Service α} {next : α → Service β} (first : Keeps view service)
    (later : ∀ value, Keeps view (next value)) : Keeps view (service >>= next) := by
  intro context desk
  have early := first context desk
  rw [run_bind]
  split
  · next value between ran =>
      rw [ran] at early
      exact (later value context between).trans early
  · next ran =>
      rw [ran] at early
      exact early

theorem tryCatch {service : Service α} {handler : Failure → Service α}
    (first : Keeps view service) (later : ∀ failure, Keeps view (handler failure)) :
    Keeps view (tryCatch service handler) := by
  intro context desk
  have early := first context desk
  rw [run_tryCatch]
  split
  · next ran =>
      rw [ran] at early
      exact early
  · next failure between ran =>
      rw [ran] at early
      exact (later failure context between).trans early

theorem refuse_ite {condition : Prop} [Decidable condition] {refusal : Refusal}
    {next : α → Service β} {rest : Service β} (passed : Keeps view rest) :
    Keeps view (if condition then (refuse refusal >>= next) else rest) := by
  split
  · intro context desk
    rw [run_bind, run_refuse]
  · exact passed

theorem sampled {service : Service α} {sample : Option α → Metrics → Except Fault Unit × Metrics}
    (keeps : Keeps view service)
    (spared : ∀ result metrics, view (sample result metrics).2 = view metrics) :
    Keeps view (sampled sample service) := by
  intro context desk
  rw [run_sampled]
  exact (spared _ _).trans (keeps context desk)

theorem sampled_query {service : Service α}
    {sample : Option α → Metrics → Except Fault Unit × Metrics} {work : α → Work β}
    (keeps : Keeps view service)
    (spared : ∀ result metrics, view (sample result metrics).2 = view metrics) :
    Keeps view (Service.sampled sample service >>= fun value => query (work value)) :=
  (keeps.sampled spared).bind fun _ => (Quiet.query _).keeps

end Keeps

end Service

/-! ## What operations sample -/

def Operation.activity? : Operation → Option Activity
  | create .. | createAfterMiss .. => some .create
  | cancel .. | cancelAsAdmin .. => some .cancel
  | markPaid .. | receiveResult .. => some .payment
  | refund .. => some .refund
  | _ => none

open Service (Keeps)

namespace Orders

variable {View : Type} {view : Metrics → View} {activity : Activity}

theorem keeps_place (userId : Int) (method : PaymentMethod) (request : OrderRequest) :
    Keeps view (place userId method request) := by
  apply (quiet_purchase method request).keeps.bind
  intro purchase
  apply Keeps.nextOrderNumber.bind
  intro number
  apply (Keeps.transaction _).tryCatch
  intro failure
  exact (quiet_recovery userId request.key failure).keeps

theorem keeps_create (different : Activity.create ≠ activity) (caller : Option User)
    (request : OrderRequest) : Keeps (Metrics.about activity) (create caller request) := by
  apply Keeps.sampled
  · apply (quiet_opening caller request).keeps.bind
    intro opened
    apply (quiet_replay? opened.1 request.key).keeps.bind
    intro found
    cases found with
    | some receipt => exact (Service.Quiet.pure receipt).keeps
    | none => exact keeps_place _ _ _
  · exact fun _ metrics => Metrics.about_attempted different metrics _ _

theorem keeps_createAfterMiss (different : Activity.create ≠ activity) (caller : Option User)
    (request : OrderRequest) : Keeps (Metrics.about activity) (createAfterMiss caller request) := by
  apply Keeps.sampled
  · exact (quiet_opening caller request).keeps.bind fun _ => keeps_place _ _ _
  · exact fun _ metrics => Metrics.about_attempted different metrics _ _

theorem keeps_cancel (different : Activity.cancel ≠ activity) (caller : Option User) (orderId : Int)
    (reason : Option String) : Keeps (Metrics.about activity) (cancel caller orderId reason) := by
  apply (Keeps.transaction _).sampled_query
  exact fun _ metrics => Metrics.about_attempted different metrics _ _

theorem keeps_cancelAsAdmin (different : Activity.cancel ≠ activity) (actor : Option User)
    (orderId : Int) (reason : Option String) (cancelledAt : Option Int) :
    Keeps (Metrics.about activity) (cancelAsAdmin actor orderId reason cancelledAt) := by
  apply Keeps.sampled_query
  · exact (Service.Quiet.lift _).keeps.bind fun _ => .transaction _
  · exact fun _ metrics => Metrics.about_attempted different metrics _ _

theorem keeps_markPaid (different : Activity.payment ≠ activity) (actor : Option User)
    (orderId : Int) (notice : PaidNotice) :
    Keeps (Metrics.about activity) (markPaid actor orderId notice) := by
  apply Keeps.sampled_query
  · apply (Service.Quiet.lift _).keeps.bind
    intro user
    exact (Service.Quiet.lift _).keeps.bind fun _ => .transaction _
  · exact fun _ metrics => Metrics.about_attempted different metrics _ _

theorem keeps_receiveResult (different : Activity.payment ≠ activity) (result : PaymentResult) :
    Keeps (Metrics.about activity) (receiveResult result) := by
  apply Keeps.sampled_query
  · exact (Service.Quiet.lift _).keeps.bind fun _ => .transaction _
  · exact fun _ metrics => Metrics.about_attempted different metrics _ _

theorem keeps_refund (different : Activity.refund ≠ activity) (actor : Option User) (orderId : Int)
    (request : RefundRequest) : Keeps (Metrics.about activity) (refund actor orderId request) := by
  apply Keeps.sampled_query
  · exact (Service.Quiet.lift _).keeps.bind fun user => .refuse_ite (.transaction _)
  · exact fun _ metrics => Metrics.about_observeRefund different metrics _ _ _ _

end Orders

theorem Security.keeps_update {View : Type} {view : Metrics → View} (patch : SecurityPatch) :
    Keeps view (update patch) :=
  (Keeps.transaction _).bind fun _ _ _ => rfl

namespace Operation

theorem keeps_asking {α View : Type} {view : Metrics → View} {serve : Option User → Service α}
    {answer : α → Reply} (callerId : Option Int) (keeps : ∀ caller, Keeps view (serve caller)) :
    Keeps view (do return answer (← serve (← Service.userById callerId)) : Service Reply) := by
  apply (Service.Quiet.userById callerId).keeps.bind
  intro caller
  exact (keeps caller).bind fun _ => (Service.Quiet.pure _).keeps

/-- An operation takes samples of its own activity only. -/
theorem keeps_perform {operation : Operation} {activity : Activity}
    (different : operation.activity? ≠ some activity) :
    Keeps (Metrics.about activity) operation.perform := by
  cases operation with
  | moveWallet | refundWallet | securitySetting =>
      exact (Keeps.transaction _).bind fun _ => (Service.Quiet.pure _).keeps
  | create callerId request =>
      apply keeps_asking callerId
      exact fun caller => Orders.keeps_create (different ∘ congrArg some) caller request
  | createAfterMiss callerId request =>
      apply keeps_asking callerId
      exact fun caller => Orders.keeps_createAfterMiss (different ∘ congrArg some) caller request
  | cancel callerId orderId reason =>
      apply keeps_asking callerId
      exact fun caller => Orders.keeps_cancel (different ∘ congrArg some) caller orderId reason
  | getOrder callerId orderId =>
      exact keeps_asking callerId fun caller => (Orders.quiet_get caller orderId).keeps
  | listOrders callerId filter =>
      exact keeps_asking callerId fun caller => (Orders.quiet_list caller filter).keeps
  | account userId page size kind =>
      apply (Wallet.quiet_account userId page size kind).keeps.bind
      exact fun _ => (Service.Quiet.pure _).keeps
  | getAsAdmin actorId orderId =>
      exact keeps_asking actorId fun actor => (Orders.quiet_getAsAdmin actor orderId).keeps
  | listAsAdmin actorId filter =>
      exact keeps_asking actorId fun actor => (Orders.quiet_listAsAdmin actor filter).keeps
  | markPaid actorId orderId notice =>
      apply keeps_asking actorId
      exact fun actor => Orders.keeps_markPaid (different ∘ congrArg some) actor orderId notice
  | cancelAsAdmin actorId orderId reason cancelledAt =>
      apply keeps_asking actorId
      exact fun actor =>
        Orders.keeps_cancelAsAdmin (different ∘ congrArg some) actor orderId reason cancelledAt
  | refund actorId orderId request =>
      apply keeps_asking actorId
      exact fun actor => Orders.keeps_refund (different ∘ congrArg some) actor orderId request
  | receiveResult result =>
      apply (Orders.keeps_receiveResult (different ∘ congrArg some) result).bind
      exact fun _ => (Service.Quiet.pure _).keeps
  | updateSecurity patch =>
      exact (Security.keeps_update patch).bind fun _ => (Service.Quiet.pure _).keeps

end Operation

end OrderDesk
