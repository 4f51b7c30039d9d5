import OrderDesk.Proofs.Store.Rows

/-!
With which faults a piece of work can break off. On a store with all its tables, a statement breaks
off only for numbers that do not fit a column, and an insertion for a key that is taken.
-/

namespace OrderDesk.Work

/-- If the work breaks off, it does so with one of some faults. Refusals are another matter. -/
def BreaksOnly {α : Type} (faults : List Fault) (work : Work α) (context : Context)
    (store : Store) : Prop :=
  ∀ fault, work context store = .error (.broken fault) → fault ∈ faults

variable {α β : Type} {faults : List Fault} {context : Context} {store : Store}

namespace BreaksOnly

theorem of_ok {work : Work α} {result : α × Store} (done : work context store = .ok result) :
    BreaksOnly faults work context store := by
  intro fault broken
  rw [done] at broken
  cases broken

theorem pure (value : α) : BreaksOnly faults (pure value : Work α) context store :=
  of_ok rfl

theorem refuse (refusal : Refusal) :
    BreaksOnly faults (refuse refusal : Work α) context store :=
  fun _ broken => nomatch broken

theorem breakOff {fault : Fault} (member : fault ∈ faults) :
    BreaksOnly faults (breakOff fault : Work α) context store := by
  rintro _ ⟨⟩
  exact member

theorem bind {work : Work α} {next : α → Work β} (first : BreaksOnly faults work context store)
    (rest : ∀ value between, work context store = .ok (value, between) →
      BreaksOnly faults (next value) context between) :
    BreaksOnly faults (work >>= next) context store := by
  intro fault broken
  change (work context store >>= fun done => next done.1 context done.2) = _ at broken
  cases done : work context store with
  | error failure =>
    rw [done] at broken
    rcases Except.error.inj broken with rfl
    exact first fault done
  | ok result =>
    rw [done] at broken
    exact rest result.1 result.2 done fault broken

theorem read_bind {next : Context → Work β}
    (rest : BreaksOnly faults (next context) context store) :
    BreaksOnly faults (read >>= next) context store :=
  rest

theorem now_bind {next : Instant → Work β}
    (rest : BreaksOnly faults (next context.now) context store) :
    BreaksOnly faults (now >>= next) context store :=
  rest

theorem walletNow_bind {next : Instant → Work β}
    (rest : BreaksOnly faults (next context.walletNow) context store) :
    BreaksOnly faults (walletNow >>= next) context store :=
  rest

theorem get_bind {next : Store → Work β} (rest : BreaksOnly faults (next store) context store) :
    BreaksOnly faults (get >>= next) context store :=
  rest

theorem modify_bind {change : Store → Store} {next : Unit → Work β}
    (rest : BreaksOnly faults (next ()) context (change store)) :
    BreaksOnly faults (modify change >>= next) context store :=
  rest

theorem ite {condition : Prop} [Decidable condition] {first second : Work α}
    (left : condition → BreaksOnly faults first context store)
    (right : ¬condition → BreaksOnly faults second context store) :
    BreaksOnly faults (if condition then first else second) context store := by
  split
  · next holds => exact left holds
  · next fails => exact right fails

theorem refuse_ite {condition : Prop} [Decidable condition] {refusal : Refusal}
    {next : α → Work β} {rest : Work β}
    (passed : ¬condition → BreaksOnly faults rest context store) :
    BreaksOnly faults (if condition then (Work.refuse refusal >>= next) else rest) context store :=
  .ite (fun _ _ broken => nomatch broken) passed

theorem breakOff_ite {condition : Prop} [Decidable condition] {fault : Fault}
    {next : α → Work β} {rest : Work β} (member : condition → fault ∈ faults)
    (passed : ¬condition → BreaksOnly faults rest context store) :
    BreaksOnly faults (if condition then (Work.breakOff fault >>= next) else rest) context
      store := by
  refine .ite (fun holds => ?_) passed
  rintro _ ⟨⟩
  exact member holds

theorem lift (outcome : Except Refusal α) : BreaksOnly faults (lift outcome) context store := by
  cases outcome with
  | ok value => exact .pure value
  | error refusal => exact .refuse refusal

theorem liftFault {outcome : Except Fault α} {value : α} (succeeds : outcome = .ok value) :
    BreaksOnly faults (liftFault outcome) context store := by
  rw [succeeds]
  exact .pure value

/-! ## Statements on a store with all its tables -/

section

variable (complete : store.dropped = [])

include complete

theorem statement {tables : List Table} {numbers : List Int}
    (fit : ∀ number ∈ numbers, Store.fitsColumn number = true) :
    BreaksOnly faults (statement tables numbers) context store := by
  rw [Work.statement]
  refine .read_bind (.refuse_ite fun _ => .get_bind ?_)
  refine .breakOff_ite (fun missing => ?_) fun _ => ?_
  · rw [complete] at missing
    exact absurd missing (by simp)
  · refine .ite (fun unfit => ?_) fun _ => .pure ()
    rcases List.any_eq_true.mp unfit with ⟨number, member, overflows⟩
    rw [fit number member] at overflows
    cases overflows

theorem statement_bind {tables : List Table} {numbers : List Int} {next : Unit → Work β}
    (fit : ∀ number ∈ numbers, Store.fitsColumn number = true)
    (rest : BreaksOnly faults (next ()) context store) :
    BreaksOnly faults (Work.statement tables numbers >>= next) context store := by
  refine .bind (statement complete fit) fun _ between done => ?_
  rcases statement_eq_ok.mp done with ⟨-, rfl⟩
  exact rest

/-! ### Finding rows -/

section

variable {id : Int} (fits : Store.fitsColumn id = true)

include fits

theorem user? : BreaksOnly faults (user? id) context store :=
  .statement_bind complete (List.forall_mem_singleton.mpr fits) (.get_bind (.pure _))

theorem plan? : BreaksOnly faults (plan? id) context store :=
  .statement_bind complete (List.forall_mem_singleton.mpr fits) (.get_bind (.pure _))

theorem order : BreaksOnly faults (order id) context store := by
  refine .statement_bind complete (List.forall_mem_singleton.mpr fits) (.get_bind ?_)
  cases store.order? id with
  | some order => exact .pure order
  | none => exact .refuse _

theorem balance? : BreaksOnly faults (balance? id) context store :=
  .statement_bind complete (List.forall_mem_singleton.mpr fits) (.get_bind (.pure _))

theorem balance : BreaksOnly faults (balance id) context store := by
  refine .bind (balance? complete fits) fun found between _ => ?_
  cases found with
  | some balance => exact .pure balance
  | none => exact .read_bind (.pure _)

theorem boundOrder? (endpoint key : String) :
    BreaksOnly faults (boundOrder? id endpoint key) context store :=
  .statement_bind complete (List.forall_mem_singleton.mpr fits) (.get_bind (.pure _))

theorem paymentsOf : BreaksOnly faults (paymentsOf id) context store :=
  .statement_bind complete (List.forall_mem_singleton.mpr fits) (.get_bind (.pure _))

end

/-! ### Inserting rows -/

theorem insertOrder {draft : Int → Order} (member : Fault.uniqueKeyTaken ∈ faults)
    (fit : let order := draft (Store.nextId (store.orders.map (·.id)))
      ∀ number ∈ [order.userId, order.totalCents, order.refundedCents] ++ order.planId.toList,
        Store.fitsColumn number = true) :
    BreaksOnly faults (insertOrder draft) context store :=
  .get_bind <| .statement_bind complete fit <|
    .breakOff_ite (fun _ => member) fun _ => .modify_bind (.pure _)

theorem insertItem {draft : Int → OrderItem}
    (fit : let item := draft (Store.nextId (store.orderItems.map (·.id)))
      ∀ number ∈ [item.orderId, item.itemId, item.quantity, item.unitPriceCents,
        item.subtotalCents], Store.fitsColumn number = true) :
    BreaksOnly faults (insertItem draft) context store :=
  .get_bind <| .statement_bind complete fit <| .modify_bind (.pure _)

theorem insertRefund {draft : Int → OrderRefund}
    (fit : let refund := draft (Store.nextId (store.orderRefunds.map (·.id)))
      ∀ number ∈ [refund.orderId, refund.amountCents], Store.fitsColumn number = true) :
    BreaksOnly faults (insertRefund draft) context store :=
  .get_bind <| .statement_bind complete fit <| .modify_bind (.pure _)

theorem insertPayment {draft : Int → OrderPayment}
    (fit : let payment := draft (Store.nextId (store.orderPayments.map (·.id)))
      ∀ number ∈ [payment.orderId, payment.amountCents], Store.fitsColumn number = true) :
    BreaksOnly faults (insertPayment draft) context store :=
  .get_bind <| .statement_bind complete fit <| .modify_bind (.pure _)

theorem insertBalance {balance : Balance}
    (fit : ∀ number ∈ [balance.userId, balance.cents], Store.fitsColumn number = true) :
    BreaksOnly faults (insertBalance balance) context store :=
  .statement_bind complete fit <| .modify_bind (.pure _)

theorem insertEntry {draft : Int → LedgerEntry}
    (fit : let entry := draft (Store.nextId (store.ledger.map (·.id)))
      ∀ number ∈ [entry.userId, entry.amountCents, entry.balanceAfterCents],
        Store.fitsColumn number = true) :
    BreaksOnly faults (insertEntry draft) context store :=
  .get_bind <| .statement_bind complete fit <| .modify_bind (.pure _)

theorem insertBinding {draft : Int → KeyBinding} (member : Fault.uniqueKeyTaken ∈ faults)
    (fit : let binding := draft (Store.nextId (store.keyBindings.map (·.id)))
      ∀ number ∈ [binding.userId, binding.orderId], Store.fitsColumn number = true) :
    BreaksOnly faults (insertBinding draft) context store :=
  .get_bind <| .statement_bind complete fit <| .get_bind <|
    .breakOff_ite (fun _ => member) fun _ => .modify_bind (.pure _)

end

end BreaksOnly

end OrderDesk.Work
