import Mathlib.Logic.Function.Iterate
import OrderDesk.Proofs.Desk.Commit
import OrderDesk.Proofs.Order.Reference

/-!
The numbers of orders. A call uses up one number at the most, so as long as the clock stays far
enough from its end every order that is placed has a number that fits its column.
-/

namespace OrderDesk

/-! ## What services use up -/

namespace Service

variable {α β : Type}

/-- Whatever becomes of the service, it uses up no more than so many order numbers. -/
def Uses (count : Nat) (service : Service α) : Prop :=
  ∀ (context : Context) (desk : Desk), ∃ used ≤ count,
    (service.run context desk).2.lastNumber =
      (Orders.nextNumber context)^[used] desk.lastNumber

theorem Quiet.uses {service : Service α} (quiet : Quiet service) : Uses 0 service :=
  fun context desk => ⟨0, Nat.le_refl 0, congrArg Desk.lastNumber (quiet context desk)⟩

namespace Uses

theorem transaction (work : Work α) : Uses 0 (transaction work) := by
  intro context desk
  refine ⟨0, Nat.le_refl 0, ?_⟩
  rw [run_transaction]
  cases context.settings.timeoutSeconds with
  | error fault => rfl
  | ok seconds => cases timed context.runsOut (work context desk.store) <;> rfl

theorem nextOrderNumber : Uses 1 nextOrderNumber :=
  fun _ _ => ⟨1, Nat.le_refl 1, rfl⟩

theorem mono {count more : Nat} {service : Service α} (uses : Uses count service)
    (le : count ≤ more) : Uses more service := by
  intro context desk
  rcases uses context desk with ⟨used, bound, last⟩
  exact ⟨used, Nat.le_trans bound le, last⟩

theorem sampled {count : Nat} {service : Service α}
    {sample : Option α → Metrics → Except Fault Unit × Metrics} (uses : Uses count service) :
    Uses count (sampled sample service) := by
  intro context desk
  rw [run_sampled]
  exact uses context desk

theorem bind {count rest : Nat} {service : Service α} {next : α → Service β}
    (first : Uses count service) (later : ∀ value, Uses rest (next value)) :
    Uses (count + rest) (service >>= next) := by
  intro context desk
  rcases first context desk with ⟨used, bound, last⟩
  rw [run_bind]
  split
  · next value between ran =>
    rw [ran] at last
    rcases later value context between with ⟨used', bound', last'⟩
    refine ⟨used' + used, by omega, ?_⟩
    rw [last', last, Function.iterate_add_apply]
  · next ran =>
    rw [ran] at last
    exact ⟨used, by omega, last⟩

theorem refuse_ite {count : Nat} {condition : Prop} [Decidable condition] {refusal : Refusal}
    {next : α → Service β} {rest : Service β} (passed : Uses count rest) :
    Uses count (if condition then (refuse refusal >>= next) else rest) := by
  split
  · intro context desk
    rw [run_bind, run_refuse]
    exact ⟨0, Nat.zero_le count, rfl⟩
  · exact passed

theorem tryCatch {count rest : Nat} {service : Service α} {handler : Failure → Service α}
    (first : Uses count service) (later : ∀ failure, Uses rest (handler failure)) :
    Uses (count + rest) (tryCatch service handler) := by
  intro context desk
  rcases first context desk with ⟨used, bound, last⟩
  rw [run_tryCatch]
  split
  · next ran =>
    rw [ran] at last
    exact ⟨used, by omega, last⟩
  · next failure between ran =>
    rw [ran] at last
    rcases later failure context between with ⟨used', bound', last'⟩
    refine ⟨used' + used, by omega, ?_⟩
    rw [last', last, Function.iterate_add_apply]

end Uses

theorem Quiet.bind_uses {count : Nat} {service : Service α} {next : α → Service β}
    (quiet : Quiet service) (later : ∀ value, Uses count (next value)) :
    Uses count (service >>= next) := by
  have uses := quiet.uses.bind later
  rwa [Nat.zero_add] at uses

theorem Uses.bind_quiet {count : Nat} {service : Service α} {next : α → Service β}
    (uses : Uses count service) (quiet : ∀ value, Quiet (next value)) :
    Uses count (service >>= next) :=
  uses.bind fun value => (quiet value).uses

end Service

namespace Orders

theorem uses_place (userId : Int) (method : PaymentMethod) (request : OrderRequest) :
    Service.Uses 1 (place userId method request) := by
  refine (quiet_purchase method request).bind_uses fun purchase => ?_
  change Service.Uses (1 + 0) _
  refine Service.Uses.nextOrderNumber.bind fun number => ?_
  exact (Service.Uses.transaction _).tryCatch fun failure =>
    (quiet_recovery userId request.key failure).uses

theorem quiet_opening (caller : Option User) (request : OrderRequest) :
    Service.Quiet (opening caller request) := by
  cases caller with
  | none => exact .breakOff _
  | some user => exact .bind (.lift _) fun _ => .pure _

theorem uses_create (caller : Option User) (request : OrderRequest) :
    Service.Uses 1 (create caller request) := by
  refine .sampled ((quiet_opening caller request).bind_uses fun opened => ?_)
  refine (quiet_replay? opened.1 request.key).bind_uses fun found => ?_
  cases found with
  | some receipt => exact (Service.Quiet.pure receipt).uses.mono (Nat.zero_le 1)
  | none => exact uses_place _ _ _

theorem uses_createAfterMiss (caller : Option User) (request : OrderRequest) :
    Service.Uses 1 (createAfterMiss caller request) :=
  .sampled ((quiet_opening caller request).bind_uses fun _ => uses_place _ _ _)

theorem uses_cancel (caller : Option User) (orderId : Int) (reason : Option String) :
    Service.Uses 0 (cancel caller orderId reason) :=
  (Service.Uses.transaction _).sampled.bind_quiet fun _ => .query _

theorem uses_cancelAsAdmin (actor : Option User) (orderId : Int) (reason : Option String)
    (cancelledAt : Option Int) : Service.Uses 0 (cancelAsAdmin actor orderId reason cancelledAt) :=
  ((Service.Quiet.lift _).bind_uses fun _ => .transaction _).sampled.bind_quiet fun _ => .query _

theorem uses_markPaid (actor : Option User) (orderId : Int) (notice : PaidNotice) :
    Service.Uses 0 (markPaid actor orderId notice) :=
  ((Service.Quiet.lift _).bind_uses fun _ => (Service.Quiet.lift _).bind_uses
    fun _ => .transaction _).sampled.bind_quiet fun _ => .query _

theorem uses_refund (actor : Option User) (orderId : Int) (request : RefundRequest) :
    Service.Uses 0 (refund actor orderId request) := by
  refine ((Service.Quiet.lift _).bind_uses fun _ => ?_).sampled.bind_quiet fun _ => .query _
  exact .refuse_ite (.transaction _)

theorem uses_receiveResult (result : PaymentResult) : Service.Uses 0 (receiveResult result) :=
  ((Service.Quiet.lift _).bind_uses fun _ => .transaction _).sampled.bind_quiet fun _ => .query _

end Orders

theorem Security.uses_update (patch : SecurityPatch) : Service.Uses 0 (update patch) :=
  (Service.Uses.transaction _).bind fun _ _ _ => ⟨0, Nat.le_refl 0, rfl⟩

def Operation.numbers : Operation → Nat
  | create _ _ | createAfterMiss _ _ => 1
  | _ => 0

theorem Operation.uses_perform (operation : Operation) :
    Service.Uses operation.numbers operation.perform := by
  cases operation with
  | moveWallet | refundWallet =>
    exact (Service.Uses.transaction _).bind_quiet fun _ => .pure _
  | create callerId request =>
    exact (Service.Quiet.userById _).bind_uses fun _ =>
      (Orders.uses_create _ request).bind_quiet fun _ => .pure _
  | createAfterMiss callerId request =>
    exact (Service.Quiet.userById _).bind_uses fun _ =>
      (Orders.uses_createAfterMiss _ request).bind_quiet fun _ => .pure _
  | cancel callerId orderId reason =>
    exact (Service.Quiet.userById _).bind_uses fun _ =>
      (Orders.uses_cancel _ orderId reason).bind_quiet fun _ => .pure _
  | getOrder callerId orderId =>
    exact ((Service.Quiet.userById _).bind fun _ =>
      (Orders.quiet_get _ orderId).bind fun _ => .pure _).uses
  | listOrders callerId filter =>
    exact ((Service.Quiet.userById _).bind fun _ =>
      (Orders.quiet_list _ filter).bind fun _ => .pure _).uses
  | account userId page size kind =>
    exact ((Wallet.quiet_account userId page size kind).bind fun _ => .pure _).uses
  | getAsAdmin actorId orderId =>
    exact ((Service.Quiet.userById _).bind fun _ =>
      (Orders.quiet_getAsAdmin _ orderId).bind fun _ => .pure _).uses
  | listAsAdmin actorId filter =>
    exact ((Service.Quiet.userById _).bind fun _ =>
      (Orders.quiet_listAsAdmin _ filter).bind fun _ => .pure _).uses
  | markPaid actorId orderId notice =>
    exact (Service.Quiet.userById _).bind_uses fun _ =>
      (Orders.uses_markPaid _ orderId notice).bind_quiet fun _ => .pure _
  | cancelAsAdmin actorId orderId reason cancelledAt =>
    exact (Service.Quiet.userById _).bind_uses fun _ =>
      (Orders.uses_cancelAsAdmin _ orderId reason cancelledAt).bind_quiet fun _ => .pure _
  | refund actorId orderId request =>
    exact (Service.Quiet.userById _).bind_uses fun _ =>
      (Orders.uses_refund _ orderId request).bind_quiet fun _ => .pure _
  | receiveResult result =>
    exact (Orders.uses_receiveResult result).bind_quiet fun _ => .pure _
  | securitySetting =>
    exact (Service.Uses.transaction _).bind_quiet fun _ => .pure _
  | updateSecurity patch =>
    exact (Security.uses_update patch).bind_quiet fun _ => .pure _

/-! ## Which numbers orders have -/

namespace Operation

variable {context : Context} {last : Int} {store after : Store} {operation : Operation}

theorem numbers_le_one : operation.numbers ≤ 1 := by
  cases operation <;> simp [numbers]

theorem OrdersAfter.numbers (changed : OrdersAfter context last store after) {order : Order}
    (member : order ∈ after.orders) :
    (∃ before ∈ store.orders, order.number = before.number) ∨
      order.number = OrderNumber.text (Orders.nextNumber context last) := by
  cases changed with
  | kept orders => exact .inl ⟨order, orders ▸ member, rfl⟩
  | placed purchasing drafting settled orders =>
    rw [orders] at member
    rcases List.mem_append.mp member with present | new
    · exact .inl ⟨order, present, rfl⟩
    · rw [List.mem_singleton.mp new]
      exact .inr (settled.framed.number_eq.trans drafting.number_eq)
  | @handled orderId found result handled =>
    rcases handled.mem_orders member with rfl | old
    · exact .inl ⟨found, handled.present, handled.number_eq⟩
    · exact .inl ⟨order, old, rfl⟩
  | @refunded user orderId request found result posted between crediting ending saved =>
    subst saved
    have handled := crediting.handled ending
    rcases handled.mem_orders member with rfl | old
    · exact .inl ⟨found, handled.present, handled.number_eq⟩
    · exact .inl ⟨order, old, rfl⟩

end Operation

namespace Desk

variable {desk : Desk} {calls : List Call}

/-- However the calls end, the numbers that they use up have room in their column. -/
structure Numbered (desk : Desk) (calls : List Call) : Prop where
  started : 0 ≤ desk.lastNumber
  room : desk.lastNumber + calls.length < OrderNumber.limit
  clock : ∀ call ∈ calls, call.context.now.micros * 1000 + calls.length < OrderNumber.limit

theorem Numbered.next {call : Call} (numbered : desk.Numbered (call :: calls)) :
    0 ≤ Orders.nextNumber call.context desk.lastNumber ∧
      Orders.nextNumber call.context desk.lastNumber + calls.length < OrderNumber.limit := by
  have started := numbered.started
  have room := numbered.room
  have clock := numbered.clock call (List.mem_cons_self ..)
  rw [List.length_cons] at room clock
  rw [Orders.nextNumber, OrderNumber.next]
  omega

theorem Numbered.after {call : Call} (numbered : desk.Numbered (call :: calls)) :
    (desk.after call).Numbered calls := by
  have started := numbered.started
  have room := numbered.room
  have next := numbered.next
  have clock : ∀ later ∈ calls, later.context.now.micros * 1000 + calls.length <
      OrderNumber.limit := by
    intro later member
    have early := numbered.clock later (List.mem_cons_of_mem _ member)
    rw [List.length_cons] at early
    omega
  rw [List.length_cons] at room
  rcases call.operation.uses_perform call.context desk with ⟨used, bound, last⟩
  change (desk.after call).lastNumber = _ at last
  rcases Nat.le_one_iff_eq_zero_or_eq_one.mp (Nat.le_trans bound Operation.numbers_le_one)
    with rfl | rfl
  · rw [Function.iterate_zero_apply] at last
    exact ⟨last ▸ started, by omega, clock⟩
  · rw [Function.iterate_one] at last
    exact ⟨last ▸ next.1, last ▸ next.2, clock⟩

theorem numbers_fit (numbered : desk.Numbered calls)
    (fits : ∀ order ∈ desk.store.orders, order.number.length ≤ OrderNumber.maxLength) :
    ∀ order ∈ (desk.afterAll calls).store.orders, order.number.length ≤ OrderNumber.maxLength := by
  induction calls generalizing desk with
  | nil => exact fits
  | cons call rest induction =>
    refine induction numbered.after fun order member => ?_
    rcases desk.after_commits call with same | committed
    · rw [same] at member
      exact fits order member
    · rcases committed.orders.numbers member with ⟨before, present, number_eq⟩ | given
      · rw [number_eq]
        exact fits before present
      · rw [given]
        have next := numbered.next
        exact OrderNumber.length_text_le next.1 (by omega)

end Desk

end OrderDesk
