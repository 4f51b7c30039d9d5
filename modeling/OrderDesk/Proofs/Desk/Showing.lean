import OrderDesk.Proofs.Desk.Reading
import OrderDesk.Proofs.Order.Answering

/-!
What answers show of orders. Whichever operation is answered, an order that is shown is the row that
the desk holds afterwards, with all that belongs to it.
-/

namespace OrderDesk

def Reply.details : Reply → List OrderDetail
  | .receipt answer => [answer.order]
  | .order answer => [answer.detail]
  | .orders listing => listing.entries
  | .adminOrders listing => listing.entries.map (·.detail)
  | .moved .. | .account _ | .setting _ => []

theorem Service.Quiet.after_eq {α : Type} {service : Service α} {context : Context}
    {desk after : Desk} {value : α} (quiet : service.Quiet)
    (served : service.run context desk = (.ok value, after)) : after = desk := by
  have same := quiet context desk
  rwa [served] at same

namespace Desk

/-! ## All answers -/

/-- The order is there, and is shown with all that belongs to it. -/
def Presents (desk : Desk) (detail : OrderDetail) : Prop :=
  ∃ order ∈ desk.store.orders, detail = desk.store.detail order

variable {desk : Desk} {context : Context} {operation : Operation} {reply : Reply}

theorem presents_of_handled {store : Store} {after : Desk} {orderId : Int} {order result : Order}
    (handled : Orders.Handled context store orderId order result after.store) :
    after.Presents (after.store.detail result) :=
  ⟨result, (Store.order?_eq_some handled.order?_self).1, rfl⟩

theorem presents_of_serving {after : Desk} {user : User} {request : OrderRequest} {receipt : Receipt}
    (tidy : desk.store.Tidy)
    (serving : Orders.Serving context desk user request receipt after.store) :
    after.Presents receipt.order := by
  have backs := serving.backs tidy.toFiled tidy.distinct tidy.owned tidy.fit
  exact ⟨receipt.order.order, (Store.mem_ordersOf.mp backs.order).1, backs.shown⟩

theorem presents_of_found {desk : Desk} {orderId : Int} {order : Order}
    (found : desk.store.order? orderId = some order) : desk.Presents (desk.store.detail order) :=
  ⟨order, (Store.order?_eq_some found).1, rfl⟩

theorem presents_of_listed {filter : OrderFilter} :
    ∀ detail ∈ (desk.store.listing filter).entries, desk.Presents detail := by
  intro detail listed
  obtain ⟨order, member, rfl⟩ := List.mem_map.mp listed
  exact ⟨order, (OrderFilter.mem_select.mp (Page.mem_of_mem_slice member)).1, rfl⟩

theorem presents_of_plain {α : Type} {service : Service α} {answer : α → Reply} {after : Desk}
    (plain : ∀ value, (answer value).details = [])
    (ran : (do return answer (← service) : Service Reply).run context desk = (.ok reply, after)) :
    ∀ detail ∈ reply.details, after.Presents detail := by
  obtain ⟨value, _, _, told⟩ := Service.run_bind_eq_ok.mp ran
  obtain ⟨rfl, -⟩ := Service.run_pure_eq_ok.mp told
  rw [plain]
  exact List.forall_mem_nil _

theorem presents_of_answered (tidy : desk.store.Tidy)
    (answered : desk.Answers context operation reply) :
    ∀ detail ∈ reply.details, (desk.after ⟨operation, context⟩).Presents detail := by
  have ran : operation.perform.run context desk = (.ok reply, desk.after ⟨operation, context⟩) :=
    Prod.ext answered rfl
  generalize desk.after ⟨operation, context⟩ = after at ran ⊢
  cases operation with
  | moveWallet | refundWallet | account | securitySetting | updateSecurity =>
    exact presents_of_plain (fun _ => rfl) ran
  | create userId request =>
    obtain ⟨receipt, served, rfl⟩ := Operation.asking_ok ran
    obtain ⟨user, -, serving⟩ := Orders.create_ok served
    exact List.forall_mem_singleton.mpr (presents_of_serving tidy serving)
  | createAfterMiss userId request =>
    obtain ⟨receipt, served, rfl⟩ := Operation.asking_ok ran
    obtain ⟨user, -, serving⟩ := Orders.createAfterMiss_ok served
    exact List.forall_mem_singleton.mpr (presents_of_serving tidy serving)
  | cancel userId orderId reason =>
    obtain ⟨receipt, served, rfl⟩ := Operation.asking_ok ran
    obtain ⟨result, done, rfl⟩ := Orders.cancel_eq_ok served
    obtain ⟨order, handled, -⟩ := (Orders.cancelOwn_ok done).1.handled
    exact List.forall_mem_singleton.mpr (presents_of_handled handled)
  | getOrder userId orderId =>
    obtain ⟨receipt, served, rfl⟩ := Operation.asking_ok ran
    obtain rfl : after = desk := (Orders.quiet_get _ orderId).after_eq served
    obtain ⟨order, found, rfl⟩ := Orders.get_eq_ok served
    exact List.forall_mem_singleton.mpr (presents_of_found found)
  | getAsAdmin actorId orderId =>
    obtain ⟨shown, served, rfl⟩ := Operation.asking_ok ran
    obtain rfl : after = desk := (Orders.quiet_getAsAdmin _ orderId).after_eq served
    obtain ⟨order, found, rfl⟩ := Orders.getAsAdmin_eq_ok served
    exact List.forall_mem_singleton.mpr (presents_of_found found)
  | listOrders userId filter =>
    obtain ⟨listing, served, rfl⟩ := Operation.asking_ok ran
    obtain rfl : after = desk := (Orders.quiet_list _ filter).after_eq served
    cases caller : userId.bind after.store.user? with
    | none =>
      rw [caller] at served
      cases served
    | some user =>
      rw [caller] at served
      rw [Orders.list_eq_ok served]
      exact presents_of_listed
  | listAsAdmin actorId filter =>
    obtain ⟨listing, served, rfl⟩ := Operation.asking_ok ran
    obtain rfl : after = desk := (Orders.quiet_listAsAdmin _ filter).after_eq served
    rw [Orders.listAsAdmin_eq_ok served, Reply.details, Store.map_detail_adminListing]
    exact presents_of_listed
  | markPaid actorId orderId notice =>
    obtain ⟨shown, served, rfl⟩ := Operation.asking_ok ran
    obtain ⟨user, method, result, -, -, done, rfl⟩ := Orders.markPaid_eq_ok served
    obtain ⟨order, handled, -⟩ := (Orders.settle_ok done).handled
    exact List.forall_mem_singleton.mpr (presents_of_handled handled)
  | cancelAsAdmin actorId orderId reason cancelledAt =>
    obtain ⟨shown, served, rfl⟩ := Operation.asking_ok ran
    obtain ⟨user, result, -, done, rfl⟩ := Orders.cancelAsAdmin_eq_ok served
    obtain ⟨order, handled, -⟩ := (Orders.cancelAny_ok done).handled
    exact List.forall_mem_singleton.mpr (presents_of_handled handled)
  | refund actorId orderId request =>
    obtain ⟨shown, served, rfl⟩ := Operation.asking_ok ran
    obtain ⟨user, result, -, done, rfl⟩ := Orders.refund_eq_ok served
    obtain ⟨order, posted, between, crediting, ending, saved⟩ := Orders.refundPart_ok done
    have handled := crediting.handled ending
    rw [← saved] at handled
    exact List.forall_mem_singleton.mpr (presents_of_handled handled)
  | receiveResult delivery =>
    obtain ⟨shown, _, served, told⟩ := Service.run_bind_eq_ok.mp ran
    obtain ⟨rfl, rfl⟩ := Service.run_pure_eq_ok.mp told
    obtain ⟨report, result, -, done, rfl⟩ := Orders.receiveResult_eq_ok served
    obtain ⟨order, handled, -⟩ := (Orders.apply_ok done).handled
    exact List.forall_mem_singleton.mpr (presents_of_handled handled)

end Desk

end OrderDesk
