import OrderDesk.Proofs.Order.Recall

/-!
Orders that are changed and then shown. A service that changes an order is answered once its work is
done in a transaction, and shows the order as the store holds it afterwards.
-/

namespace OrderDesk

namespace Orders

variable {context : Context} {desk after : Desk} {orderId : Int} {shown : AdminOrderDetail}

theorem sampled_adminDetail_eq_ok {sample : Option Order → Metrics → Except Fault Unit × Metrics}
    {service : Service Order}
    (ran : (Service.sampled sample service >>= fun order =>
      Service.query (Work.adminDetail order)).run context desk = (.ok shown, after)) :
    ∃ result between, service.run context desk = (.ok result, between) ∧
      after.store = between.store ∧ shown = after.store.adminDetail result := by
  obtain ⟨result, _, counted, queried⟩ := Service.run_bind_eq_ok.mp ran
  obtain ⟨⟨_, read⟩, rfl⟩ := Service.run_query_eq_ok.mp queried
  obtain ⟨between, served, same⟩ := Service.run_sampled_eq_ok counted
  exact ⟨result, between, served, by rw [same], Work.adminDetail_eq_ok read⟩

theorem markPaid_eq_ok {actor : Option User} {notice : PaidNotice}
    (ran : (markPaid actor orderId notice).run context desk = (.ok shown, after)) :
    ∃ user method result, admin actor = .ok user ∧ notice.method = .ok method ∧
      settle user.id orderId method notice context desk.store = .ok (result, after.store) ∧
      shown = after.store.adminDetail result := by
  obtain ⟨result, between, served, store_eq, told⟩ := sampled_adminDetail_eq_ok ran
  obtain ⟨user, _, lifted, served⟩ := Service.run_bind_eq_ok.mp served
  obtain ⟨acts, rfl⟩ := Service.run_lift_eq_ok.mp lifted
  obtain ⟨method, _, lifted, served⟩ := Service.run_bind_eq_ok.mp served
  obtain ⟨named, rfl⟩ := Service.run_lift_eq_ok.mp lifted
  obtain ⟨store, done, rfl⟩ := Service.run_transaction_eq_ok served
  exact ⟨user, method, result, acts, Failure.refusing_eq_ok.mp named, store_eq ▸ done, told⟩

theorem cancelAsAdmin_eq_ok {actor : Option User} {reason : Option String}
    {cancelledAt : Option Int}
    (ran : (cancelAsAdmin actor orderId reason cancelledAt).run context desk =
      (.ok shown, after)) :
    ∃ user result, admin actor = .ok user ∧
      cancelAny user.email orderId reason cancelledAt context desk.store =
        .ok (result, after.store) ∧
      shown = after.store.adminDetail result := by
  obtain ⟨result, between, served, store_eq, told⟩ := sampled_adminDetail_eq_ok ran
  obtain ⟨user, _, lifted, served⟩ := Service.run_bind_eq_ok.mp served
  obtain ⟨acts, rfl⟩ := Service.run_lift_eq_ok.mp lifted
  obtain ⟨store, done, rfl⟩ := Service.run_transaction_eq_ok served
  exact ⟨user, result, acts, store_eq ▸ done, told⟩

theorem receiveResult_eq_ok {delivery : PaymentResult}
    (ran : (receiveResult delivery).run context desk = (.ok shown, after)) :
    ∃ report result, delivery.report = .ok report ∧
      report.apply context desk.store = .ok (result, after.store) ∧
      shown = after.store.adminDetail result := by
  obtain ⟨result, between, served, store_eq, told⟩ := sampled_adminDetail_eq_ok ran
  obtain ⟨report, _, lifted, served⟩ := Service.run_bind_eq_ok.mp served
  obtain ⟨read, rfl⟩ := Service.run_lift_eq_ok.mp lifted
  obtain ⟨store, done, rfl⟩ := Service.run_transaction_eq_ok served
  exact ⟨report, result, read, store_eq ▸ done, told⟩

theorem refund_eq_ok {actor : Option User} {request : RefundRequest}
    (ran : (refund actor orderId request).run context desk = (.ok shown, after)) :
    ∃ user result, admin actor = .ok user ∧
      refundPart user orderId request context desk.store = .ok (result, after.store) ∧
      shown = after.store.adminDetail result := by
  obtain ⟨result, between, served, store_eq, told⟩ := sampled_adminDetail_eq_ok ran
  obtain ⟨user, _, lifted, served⟩ := Service.run_bind_eq_ok.mp served
  obtain ⟨acts, rfl⟩ := Service.run_lift_eq_ok.mp lifted
  rw [Service.run_refuse_ite_eq_ok] at served
  obtain ⟨store, done, rfl⟩ := Service.run_transaction_eq_ok served.2
  exact ⟨user, result, acts, store_eq ▸ done, told⟩

theorem cancel_eq_ok {caller : Option User} {reason : Option String} {receipt : Receipt}
    (ran : (cancel caller orderId reason).run context desk = (.ok receipt, after)) :
    ∃ result, cancelOwn caller orderId reason context desk.store = .ok (result, after.store) ∧
      receipt = after.store.receipt context result := by
  obtain ⟨result, _, counted, queried⟩ := Service.run_bind_eq_ok.mp ran
  obtain ⟨⟨_, read⟩, rfl⟩ := Service.run_query_eq_ok.mp queried
  obtain ⟨between, served, same⟩ := Service.run_sampled_eq_ok counted
  obtain ⟨store, done, rfl⟩ := Service.run_transaction_eq_ok served
  refine ⟨result, ?_, ?_⟩
  · rw [same]
    exact done
  · rw [Work.receipt_eq_ok read]
    rfl

end Orders

end OrderDesk
