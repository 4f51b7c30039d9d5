import OrderDesk.Proofs.Desk.Permanence

/-!
How rows are filed that belong to orders: in the order of their ids, and only under orders that are
there. So the rows of an order are found by its id alone, and a new order starts without any.
-/

namespace OrderDesk

/-- The rows of a table stand in the order of their ids, and all of them belong to some orders. -/
structure Filed {Row : Type} (id orderId : Row → Int) (orderIds : List Int) (rows : List Row) :
    Prop where
  ascending : (rows.map id).Pairwise (· < ·)
  attached : ∀ row ∈ rows, orderId row ∈ orderIds

theorem Store.ascending_append_nextId {Row : Type} {id : Row → Int} {row : Row} {rows : List Row}
    (ascending : (rows.map id).Pairwise (· < ·)) (next : id row = nextId (rows.map id)) :
    ((rows ++ [row]).map id).Pairwise (· < ·) := by
  rw [List.map_append, List.map_singleton, List.pairwise_append]
  refine ⟨ascending, List.pairwise_singleton _ _, fun present member last only => ?_⟩
  rw [List.mem_singleton.mp only, next]
  exact lt_nextId member

namespace Filed

variable {Row : Type} {id orderId : Row → Int} {orderIds more : List Int} {rows : List Row}
  {row : Row} (filed : Filed id orderId orderIds rows)

include filed

theorem mono (grown : orderIds ⊆ more) : Filed id orderId more rows where
  ascending := filed.ascending
  attached present member := grown (filed.attached present member)

theorem append (next : id row = Store.nextId (rows.map id)) (owner : orderId row ∈ orderIds) :
    Filed id orderId orderIds (rows ++ [row]) where
  ascending := Store.ascending_append_nextId filed.ascending next
  attached := by
    rw [List.forall_mem_append, List.forall_mem_singleton]
    exact ⟨filed.attached, owner⟩

theorem replace (owner : orderId row ∈ orderIds) :
    Filed id orderId orderIds (Store.replace id row rows) where
  ascending := by
    rw [Store.map_key_replace]
    exact filed.ascending
  attached present member := by
    rcases Store.mem_replace member with rfl | ⟨stays, -⟩
    · exact owner
    · exact filed.attached present stays

theorem filter_of_new {wanted : Int} {new : List Row} (absent : wanted ∉ orderIds)
    (owners : ∀ row ∈ new, orderId row = wanted) :
    (rows ++ new).filter (orderId · == wanted) = new := by
  have none : rows.filter (orderId · == wanted) = [] := by
    rw [List.filter_eq_nil_iff]
    intro row member same
    exact absent (beq_iff_eq.mp same ▸ filed.attached row member)
  rw [List.filter_append, none, List.nil_append, List.filter_eq_self]
  simpa using owners

end Filed

structure Store.Filed (store : Store) : Prop where
  items : OrderDesk.Filed (·.id) (·.orderId) (store.orders.map (·.id)) store.orderItems
  refunds : OrderDesk.Filed (·.id) (·.orderId) (store.orders.map (·.id)) store.orderRefunds
  payments : OrderDesk.Filed (·.id) (·.orderId) (store.orders.map (·.id)) store.orderPayments
  ledger : (store.ledger.map (·.id)).Pairwise (· < ·)

namespace Operation

variable {context : Context} {last : Int} {store after : Store} {operation : Operation}

theorem Committed.orderIds_subset (committed : Committed context last store operation after) :
    store.orders.map (·.id) ⊆ after.orders.map (·.id) := by
  rcases committed.items with ⟨same, -⟩ | ⟨item, grown, -⟩
  · rw [same]
    exact List.Subset.refl _
  · rw [grown]
    exact List.subset_append_left _ _

theorem Committed.itemsFiled (committed : Committed context last store operation after)
    (filed : store.Filed) :
    Filed (·.id) (·.orderId) (after.orders.map (·.id)) after.orderItems := by
  have present := filed.items.mono committed.orderIds_subset
  rcases committed.placing with ⟨-, same, -⟩ | ⟨purchase, userId, number, receipt, placing⟩
  · rwa [same]
  · cases placing with
    | @intro draft settlement between item drafting item_eq settled unbound itemAllowed =>
      have next : item.id = Store.nextId (store.orderItems.map (·.id)) :=
        congrArg OrderItem.id item_eq
      have owner : item.orderId = settlement.order.id :=
        (congrArg OrderItem.orderId item_eq).trans settled.framed.id_eq.symm
      refine present.append next ?_
      simp [owner]

theorem Committed.refundsFiled (committed : Committed context last store operation after)
    (filed : store.Filed) :
    Filed (·.id) (·.orderId) (after.orders.map (·.id)) after.orderRefunds := by
  have present := filed.refunds.mono committed.orderIds_subset
  cases committed.orders with
  | kept orders same | placed _ _ _ orders same => rwa [same]
  | handled handled unrefunded => rwa [unrefunded.refunds_eq]
  | @refunded user orderId request order result posted between crediting ending saved =>
    have handled := crediting.handled ending
    rcases crediting.credited with ⟨balance, paid, -, credited⟩
    have grown : after.orderRefunds = store.orderRefunds ++ [Orders.refundRow order user.id request
        posted (Store.nextId (store.orderRefunds.map (·.id)))] := by
      rw [saved, credited]
      rfl
    rw [grown]
    refine present.append rfl ?_
    rw [saved, handled.ids_eq]
    exact List.mem_map_of_mem handled.present

theorem Committed.paymentsFiled (committed : Committed context last store operation after)
    (filed : store.Filed) :
    Filed (·.id) (·.orderId) (after.orders.map (·.id)) after.orderPayments := by
  have present := filed.payments.mono committed.orderIds_subset
  cases committed.payments with
  | kept orders same => rwa [same]
  | placed named purchasing drafting settled orders grown =>
    rw [grown]
    rcases settled.payments_cases with none | ⟨payment, one, next, owner⟩
    · rwa [none, List.append_nil]
    · rw [one]
      refine present.append next ?_
      simp [orders, owner]
  | handled handled byHand => rwa [byHand.payments_eq]
  | delivered read delivered =>
    rw [delivered.payments_eq]
    refine present.replace ?_
    rw [Report.applyToPayment_orderId]
    exact present.attached _ delivered.present

theorem Committed.filed (committed : Committed context last store operation after)
    (filed : store.Filed) : after.Filed where
  items := committed.itemsFiled filed
  refunds := committed.refundsFiled filed
  payments := committed.paymentsFiled filed
  ledger := by
    rcases committed.ledgerAdvances with same | ⟨entry, grown, above⟩
    · rw [same]
      exact filed.ledger
    · rw [grown, List.map_append, List.map_singleton, List.pairwise_append]
      refine ⟨filed.ledger, List.pairwise_singleton _ _, ?_⟩
      simpa using above

end Operation

theorem Store.Filed.received {store : Store} (filed : store.Filed) {order : Order} :
    (store.receive order).Filed := by
  have grown : store.orders.map (·.id) ⊆ (store.receive order).orders.map (·.id) := by
    rw [receive, List.map_append]
    exact List.subset_append_left _ _
  exact ⟨filed.items.mono grown, filed.refunds.mono grown, filed.payments.mono grown, filed.ledger⟩

end OrderDesk
