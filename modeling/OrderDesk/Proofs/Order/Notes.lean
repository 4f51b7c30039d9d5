import OrderDesk.Proofs.Order.Answering
import OrderDesk.Proofs.Order.Changing
import OrderDesk.Proofs.Order.Once

/-!
What orders note about their last refund. The amount, the ledger entry, the administrator and the
time are those of the last refund; the reason and the reference are the last ones that any refund
gave, because a refund that gives none leaves the earlier notes as they are.
-/

namespace OrderDesk

/-! ## Merging notes -/

namespace Fields

variable {fields values : Fields} {name : String}

theorem get?_cons {field : String × Json} :
    get? (field :: fields) name = if field.1 = name then some field.2 else fields.get? name := by
  rw [get?, List.find?_cons]
  by_cases same : field.1 = name
  · simp [same]
  · rw [beq_false_of_ne same, if_neg same]
    rfl

theorem get?_eq_none (absent : name ∉ fields.map (·.1)) : fields.get? name = none := by
  rw [get?, Option.map_eq_none_iff, List.find?_eq_none]
  intro field member
  simpa using fun same => absent (List.mem_map.mpr ⟨field, member, same⟩)

theorem get?_putAll (distinct : (values.map (·.1)).Nodup) :
    (fields.putAll values).get? name = (values.get? name).or (fields.get? name) := by
  induction values generalizing fields with
  | nil => rfl
  | cons field rest induction =>
    rw [List.map_cons, List.nodup_cons] at distinct
    change ((fields.put field.1 field.2).putAll rest).get? name = _
    rw [induction distinct.2, get?_put, get?_cons]
    by_cases same : field.1 = name
    · rw [if_pos same, if_pos same, get?_eq_none (same ▸ distinct.1)]
      rfl
    · rw [if_neg same, if_neg same]

theorem get?_filter {keeps : Json → Bool} (distinct : (values.map (·.1)).Nodup) :
    get? (values.filter fun field => keeps field.2) name = (values.get? name).filter keeps := by
  induction values with
  | nil => rfl
  | cons field rest induction =>
    rw [List.map_cons, List.nodup_cons] at distinct
    rw [List.filter_cons, get?_cons]
    cases kept : keeps field.2 with
    | true =>
      rw [if_pos rfl, get?_cons, induction distinct.2]
      split
      · rw [Option.filter_some, kept, if_pos rfl]
      · rfl
    | false =>
      rw [if_neg Bool.false_ne_true, induction distinct.2]
      split
      · next same =>
        rw [get?_eq_none (same ▸ distinct.1), Option.filter_some, kept]
        rfl
      · rfl

end Fields

namespace Order

variable {order : Order} {values : Fields} {name : String}

def noted (order : Order) (name : String) : Option Json :=
  (order.metadata.getD []).get? name

/-- Whether a value is worth a note: null and the empty text are not. -/
def isNotable : Json → Bool
  | .null => false
  | .text text => text != ""
  | _ => true

theorem isNotable_append {first second : String} (some_text : first ≠ "" ∨ second ≠ "") :
    isNotable (.text (first ++ second)) = true := by
  have joined : first ++ second ≠ "" := by
    rw [Ne, String.append_eq_empty_iff, not_and_or]
    exact some_text
  simpa [isNotable] using joined

theorem noteMetadata_eq : order.noteMetadata values =
    { order with
      metadata :=
        some ((order.metadata.getD []).putAll (values.filter fun field => isNotable field.2)) } :=
  rfl

theorem noted_noteMetadata (distinct : (values.map (·.1)).Nodup) :
    (order.noteMetadata values).noted name =
      ((values.get? name).filter isNotable).or (order.noted name) := by
  have kept : ((values.filter fun field => isNotable field.2).map (·.1)).Nodup :=
    distinct.sublist (List.filter_sublist.map _)
  rw [noteMetadata_eq, noted, Option.getD_some, Fields.get?_putAll kept,
    Fields.get?_filter distinct, noted]

theorem noted_noteMetadata_of_absent (distinct : (values.map (·.1)).Nodup)
    (absent : name ∉ values.map (·.1)) :
    (order.noteMetadata values).noted name = order.noted name := by
  rw [noted_noteMetadata distinct, Fields.get?_eq_none absent]
  rfl

end Order

namespace Orders

def refundNames : List String := ["last_refund_amount", "last_refund_tx_id", "last_refund_by",
  "last_refund_at", "last_refund_reason", "last_refund_reference"]

end Orders

def Order.SameNotes (order other : Order) : Prop :=
  ∀ name ∈ Orders.refundNames, order.noted name = other.noted name

namespace Orders

variable {order result : Order} {adminId : Int} {email : String} {now : Instant}
  {request : RefundRequest} {posted : LedgerEntry}

theorem sameNotes_noteMetadata {values : Fields} (distinct : (values.map (·.1)).Nodup)
    (other : ∀ name ∈ refundNames, name ∉ values.map (·.1)) :
    (order.noteMetadata values).SameNotes order :=
  fun name member => Order.noted_noteMetadata_of_absent distinct (other name member)

theorem sameNotes_cancelNote {author : String} {reason : Option String} {moment : Instant} :
    (order.noteMetadata (cancelNote author reason moment)).SameNotes order :=
  sameNotes_noteMetadata (by simp [cancelNote]) (by simp [cancelNote, refundNames])

theorem sameNotes_settlementNote {notice : PaidNotice} :
    (order.noteMetadata (settlementNote adminId notice now)).SameNotes order :=
  sameNotes_noteMetadata (by simp [settlementNote]) (by simp [settlementNote, refundNames])

theorem sameNotes_completionNote :
    (order.noteMetadata (completionNote email now)).SameNotes order :=
  sameNotes_noteMetadata (by simp [completionNote]) (by simp [completionNote, refundNames])

theorem Ending.noted
    (ending : Ending (refundedBy order adminId request posted now) email now result)
    {name : String} (member : name ∈ refundNames) :
    result.noted name =
      (((refundNote adminId request posted).get? name).filter Order.isNotable).or
        (order.noted name) := by
  have distinct : ((refundNote adminId request posted).map (·.1)).Nodup := by simp [refundNote]
  rw [← Order.noted_noteMetadata distinct]
  cases ending with
  | partly => rfl
  | closed => exact sameNotes_completionNote name member

theorem filter_given (text : Option String) :
    (some (Json.text (Text.trim? text))).filter Order.isNotable = (given text).map .text := by
  rw [Option.filter_some, given, Text.nonEmpty?, Order.isNotable]
  split <;> simp_all

end Orders

def OrderRefund.adminNote? (refund : OrderRefund) : Option Json :=
  match refund.metadata.get? "admin_id" with
  | some (.int adminId) => some (.text (Orders.adminTag adminId))
  | _ => none

theorem Orders.adminNote?_refundRow (order : Order) (adminId : Int) (request : RefundRequest)
    (posted : LedgerEntry) (id : Int) :
    (refundRow order adminId request posted id).adminNote? = some (.text (adminTag adminId)) := by
  have put : (refundRow order adminId request posted id).metadata.get? "admin_id" =
      some (.int adminId) := by
    rw [refundRow, Fields.get?_put, if_neg (by decide), Fields.get?_put, if_pos rfl]
  rw [OrderRefund.adminNote?, put]

/-- The notes of an order whose refunds these are: nothing before there is one; then the amount, the
ledger entry, the administrator and the time of the last one, with the last reason and the last
reference that any of them has given. -/
structure Order.Notes (order : Order) (refunds : List OrderRefund) : Prop where
  amount : order.noted "last_refund_amount" =
    refunds.getLast?.map fun refund => .int refund.amountCents
  entry : order.noted "last_refund_tx_id" =
    refunds.getLast?.bind fun refund => refund.metadata.get? "balance_transaction_id"
  admin : order.noted "last_refund_by" = refunds.getLast?.bind OrderRefund.adminNote?
  time : order.noted "last_refund_at" =
    refunds.getLast?.map fun refund => .text refund.createdAt.isoText
  reason : order.noted "last_refund_reason" =
    (refunds.filterMap (·.reason)).getLast?.map .text
  reference : order.noted "last_refund_reference" =
    (refunds.filterMap (·.reference)).getLast?.map .text

namespace Order.Notes

variable {order result : Order} {refunds : List OrderRefund}

theorem of_unnoted (unnoted : ∀ name ∈ Orders.refundNames, order.noted name = none) :
    order.Notes [] where
  amount := unnoted _ (by decide)
  entry := unnoted _ (by decide)
  admin := unnoted _ (by decide)
  time := unnoted _ (by decide)
  reason := unnoted _ (by decide)
  reference := unnoted _ (by decide)

theorem same (notes : order.Notes refunds) (same : result.SameNotes order) :
    result.Notes refunds where
  amount := (same _ (by decide)).trans notes.amount
  entry := (same _ (by decide)).trans notes.entry
  admin := (same _ (by decide)).trans notes.admin
  time := (same _ (by decide)).trans notes.time
  reason := (same _ (by decide)).trans notes.reason
  reference := (same _ (by decide)).trans notes.reference

theorem getLast?_given {text : OrderRefund → Option String} (refund : OrderRefund) :
    ((refunds ++ [refund]).filterMap text).getLast?.map Json.text =
      ((text refund).map .text).or ((refunds.filterMap text).getLast?.map .text) := by
  rw [List.filterMap_append, List.getLast?_append]
  cases given : text refund <;> simp [given]

theorem refunded {adminId id : Int} {email : String} {now : Instant} {request : RefundRequest}
    {posted : LedgerEntry} (notes : order.Notes refunds)
    (ending : Orders.Ending (Orders.refundedBy order adminId request posted now) email now result) :
    result.Notes (refunds ++ [Orders.refundRow order adminId request posted id]) := by
  have tag : isNotable (.text (Orders.adminTag adminId)) = true :=
    isNotable_append (.inl (by decide))
  have moment : isNotable (.text posted.createdAt.isoText) = true :=
    isNotable_append (.inr (by decide))
  constructor
  · rw [ending.noted (by decide), List.getLast?_concat]
    rfl
  · rw [ending.noted (by decide), List.getLast?_concat, Option.bind_some, Orders.refundRow,
      Fields.get?_put, if_pos rfl]
    rfl
  · rw [ending.noted (by decide), List.getLast?_concat, Option.bind_some,
      Orders.adminNote?_refundRow]
    change ((some (.text (Orders.adminTag adminId))).filter isNotable).or _ = _
    rw [Option.filter_some, if_pos tag, Option.some_or]
  · rw [ending.noted (by decide), List.getLast?_concat]
    change ((some (.text posted.createdAt.isoText)).filter isNotable).or _ = _
    rw [Option.filter_some, if_pos moment, Option.some_or]
    rfl
  · have own : (Orders.refundRow order adminId request posted id).reason =
        Orders.given request.reason := by rw [Orders.refundRow]
    rw [ending.noted (by decide), getLast?_given, notes.reason, own, ← Orders.filter_given]
    rfl
  · have own : (Orders.refundRow order adminId request posted id).reference =
        Orders.given request.reference := by rw [Orders.refundRow]
    rw [ending.noted (by decide), getLast?_given, notes.reference, own, ← Orders.filter_given]
    rfl

end Order.Notes

/-! ## What leaves the notes alone -/

theorem Order.SameNotes.of_metadata {order other : Order} (same : order.metadata = other.metadata) :
    order.SameNotes other := by
  intro name _
  rw [noted, noted, same]

theorem Order.SameNotes.trans {first second third : Order} (early : first.SameNotes second)
    (late : second.SameNotes third) : first.SameNotes third :=
  fun name member => (early name member).trans (late name member)

namespace Orders

variable {context : Context} {store after : Store} {orderId adminId : Int} {before result : Order}

theorem sameNotes_move {target : OrderStatus} {now : Instant} {stamp : Option Instant}
    (moves : before.move target now stamp = .ok result) : result.SameNotes before := by
  rcases Order.move_eq_ok.mp moves with ⟨-, rfl⟩
  exact .of_metadata rfl

theorem cancelOwn_sameNotes {caller : Option User} {reason : Option String}
    (found : store.order? orderId = some before)
    (done : cancelOwn caller orderId reason context store = .ok (result, after)) :
    result.SameNotes before := by
  rw [cancelOwn, Work.bind_eq_ok] at done
  rcases done with ⟨order, _, looked, done⟩
  rcases Work.order_eq_ok.mp looked with ⟨-, present, rfl⟩
  rcases Option.some.inj (found.symm.trans present) with rfl
  cases caller with
  | none => exact (Work.breakOff_eq_ok.mp done).elim
  | some user =>
    dsimp only at done
    rw [Work.refuse_ite_eq_ok, Work.ite_eq_ok] at done
    rcases done with ⟨-, ⟨-, done⟩ | ⟨-, done⟩⟩
    · rcases Work.pure_eq_ok.mp done with ⟨rfl, -⟩
      exact .of_metadata rfl
    · rw [Work.refuse_ite_eq_ok, Work.now_bind, Work.bind_eq_ok] at done
      rcases done with ⟨-, moved, _, lifted, done⟩
      rcases Work.lift_eq_ok.mp lifted with ⟨moves, -⟩
      rw [Work.saveOrder_bind, Work.pure_eq_ok] at done
      rcases done with ⟨rfl, -⟩
      exact sameNotes_cancelNote.trans (sameNotes_move moves)

theorem cancelAny_sameNotes {email : String} {reason : Option String} {cancelledAt : Option Int}
    (found : store.order? orderId = some before)
    (done : cancelAny email orderId reason cancelledAt context store = .ok (result, after)) :
    result.SameNotes before := by
  rw [cancelAny, Work.bind_eq_ok] at done
  rcases done with ⟨order, _, looked, done⟩
  rcases Work.order_eq_ok.mp looked with ⟨-, present, rfl⟩
  rcases Option.some.inj (found.symm.trans present) with rfl
  rw [Work.ite_eq_ok] at done
  rcases done with ⟨-, done⟩ | ⟨-, done⟩
  · rcases Work.pure_eq_ok.mp done with ⟨rfl, -⟩
    exact .of_metadata rfl
  · rw [Work.refuse_ite_eq_ok] at done
    rcases done with ⟨-, done⟩
    dsimp only at done
    rw [Work.now_bind, Work.bind_eq_ok] at done
    rcases done with ⟨stamp, _, -, done⟩
    rcases Work.bind_eq_ok.mp done with ⟨moved, _, lifted, done⟩
    rcases Work.lift_eq_ok.mp lifted with ⟨moves, -⟩
    rw [Work.saveOrder_bind, Work.pure_eq_ok] at done
    rcases done with ⟨rfl, -⟩
    exact sameNotes_cancelNote.trans (sameNotes_move moves)

theorem settle_sameNotes {method : PaymentMethod} {notice : PaidNotice}
    (found : store.order? orderId = some before)
    (done : settle adminId orderId method notice context store = .ok (result, after)) :
    result.SameNotes before := by
  rw [settle, Work.bind_eq_ok] at done
  rcases done with ⟨order, _, looked, done⟩
  rcases Work.order_eq_ok.mp looked with ⟨-, present, rfl⟩
  rcases Option.some.inj (found.symm.trans present) with rfl
  rw [Work.refuse_ite_eq_ok] at done
  rcases done with ⟨-, done⟩
  dsimp only at done
  rw [Work.now_bind, Work.bind_eq_ok] at done
  rcases done with ⟨stamp, _, -, done⟩
  rcases Work.bind_eq_ok.mp done with ⟨paidBy, _, -, done⟩
  rcases Work.bind_eq_ok.mp done with ⟨moved, _, lifted, done⟩
  rcases Work.lift_eq_ok.mp lifted with ⟨moves, -⟩
  rw [Work.saveOrder_bind, Work.pure_eq_ok] at done
  rcases done with ⟨rfl, -⟩
  have paid : (moved.paidBy paidBy).SameNotes moved := .of_metadata rfl
  exact sameNotes_settlementNote.trans (paid.trans (sameNotes_move moves))

end Orders

def Store.KeepsNotes (store : Store) (id : Int) (after : Store) : Prop :=
  ∀ before later, store.order? id = some before → after.order? id = some later →
    later.SameNotes before

theorem Orders.Handled.keepsNotes {context : Context} {store after : Store} {orderId : Int}
    {order result : Order} (handled : Handled context store orderId order result after)
    (same : ∀ before, store.order? orderId = some before → result.SameNotes before) :
    store.KeepsNotes orderId after := by
  intro before later found stays
  rw [handled.order?_self] at stays
  rcases Option.some.inj stays with rfl
  exact same before found

namespace Operation

variable {context : Context} {desk : Desk} {orderId : Int}

theorem cancel_keepsNotes {callerId : Option Int} {reason : Option String} :
    Service.Commits (cancel callerId orderId reason).perform context desk
      (desk.store.KeepsNotes orderId) := by
  refine Service.userById_bind_commits <|
    .bind_quiet (.bind_quiet ?_ fun _ => .query _) fun _ => .pure _
  refine Service.Atomic.commits (Service.Atomic.sampled (Service.atomic_transaction _)
    fun _ _ _ _ => rfl) fun result after done => ?_
  rcases (Orders.cancelOwn_ok done).1.handled with ⟨order, handled, -⟩
  exact handled.keepsNotes fun before found => Orders.cancelOwn_sameNotes found done

theorem cancelAsAdmin_keepsNotes {actorId : Option Int} {reason : Option String}
    {cancelledAt : Option Int} :
    Service.Commits (cancelAsAdmin actorId orderId reason cancelledAt).perform context desk
      (desk.store.KeepsNotes orderId) := by
  refine Service.userById_bind_commits <|
    .bind_quiet (.bind_quiet ?_ fun _ => .query _) fun _ => .pure _
  refine Service.Atomic.commits (Service.Atomic.sampled (Service.lift_bind_atomic fun user acts =>
    (Service.atomic_transaction _).mono fun result after done => ?_) fun _ _ _ _ => rfl)
    fun _ _ kept => kept
  rcases (Orders.cancelAny_ok done).handled with ⟨order, handled, -⟩
  exact handled.keepsNotes fun before found => Orders.cancelAny_sameNotes found done

theorem markPaid_keepsNotes {actorId : Option Int} {notice : PaidNotice} :
    Service.Commits (markPaid actorId orderId notice).perform context desk
      (desk.store.KeepsNotes orderId) := by
  refine Service.userById_bind_commits <|
    .bind_quiet (.bind_quiet ?_ fun _ => .query _) fun _ => .pure _
  refine Service.Atomic.commits (Service.Atomic.sampled (Service.lift_bind_atomic fun user acts =>
    Service.lift_bind_atomic fun method supported =>
      (Service.atomic_transaction _).mono fun result after done => ?_) fun _ _ _ _ => rfl)
    fun _ _ kept => kept
  rcases (Orders.settle_ok done).handled with ⟨order, handled, -⟩
  exact handled.keepsNotes fun before found => Orders.settle_sameNotes found done

end Operation

/-- Only a refund of an order changes what the order notes about its refunds. -/
theorem Step.keepsNotes (step : Step) {id : Int}
    (other : ∀ actorId request, step.call.operation ≠ .refund actorId id request) :
    step.desk.store.KeepsNotes id step.after.store := by
  have unless_same {operation : Operation} (asked : step.call.operation = operation)
      (commits : Service.Commits operation.perform step.call.context step.desk
        (step.desk.store.KeepsNotes id)) : step.desk.store.KeepsNotes id step.after.store := by
    rw [← asked] at commits
    rcases commits with same | kept
    · intro before later found stays
      rw [Step.after, Desk.after, Call.outcome, same, found] at stays
      rcases Option.some.inj stays with rfl
      exact .of_metadata rfl
    · exact kept
  intro before later found stays
  rcases step.order?_after found with ⟨_, present, rfl | changes⟩
  · rcases Option.some.inj (stays.symm.trans present) with rfl
    exact .of_metadata rfl
  · rcases Option.some.inj (stays.symm.trans present) with rfl
    rcases Store.order?_eq_some found with ⟨-, rfl⟩
    generalize asked : step.call.operation = operation at changes other
    cases changes with
    | cancelled => exact unless_same asked Operation.cancel_keepsNotes _ _ found stays
    | cancelledByAdmin => exact unless_same asked Operation.cancelAsAdmin_keepsNotes _ _ found stays
    | settled => exact unless_same asked Operation.markPaid_keepsNotes _ _ found stays
    | refunded => exact absurd rfl (other _ _)
    | collected | uncollected => exact .of_metadata rfl

/-! ## Runs -/

theorem Purchase.unnoted (purchase : Purchase) :
    ∀ name ∈ Orders.refundNames, name ∉ purchase.metadata.map (·.1) := by
  have names : purchase.metadata.map (·.1) ⊆
      ["quantity", "payment_channel", "payment_return_url"] := by
    rw [metadata, textField, textField]
    split <;> split <;> simp
  have other : ∀ name ∈ Orders.refundNames,
      name ∉ ["quantity", "payment_channel", "payment_return_url"] := by decide
  exact fun name member noted => other name member (names noted)

namespace Operation

variable {context : Context} {last : Int} {store after : Store} {operation : Operation}

theorem Committed.orderRefunds_eq (committed : Committed context last store operation after)
    (other : ∀ actorId orderId request, operation ≠ .refund actorId orderId request) :
    after.orderRefunds = store.orderRefunds := by
  cases committed with
  | moved posting | credited positive posting => rw [posting.store_eq]
  | created ordered | createdLate ordered =>
    rcases ordered with ⟨user, purchase, -, -, -, placing⟩
    cases placing with
    | intro drafting item_eq settled => exact settled.framed.refunds_eq
  | cancelled cancelling | cancelledByAdmin cancelling =>
    rcases cancelling.handled with ⟨order, -, unrefunded⟩
    exact unrefunded.refunds_eq
  | settled admin supported settling =>
    rcases settling.handled with ⟨order, -, unrefunded⟩
    exact unrefunded.refunds_eq
  | refunded => exact absurd rfl (other _ _ _)
  | reported read reporting =>
    rcases reporting.handled with ⟨order, -, unrefunded⟩
    exact unrefunded.refunds_eq
  | opened | patched => rfl

theorem OrdersChanged.unnoted (changed : OrdersChanged context last store after operation)
    {id : Int} {order : Order} (missing : store.order? id = none)
    (found : after.order? id = some order) :
    ∀ name ∈ Orders.refundNames, order.noted name = none := by
  cases changed with
  | kept orders =>
    rw [Store.order?_congr orders, missing] at found
    cases found
  | @placed _ _ purchase draft balance settlement _ named purchasing drafting settled orders =>
    have new : order = settlement.order := by
      rw [Store.order?, orders, List.find?_append, ← Store.order?, missing, Option.none_or] at found
      exact List.mem_singleton.mp (List.mem_of_find?_eq_some found)
    have metadata : order.metadata = some purchase.metadata := by
      rcases drafting.draft_eq with ⟨snapshot, -, rfl⟩
      rw [new]
      cases settled <;> rfl
    intro name member
    rw [Order.noted, metadata]
    exact Fields.get?_eq_none fun noted => purchase.unnoted name member noted
  | @changed other result handled changes =>
    by_cases same : id = other.id
    · rw [same, handled.order?_eq] at missing
      cases missing
    · rw [handled.order?_of_ne same, missing] at found
      cases found

end Operation

structure Store.RefundsNoted (store : Store) : Prop where
  owned : ∀ refund ∈ store.orderRefunds, ∃ order, store.order? refund.orderId = some order
  notes : ∀ id order, store.order? id = some order → order.Notes (store.refundsOf id)

theorem Orders.Crediting.grown {context : Context} {store between : Store} {adminId orderId : Int}
    {request : RefundRequest} {order : Order} {posted : LedgerEntry}
    (crediting : Crediting context store adminId orderId request order posted between) :
    ∃ id, (refundRow order adminId request posted id).orderId = orderId ∧
      between.orderRefunds = store.orderRefunds ++ [refundRow order adminId request posted id] := by
  rcases crediting.credited with ⟨balance, paid, -, rfl⟩
  exact ⟨_, found_id crediting.found, rfl⟩

namespace Store.RefundsNoted

variable {context : Context} {store after : Store}

theorem of_no_refunds (noRefunds : store.orderRefunds = [])
    (unnoted : ∀ order ∈ store.orders, ∀ name ∈ Orders.refundNames, order.noted name = none) :
    store.RefundsNoted where
  owned := by simp [noRefunds]
  notes id order found := by
    rw [refundsOf, noRefunds]
    exact .of_unnoted (unnoted order (order?_eq_some found).1)

theorem refundsOf_of_missing (noted : store.RefundsNoted) {id : Int}
    (missing : store.order? id = none) : store.refundsOf id = [] := by
  rw [refundsOf, List.filter_eq_nil_iff]
  intro refund member same
  rcases noted.owned refund member with ⟨order, found⟩
  rw [beq_iff_eq.mp same, missing] at found
  cases found

theorem kept (noted : store.RefundsNoted) (refunds : after.orderRefunds = store.orderRefunds)
    (stays : ∀ id before, store.order? id = some before → ∃ later, after.order? id = some later)
    (keeps : ∀ id, store.KeepsNotes id after)
    (new : ∀ id order, store.order? id = none → after.order? id = some order →
      ∀ name ∈ Orders.refundNames, order.noted name = none) : after.RefundsNoted where
  owned refund member := by
    rw [refunds] at member
    rcases noted.owned refund member with ⟨order, found⟩
    exact stays _ order found
  notes id later found := by
    rw [refundsOf, refunds, ← refundsOf]
    cases earlier : store.order? id with
    | none =>
      rw [noted.refundsOf_of_missing earlier]
      exact .of_unnoted (new id later earlier found)
    | some before =>
      exact (noted.notes id before earlier).same (keeps id before later earlier found)

theorem refunded {user : User} {orderId : Int} {request : RefundRequest} {order result : Order}
    {posted : LedgerEntry} {between : Store} (noted : store.RefundsNoted)
    (crediting : Orders.Crediting context store user.id orderId request order posted between)
    (ending : Orders.Ending (Orders.refundedBy order user.id request posted context.now) user.email
      context.now result) : (Orders.saved between result).RefundsNoted := by
  have handled := crediting.handled ending
  rcases crediting.grown with ⟨rowId, owner, grown⟩
  change (Orders.saved between result).orderRefunds = _ at grown
  constructor
  · intro refund member
    rw [grown] at member
    rcases List.mem_append.mp member with old | new
    · rcases noted.owned refund old with ⟨before, found⟩
      rcases handled.order?_cases found with ⟨-, stays⟩ | stays
      · exact ⟨_, stays⟩
      · exact ⟨_, stays⟩
    · rw [List.mem_singleton.mp new]
      exact ⟨result, owner.symm ▸ handled.order?_self⟩
  · intro id later found
    rw [refundsOf, grown]
    by_cases own : id = orderId
    · subst own
      rw [handled.order?_self] at found
      rcases Option.some.inj found with rfl
      rw [filter_append_of_eq owner]
      exact (noted.notes id order handled.order?_eq).refunded ending
    · rw [handled.order?_of_ne own] at found
      rw [filter_append_of_ne fun same => own (same.symm.trans owner)]
      exact noted.notes id later found

end Store.RefundsNoted

theorem Step.noted (step : Step) (before : step.desk.store.RefundsNoted) :
    step.after.store.RefundsNoted := by
  rcases step.commits with same | committed
  · rwa [same]
  · by_cases refund :
        ∃ actorId orderId request, step.call.operation = .refund actorId orderId request
    · rcases refund with ⟨actorId, orderId, request, asked⟩
      rw [asked] at committed
      generalize step.after.store = after at committed ⊢
      cases committed with
      | refunded admin crediting ending => exact before.refunded crediting ending
    · have other : ∀ actorId orderId request,
          step.call.operation ≠ .refund actorId orderId request :=
        fun actorId orderId request asked => refund ⟨actorId, orderId, request, asked⟩
      refine before.kept (committed.orderRefunds_eq other) (fun id present found => ?_)
        (fun id => step.keepsNotes fun actorId request => other actorId id request)
        fun id order missing found => committed.changed.unnoted missing found
      rcases committed.changed.order?_after found with ⟨later, stays, -⟩
      exact ⟨later, stays⟩

namespace Desk

theorem steps_noted {desk : Desk} {calls : List Call} (start : desk.store.RefundsNoted) :
    (∀ step ∈ desk.steps calls, step.desk.store.RefundsNoted) ∧
      (desk.afterAll calls).store.RefundsNoted := by
  induction calls generalizing desk with
  | nil => exact ⟨fun _ member => (List.not_mem_nil member).elim, start⟩
  | cons call rest induction =>
    have next : (desk.after call).store.RefundsNoted := Step.noted ⟨desk, call⟩ start
    rcases induction next with ⟨later, final⟩
    exact ⟨List.forall_mem_cons.mpr ⟨start, later⟩, final⟩

end Desk

/-! ## Refunds that are answered -/

namespace Orders

variable {context : Context} {desk after : Desk} {orderId : Int} {request : RefundRequest}

theorem admin_eq_some {actor : Option User} {user : User} (acts : admin actor = .ok user) :
    actor = some user := by
  cases actor with
  | none => cases acts
  | some acting =>
    rw [admin, Outcome.bind_eq_ok] at acts
    rcases acts with ⟨decision, -, decided⟩
    rw [Outcome.throw_ite_eq_ok] at decided
    rw [Except.ok.inj decided.2]

theorem refund_ok {actor : Option User} {shown : AdminOrderDetail}
    (ran : (refund actor orderId request).run context desk = (.ok shown, after)) :
    ∃ user order posted between result, actor = some user ∧
      Crediting context desk.store user.id orderId request order posted between ∧
      Ending (refundedBy order user.id request posted context.now) user.email context.now result ∧
      after.store = saved between result ∧ shown.detail.order = result := by
  rcases refund_eq_ok ran with ⟨user, result, acts, done, rfl⟩
  rcases refundPart_ok done with ⟨order, posted, between, crediting, ending, saves⟩
  exact ⟨user, order, posted, between, result, admin_eq_some acts, crediting, ending, saves, rfl⟩

end Orders

/-- An order describes a refund that an administrator has made. -/
structure Order.Describes (order : Order) (adminId : Int) (refund : OrderRefund) : Prop where
  amount : order.noted "last_refund_amount" = some (.int refund.amountCents)
  entry : ∃ entry, refund.metadata.get? "balance_transaction_id" = some entry ∧
    order.noted "last_refund_tx_id" = some entry
  admin : order.noted "last_refund_by" = some (.text (Orders.adminTag adminId))
  time : order.noted "last_refund_at" = some (.text refund.createdAt.isoText)

theorem Order.Notes.describes {order : Order} {refunds : List OrderRefund} {refund : OrderRefund}
    {adminId : Int} (notes : order.Notes (refunds ++ [refund]))
    (acting : refund.adminNote? = some (.text (Orders.adminTag adminId)))
    (posted : ∃ entry, refund.metadata.get? "balance_transaction_id" = some entry) :
    order.Describes adminId refund where
  amount := by
    rw [notes.amount, List.getLast?_concat]
    rfl
  entry := by
    rcases posted with ⟨entry, present⟩
    refine ⟨entry, present, ?_⟩
    rw [notes.entry, List.getLast?_concat, Option.bind_some, present]
  admin := by rw [notes.admin, List.getLast?_concat, Option.bind_some, acting]
  time := by
    rw [notes.time, List.getLast?_concat]
    rfl

theorem Order.Notes.noted_given {text : OrderRefund → Option String} {refunds : List OrderRefund}
    {refund : OrderRefund} {noted : Option Json}
    (notes : noted = ((refunds ++ [refund]).filterMap text).getLast?.map .text)
    (first : text refund ≠ none ∨ ∀ earlier ∈ refunds, text earlier = none) :
    noted = (text refund).map .text := by
  rw [notes, getLast?_given]
  cases given : text refund with
  | some value => rfl
  | none =>
    rw [List.filterMap_eq_nil_iff.mpr (first.resolve_left (not_not_intro given))]
    rfl

/-- What a refund leaves behind: a row, and an order that describes it. -/
structure Step.Refunded (step : Step) (adminId orderId : Int) (request : RefundRequest)
    (order : Order) (refund : OrderRefund) : Prop where
  found : step.after.store.order? orderId = some order
  added : step.added (·.orderRefunds) = [refund]
  owner : refund.orderId = orderId
  amount : refund.amountCents = request.amountCents
  given : refund.reason = Orders.given request.reason ∧
    refund.reference = Orders.given request.reference
  describes : order.Describes adminId refund
  reason : (refund.reason ≠ none ∨
      ∀ earlier ∈ step.desk.store.refundsOf orderId, earlier.reason = none) →
    order.noted "last_refund_reason" = refund.reason.map .text
  reference : (refund.reference ≠ none ∨
      ∀ earlier ∈ step.desk.store.refundsOf orderId, earlier.reference = none) →
    order.noted "last_refund_reference" = refund.reference.map .text

theorem Step.refunded {step : Step} (noted : step.desk.store.RefundsNoted) {actorId : Option Int}
    {orderId : Int} {request : RefundRequest} {reply : Reply}
    (asked : step.call.operation = .refund actorId orderId request)
    (answered : step.answer = .ok reply) :
    ∃ adminId order refund shown, actorId = some adminId ∧ reply = .order shown ∧
      shown.detail.order = order ∧ step.Refunded adminId orderId request order refund := by
  have ran : (Operation.refund actorId orderId request).perform.run step.call.context step.desk =
      (.ok reply, step.after) := by
    rw [← asked]
    exact Prod.ext answered rfl
  rcases Operation.asking_ok ran with ⟨shown, refunding, rfl⟩
  rcases Orders.refund_ok refunding
    with ⟨user, order, posted, between, result, acting, crediting, ending, saved, shows⟩
  rcases crediting.grown with ⟨rowId, owner, grown⟩
  have handled := crediting.handled ending
  have found : step.after.store.order? orderId = some result := by
    rw [saved]
    exact handled.order?_self
  have rows : step.after.store.orderRefunds = step.desk.store.orderRefunds ++
      [Orders.refundRow order user.id request posted rowId] := by
    rw [saved]
    exact grown
  have notes := (step.noted noted).notes orderId result found
  rw [Store.refundsOf, rows, Store.filter_append_of_eq owner, ← Store.refundsOf] at notes
  have named : actorId = some user.id := by
    rcases Option.bind_eq_some_iff.mp acting with ⟨id, rfl, present⟩
    have own : user.id = id := by simpa using List.find?_some present
    rw [own]
  refine ⟨user.id, result, Orders.refundRow order user.id request posted rowId, shown, named, rfl,
    shows, ?_⟩
  exact {
    found := found
    added := Step.added_append rows
    owner := owner
    amount := rfl
    given := ⟨by rw [Orders.refundRow], by rw [Orders.refundRow]⟩
    describes := notes.describes (Orders.adminNote?_refundRow order user.id request posted rowId)
      ⟨.int posted.id, by rw [Orders.refundRow, Fields.get?_put, if_pos rfl]⟩
    reason := Order.Notes.noted_given notes.reason
    reference := Order.Notes.noted_given notes.reference }

namespace Desk

/-- After every refund that is answered, the order describes the row that has been added, and has
noted its reason and its reference. If the row has none, the order has noted the last one that an
earlier refund gave; so nothing is noted only if none has ever been given. In between the notes
stay. -/
theorem refunds_noted {desk : Desk} (noRefunds : desk.store.orderRefunds = [])
    (unnoted : ∀ order ∈ desk.store.orders, ∀ name ∈ Orders.refundNames, order.noted name = none)
    (calls : List Call) :
    (∀ step ∈ desk.steps calls, ∀ actorId orderId request reply,
      step.call.operation = .refund actorId orderId request → step.answer = .ok reply →
      ∃ adminId order refund shown, actorId = some adminId ∧ reply = .order shown ∧
        shown.detail.order = order ∧ step.Refunded adminId orderId request order refund) ∧
    ∀ id order, (desk.afterAll calls).store.order? id = some order →
      order.Notes ((desk.afterAll calls).store.refundsOf id) := by
  rcases steps_noted (.of_no_refunds noRefunds unnoted) with ⟨before, final⟩
  exact ⟨fun step member _ _ _ _ asked answered =>
    Step.refunded (before step member) asked answered, final.notes⟩

def sampleRefunds : List Call := samplePayments ++ [
  sampleCall 40 (.refund (some 2) 2
    { amountCents := 400, reason := some "downtime", reference := some "ticket-9" }),
  sampleCall 50 (.refund (some 2) 2 { amountCents := 300 })]

def sampleSilentRefund : Step where
  desk := sample.afterAll (sampleRefunds.take 4)
  call := sampleCall 50 (.refund (some 2) 2 { amountCents := 300 })

set_option maxRecDepth 4000 in
theorem sample_refunds_noted :
    sample.store.orderRefunds = [] ∧ sampleSilentRefund.answer.isOk ∧
      (∃ order refund, sampleSilentRefund.Refunded 2 2 { amountCents := 300 } order refund) ∧
      ((sample.afterAll sampleRefunds).store.refundsOf 2).map (·.amountCents) = [400, 300] ∧
      ∀ order, (sample.afterAll sampleRefunds).store.order? 2 = some order →
        order.Notes ((sample.afterAll sampleRefunds).store.refundsOf 2) := by
  rcases @refunds_noted sample rfl (by decide) sampleRefunds with ⟨described, final⟩
  have member : sampleSilentRefund ∈ sample.steps sampleRefunds :=
    List.mem_of_getElem? (i := 4) rfl
  have served : sampleSilentRefund.answer.isOk := by decide +kernel
  cases answered : sampleSilentRefund.answer with
  | error failure =>
    rw [answered] at served
    cases served
  | ok reply =>
    rcases described _ member _ _ _ _ rfl answered
      with ⟨adminId, order, refund, -, acting, -, -, made⟩
    cases acting
    exact ⟨rfl, rfl, ⟨order, refund, made⟩, by decide +kernel, final 2⟩

set_option maxRecDepth 4000 in
/-- The second refund gives neither a reason nor a reference, and the order keeps those of the
first beside the amount of the second. -/
theorem sample_silent_refund_misnoted :
    sampleSilentRefund ∈ sample.steps sampleRefunds ∧
      sampleSilentRefund.answer.isOk ∧
      (sampleSilentRefund.added (·.orderRefunds)).map (fun refund =>
        (refund.amountCents, refund.reason, refund.reference)) = [(300, none, none)] ∧
      (sampleSilentRefund.after.store.order? 2).map (fun order =>
        (Orders.refundNames.filterMap order.noted).map Json.display) = some
        ["300", "5", "admin:2", "1970-01-01T00:00:50+00:00", "downtime", "ticket-9"] :=
  ⟨List.mem_of_getElem? (i := 4) rfl, by decide +kernel, by decide +kernel, by decide +kernel⟩

end Desk

end OrderDesk
