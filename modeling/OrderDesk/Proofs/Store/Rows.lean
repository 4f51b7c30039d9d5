import OrderDesk.Proofs.Store.Work

/-!
Rows and their keys, and what finding, inserting and replacing single rows has done when it
succeeds.
-/

namespace OrderDesk

namespace Store

/-! ## Keys -/

section

variable {Row Key : Type} [DecidableEq Key] {key : Row → Key} {row : Row} {rows : List Row}

theorem mem_replace {present : Row} (member : present ∈ replace key row rows) :
    present = row ∨ present ∈ rows ∧ key present ≠ key row := by
  by_cases same : key present = key row
  · rcases List.mem_map.mp member with ⟨origin, -, equal⟩
    by_cases replaced : key origin = key row
    · rw [if_pos replaced] at equal
      exact .inl equal.symm
    · rw [if_neg replaced] at equal
      exact absurd (equal ▸ same) replaced
  · exact .inr ⟨(mem_replace_of_ne key row rows same).mp member, same⟩

theorem replace_append_of_fresh {last : Row} (fresh : ∀ present ∈ rows, key present ≠ key row)
    (same : key last = key row) : replace key row (rows ++ [last]) = rows ++ [row] := by
  have untouched : replace key row rows = rows.map id :=
    List.map_congr_left fun present member => if_neg (fresh present member)
  rw [replace, List.map_append, List.map_cons, List.map_nil, if_pos same, ← replace, untouched,
    List.map_id]

theorem find?_replace_of_ne {wanted : Key} (different : wanted ≠ key row) :
    (replace key row rows).find? (key · == wanted) = rows.find? (key · == wanted) := by
  induction rows with
  | nil => rfl
  | cons first rest induction =>
    rw [replace, List.map_cons, List.find?_cons, List.find?_cons]
    by_cases replaced : key first = key row
    · rw [if_pos replaced, replaced, beq_false_of_ne different.symm]
      exact induction
    · rw [if_neg replaced]
      cases key first == wanted with
      | true => rfl
      | false => exact induction

theorem map_replace {Value : Type} {value : Row → Value}
    (same : ∀ present ∈ rows, key present = key row → value row = value present) :
    (replace key row rows).map value = rows.map value := by
  rw [replace, List.map_map]
  refine List.map_congr_left fun present member => ?_
  change value (if key present = key row then row else present) = value present
  split
  · next replaced => exact same present member replaced
  · rfl

theorem filter_append_of_eq {wanted : Key} (own : key row = wanted) :
    (rows ++ [row]).filter (key · == wanted) = rows.filter (key · == wanted) ++ [row] := by
  simp [List.filter_append, own]

theorem filter_append_of_ne {wanted : Key} (foreign : key row ≠ wanted) :
    (rows ++ [row]).filter (key · == wanted) = rows.filter (key · == wanted) := by
  simp [List.filter_append, foreign]

theorem filter_eq_singleton (distinct : (rows.map key).Nodup) (member : row ∈ rows) :
    rows.filter (key · == key row) = [row] := by
  induction rows with
  | nil => cases member
  | cons first rest induction =>
    rcases List.nodup_cons.mp distinct with ⟨alone, distinct⟩
    rcases List.mem_cons.mp member with rfl | later
    · have none : rest.filter (key · == key row) = [] := by
        rw [List.filter_eq_nil_iff]
        intro present member same
        exact alone (List.mem_map.mpr ⟨present, member, beq_iff_eq.mp same⟩)
      simp [none]
    · have different : key first ≠ key row :=
        fun same => alone (same ▸ List.mem_map_of_mem later)
      simp [different, induction distinct later]

theorem find?_of_mem (distinct : (rows.map key).Nodup) (member : row ∈ rows) :
    rows.find? (key · == key row) = some row := by
  rw [← List.head?_filter, filter_eq_singleton distinct member, List.head?_singleton]

theorem filter_replace_of_ne {Owner : Type} [DecidableEq Owner] {owner : Row → Owner}
    {wanted : Owner} (foreign : ∀ present ∈ rows, key present = key row → owner present ≠ wanted)
    (other : owner row ≠ wanted) :
    (replace key row rows).filter (owner · == wanted) = rows.filter (owner · == wanted) := by
  induction rows with
  | nil => rfl
  | cons first rest induction =>
    rcases List.forall_mem_cons.mp foreign with ⟨here, later⟩
    rw [replace, List.map_cons, List.filter_cons, List.filter_cons, ← replace, induction later]
    by_cases replaced : key first = key row
    · simp [replaced, other, here replaced]
    · simp [replaced]

theorem find?_replace_self {present : Row} (member : present ∈ rows)
    (same : key present = key row) :
    (replace key row rows).find? (key · == key row) = some row := by
  induction rows with
  | nil => cases member
  | cons first rest induction =>
    rw [replace, List.map_cons, List.find?_cons]
    by_cases replaced : key first = key row
    · rw [if_pos replaced, beq_self_eq_true]
    · rw [if_neg replaced, beq_false_of_ne replaced]
      rcases List.mem_cons.mp member with equal | member
      · exact absurd (equal ▸ same) replaced
      · exact induction member

end

theorem nodup_append_nextId {Row : Type} {key : Row → Int} {row : Row} {rows : List Row}
    (next : key row = nextId (rows.map key)) (keyed : (rows.map key).Nodup) :
    ((rows ++ [row]).map key).Nodup := by
  rw [List.map_append, List.map_singleton, List.nodup_append]
  refine ⟨keyed, by simp, fun id present last only => ?_⟩
  rw [List.mem_singleton.mp only, next]
  exact Int.ne_of_lt (lt_nextId present)

theorem order?_eq_some {store : Store} {id : Int} {order : Order}
    (found : store.order? id = some order) : order ∈ store.orders ∧ order.id = id :=
  ⟨List.mem_of_find?_eq_some found, by simpa using List.find?_some found⟩

theorem order?_congr {store after : Store} (orders : after.orders = store.orders) :
    after.order? = store.order? := by
  funext id
  rw [order?, order?, orders]

section

variable {store after : Store} {order : Order} (appended : after.orders = store.orders ++ [order])

include appended

theorem order?_append_of_found {id : Int} {present : Order}
    (found : store.order? id = some present) : after.order? id = some present := by
  rw [order?, appended, List.find?_append, ← order?, found]
  rfl

theorem order?_append_of_ne {id : Int} (different : id ≠ order.id) :
    after.order? id = store.order? id := by
  rw [order?, appended, List.find?_append, ← order?]
  simp [different.symm]

theorem order?_append_self (fresh : ∀ other ∈ store.orders, other.id ≠ order.id) :
    after.order? order.id = some order := by
  have unknown : store.orders.find? (·.id == order.id) = none := by simpa using fresh
  rw [order?, appended, List.find?_append, unknown]
  simp

end

theorem balance?_eq_some {store : Store} {userId : Int} {balance : Balance}
    (found : store.balance? userId = some balance) :
    balance ∈ store.balances ∧ balance.userId = userId :=
  ⟨List.mem_of_find?_eq_some found, by simpa using List.find?_some found⟩

theorem balance?_eq_none {store : Store} {userId : Int} :
    store.balance? userId = none ↔ ∀ balance ∈ store.balances, balance.userId ≠ userId := by
  simp [balance?]

end Store

namespace Work

variable {context : Context} {store after : Store}

/-! ## Finding rows -/

theorem user?_eq_ok {id : Int} {found : Option User} :
    user? id context store = .ok (found, after) ↔
      Allowed context store [.users] [id] ∧ store.user? id = found ∧ store = after := by
  rw [user?, statement_bind_eq_ok, get_bind, pure_eq_ok]

theorem plan?_eq_ok {id : Int} {found : Option Plan} :
    plan? id context store = .ok (found, after) ↔
      Allowed context store [.plans] [id] ∧ store.plan? id = found ∧ store = after := by
  rw [plan?, statement_bind_eq_ok, get_bind, pure_eq_ok]

theorem balance?_eq_ok {userId : Int} {found : Option Balance} :
    balance? userId context store = .ok (found, after) ↔
      Allowed context store [.balances] [userId] ∧ store.balance? userId = found ∧
        store = after := by
  rw [balance?, statement_bind_eq_ok, get_bind, pure_eq_ok]

theorem paymentsOf_eq_ok {orderId : Int} {found : List OrderPayment} :
    paymentsOf orderId context store = .ok (found, after) ↔
      Allowed context store [.orderPayments] [orderId] ∧ store.paymentsOf orderId = found ∧
        store = after := by
  rw [paymentsOf, statement_bind_eq_ok, get_bind, pure_eq_ok]

theorem securitySetting?_eq_ok {found : Option SecuritySetting} :
    securitySetting? context store = .ok (found, after) ↔
      Allowed context store [.securitySettings] [] ∧ store.securitySetting? = found ∧
        store = after := by
  rw [securitySetting?, statement_bind_eq_ok, get_bind, pure_eq_ok]

theorem order_eq_ok {id : Int} {found : Order} :
    order id context store = .ok (found, after) ↔
      Allowed context store [.orders] [id] ∧ store.order? id = some found ∧ store = after := by
  rw [order, statement_bind_eq_ok, get_bind]
  cases store.order? id with
  | none => simp [refuse_eq_ok]
  | some present => rw [pure_eq_ok, Option.some.injEq]

theorem order_present {id : Int} {found : Order}
    (done : order id context store = .ok (found, after)) :
    found ∈ store.orders ∧ store.order? found.id = some found := by
  rcases order_eq_ok.mp done with ⟨-, present, -⟩
  rcases Store.order?_eq_some present with ⟨member, rfl⟩
  exact ⟨member, present⟩

theorem balance_eq_ok {userId : Int} {found : Balance} :
    balance userId context store = .ok (found, after) ↔
      Allowed context store [.balances] [userId] ∧
        (store.balance? userId).getD (.empty userId context.settings.walletCurrency) = found ∧
          store = after := by
  rw [balance, balance?, bind_assoc, statement_bind_eq_ok, bind_assoc, get_bind, pure_bind]
  cases store.balance? userId with
  | none => simp only [read_bind, pure_eq_ok, Option.getD_none]
  | some present => simp only [pure_eq_ok, Option.getD_some]

/-! ## Inserting rows -/

theorem insertOrder_eq_ok {draft : Int → Order} {order : Order} :
    insertOrder draft context store = .ok (order, after) ↔
      Allowed context store [.orders]
          ([order.userId, order.totalCents, order.refundedCents] ++ order.planId.toList) ∧
        (∀ other ∈ store.orders, other.number ≠ order.number) ∧
        order = draft (Store.nextId (store.orders.map (·.id))) ∧
        after = { store with orders := store.orders ++ [order] } := by
  simp only [insertOrder, get_bind, statement_bind_eq_ok, breakOff_ite_eq_ok, modify_bind,
    pure_eq_ok]
  constructor
  · rintro ⟨allowed, unused, rfl, rfl⟩
    exact ⟨allowed, by simpa using unused, rfl, rfl⟩
  · rintro ⟨allowed, unused, rfl, rfl⟩
    exact ⟨allowed, by simpa using unused, rfl, rfl⟩

theorem insertItem_eq_ok {draft : Int → OrderItem} {item : OrderItem} :
    insertItem draft context store = .ok (item, after) ↔
      Allowed context store [.orderItems]
          [item.orderId, item.itemId, item.quantity, item.unitPriceCents, item.subtotalCents] ∧
        item = draft (Store.nextId (store.orderItems.map (·.id))) ∧
        after = { store with orderItems := store.orderItems ++ [item] } := by
  simp only [insertItem, get_bind, statement_bind_eq_ok, modify_bind, pure_eq_ok]
  constructor <;> rintro ⟨allowed, rfl, rfl⟩ <;> exact ⟨allowed, rfl, rfl⟩

theorem insertRefund_eq_ok {draft : Int → OrderRefund} {refund : OrderRefund} :
    insertRefund draft context store = .ok (refund, after) ↔
      Allowed context store [.orderRefunds] [refund.orderId, refund.amountCents] ∧
        refund = draft (Store.nextId (store.orderRefunds.map (·.id))) ∧
        after = { store with orderRefunds := store.orderRefunds ++ [refund] } := by
  simp only [insertRefund, get_bind, statement_bind_eq_ok, modify_bind, pure_eq_ok]
  constructor <;> rintro ⟨allowed, rfl, rfl⟩ <;> exact ⟨allowed, rfl, rfl⟩

theorem insertPayment_eq_ok {draft : Int → OrderPayment} {payment : OrderPayment} :
    insertPayment draft context store = .ok (payment, after) ↔
      Allowed context store [.orderPayments] [payment.orderId, payment.amountCents] ∧
        payment = draft (Store.nextId (store.orderPayments.map (·.id))) ∧
        after = { store with orderPayments := store.orderPayments ++ [payment] } := by
  simp only [insertPayment, get_bind, statement_bind_eq_ok, modify_bind, pure_eq_ok]
  constructor <;> rintro ⟨allowed, rfl, rfl⟩ <;> exact ⟨allowed, rfl, rfl⟩

theorem insertBalance_eq_ok {balance inserted : Balance} :
    insertBalance balance context store = .ok (inserted, after) ↔
      Allowed context store [.balances] [balance.userId, balance.cents] ∧ inserted = balance ∧
        after = { store with balances := store.balances ++ [balance] } := by
  simp only [insertBalance, statement_bind_eq_ok, modify_bind, pure_eq_ok]
  constructor <;> rintro ⟨allowed, rfl, rfl⟩ <;> exact ⟨allowed, rfl, rfl⟩

theorem insertEntry_eq_ok {draft : Int → LedgerEntry} {entry : LedgerEntry} :
    insertEntry draft context store = .ok (entry, after) ↔
      Allowed context store [.ledger]
          [entry.userId, entry.amountCents, entry.balanceAfterCents] ∧
        entry = draft (Store.nextId (store.ledger.map (·.id))) ∧
        after = { store with ledger := store.ledger ++ [entry] } := by
  simp only [insertEntry, get_bind, statement_bind_eq_ok, modify_bind, pure_eq_ok]
  constructor <;> rintro ⟨allowed, rfl, rfl⟩ <;> exact ⟨allowed, rfl, rfl⟩

theorem insertEntry_bind_of_complete {α : Type} (complete : store.dropped = [])
    {draft : Int → LedgerEntry} {next : LedgerEntry → Work α} :
    let entry := draft (Store.nextId (store.ledger.map (·.id)))
    (insertEntry draft >>= next) context store =
      accept context [entry.userId, entry.amountCents, entry.balanceAfterCents] >>= fun _ =>
        next entry context { store with ledger := store.ledger ++ [entry] } := by
  intro entry
  rw [insertEntry, bind_assoc, get_bind, bind_assoc, statement_bind_of_complete complete]
  rfl

theorem insertBinding_eq_ok {draft : Int → KeyBinding} {binding : KeyBinding} :
    insertBinding draft context store = .ok (binding, after) ↔
      Allowed context store [.keyBindings] [binding.userId, binding.orderId] ∧
        store.binding? binding.userId binding.endpoint binding.key = none ∧
        binding = draft (Store.nextId (store.keyBindings.map (·.id))) ∧
        after = { store with keyBindings := store.keyBindings ++ [binding] } := by
  simp only [insertBinding, get_bind, statement_bind_eq_ok, breakOff_ite_eq_ok, modify_bind,
    pure_eq_ok]
  constructor
  · rintro ⟨allowed, unused, rfl, rfl⟩
    exact ⟨allowed, by simpa using unused, rfl, rfl⟩
  · rintro ⟨allowed, unused, rfl, rfl⟩
    exact ⟨allowed, by simpa using unused, rfl, rfl⟩

theorem insertSecuritySetting_eq_ok {draft : Int → SecuritySetting}
    {setting : SecuritySetting} :
    insertSecuritySetting draft context store = .ok (setting, after) ↔
      Allowed context store [.securitySettings] [setting.nonceTtlSeconds] ∧
        setting = draft (Store.nextId (store.securitySettings.map (·.id))) ∧
        after = { store with securitySettings := store.securitySettings ++ [setting] } := by
  simp only [insertSecuritySetting, get_bind, statement_bind_eq_ok, modify_bind, pure_eq_ok]
  constructor <;> rintro ⟨allowed, rfl, rfl⟩ <;> exact ⟨allowed, rfl, rfl⟩

/-! ## Replacing rows -/

theorem saveOrder_bind {α : Type} {order : Order} {next : Unit → Work α} :
    (saveOrder order >>= next) context store =
      next () context { store with orders := Store.replace (·.id) order store.orders } :=
  rfl

theorem savePayment_bind {α : Type} {payment : OrderPayment} {next : Unit → Work α} :
    (savePayment payment >>= next) context store =
      next () context
        { store with orderPayments := Store.replace (·.id) payment store.orderPayments } :=
  rfl

theorem saveBalance_bind {α : Type} {balance : Balance} {next : Unit → Work α} :
    (saveBalance balance >>= next) context store =
      next () context
        { store with balances := Store.replace (·.userId) balance store.balances } :=
  rfl

theorem saveSecuritySetting_eq_ok {setting : SecuritySetting} {done : Unit} :
    saveSecuritySetting setting context store = .ok (done, after) ↔
      Allowed context store [.securitySettings] [setting.nonceTtlSeconds] ∧
        after = { store with
          securitySettings := Store.replace (·.id) setting store.securitySettings } := by
  rw [saveSecuritySetting, statement_bind_eq_ok, modify_eq_ok]

end Work

end OrderDesk
