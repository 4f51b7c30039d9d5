import OrderDesk.Proofs.Desk.Isolation
import OrderDesk.Proofs.Order.Containment
import OrderDesk.Proofs.Order.Filing

/-!
Reading what has been written. Whoever may look at an order, alone or on a page of a listing, is
shown the row itself and all rows that belong to it, and a receipt has told the same already.
-/

namespace OrderDesk

/-! ## What belongs to an order -/

structure RowsOf {Row : Type} (id orderId : Row → Int) (table : List Row) (wanted : Int)
    (rows : List Row) : Prop where
  mem_iff : ∀ row, row ∈ rows ↔ row ∈ table ∧ orderId row = wanted
  ascending : (rows.map id).Pairwise (· < ·)

theorem Filed.rowsOf {Row : Type} {id orderId : Row → Int} {orderIds : List Int} {table : List Row}
    (filed : Filed id orderId orderIds table) (wanted : Int) :
    RowsOf id orderId table wanted (table.filter (orderId · == wanted)) where
  mem_iff row := by simp
  ascending := filed.ascending.sublist (List.filter_sublist.map id)

namespace Store

/-- The order is there, and what is shown with it is all that belongs to it. -/
structure Shows (store : Store) (detail : OrderDetail) : Prop where
  order : detail.order ∈ store.orders
  items : RowsOf (·.id) (·.orderId) store.orderItems detail.order.id detail.items
  refunds : RowsOf (·.id) (·.orderId) store.orderRefunds detail.order.id detail.refunds
  payments : RowsOf (·.id) (·.orderId) store.orderPayments detail.order.id detail.payments

variable {store : Store} {order : Order}

theorem Filed.shows (filed : store.Filed) (member : order ∈ store.orders) :
    store.Shows (store.detail order) where
  order := member
  items := filed.items.rowsOf order.id
  refunds := filed.refunds.rowsOf order.id
  payments := filed.payments.rowsOf order.id

theorem Filed.detail_of_new {after : Store} {detail : OrderDetail} (filed : store.Filed)
    (fresh : ∀ other ∈ store.orders, other.id ≠ detail.order.id)
    (items : after.orderItems = store.orderItems ++ detail.items)
    (refunds : after.orderRefunds = store.orderRefunds ++ detail.refunds)
    (payments : after.orderPayments = store.orderPayments ++ detail.payments)
    (owners : (∀ item ∈ detail.items, item.orderId = detail.order.id) ∧
      (∀ refund ∈ detail.refunds, refund.orderId = detail.order.id) ∧
      ∀ payment ∈ detail.payments, payment.orderId = detail.order.id) :
    after.detail detail.order = detail := by
  have absent : detail.order.id ∉ store.orders.map (·.id) := by simpa using fresh
  rw [Store.detail, itemsOf, refundsOf, paymentsOf, items, refunds, payments,
    filed.items.filter_of_new absent owners.1, filed.refunds.filter_of_new absent owners.2.1,
    filed.payments.filter_of_new absent owners.2.2]

end Store

/-! ## Pages -/

namespace Page

theorem size_pos (number size : Option Int) : 0 < (ofRequest number size).size := by
  dsimp only [ofRequest]
  split
  · next asked => exact asked.1
  · decide

theorem ofRequest_some {number : Int} (positive : 0 < number) (size : Option Int) :
    ofRequest (some number) size = ⟨number, (ofRequest none size).size⟩ := by
  rw [ofRequest, Option.getD_some, if_pos positive]
  rfl

theorem slice_map {Row Entry : Type} (page : Page) (tell : Row → Entry) (rows : List Row) :
    page.slice (rows.map tell) = (page.slice rows).map tell := by
  rw [slice, slice, List.map_take, List.map_drop]

theorem slice_natCast {Row : Type} (before size : Nat) (rows : List Row) :
    (Page.mk (before + 1) size).slice rows = (rows.drop (before * size)).take size := by
  rw [slice, offset, Int.add_sub_cancel, Int.toNat_natCast, ← Int.natCast_mul, Int.toNat_natCast]

theorem exists_mem_slice {Row : Type} {rows : List Row} {row : Row} (member : row ∈ rows)
    {size : Int} (positive : 0 < size) :
    ∃ number : Int, 0 < number ∧ number ≤ rows.length ∧
      row ∈ (Page.mk number size).slice rows := by
  obtain ⟨index, bound, rfl⟩ := List.getElem_of_mem member
  lift size to ℕ using Int.le_of_lt positive
  have fewer : index / size ≤ index := Nat.div_le_self index size
  have place : index / size * size + index % size = index := Nat.div_add_mod' index size
  have onPage : index % size < size := Nat.mod_lt index (Int.natCast_pos.mp positive)
  refine ⟨((index / size : ℕ) : ℤ) + 1, Int.lt_add_one_of_le (Int.natCast_nonneg _), by omega, ?_⟩
  rw [slice_natCast, List.mem_take_iff_getElem]
  refine ⟨index % size, ?_, ?_⟩
  · rw [List.length_drop]
    omega
  · rw [List.getElem_drop]
    simp only [place]

end Page

theorem OrderFilter.admits_of_none (order : Order) : ({} : OrderFilter).admits order = true := by
  have word (stored : String) : matchesWord none stored = true := rfl
  have number : matchesNumber none order.number = true := Text.occursIn_iff.mpr List.nil_infix
  simp [admits, word, number]

theorem OrderFilter.select_of_page (filter : OrderFilter) (number size : Option Int)
    (orders : List Order) :
    { filter with page := number, perPage := size }.select orders = filter.select orders := by
  let asked := { filter with page := number, perPage := size }
  have admits : asked.admits = filter.admits := rfl
  have ascending : asked.ascending = filter.ascending := rfl
  have before : asked.before = filter.before := by
    funext first second
    rw [OrderFilter.before, ascending, OrderFilter.before]
  rw [select, admits, before, select]

/-- On the pages of a listing, an entry with a certain id is the one that is told. If it is
admitted, one of the pages shows it, and there are no more of these than rows. -/
structure Listed {Entry : Type} (id : Entry → Int) (told : Entry) (admitted : Prop) (rows : Nat)
    (shown : Option Int → List Entry → Prop) : Prop where
  same : ∀ number entries, shown number entries →
    ∀ entry ∈ entries, id entry = id told → entry = told
  found : admitted → ∃ number : Int, 0 < number ∧ number ≤ rows ∧
    ∀ entries, shown (some number) entries → told ∈ entries

namespace Listed

variable {Entry : Type} {id : Entry → Int} {told : Entry} {admitted : Prop} {rows : Nat}
  {shown : Option Int → List Entry → Prop}

theorem of_slice (size : Option Int) (all : List Entry) (fewer : all.length ≤ rows)
    (distinct : ∀ entry ∈ all, id entry = id told → entry = told)
    (selected : admitted → told ∈ all)
    (sliced : ∀ number entries, shown number entries →
      entries = (Page.ofRequest number size).slice all) :
    Listed id told admitted rows shown where
  same := by
    intro number entries listing entry member
    rw [sliced number entries listing] at member
    exact distinct entry (Page.mem_of_mem_slice member)
  found := by
    intro admitted
    obtain ⟨number, positive, bound, member⟩ :=
      Page.exists_mem_slice (selected admitted) (Page.size_pos none size)
    refine ⟨number, positive, by omega, fun entries listing => ?_⟩
    rw [sliced _ entries listing, Page.ofRequest_some positive]
    exact member

theorem imp {other : Option Int → List Entry → Prop} (listed : Listed id told admitted rows shown)
    (known : ∀ number entries, other number entries → shown number entries) :
    Listed id told admitted rows other where
  same number entries listing := listed.same number entries (known number entries listing)
  found := by
    intro admitted
    obtain ⟨number, positive, bound, member⟩ := listed.found admitted
    exact ⟨number, positive, bound, fun entries listing => member entries (known _ _ listing)⟩

end Listed

namespace Store

def listing (store : Store) (filter : OrderFilter) : Listing OrderDetail where
  entries := (filter.pageAsked.slice (filter.select store.orders)).map store.detail
  page := filter.pageAsked
  total := (filter.select store.orders).length

def adminListing (store : Store) (filter : OrderFilter) : Listing AdminOrderDetail where
  entries := (filter.pageAsked.slice (filter.select store.orders)).map store.adminDetail
  page := filter.pageAsked
  total := (filter.select store.orders).length

theorem map_detail_adminListing (store : Store) (filter : OrderFilter) :
    (store.adminListing filter).entries.map (·.detail) = (store.listing filter).entries :=
  List.map_map

end Store

def Store.account (store : Store) (context : Context) (userId : Int) (page : Page)
    (kind : Option String) : Account :=
  let entries := LedgerEntry.newestFirst ((store.entriesOf userId).filter (·.matchesKind kind))
  { balance := Purchase.shownBalance context store userId
    entries := page.slice entries
    page
    total := entries.length }

section

variable {context : Context} {desk after : Desk}

theorem Orders.list_eq_ok {user : User} {filter : OrderFilter} {listing : Listing OrderDetail}
    (ran : (list (some user) filter).run context desk = (.ok listing, after)) :
    listing = desk.store.listing { filter with userId := some user.id } := by
  rcases Service.run_query_bind_eq_ok.mp ran with ⟨read, ⟨_, paged⟩, ran⟩
  rcases Service.run_query_bind_eq_ok.mp ran with ⟨shown, ⟨_, viewed⟩, ran⟩
  rcases Service.run_pure_eq_ok.mp ran with ⟨rfl, -⟩
  rcases Work.orderPage_eq_ok paged with ⟨-, rfl⟩
  rcases Work.details_eq_ok viewed with ⟨-, rfl⟩
  rfl

theorem Orders.listAsAdmin_eq_ok {actor : Option User} {filter : OrderFilter}
    {listing : Listing AdminOrderDetail}
    (ran : (listAsAdmin actor filter).run context desk = (.ok listing, after)) :
    listing = desk.store.adminListing filter := by
  rcases Service.run_bind_eq_ok.mp ran with ⟨admin, _, acts, ran⟩
  rcases Service.run_lift_eq_ok.mp acts with ⟨-, rfl⟩
  rcases Service.run_query_bind_eq_ok.mp ran with ⟨read, ⟨_, paged⟩, ran⟩
  rcases Service.run_query_bind_eq_ok.mp ran with ⟨shown, ⟨_, viewed⟩, ran⟩
  rcases Service.run_pure_eq_ok.mp ran with ⟨rfl, -⟩
  rcases Work.orderPage_eq_ok paged with ⟨-, rfl⟩
  rcases Work.adminDetails_eq_ok viewed with ⟨-, rfl⟩
  rfl

theorem Wallet.account_eq_ok {userId : Int} {number size : Option Int} {kind : Option String}
    {shown : Account}
    (ran : (account userId number size kind).run context desk = (.ok shown, after)) :
    shown = desk.store.account context userId (.ofRequest number size) kind := by
  rcases Service.run_query_bind_eq_ok.mp ran with ⟨balance, ⟨_, looked⟩, ran⟩
  rcases Service.run_query_bind_eq_ok.mp ran with ⟨read, ⟨_, paged⟩, ran⟩
  rcases Service.run_pure_eq_ok.mp ran with ⟨rfl, -⟩
  rcases Work.balance_eq_ok.mp looked with ⟨-, rfl, -⟩
  rcases Work.entryPage_eq_ok paged with ⟨-, rfl⟩
  rfl

end

/-! ### Pages that can be asked for -/

namespace Work

variable {context : Context} {store : Store} (intact : store.Intact)
  (inTime : context.deadlinePassed = false)

include intact inTime

theorem details_of_fit {orders : List Order}
    (ids : ∀ order ∈ orders, Store.fitsColumn order.id = true) :
    details orders context store = .ok (orders.map store.detail, store) := by
  obtain ⟨found, read, shown⟩ := children_ok intact inTime ids
  rw [← List.map_congr_left shown]
  exact bind_eq_ok.mpr ⟨found, store, read, rfl⟩

theorem adminDetails_of_fit {orders : List Order}
    (ids : ∀ order ∈ orders, Store.fitsColumn order.id = true)
    (owners : ∀ order ∈ orders, Store.fitsColumn order.userId = true) :
    adminDetails orders context store = .ok (orders.map store.adminDetail, store) := by
  obtain ⟨found, read, shown⟩ := children_ok intact inTime ids
  refine bind_eq_ok.mpr ⟨found, store, read, ?_⟩
  by_cases none : orders = []
  · subst none
    rfl
  · rw [if_neg (by simpa using none)]
    have allowed : Allowed context store [.users] (orders.map (·.userId)) :=
      allowed_of_intact intact inTime (List.forall_mem_map.mpr owners)
    have told : orders.map store.adminDetail = orders.map fun order =>
        ⟨found.detail order, .ofUser order.userId (store.user? order.userId)⟩ := by
      apply List.map_congr_left
      intro order member
      rw [shown order member, Store.adminDetail]
    rw [told]
    exact statement_bind_eq_ok.mpr ⟨allowed, rfl⟩

theorem pageOf_of_fit {Row : Type} {table : Table} {numbers : List Int} {page : Page}
    {select : Store → List Row} (fit : ∀ number ∈ numbers, Store.fitsColumn number = true)
    (size : Store.fitsColumn page.size = true) (offset : page.Fits) :
    pageOf table numbers page select context store =
      .ok ((page.slice (select store), ((select store).length : Int)), store) := by
  refine statement_bind_eq_ok.mpr ⟨allowed_of_intact intact inTime fit, ?_⟩
  rw [get_bind]
  by_cases none : select store = []
  · rw [if_pos (by simp [none]), none, Page.slice, List.drop_nil, List.take_nil]
    rfl
  · rw [if_neg (by simpa using none)]
    refine statement_bind_eq_ok.mpr ⟨allowed_of_intact intact inTime ?_, rfl⟩
    rw [List.forall_mem_append]
    exact ⟨fit, by simpa using ⟨size, offset⟩⟩

theorem orderPage_of_checked {filter : OrderFilter} (page : filter.pageAsked.Fits)
    (user : ∀ id ∈ filter.userId, Store.fitsColumn id = true)
    (checked : checkPattern filter context store = .ok ((), store)) :
    orderPage filter context store =
      .ok ((filter.pageAsked.slice (filter.select store.orders),
        ((filter.select store.orders).length : Int)), store) := by
  have user : ∀ id ∈ filter.userId.toList, Store.fitsColumn id = true :=
    fun id member => user id (Option.mem_toList.mp member)
  exact statement_bind_eq_ok.mpr ⟨allowed_of_intact intact inTime user, bind_eq_ok.mpr
    ⟨(), store, checked, pageOf_of_fit intact inTime user (Page.size_ofRequest _ _) page⟩⟩

theorem orderPage_of_fit {filter : OrderFilter} (fits : filter.Fits)
    (user : ∀ id ∈ filter.userId, Store.fitsColumn id = true) :
    orderPage filter context store =
      .ok ((filter.pageAsked.slice (filter.select store.orders),
        ((filter.select store.orders).length : Int)), store) :=
  orderPage_of_checked intact inTime fits.page user (checkPattern_of_short fits.pattern)

end Work

section

variable {context : Context} {desk : Desk} (intact : desk.store.Intact)

include intact

theorem Wallet.run_account {userId : Int} (owner : Store.fitsColumn userId = true)
    {number size : Option Int} (fits : (Page.ofRequest number size).Fits) (kind : Option String) :
    (account userId number size kind).run context desk =
      (.ok (desk.store.account context userId (.ofRequest number size) kind), desk) := by
  have owners : ∀ id ∈ [userId], Store.fitsColumn id = true := List.forall_mem_singleton.mpr owner
  rw [account, Service.run_query_bind_of_ok (Work.balance_eq_ok.mpr
    ⟨Work.allowed_of_intact intact rfl owners, rfl, rfl⟩)]
  exact Service.run_query_bind_of_ok (Work.pageOf_of_fit intact rfl owners
    (Page.size_ofRequest number size) fits)

variable (ids : ∀ order ∈ desk.store.orders, Store.fitsColumn order.id = true)

include ids

theorem Orders.run_list {user : User} (owner : Store.fitsColumn user.id = true)
    {filter : OrderFilter} (fits : filter.Fits) :
    (list (some user) filter).run context desk =
      (.ok (desk.store.listing { filter with userId := some user.id }), desk) := by
  have own : OrderFilter.Fits { filter with userId := some user.id } := ⟨fits.page, fits.pattern⟩
  have owner : ∀ id ∈ some user.id, Store.fitsColumn id = true := by simpa using owner
  rw [list, Service.run_query_bind_of_ok (Work.orderPage_of_fit intact rfl own owner)]
  refine (Service.run_query_bind_of_ok (Work.details_of_fit intact rfl ?_)).trans rfl
  intro order listed
  exact ids order (OrderFilter.mem_select.mp (Page.mem_of_mem_slice listed)).1

theorem Orders.run_listAsAdmin {actor : Option User} {user : User} (acts : admin actor = .ok user)
    {filter : OrderFilter} (fits : filter.Fits)
    (owner : ∀ id ∈ filter.userId, Store.fitsColumn id = true) :
    (listAsAdmin actor filter).run context desk = (.ok (desk.store.adminListing filter), desk) := by
  rw [listAsAdmin, Service.run_bind, Service.run_lift, acts]
  dsimp only
  rw [Service.run_query_bind_of_ok (Work.orderPage_of_fit intact rfl fits owner)]
  refine (Service.run_query_bind_of_ok (Work.adminDetails_of_fit intact rfl ?_ ?_)).trans rfl
  · intro order listed
    exact ids order (OrderFilter.mem_select.mp (Page.mem_of_mem_slice listed)).1
  · intro order listed
    exact intact.owners order (OrderFilter.mem_select.mp (Page.mem_of_mem_slice listed)).1

end

/-! ## Single orders -/

namespace Orders

variable {context : Context} {desk after : Desk} {orderId : Int}

theorem get_eq_ok {caller : Option User} {receipt : Receipt}
    (ran : (get caller orderId).run context desk = (.ok receipt, after)) :
    ∃ order, desk.store.order? orderId = some order ∧
      receipt = desk.store.receipt context order := by
  rcases Service.run_query_bind_eq_ok.mp ran with ⟨order, ⟨_, looked⟩, ran⟩
  cases caller with
  | none => cases ran
  | some user =>
    dsimp only at ran
    rw [Service.run_refuse_ite_eq_ok] at ran
    rcases Service.run_query_eq_ok.mp ran.2 with ⟨⟨_, read⟩, -⟩
    exact ⟨order, (Work.order_eq_ok.mp looked).2.1, (Work.receipt_eq_ok read).trans rfl⟩

theorem getAsAdmin_eq_ok {actor : Option User} {shown : AdminOrderDetail}
    (ran : (getAsAdmin actor orderId).run context desk = (.ok shown, after)) :
    ∃ order, desk.store.order? orderId = some order ∧ shown = desk.store.adminDetail order := by
  rcases Service.run_bind_eq_ok.mp ran with ⟨admin, _, acts, ran⟩
  rcases Service.run_lift_eq_ok.mp acts with ⟨-, rfl⟩
  rcases Service.run_query_bind_eq_ok.mp ran with ⟨order, ⟨_, looked⟩, ran⟩
  rcases Service.run_query_eq_ok.mp ran with ⟨⟨_, read⟩, -⟩
  exact ⟨order, (Work.order_eq_ok.mp looked).2.1, Work.adminDetail_eq_ok read⟩

section

variable {order : Order} (intact : desk.store.Intact)
  (found : desk.store.order? orderId = some order) (fits : Store.fitsColumn orderId = true)

include intact found fits

theorem run_order : (Service.query (Work.order orderId)).run context desk = (.ok order, desk) :=
  Service.run_query_ok (Work.order_ok intact rfl fits found)

theorem run_receipt : (Service.query (Work.receipt order)).run context desk =
    (.ok (desk.store.receipt context order), desk) := by
  rcases Store.order?_eq_some found with ⟨member, rfl⟩
  exact Service.run_query_ok (Work.receipt_ok intact rfl fits (intact.owners order member))

theorem run_adminDetail : (Service.query (Work.adminDetail order)).run context desk =
    (.ok (desk.store.adminDetail order), desk) := by
  rcases Store.order?_eq_some found with ⟨member, rfl⟩
  exact Service.run_query_ok (Work.adminDetail_ok intact rfl fits (intact.owners order member))

theorem run_get {user : User} (owner : order.userId = user.id) :
    (get (some user) orderId).run context desk =
      (.ok (desk.store.receipt context order), desk) := by
  rw [get, Service.run_query_bind_of_ok (Work.order_ok intact rfl fits found)]
  dsimp only
  rw [if_neg (not_not.mpr owner)]
  exact run_receipt intact found fits

theorem run_getAsAdmin {actor : Option User} {user : User} (acts : admin actor = .ok user) :
    (getAsAdmin actor orderId).run context desk = (.ok (desk.store.adminDetail order), desk) := by
  rw [getAsAdmin, Service.run_bind, Service.run_lift, acts]
  dsimp only
  rw [Service.run_query_bind_of_ok (Work.order_ok intact rfl fits found)]
  exact run_adminDetail intact found fits

end

end Orders

/-! ## What a receipt says -/

/-- A receipt says of an order what the store holds, names the balance that its user has by now, and
an entry of the user's ledger. -/
structure Store.Backs (store : Store) (context : Context) (userId : Int) (receipt : Receipt) :
    Prop where
  order : receipt.order.order ∈ store.ordersOf userId
  fits : Store.fitsColumn receipt.order.order.id = true
  shown : receipt.order = store.detail receipt.order.order
  balance : receipt.balance = Purchase.shownBalance context store userId
  entry : ∀ entry ∈ receipt.transaction, entry ∈ store.entriesOf userId

theorem Purchase.shownBalance_congr {context reading : Context} {store : Store} {userId : Int}
    (same : reading.settings = context.settings) :
    shownBalance reading store userId = shownBalance context store userId := by
  rw [shownBalance, shownBalance, same]

namespace Store.Backs

variable {store : Store} {context : Context} {userId : Int} {receipt : Receipt}
  (backs : store.Backs context userId receipt)

include backs

theorem receipt_eq {reading : Context} (same : reading.settings = context.settings) :
    store.receipt reading receipt.order.order = { receipt with transaction := none } := by
  rcases mem_ordersOf.mp backs.order with ⟨-, rfl⟩
  rw [Store.receipt, ← backs.shown, Purchase.shownBalance_congr same, ← backs.balance]

theorem adminDetail_eq :
    ∃ user, store.adminDetail receipt.order.order = ⟨receipt.order, user⟩ := by
  rw [adminDetail, ← backs.shown]
  exact ⟨_, rfl⟩

theorem listed (distinct : store.OrdersDistinct) (filter : OrderFilter) :
    Listed (·.order.id) receipt.order (filter.admits receipt.order.order = true)
      store.orders.length
      fun number entries => entries = (store.listing { filter with page := number }).entries := by
  have present := (mem_ordersOf.mp backs.order).1
  apply Listed.of_slice filter.perPage ((filter.select store.orders).map store.detail)
  · rw [List.length_map, OrderFilter.select, List.length_mergeSort]
    exact List.length_filter_le _ _
  · intro detail member same
    obtain ⟨other, selected, rfl⟩ := List.mem_map.mp member
    have alone := List.inj_on_of_nodup_map distinct (OrderFilter.mem_select.mp selected).1 present
    rw [alone same, ← backs.shown]
  · intro admitted
    rw [backs.shown]
    exact List.mem_map_of_mem (OrderFilter.mem_select.mpr ⟨present, admitted⟩)
  · intro number entries listing
    rw [listing, Page.slice_map, Store.listing, OrderFilter.select_of_page]
    rfl

theorem listedOwn (distinct : store.OrdersDistinct) (filter : OrderFilter) :
    Listed (·.order.id) receipt.order
      ({ filter with userId := none }.admits receipt.order.order = true) store.orders.length
      fun number entries => entries =
        (store.listing { filter with page := number, userId := some userId }).entries := by
  rcases mem_ordersOf.mp backs.order with ⟨-, rfl⟩
  have same : { filter with userId := some receipt.order.order.userId }.admits
      receipt.order.order = { filter with userId := none }.admits receipt.order.order := by
    simp [OrderFilter.admits]
  rw [← same]
  exact backs.listed distinct _

theorem entryListed (filed : store.Filed) {entry : LedgerEntry}
    (told : entry ∈ receipt.transaction) (reading : Context) (size : Option Int)
    (kind : Option String) :
    Listed (·.id) entry (entry.matchesKind kind = true) store.ledger.length
      fun number entries =>
        entries = (store.account reading userId (.ofRequest number size) kind).entries := by
  have own := backs.entry entry told
  have distinct : (store.ledger.map (·.id)).Nodup := filed.ledger.imp Int.ne_of_lt
  have selected (other : LedgerEntry) : other ∈ LedgerEntry.newestFirst
      ((store.entriesOf userId).filter (·.matchesKind kind)) ↔
        other ∈ store.entriesOf userId ∧ other.matchesKind kind = true := by
    rw [LedgerEntry.newestFirst, List.mem_mergeSort, List.mem_filter]
  refine Listed.of_slice size _ ?_ ?_ ?_ fun number entries listing => listing
  · rw [LedgerEntry.newestFirst, List.length_mergeSort]
    exact (List.length_filter_le _ _).trans (List.length_filter_le _ _)
  · intro other member same
    have others := ((selected other).mp member).1
    exact List.inj_on_of_nodup_map distinct (List.mem_of_mem_filter others)
      (List.mem_of_mem_filter own) same
  · intro matching
    exact (selected entry).mpr ⟨own, matching⟩

end Store.Backs

theorem Purchase.Settled.shownBalance_eq {purchase : Purchase} {context : Context}
    {store between : Store} {draft : Order} {settlement : Settlement}
    (settled : purchase.Settled context store draft (shownBalance context store draft.userId)
      settlement between) :
    settlement.balance = shownBalance context between draft.userId := by
  cases settled with
  | free | collected => rfl
  | charged priced byWallet posting =>
    rw [shownBalance, posting.balance?_self]
    rfl

namespace Orders

variable {context : Context} {user : User} {request : OrderRequest} {receipt : Receipt}

theorem Ordered.backs {last : Int} {store after : Store} (filed : store.Filed)
    (ordered : Ordered context last store (some user) request receipt after) :
    after.Backs context user.id receipt := by
  have own := ordered.receiptOf
  rcases ordered with ⟨_, purchase, ⟨⟩, -, -, placing⟩
  cases placing with
  | @intro draft settlement between item drafting item_eq settled unbound itemAllowed =>
    have id_eq : settlement.order.id = draft.id := settled.framed.id_eq
    have fresh : ∀ other ∈ store.orders, other.id ≠ settlement.order.id := id_eq ▸ drafting.fresh
    have item_owner : item.orderId = settlement.order.id := by
      rw [item_eq, id_eq]
      rfl
    have payment_owner : ∀ payment ∈ settlement.payments,
        payment.orderId = settlement.order.id := by
      rcases settled.payments_cases with none | ⟨payment, one, -, owner⟩
      · simp [none]
      · simpa [one] using owner
    rw [← drafting.userId_eq] at settled own ⊢
    exact {
      order := own.order.order
      fits := itemAllowed.fit _ (id_eq ▸ List.mem_cons_self ..)
      shown := by
        refine (filed.detail_of_new fresh rfl ?_ rfl ?_).symm
        · exact settled.framed.refunds_eq.trans (List.append_nil _).symm
        · exact ⟨List.forall_mem_singleton.mpr item_owner, nofun, payment_owner⟩
      balance := settled.shownBalance_eq
      entry := own.entry }

theorem Serving.backs {desk : Desk} {after : Store} (filed : desk.store.Filed)
    (distinct : desk.store.OrdersDistinct) (owned : desk.store.KeysOwned) (fit : desk.store.KeysFit)
    (serving : Serving context desk user request receipt after) :
    after.Backs context user.id receipt := by
  cases serving with
  | @recalled order bound receipt_eq same =>
    rcases owned.boundOrder? distinct bound with ⟨present, owner⟩
    rcases Store.boundOrder?_eq_some.mp bound with ⟨binding, keyed, found⟩
    rw [receipt_eq, same, ← owner]
    exact {
      order := Store.mem_ordersOf.mpr ⟨present, rfl⟩
      fits := (Store.order?_eq_some found).2 ▸ (fit binding (Store.binding?_eq_some keyed).1).2
      shown := rfl
      balance := rfl
      entry := nofun }
  | ordered ordered => exact ordered.backs filed

end Orders

end OrderDesk
