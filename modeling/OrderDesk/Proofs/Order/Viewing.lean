import OrderDesk.Proofs.Order.Keyless
import OrderDesk.Proofs.Order.Ownership

/-!
What users see when they look at their orders and their account. All of it is their own, and it
depends on nothing but what they own.
-/

namespace OrderDesk

namespace Store

/-- Two stores agree on what a user owns, and have the same tables. -/
structure AgreeOn (userId : Int) (left right : Store) : Prop where
  orders : left.ordersOf userId = right.ordersOf userId
  items : ∀ order ∈ left.ordersOf userId, left.itemsOf order.id = right.itemsOf order.id
  refunds : ∀ order ∈ left.ordersOf userId, left.refundsOf order.id = right.refundsOf order.id
  payments : ∀ order ∈ left.ordersOf userId, left.paymentsOf order.id = right.paymentsOf order.id
  balance : left.balance? userId = right.balance? userId
  entries : left.entriesOf userId = right.entriesOf userId
  dropped : left.dropped = right.dropped

variable {userId : Int} {left right : Store}

theorem mem_ordersOf {store : Store} {order : Order} :
    order ∈ store.ordersOf userId ↔ order ∈ store.orders ∧ order.userId = userId := by
  rw [ordersOf, List.mem_filter, beq_iff_eq]

theorem AgreeOn.children (agree : AgreeOn userId left right) {orders : List Order}
    (own : ∀ order ∈ orders, order ∈ left.ordersOf userId) :
    left.children (orders.map (·.id)) = right.children (orders.map (·.id)) := by
  simp only [children_eq, List.map_map, Children.mk.injEq]
  refine ⟨List.map_congr_left fun order member => ?_, List.map_congr_left fun order member => ?_,
    List.map_congr_left fun order member => ?_⟩
  · exact congrArg (order.id, ·) (agree.items order (own order member))
  · exact congrArg (order.id, ·) (agree.refunds order (own order member))
  · exact congrArg (order.id, ·) (agree.payments order (own order member))

end Store

theorem Page.mem_of_mem_slice {Row : Type} {page : Page} {rows : List Row} {row : Row}
    (member : row ∈ page.slice rows) : row ∈ rows :=
  List.mem_of_mem_drop (List.mem_of_mem_take member)

namespace OrderFilter

theorem mem_select {filter : OrderFilter} {orders : List Order} {order : Order} :
    order ∈ filter.select orders ↔ order ∈ orders ∧ filter.admits order = true := by
  rw [select, List.mem_mergeSort, List.mem_filter]

variable {filter : OrderFilter} {userId : Int} (own : filter.userId = some userId)

include own

theorem userId_of_admits {order : Order} (admitted : filter.admits order = true) :
    order.userId = userId := by
  simp only [admits, own, Option.all_some, Bool.and_eq_true, beq_iff_eq] at admitted
  exact admitted.1.1.1.1.symm

theorem own_and_admits (order : Order) :
    (order.userId == userId && filter.admits order) = filter.admits order := by
  cases admitted : filter.admits order with
  | false => exact Bool.and_false _
  | true => rw [userId_of_admits own admitted, beq_self_eq_true, Bool.and_true]

theorem select_ordersOf (store : Store) :
    filter.select store.orders = filter.select (store.ordersOf userId) := by
  rw [select, select, Store.ordersOf, List.filter_filter]
  simp only [Bool.and_comm, own_and_admits own]

theorem any_ordersOf (store : Store) :
    store.orders.any filter.admits = (store.ordersOf userId).any filter.admits := by
  rw [Store.ordersOf, List.any_filter]
  simp only [own_and_admits own]

end OrderFilter

/-! ## Work that only reads -/

namespace Work

variable {α β : Type} {left right : Store}

/-- The work only reads, and finds the same in both stores. -/
def FindsAlike (work : Work α) (left right : Store) : Prop :=
  ∀ context, ∃ found : Except Failure α,
    work context left = found.map (·, left) ∧ work context right = found.map (·, right)

namespace FindsAlike

theorem pure (value : α) : FindsAlike (pure value) left right :=
  fun _ => ⟨.ok value, rfl, rfl⟩

theorem breakOff (fault : Fault) : FindsAlike (breakOff fault : Work α) left right :=
  fun _ => ⟨.error (.broken fault), rfl, rfl⟩

theorem read : FindsAlike (read : Work Context) left right :=
  fun context => ⟨.ok context, rfl, rfl⟩

theorem bind {work : Work α} {next : α → Work β} (first : FindsAlike work left right)
    (rest : ∀ value, FindsAlike (next value) left right) :
    FindsAlike (work >>= next) left right := by
  intro context
  rcases first context with ⟨found, onLeft, onRight⟩
  rw [run_bind, run_bind, onLeft, onRight]
  cases found with
  | error failure => exact ⟨.error failure, rfl, rfl⟩
  | ok value => exact rest value context

theorem get_bind {next : Store → Work β} (same : next left = next right)
    (rest : FindsAlike (next left) left right) : FindsAlike (get >>= next) left right := by
  intro context
  rcases rest context with ⟨found, onLeft, onRight⟩
  refine ⟨found, onLeft, ?_⟩
  rw [Work.get_bind, ← same]
  exact onRight

theorem ite {condition : Prop} [Decidable condition] {first second : Work α}
    (holds : FindsAlike first left right) (fails : FindsAlike second left right) :
    FindsAlike (if condition then first else second) left right := by
  split
  · exact holds
  · exact fails

theorem throw_ite {condition : Prop} [Decidable condition] {failure : Failure}
    {next : α → Work β} {rest : Work β} (passed : FindsAlike rest left right) :
    FindsAlike (if condition then ((throw failure : Work α) >>= next) else rest) left right :=
  .ite (fun _ => ⟨.error failure, rfl, rfl⟩) passed

section

variable (dropped : left.dropped = right.dropped)

include dropped

theorem statement (tables : List Table) (numbers : List Int) :
    FindsAlike (statement tables numbers) left right := by
  refine .bind .read fun _ => .throw_ite (.get_bind ?_ (.throw_ite (.ite (.breakOff _) (.pure _))))
  rw [dropped]

theorem pageOf {Row : Type} {table : Table} {numbers : List Int} {page : Page}
    {select : Store → List Row} (same : select left = select right) :
    FindsAlike (pageOf table numbers page select) left right := by
  refine .bind (.statement dropped _ _) fun _ => .get_bind ?_ (.ite (.pure _) ?_)
  · rw [same]
  · exact .bind (.statement dropped _ _) fun _ => .pure _

end

/-! ### What a user looks up -/

section

variable {userId : Int} (agree : Store.AgreeOn userId left right)

include agree

theorem balance : FindsAlike (balance userId) left right := by
  refine .bind (.bind (.statement agree.dropped _ _) fun _ => .get_bind ?_ (.pure _))
    fun found => ?_
  · rw [agree.balance]
  · cases found with
    | some balance => exact .pure balance
    | none => exact .bind .read fun _ => .pure _

theorem details {orders : List Order} (own : ∀ order ∈ orders, order ∈ left.ordersOf userId) :
    FindsAlike (details orders) left right := by
  refine .bind (.ite (.pure _) (.bind (.statement agree.dropped _ _) fun _ => ?_)) fun _ => .pure _
  refine .bind (.statement agree.dropped _ _) fun _ => ?_
  refine .bind (.statement agree.dropped _ _) fun _ => ?_
  refine .get_bind ?_ (.pure _)
  rw [agree.children own]

theorem orderPage {filter : OrderFilter} (own : filter.userId = some userId) :
    FindsAlike (orderPage filter) left right := by
  have ownPattern : { filter with number := none }.userId = some userId := own
  refine .bind (.statement agree.dropped _ _) fun _ => .bind ?_ fun _ => .pageOf agree.dropped ?_
  · refine .ite (.get_bind ?_ (.ite (.breakOff _) (.pure _))) (.pure _)
    rw [OrderFilter.any_ordersOf ownPattern, OrderFilter.any_ordersOf ownPattern, agree.orders]
  · rw [OrderFilter.select_ordersOf own, OrderFilter.select_ordersOf own, agree.orders]

theorem entryPage (page : Page) (kind : Option String) :
    FindsAlike (entryPage userId page kind) left right := by
  refine .pageOf agree.dropped ?_
  rw [agree.entries]

end

end FindsAlike

/-! ## What is read -/

section

variable {context : Context} {store after : Store} {userId : Int}

theorem pageOf_eq_ok {Row : Type} {table : Table} {numbers : List Int} {page : Page}
    {select : Store → List Row} {read : List Row × Int}
    (done : pageOf table numbers page select context store = .ok (read, after)) :
    after = store ∧ read = (page.slice (select store), ((select store).length : Int)) := by
  rcases statement_bind_eq_ok.mp done with ⟨-, done⟩
  rw [get_bind, ite_eq_ok, statement_bind_eq_ok] at done
  rcases done with ⟨none, done⟩ | ⟨-, -, done⟩
  · rcases pure_eq_ok.mp done with ⟨rfl, rfl⟩
    simp [List.isEmpty_iff.mp none, Page.slice]
  · rcases pure_eq_ok.mp done with ⟨rfl, rfl⟩
    exact ⟨rfl, rfl⟩

theorem checkPattern_ok {filter : OrderFilter} {checked : Unit}
    (done : checkPattern filter context store = .ok (checked, after)) : after = store := by
  rw [checkPattern, ite_eq_ok, get_bind, ite_eq_ok, breakOff_eq_ok] at done
  rcases done with ⟨-, ⟨-, ⟨⟩⟩ | ⟨-, done⟩⟩ | ⟨-, done⟩
  · exact (pure_eq_ok.mp done).2.symm
  · exact (pure_eq_ok.mp done).2.symm

theorem checkPattern_of_short {filter : OrderFilter}
    (short : OrderFilter.patternSize filter.number ≤ OrderFilter.maxPatternSize) :
    checkPattern filter context store = .ok ((), store) := by
  rw [checkPattern, if_neg (Nat.not_lt.mpr short)]
  rfl

theorem orderPage_eq_ok {filter : OrderFilter} {read : List Order × Int}
    (done : orderPage filter context store = .ok (read, after)) :
    let orders := filter.select store.orders
    after = store ∧ read = (filter.pageAsked.slice orders, (orders.length : Int)) := by
  rcases statement_bind_eq_ok.mp done with ⟨-, done⟩
  rcases bind_eq_ok.mp done with ⟨_, between, checked, paged⟩
  rcases checkPattern_ok checked with rfl
  exact pageOf_eq_ok paged

theorem orderPage_ok {filter : OrderFilter} (own : filter.userId = some userId)
    {read : List Order × Int} (done : orderPage filter context store = .ok (read, after)) :
    ∀ order ∈ read.1, order ∈ store.ordersOf userId := by
  rcases orderPage_eq_ok done with ⟨-, rfl⟩
  intro order member
  have selected := Page.mem_of_mem_slice member
  rw [OrderFilter.select_ordersOf own] at selected
  exact (OrderFilter.mem_select.mp selected).1

theorem entryPage_eq_ok {page : Page} {kind : Option String} {read : List LedgerEntry × Int}
    (done : entryPage userId page kind context store = .ok (read, after)) :
    let entries := LedgerEntry.newestFirst ((store.entriesOf userId).filter (·.matchesKind kind))
    after = store ∧ read = (page.slice entries, (entries.length : Int)) :=
  pageOf_eq_ok done

theorem entryPage_ok {page : Page} {kind : Option String} {read : List LedgerEntry × Int}
    (done : entryPage userId page kind context store = .ok (read, after)) :
    ∀ entry ∈ read.1, entry ∈ store.entriesOf userId := by
  rcases entryPage_eq_ok done with ⟨-, rfl⟩
  intro entry member
  have selected := Page.mem_of_mem_slice member
  rw [LedgerEntry.newestFirst, List.mem_mergeSort] at selected
  exact (List.mem_filter.mp selected).1

end

end Work

/-! ## Listings and accounts -/

theorem Service.query_bind_alike {α β : Type} {context : Context} {left right : Desk}
    {work : Work α} {next : α → Service β} (alike : work.FindsAlike left.store right.store)
    (rest : ∀ value seen,
      work { context with deadlinePassed := false } left.store = .ok (value, seen) →
        ((next value).run context left).1 = ((next value).run context right).1) :
    ((query work >>= next).run context left).1 = ((query work >>= next).run context right).1 := by
  rcases alike { context with deadlinePassed := false } with ⟨found, onLeft, onRight⟩
  rw [run_bind, run_bind, run_query, run_query, onLeft, onRight]
  cases found with
  | error failure => rfl
  | ok value => exact rest value left.store onLeft

section

variable {context : Context} {left right : Desk}

theorem Orders.list_alike {user : User} (agree : left.store.AgreeOn user.id right.store)
    (filter : OrderFilter) :
    ((list (some user) filter).run context left).1 =
      ((list (some user) filter).run context right).1 := by
  refine Service.query_bind_alike (.orderPage agree rfl) fun read seen paged => ?_
  refine Service.query_bind_alike (.details agree ?_) fun shown _ _ => rfl
  exact Work.orderPage_ok rfl paged

theorem Wallet.account_alike {userId : Int} (agree : left.store.AgreeOn userId right.store)
    (number size : Option Int) (kind : Option String) :
    ((account userId number size kind).run context left).1 =
      ((account userId number size kind).run context right).1 := by
  refine Service.query_bind_alike (.balance agree) fun balance _ _ => ?_
  exact Service.query_bind_alike (.entryPage agree _ kind) fun _ _ _ => rfl

end

end OrderDesk
