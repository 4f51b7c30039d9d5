import OrderDesk.Proofs.Order.Reading
import OrderDesk.Proofs.Order.Selection

/-!
Reading listings page by page. The pages of a listing lose no row and repeat none: each shows the
rows at its places in the one sorted list of all that are asked for, and tells rightly whether there
are pages before and after it. Only the search in order numbers is not always what it seems, because
the store takes a zero character for the end of a text and refuses very long patterns.
-/

namespace OrderDesk

/-! ## Cutting a list into pages -/

namespace Page

/-- A page shows the rows at its places in a list, and its marks tell whether a page before it and
a row on the page after it are there. -/
structure Cuts {Row : Type} (page : Page) (all shown : List Row) : Prop where
  number : 1 ≤ page.number
  size : 1 ≤ page.size ∧ page.size ≤ 100
  place : ∀ index : ℕ, shown[index]? =
    if index < page.size then all[((page.number - 1) * page.size).toNat + index]? else none
  next : page.hasNext all.length = true ↔ (Page.mk (page.number + 1) page.size).slice all ≠ []
  previous : page.hasPrevious = true ↔ page.number ≠ 1

theorem exists_natCast (number size : Option Int) :
    ∃ before rows : ℕ, 1 ≤ rows ∧ rows ≤ 100 ∧ ofRequest number size = ⟨before + 1, rows⟩ := by
  have first : 0 < (ofRequest number size).number := by
    dsimp only [ofRequest]
    split
    · assumption
    · decide
  have small : (ofRequest number size).size ≤ 100 := by
    dsimp only [ofRequest]
    split
    · next asked => exact asked.2
    · decide
  have some := size_pos number size
  generalize ofRequest number size = page at *
  rcases page with ⟨number, rows⟩
  lift rows to ℕ using Int.le_of_lt some
  obtain ⟨before, rfl⟩ := Int.eq_succ_of_zero_lt first
  exact ⟨before, rows, Int.natCast_pos.mp some, Int.ofNat_le.mp small, rfl⟩

theorem hasNext_natCast {before size total : ℕ} :
    (Page.mk (before + 1) size).hasNext total = true ↔ (before + 1) * size < total := by
  rw [hasNext, decide_eq_true_iff]
  dsimp only
  norm_cast

theorem slice_cuts {Row : Type} (number size : Option Int) (all : List Row) :
    (ofRequest number size).Cuts all ((ofRequest number size).slice all) := by
  rcases exists_natCast number size with ⟨before, rows, some, small, page_eq⟩
  rw [page_eq]
  exact {
    number := by dsimp only; omega
    size := ⟨Int.ofNat_le.mpr some, Int.ofNat_le.mpr small⟩
    place := by
      intro index
      have offset : (((before : ℤ) + 1 - 1) * rows).toNat = before * rows := by
        rw [Int.add_sub_cancel, ← Int.natCast_mul, Int.toNat_natCast]
      rw [slice_natCast, List.getElem?_take, List.getElem?_drop, offset]
      simp only [Int.ofNat_lt]
    next := by
      have follows : (Page.mk (before + 1 + 1) rows).slice all =
          (all.drop ((before + 1) * rows)).take rows := slice_natCast (before + 1) rows all
      rw [hasNext_natCast, follows, Ne, List.take_eq_nil_iff, List.drop_eq_nil_iff]
      omega
    previous := by
      rw [hasPrevious, decide_eq_true_iff]
      dsimp only
      omega }

theorem flatMap_slice {Row : Type} (size count : ℕ) (all : List Row) :
    (List.range count).flatMap (fun before : ℕ => (Page.mk (before + 1) size).slice all) =
      all.take (count * size) := by
  induction count with
  | zero => rw [Nat.zero_mul, List.take_zero, List.range_zero, List.flatMap_nil]
  | succ count induction =>
    rw [List.range_succ, List.flatMap_append, induction, List.flatMap_singleton, slice_natCast,
      Nat.succ_mul, List.take_add]

end Page

/-- Asked for a page by number and size, a service shows what lies there in one list, and tells how
long that is. Whoever goes on from page to page while there is a next one sees the whole list. -/
structure Desk.Pages {Row : Type} (desk : Desk) (context : Context)
    (ask : Option Int → Option Int → Service (List Row × Int)) (all : List Row) : Prop where
  page : ∀ number size, (Page.ofRequest number size).Fits → ∃ shown,
    (ask number size).run context desk = (.ok (shown, (all.length : ℤ)), desk) ∧
      (Page.ofRequest number size).Cuts all shown
  whole : (all.length : ℤ) ≤ Store.columnLimit → ∀ size, ∃ (count : ℕ) (shown : ℕ → List Row),
    (∀ before < count, (ask (some (before + 1)) size).run context desk =
        (.ok (shown before, (all.length : ℤ)), desk) ∧
      ((Page.ofRequest (some (before + 1)) size).hasNext all.length = true ↔ before + 1 < count)) ∧
    (List.range count).flatMap shown = all

theorem Desk.Pages.of_slice {Row : Type} {desk : Desk} {context : Context}
    {ask : Option Int → Option Int → Service (List Row × Int)} {all : List Row}
    (answers : ∀ number size, (Page.ofRequest number size).Fits →
      (ask number size).run context desk =
        (.ok ((Page.ofRequest number size).slice all, (all.length : ℤ)), desk)) :
    desk.Pages context ask all where
  page number size fits := ⟨_, answers number size fits, Page.slice_cuts number size all⟩
  whole countable size := by
    rcases Page.exists_natCast none size with ⟨_, rows, positive, -, page_eq⟩
    have asked (before : ℕ) : Page.ofRequest (some (before + 1)) size = ⟨before + 1, rows⟩ := by
      rw [Page.ofRequest_some (by omega), page_eq]
    -- The last page is the one with the last row. An empty list has one page, too.
    refine ⟨(all.length - 1) / rows + 1,
      fun before => (Page.ofRequest (some (before + 1)) size).slice all,
      fun before below => ⟨answers _ size ?_, ?_⟩, ?_⟩
    · have start : before * rows ≤ all.length - 1 :=
        (Nat.mul_le_mul_right rows (Nat.le_of_lt_succ below)).trans (Nat.div_mul_le_self _ _)
      rw [asked, Page.Fits, Store.fitsColumn_iff, Page.offset, Int.add_sub_cancel,
        ← Int.natCast_mul]
      have limit : 0 < Store.columnLimit := by decide
      omega
    · have some : 0 < (before + 1) * rows := Nat.mul_pos before.succ_pos positive
      rw [asked, Page.hasNext_natCast, Nat.add_lt_add_iff_right,
        Nat.lt_iff_add_one_le (m := before), Nat.le_div_iff_mul_le positive]
      omega
    · have enough : all.length ≤ ((all.length - 1) / rows + 1) * rows := by
        have beyond := Nat.lt_div_mul_add (a := all.length - 1) positive
        rw [Nat.succ_mul]
        omega
      simp only [asked]
      rw [Page.flatMap_slice]
      exact List.take_of_length_le enough

/-! ## Listings of orders -/

namespace Work

variable {context : Context} {store : Store} {filter : OrderFilter}

theorem checkPattern_of_none
    (none : ∀ order ∈ store.orders, ¬{ filter with number := none }.admits order = true) :
    checkPattern filter context store = .ok ((), store) := by
  rw [checkPattern, ite_eq_ok, get_bind, if_neg (by simpa using none)]
  exact (em _).imp (⟨·, rfl⟩) (⟨·, rfl⟩)

theorem checkPattern_of_long
    (long : OrderFilter.maxPatternSize < OrderFilter.patternSize filter.number) {order : Order}
    (present : order ∈ store.orders)
    (rest : { filter with number := none }.admits order = true) :
    checkPattern filter context store = .error (.broken .patternTooLong) := by
  rw [checkPattern, if_pos long, get_bind, if_pos (List.any_eq_true.mpr ⟨order, present, rest⟩)]
  rfl

theorem orderPage_of_long (intact : store.Intact) (inTime : context.deadlinePassed = false)
    (user : ∀ id ∈ filter.userId, Store.fitsColumn id = true)
    (long : OrderFilter.maxPatternSize < OrderFilter.patternSize filter.number) {order : Order}
    (present : order ∈ store.orders)
    (rest : { filter with number := none }.admits order = true) (number size : Option Int) :
    orderPage { filter with page := number, perPage := size } context store =
      .error (.broken .patternTooLong) := by
  have user : ∀ id ∈ filter.userId.toList, Store.fitsColumn id = true :=
    fun id named => user id (Option.mem_toList.mp named)
  have stated : statement [.orders] filter.userId.toList context store = .ok ((), store) :=
    statement_eq_ok.mpr ⟨allowed_of_intact intact inTime user, rfl⟩
  rw [orderPage, bind_of_ok stated]
  exact bind_of_error (checkPattern_of_long long present rest)

end Work

def OrderFilter.pageOf (filter : OrderFilter) (number size : Option Int) :
    Service (List Order × Int) :=
  Service.query (Work.orderPage { filter with page := number, perPage := size })

/-- The pages of a listing show all orders that a filter asks for in the order it asks for. Long
patterns are refused as soon as an order meets the rest of the filter. -/
structure Desk.ListsOrders (desk : Desk) (context : Context) (filter : OrderFilter)
    (all : List Order) : Prop where
  selection : Selection (filter.Wants Text.Holds) (PrecedesBy (·.id) filter.rank)
    desk.store.orders all
  plain : '\x00' ∉ (Text.trim? filter.number).toList →
    (∀ order ∈ desk.store.orders, '\x00' ∉ order.number.toList) →
    Selection (filter.Wants Text.Contains) (PrecedesBy (·.id) filter.rank) desk.store.orders all
  pages : (OrderFilter.patternSize filter.number ≤ OrderFilter.maxPatternSize ∨
      ∀ order ∈ desk.store.orders, ¬{ filter with number := none }.Wants Text.Holds order) →
    desk.Pages context filter.pageOf all
  refused : OrderFilter.maxPatternSize < OrderFilter.patternSize filter.number →
    ∀ order ∈ desk.store.orders, { filter with number := none }.Wants Text.Holds order →
    ∀ number size, (filter.pageOf number size).run context desk =
      (.error (.broken .patternTooLong), desk)

structure Desk.ListsEntries (desk : Desk) (context : Context) (userId : Int) (kind : Option String)
    (all : List LedgerEntry) : Prop where
  selection : Selection (LedgerEntry.Wanted userId kind) (PrecedesBy (·.id) LedgerEntry.rank)
    desk.store.ledger all
  pages : desk.Pages context (Wallet.entries userId · · kind) all

section

variable {desk : Desk} (intact : desk.store.Intact) (context : Context)

include intact

theorem Desk.listsOrders (distinct : desk.store.OrdersDistinct) {filter : OrderFilter}
    (user : ∀ id ∈ filter.userId, Store.fitsColumn id = true) :
    desk.ListsOrders context filter (filter.select desk.store.orders) where
  selection := OrderFilter.select_selection distinct
  plain ask numbers := by
    refine (OrderFilter.select_selection distinct).congr_wanted fun order member => ?_
    have same := Text.holds_iff_contains (numbers order member) ask
    exact ⟨.imp same.mp, .imp same.mpr⟩
  pages searchable := by
    refine .of_slice fun number size fits => ?_
    let asked := { filter with page := number, perPage := size }
    have checked : Work.checkPattern asked { context with deadlinePassed := false } desk.store =
        .ok ((), desk.store) := by
      rcases searchable with short | none
      · exact Work.checkPattern_of_short short
      · exact Work.checkPattern_of_none fun order member admitted =>
          none order member (OrderFilter.admits_iff.mp admitted)
    rw [← OrderFilter.select_of_page filter number size]
    exact Service.run_query_ok (Work.orderPage_of_checked intact rfl fits user checked)
  refused long order member rest number size := by
    rw [OrderFilter.pageOf, Service.run_query,
      Work.orderPage_of_long intact rfl user long member (OrderFilter.admits_iff.mpr rest)]

theorem Desk.listsEntries (distinct : (desk.store.ledger.map (·.id)).Nodup) {userId : Int}
    (user : Store.fitsColumn userId = true) (kind : Option String) :
    desk.ListsEntries context userId kind
      (LedgerEntry.newestFirst ((desk.store.entriesOf userId).filter (·.matchesKind kind))) where
  selection := LedgerEntry.newestFirst_selection distinct userId kind
  pages := .of_slice fun number size fits =>
    Service.run_query_ok (Work.pageOf_of_fit intact rfl (List.forall_mem_singleton.mpr user)
      (Page.size_ofRequest number size) fits)

end

namespace Desk

/-- Page by page, the listing of a filter is the one sorted list of all orders that the filter asks
for, and the listing of a ledger that of all entries of the user and the kind. -/
theorem listings_paged {desk : Desk} (intact : desk.store.Intact)
    (orders : desk.store.OrdersDistinct) (ledger : (desk.store.ledger.map (·.id)).Nodup)
    (context : Context) :
    (∀ filter : OrderFilter, (∀ id ∈ filter.userId, Store.fitsColumn id = true) →
      ∃! all, desk.ListsOrders context filter all) ∧
    ∀ userId kind, Store.fitsColumn userId = true →
      ∃! all, desk.ListsEntries context userId kind all :=
  ⟨fun _ user => ⟨_, listsOrders intact context orders user,
      fun _ lists => (OrderFilter.select_selection orders).unique lists.selection⟩,
    fun _ kind user => ⟨_, listsEntries intact context ledger user kind,
      fun _ lists => (LedgerEntry.newestFirst_selection ledger _ _).unique lists.selection⟩⟩

theorem sample_listings_paged :
    let paid := sample.afterAll samplePayments
    let filter : OrderFilter := { paymentMethod := some " Balance ", sort := some "total" }
    paid.store.Intact ∧ paid.store.OrdersDistinct ∧ (paid.store.ledger.map (·.id)).Nodup ∧
      (∃ all, paid.ListsOrders { now := .ofSeconds 50 } filter all ∧ all.length = 2) ∧
      ∃ all, paid.ListsEntries { now := .ofSeconds 50 } 1 (some "purchase") all ∧
        all.length = 2 := by
  have intact : (sample.afterAll samplePayments).store.Intact :=
    afterAll_intact ⟨rfl, by decide⟩ samplePayments
  have orders : (sample.afterAll samplePayments).store.OrdersDistinct := by decide +kernel
  have ledger : ((sample.afterAll samplePayments).store.ledger.map (·.id)).Nodup := by
    decide +kernel
  have paged := listings_paged intact orders ledger { now := .ofSeconds 50 }
  rcases paged.1 { paymentMethod := some " Balance ", sort := some "total" } (by simp)
    with ⟨all, lists, alone⟩
  rcases paged.2 1 (some "purchase") rfl with ⟨entries, listsThem, aloneThen⟩
  refine ⟨intact, orders, ledger, ⟨all, lists, ?_⟩, entries, listsThem, ?_⟩
  · rw [← alone _ (listsOrders intact _ orders (by simp)), OrderFilter.select,
      List.length_mergeSort]
    decide +kernel
  · rw [← aloneThen _ (listsEntries intact _ ledger rfl _), LedgerEntry.newestFirst,
      List.length_mergeSort]
    decide +kernel

theorem sample_zero_ends_number :
    let filter : OrderFilter := { number := some "1\x00" }
    (filter.pageOf none none).run { now := .ofSeconds 50 } sample =
        (.ok (sample.store.orders, 1), sample) ∧
      sample.store.orders.map (·.number) = ["ORD-1"] ∧
      ¬Text.Contains "ORD-1" (Text.trim? filter.number) := by
  have intact : sample.store.Intact := ⟨rfl, by decide⟩
  have fits : OrderFilter.Fits { number := some "1\x00" } := ⟨rfl, by decide +kernel⟩
  have selected : OrderFilter.select { number := some "1\x00" } sample.store.orders =
      sample.store.orders := List.mergeSort_singleton _
  have inTime : ({ now := .ofSeconds 50 } : Context).deadlinePassed = false := rfl
  have read := Work.orderPage_of_fit intact inTime fits (by simp)
  rw [selected] at read
  refine ⟨Service.run_query_ok read, rfl, ?_⟩
  unfold Text.Contains
  decide +kernel

end Desk

end OrderDesk
