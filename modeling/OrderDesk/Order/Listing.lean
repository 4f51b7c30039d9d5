import OrderDesk.Json.Value
import OrderDesk.Order.Cancel
import OrderDesk.Text.Basic

/-! Listing orders page by page, filtered and sorted, and reading single orders. -/

namespace OrderDesk

/-! ## Pages -/

structure Page where
  number : Int
  size : Int
  deriving DecidableEq, Repr

namespace Page

def defaultSize : Int := 20
def maxSize : Int := 100

/-- A number that is not positive means the first page, and a size outside `1 … 100` the default
one. -/
def ofRequest (number size : Option Int) : Page where
  number := if 0 < number.getD 0 then number.getD 0 else 1
  size := if 0 < size.getD 0 ∧ size.getD 0 ≤ maxSize then size.getD 0 else defaultSize

def offset (page : Page) : Int :=
  (page.number - 1) * page.size

def slice {α : Type} (page : Page) (rows : List α) : List α :=
  (rows.drop page.offset.toNat).take page.size.toNat

def hasNext (page : Page) (total : Int) : Bool :=
  page.number * page.size < total

def hasPrevious (page : Page) : Bool :=
  1 < page.number

def json (page : Page) (total : Int) : Json := .object [
  ("page", .int page.number),
  ("per_page", .int page.size),
  ("total_count", .int total),
  ("has_next", .bool (page.hasNext total)),
  ("has_prev", .bool page.hasPrevious)]

end Page

/-! ## Listings -/

/-- What a listing is narrowed down to. Blank texts do not narrow it. -/
structure OrderFilter where
  page : Option Int := none
  perPage : Option Int := none
  status : Option String := none
  paymentMethod : Option String := none
  paymentStatus : Option String := none
  number : Option String := none
  sort : Option String := none
  direction : Option String := none
  userId : Option Int := none
  deriving DecidableEq, Repr

inductive SortKey
  | created
  | updated
  | total
  deriving DecidableEq, Repr

namespace SortKey

/-- Unknown words mean the time of creation. -/
def ofText (word : Option String) : SortKey :=
  match Text.keyword word with
  | "updated" => updated
  | "total" => total
  | _ => created

def value (key : SortKey) (order : Order) : Int :=
  match key with
  | created => order.createdAt.micros
  | updated => (order.updatedAt.map (·.micros)).getD 0
  | total => order.totalCents

end SortKey

namespace OrderFilter

def pageAsked (filter : OrderFilter) : Page :=
  .ofRequest filter.page filter.perPage

/-- Whether a stored word is the one asked for. Stored words are folded in ASCII only. -/
def matchesWord (asked : Option String) (stored : String) : Bool :=
  let word := Text.keyword asked
  word == "" || Text.lowerAscii stored == word

def beforeZero (text : String) : List Char :=
  text.toList.takeWhile (· != '\x00')

/-- Whether a number contains the text asked for, case in ASCII aside. A zero character ends a
number that is compared; in the text asked for it stands for the end of the number. -/
def matchesNumber (asked : Option String) (number : String) : Bool :=
  let asked := Text.trim? asked
  let number := beforeZero (Text.lowerAscii number)
  let part := beforeZero (Text.lowerAscii asked)
  if part.length < asked.length then part.isSuffixOf number else Text.occursIn part number

def maxPatternSize : Nat := 50000

/-- The size of the pattern that a number is searched for with: a wildcard at each end, and a mark
in front of every character that could be mistaken for one. -/
def patternSize (asked : Option String) : Nat :=
  let part := Text.trim? asked
  part.utf8ByteSize + (part.toList.filter fun character =>
    character == '%' || character == '_' || character == '/').length + 2

def admits (filter : OrderFilter) (order : Order) : Bool :=
  (filter.userId.all (· == order.userId)) &&
    matchesWord filter.status order.status.text &&
    matchesWord filter.paymentMethod order.paymentMethod.text &&
    matchesWord filter.paymentStatus order.paymentStatus.text &&
    matchesNumber filter.number order.number

def ascending (filter : OrderFilter) : Bool :=
  Text.keyword filter.direction == "asc"

/-- Whether one order comes before another, or in its place. Of equals the newer one is first. -/
def before (filter : OrderFilter) (first second : Order) : Bool :=
  let key := SortKey.ofText filter.sort
  let (low, high) := if filter.ascending then (first, second) else (second, first)
  key.value low < key.value high ||
    (key.value low == key.value high && second.id ≤ first.id)

def select (filter : OrderFilter) (orders : List Order) : List Order :=
  (orders.filter filter.admits).mergeSort filter.before

end OrderFilter

structure Listing (Entry : Type) where
  entries : List Entry
  page : Page
  total : Int
  deriving Repr

namespace Work

/-- One page of the rows that a statement selects, and their number. The page is only read when
there is a row at all. -/
def pageOf {Row : Type} (table : Table) (numbers : List Int) (page : Page)
    (select : Store → List Row) : Work (List Row × Int) := do
  statement [table] numbers
  let rows := select (← get)
  if rows.isEmpty then return ([], 0)
  statement [table] (numbers ++ [page.size, page.offset])
  return (page.slice rows, rows.length)

/-- A pattern is only looked at where all else that a filter asks for is met. -/
def checkPattern (filter : OrderFilter) : Work Unit := do
  if OrderFilter.maxPatternSize < OrderFilter.patternSize filter.number then
    if (← get).orders.any fun order => { filter with number := none }.admits order then
      breakOff .patternTooLong

def orderPage (filter : OrderFilter) : Work (List Order × Int) := do
  statement [.orders] filter.userId.toList
  checkPattern filter
  pageOf .orders filter.userId.toList filter.pageAsked fun store => filter.select store.orders

end Work

namespace Orders

def get (caller : Option User) (orderId : Int) : Service Receipt := do
  let order ← Service.query (Work.order orderId)
  let some user := caller | Service.breakOff .absent
  if order.userId ≠ user.id then Service.refuse .foreignOrder
  Service.query (Work.receipt order)

/-- A user's own orders, whatever user the filter names. -/
def list (caller : Option User) (filter : OrderFilter) : Service (Listing OrderDetail) := do
  let some user := caller | Service.breakOff .absent
  let filter := { filter with userId := some user.id }
  let (orders, total) ← Service.query (Work.orderPage filter)
  return ⟨← Service.query (Work.details orders), filter.pageAsked, total⟩

def getAsAdmin (actor : Option User) (orderId : Int) : Service AdminOrderDetail := do
  let _ ← Service.lift (admin actor)
  let order ← Service.query (Work.order orderId)
  Service.query (Work.adminDetail order)

def listAsAdmin (actor : Option User) (filter : OrderFilter) :
    Service (Listing AdminOrderDetail) := do
  let _ ← Service.lift (admin actor)
  let (orders, total) ← Service.query (Work.orderPage filter)
  return ⟨← Service.query (Work.adminDetails orders), filter.pageAsked, total⟩

end Orders

end OrderDesk
