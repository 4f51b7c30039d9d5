/-! The paths and methods that the desk answers. -/

namespace OrderDesk.Http

/-- What can be asked for; ids are texts that are yet to be read. -/
inductive Route
  | health
  | ready
  | live
  | createOrder
  | listOrders
  | getOrder (id : String)
  | cancelOrder (id : String)
  | accountBalance
  | adminListOrders
  | adminGetOrder (id : String)
  | adminPayOrder (id : String)
  | adminCancelOrder (id : String)
  | adminRefundOrder (id : String)
  | readSecurity
  | updateSecurity
  | paymentCallback
  | partnerOrder (id : String)
  | partnerBalance (id : String)
  | metrics
  | root
  deriving DecidableEq, Repr

namespace Route

def ofSegments : List String → List (String × Route)
  | ["health"] => [("GET", health)]
  | ["health", "ready"] => [("GET", ready)]
  | ["health", "live"] => [("GET", live)]
  | ["orders"] => [("POST", createOrder), ("GET", listOrders)]
  | ["orders", id] => [("GET", getOrder id)]
  | ["orders", id, "cancel"] => [("POST", cancelOrder id)]
  | ["account", "balance"] => [("GET", accountBalance)]
  | ["admin", "orders"] => [("GET", adminListOrders)]
  | ["admin", "orders", id] => [("GET", adminGetOrder id)]
  | ["admin", "orders", id, "pay"] => [("POST", adminPayOrder id)]
  | ["admin", "orders", id, "cancel"] => [("POST", adminCancelOrder id)]
  | ["admin", "orders", id, "refund"] => [("POST", adminRefundOrder id)]
  | ["admin", "security"] => [("GET", readSecurity), ("PATCH", updateSecurity)]
  | ["payments", "callback"] => [("POST", paymentCallback)]
  | ["thirdparty", "orders", id] => [("GET", partnerOrder id)]
  | ["thirdparty", "users", id, "balance"] => [("GET", partnerBalance id)]
  | ["metrics"] => [("GET", metrics)]
  | [""] => [("GET", root)]
  | _ => []

def segments (path : List Char) : List String :=
  match path with
  | '/' :: rest => (rest.splitOn '/').map String.ofList
  | _ => []

/-- Only the path of the root has an empty part. -/
def ofPathText (path : List Char) : List (String × Route) :=
  let parts := segments path
  if parts ≠ [""] ∧ "" ∈ parts then [] else ofSegments parts

/-- A line end after a path that is not known with it does not count. -/
def ofPath (path : String) : List (String × Route) :=
  let routes := ofPathText path.toList
  if routes.isEmpty && path.toList.getLast? == some '\n' then ofPathText path.toList.dropLast
  else routes

/-- The same path with its last slash added or all of its last slashes taken away. -/
def slashed (path : String) : String :=
  if path.endsWith "/" then
    String.ofList (path.toList.reverse.dropWhile (· == '/')).reverse
  else path ++ "/"

inductive Match
  | found (route : Route)
  | otherMethod
  /-- the path differs from a known one in its last slash -/
  | redirected
  | unknown
  deriving DecidableEq, Repr

def resolve (method path : String) : Match :=
  let routes := ofPath path
  match routes.find? (·.1 == method) with
  | some (_, route) => .found route
  | none =>
    if !routes.isEmpty then .otherMethod
    else if path ≠ "/" ∧ !(ofPath (slashed path)).isEmpty then .redirected
    else .unknown

end Route

end OrderDesk.Http
