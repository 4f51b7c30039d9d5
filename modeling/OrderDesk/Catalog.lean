import OrderDesk.Failure
import OrderDesk.Json.Value
import OrderDesk.Text.Case

/-!
The users of the desk and the plans that they order. Both are kept elsewhere; the desk only reads
them.
-/

namespace OrderDesk

/-! ## Users -/

structure User where
  id : Int
  email : String
  displayName : Option String := none
  /-- Usually a list of names. -/
  roles : Json := .list []
  status : String := "active"
  deriving Repr

namespace User

def activeStatus : String := "active"
def adminRole : String := "admin"

def roleNames (roles : Json) : Except Fault (List String) :=
  match roles.membersIfPresent? with
  | some members => .ok (members.map (·.display))
  | none => .error .notCollection

/-- Whether some roles name a role, blanks and case aside. -/
def names (roles : Json) (role : String) : Except Fault Bool :=
  (roleNames roles).map (·.any fun name => Text.keyword name == Text.keyword role)

def hasRole (user : User) (role : String) : Except Fault Bool :=
  names user.roles role

def isAdmin (user : User) : Except Fault Bool :=
  user.hasRole adminRole

/-- A user without a status counts as active. -/
def isActive (user : User) : Bool :=
  user.status == "" || user.status == activeStatus

end User

/-! ## Plans -/

structure Plan where
  id : Int
  name : String
  slug : String
  description : Option String := none
  /-- Usually a list. -/
  tags : Json := .list []
  /-- Usually a list. -/
  features : Json := .list []
  priceCents : Int
  currency : Option String
  durationDays : Int
  trafficLimitBytes : Int
  devicesLimit : Int
  sortOrder : Int := 0
  status : String := "active"
  isVisible : Bool := true
  deriving Repr

namespace Plan

def activeStatus : String := "active"

def isPurchasable (plan : Plan) : Bool :=
  plan.isVisible && Text.keyword plan.status == activeStatus

def numbers (plan : Plan) : List Int :=
  [plan.priceCents, plan.durationDays, plan.trafficLimitBytes, plan.devicesLimit, plan.sortOrder]

def listOf (value : Json) : Except Fault Json :=
  match value.membersIfPresent? with
  | some members => .ok (.list members)
  | none => .error .notCollection

/-- What an order keeps of its plan, so that later edits of the plan leave the order alone. -/
def snapshot (plan : Plan) (currency : String) : Except Fault Fields := do return [
  ("id", .int plan.id),
  ("name", .text plan.name),
  ("slug", .text plan.slug),
  ("description", .text (plan.description.getD "")),
  ("price_cents", .int plan.priceCents),
  ("currency", .text currency),
  ("duration_days", .int plan.durationDays),
  ("traffic_limit_bytes", .int plan.trafficLimitBytes),
  ("devices_limit", .int plan.devicesLimit),
  ("features", ← listOf plan.features),
  ("tags", ← listOf plan.tags)]

def limits (plan : Plan) : Fields := [
  ("duration_days", .int plan.durationDays),
  ("traffic_limit_bytes", .int plan.trafficLimitBytes),
  ("devices_limit", .int plan.devicesLimit)]

end Plan

end OrderDesk
