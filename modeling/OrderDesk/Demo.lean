import OrderDesk.Session.Issue
import OrderDesk.Wallet.Account

/-! Rows to try the desk out with: two users, two plans, and money in the first user's wallet. -/

namespace OrderDesk.Demo

def userEmail : String := "demo@example.com"
def adminEmail : String := "admin@example.com"
def rechargeCents : Int := 10000
def rechargeReference : String := "seed:recharge"

def bytesPerGigabyte : Int := 1024 * 1024 * 1024

def starter (id : Int) : Plan where
  id := id
  name := "Starter"
  slug := "starter"
  priceCents := 1000
  currency := some "CNY"
  durationDays := 30
  trafficLimitBytes := 100 * bytesPerGigabyte
  devicesLimit := 2
  sortOrder := 1

def trial (id : Int) : Plan :=
  { starter id with
    name := "Trial"
    slug := "trial"
    priceCents := 0
    durationDays := 3
    trafficLimitBytes := 5 * bytesPerGigabyte
    devicesLimit := 1
    sortOrder := 0 }

def localPart (email : String) : String :=
  String.ofList (email.toList.takeWhile (· ≠ '@'))

def openUser (email : String) (roles : List String) : Work User := do
  Work.statement [.users] []
  match (← get).users.find? (·.email == email) with
  | some user => return user
  | none => Work.insertUser fun id =>
    { id, email, displayName := some (localPart email), roles := .list (roles.map .text) }

def openPlan (draft : Int → Plan) : Work Plan := do
  Work.statement [.plans] []
  match (← get).plans.find? (·.slug == (draft 0).slug) with
  | some plan => return plan
  | none => Work.insertPlan draft

structure Rows where
  user : User
  admin : User
  plans : List Plan
  deriving Repr

def rows : Service Rows := do
  let user ← Service.write (openUser userEmail [])
  let admin ← Service.write (openUser adminEmail [User.adminRole])
  let starter ← Service.write (openPlan starter)
  let trial ← Service.write (openPlan trial)
  return { user, admin, plans := [starter, trial] }

def hasRecharge (userId : Int) : Work Bool := do
  Work.statement [.ledger] [userId]
  return ((← get).entriesOf userId).any (·.reference == rechargeReference)

/-- Fills a wallet once; nothing happens when it has been filled before. -/
def recharge (userId : Int) : Service (Option LedgerEntry) := do
  if ← Service.query (hasRecharge userId) then return none
  let (entry, _) ← Wallet.move userId {
    kind := some MovementKind.recharge.text
    amountCents := rechargeCents
    currency := some "CNY"
    reference := some rechargeReference
    description := some "Demo recharge" }
  return some entry

def token (mac : Mac) (user : User) (email : String) : Service String := do
  let context ← read
  Service.lift <| Failure.breaking <| Session.issue mac context.settings.sessionSecret <|
    .ofUser user.id (some email) context.now <|
      Session.defaultLifetime context.settings.sessionHours

def planLine (plan : Plan) : String :=
  "   plan #" ++ toString plan.id ++ " " ++ plan.slug ++ " price_cents=" ++ toString plan.priceCents

def rechargeLine : Option LedgerEntry → String
  | none => "   demo recharge already applied, skipping"
  | some entry =>
    "   recharge tx #" ++ toString entry.id ++ " -> balance_after_cents=" ++
      toString entry.balanceAfterCents

/-- Makes tables and rows, and reports what is there with a session token for each user. -/
def seed (mac : Mac) : Service (List String) := do
  modify fun desk => { desk with store := desk.store.createTables }
  let rows ← rows
  let entry ← recharge rows.user.id
  let userToken ← token mac rows.user userEmail
  let adminToken ← token mac rows.admin adminEmail
  return ["🌱 Seeding demo data..."] ++ rows.plans.map planLine ++ [rechargeLine entry, "",
    "✅ Demo data ready.", "   user  token: " ++ userToken, "   admin token: " ++ adminToken]

end OrderDesk.Demo
