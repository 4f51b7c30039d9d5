import OrderDesk.Json.Printer
import OrderDesk.Session.Identity

/-! Issuing session tokens. -/

namespace OrderDesk.Session

structure Grant where
  subject : String
  email : Option Json := none
  issuedAt : Instant
  /-- how long the token is in force, in microseconds -/
  lifetime : Int
  deriving Repr

def header : Json := .object [("alg", .text algorithm), ("typ", .text "JWT")]

/-- The lifetime of a token when none is asked for: some hours, one at least. -/
def defaultLifetime (hours : Int) : Int :=
  (if hours = 0 then 24 else max hours 1) * 3600 * Instant.microsPerSecond

namespace Grant

def ofUser (userId : Int) (email : Option String) (issuedAt : Instant) (lifetime : Int) :
    Grant where
  subject := toString userId
  email := email.map .text
  issuedAt
  lifetime

def expiry (grant : Grant) : Except Fault Instant :=
  grant.issuedAt.after grant.lifetime

/-- An empty email is left out. -/
def claims (grant : Grant) (expiry : Instant) : Json := .object <| [
  ("sub", .text grant.subject),
  ("type", .text tokenType),
  ("iat", .int grant.issuedAt.unixSeconds),
  ("exp", .int expiry.unixSeconds)] ++
    ((grant.email.filter (·.isPresent)).map fun email => ("email", email)).toList

end Grant

def part (value : Json) : String :=
  Base64.encodeUrl (Bytes.ofText (value.print .compact))

/-- A secret signs as it is, also where it would name keys for a check. -/
def issue (mac : Mac) (secret : String) (grant : Grant) : Except Fault String := do
  let expiry ← grant.expiry
  let key ← (keyBytes (.text secret)).mapError fun _ => .unsignable
  let signed := part header ++ "." ++ part (grant.claims expiry)
  return signed ++ "." ++ Base64.encodeUrl (mac key (Bytes.ofText signed))

end OrderDesk.Session
