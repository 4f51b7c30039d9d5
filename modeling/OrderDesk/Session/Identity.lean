import OrderDesk.Json.Value
import OrderDesk.Session.Key
import OrderDesk.Text.Integer
import OrderDesk.Time.Instant

/-!
Reading session tokens: who calls, and until when. A token has three parts with points between, a
header, a payload of claims and a signature over the two.
-/

namespace OrderDesk

structure SessionIdentity where
  userId : Int
  email : Option Json
  expiresAt : Int
  deriving Repr, BEq

namespace Session

def invalid {α : Type} : Except Failure α :=
  .error (.refused .invalidSession)

def need {α : Type} : Option α → Except Failure α
  | some value => .ok value
  | none => invalid

def reading : Json.Reading := { maxDepth := some 985 }

def fieldsOf (bytes : Bytes) : Except Failure Fields := do
  match Json.parse (← need (Bytes.toText? bytes)) reading with
  | .ok (.object fields) => return fields
  | .error .nestedTooDeeply => throw (.broken .nestedTooDeeply)
  | _ => invalid

end Session

/-- A token taken apart. The signature covers all bytes before the last point. -/
structure SessionToken where
  header : Fields
  payload : Bytes
  signed : Bytes
  signature : Bytes
  deriving Repr

namespace SessionToken

def point : UInt8 := 46

def splitFirst? (bytes : Bytes) : Option (Bytes × Bytes) :=
  match bytes.dropWhile (· != point) with
  | _ :: rest => some (bytes.takeWhile (· != point), rest)
  | [] => none

def splitLast? (bytes : Bytes) : Option (Bytes × Bytes) :=
  (splitFirst? bytes.reverse).map fun (after, before) => (before.reverse, after.reverse)

def parse (token : String) : Except Failure SessionToken := do
  let (signed, signature) ← Session.need (splitLast? (Bytes.ofText token))
  let (header, payload) ← Session.need (splitFirst? signed)
  let header ← Session.fieldsOf (← Session.need (Base64.decodeUrl? header))
  return {
    header
    payload := ← Session.need (Base64.decodeUrl? payload)
    signed
    signature := ← Session.need (Base64.decodeUrl? signature) }

end SessionToken

namespace Session

def tokenType : String := "znp_session"
def algorithm : String := "HS256"

def signedClaims (mac : Mac) (secret token : String) : Except Failure Fields := do
  let token ← SessionToken.parse token
  match token.header.get? "alg" with
  | some (.text name) => if name ≠ algorithm then invalid
  | _ => invalid
  let isSigned ← Failure.breaking <| do
    isSignedBy mac token.signed token.signature (← keysNamed secret)
  if !isSigned then invalid
  fieldsOf token.payload

/-- The whole number of a claim. A text or number that is none makes the token invalid; a value of
another kind, or an infinite one, breaks the reading off. -/
def claimInteger (value : Json) : Except Failure Int :=
  match value.integer with
  | .ok number => .ok number
  | .error (.malformed _) | .error (.tooManyDigits _) | .error .notNumber => invalid
  | .error fault => .error (.broken (.integer fault))

def checkTimes (claims : Fields) (now : Int) : Except Failure Unit := do
  if let some value := claims.get? "iat" then
    let _ ← claimInteger value
  if let some value := claims.get? "nbf" then
    if now < (← claimInteger value) then invalid
  if let some value := claims.get? "exp" then
    if (← claimInteger value) < now then throw (.refused .sessionExpired)

def isTextOrAbsent : Option Json → Bool
  | none | some (.text _) | some (.unpaired _) => true
  | some _ => false

/-- An audience and an access token cannot be checked here, so a token that names them is
invalid. -/
def checkNames (claims : Fields) : Except Failure Unit :=
  if (claims.get? "aud").isNone ∧ isTextOrAbsent (claims.get? "sub") ∧
      isTextOrAbsent (claims.get? "jti") ∧ (claims.get? "at_hash").isNone then .ok ()
  else invalid

/-- The user id in a subject made of digits. Some digits form no number. -/
def userId (subject : String) : Except Failure Int := do
  let subject := Text.trim subject
  if subject = "" ∨ !subject.toList.all Text.isDigit then throw (.refused .sessionWithoutUser)
  let id ← (Text.readInteger subject).mapError fun fault =>
    .broken (.integer (.ofText subject fault))
  if id ≤ 0 then throw (.refused .sessionWithoutUser)
  return id

def subject (claims : Fields) : String :=
  match claims.get? "sub" with
  | some (.text subject) => subject
  | _ => ""

def identity (claims : Fields) : Except Failure SessionIdentity := do
  match claims.get? "type" with
  | some (.text type) => if type ≠ tokenType then throw (.refused .invalidSessionType)
  | _ => throw (.refused .invalidSessionType)
  let userId ← userId (subject claims)
  let expiresAt ← match claims.get? "exp" with
    | some value => claimInteger value
    | none => pure 0
  return { userId, email := (claims.get? "email").filter (·.isPresent), expiresAt }

def decode (mac : Mac) (secret : String) (now : Instant) (token : String) :
    Except Failure SessionIdentity := do
  let claims ← signedClaims mac secret token
  checkTimes claims (now.micros / Instant.microsPerSecond)
  checkNames claims
  identity claims

end Session

end OrderDesk
