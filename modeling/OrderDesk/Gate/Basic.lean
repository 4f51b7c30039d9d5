import OrderDesk.Bytes.Base64
import OrderDesk.Cipher.Gcm
import OrderDesk.Digest
import OrderDesk.Failure
import OrderDesk.Security.Setting
import OrderDesk.Text.Case

/-!
The gate for signed calls of third parties. A call names a key, a time and a nonce, and is signed
over these and all of the request; its body may be sealed under the secret.
-/

namespace OrderDesk

abbrev Headers := String → Option String

namespace Headers

/-- The trimmed value under a name or, failing that, under its lower case; empty if there is
none. -/
def value (headers : Headers) (name : String) : String :=
  Text.trim? ((headers name).or (headers (Text.lower name)))

def Carries (headers : Headers) (name text : String) : Prop :=
  (headers name).or (headers (Text.lower name)) = some text

theorem Carries.value {headers : Headers} {name text : String}
    (carries : headers.Carries name text) : headers.value name = Text.trim text := by
  rw [Headers.value, carries]
  rfl

def ofList (fields : List (String × String)) : Headers := fun name =>
  (fields.reverse.find? (·.1 == name)).map (·.2)

end Headers

/-- The algorithms that signing and sealing rest on. -/
structure CipherSuite where
  mac : Mac
  aead : Aead

namespace CipherSuite

def standard : CipherSuite := ⟨Hmac.sha256, Gcm.aead⟩

end CipherSuite

structure GateSetting where
  enabled : Bool := false
  apiKey : String := ""
  apiSecret : String := ""
  nonceTtlSeconds : Int := SecuritySetting.defaultNonceTtl
  algorithm : String := SecuritySetting.defaultAlgorithm
  deriving DecidableEq, Repr

namespace GateSetting

/-- Without a key and a secret the gate stands open. -/
def isActive (setting : GateSetting) : Bool :=
  setting.enabled && setting.apiKey != "" && setting.apiSecret != ""

def ofRow : Option SecuritySetting → GateSetting
  | none => {}
  | some row => {
    enabled := row.enabled
    apiKey := Text.trim row.apiKey
    apiSecret := Text.trim row.apiSecret
    nonceTtlSeconds := SecuritySetting.effectiveNonceTtl row.nonceTtlSeconds
    algorithm := Text.keyword (Text.orElse row.algorithm SecuritySetting.defaultAlgorithm) }

end GateSetting

structure GateCall where
  method : String := ""
  path : String := ""
  rawQuery : String := ""
  headers : Headers
  body : Bytes := []

namespace Gate

def keyHeader : String := "X-ZNP-API-Key"
def signatureHeader : String := "X-ZNP-Signature"
def timestampHeader : String := "X-ZNP-Timestamp"
def nonceHeader : String := "X-ZNP-Nonce"
def encryptedHeader : String := "X-ZNP-Encrypted"
def ivHeader : String := "X-ZNP-IV"
def ivSize : Nat := 12

/-- The text that a signature covers: six fields, one a line. -/
def canonicalText (method path rawQuery timestamp nonce : String) (body : Bytes) : String :=
  String.intercalate "\n"
    [Text.upper method, path, rawQuery, timestamp, nonce, Base64.encode body]

def sign (mac : Mac) (secret canonical : String) : String :=
  Base64.encode (mac (Bytes.ofText secret) (Bytes.ofText canonical))

def bodyKey (secret : String) : Bytes :=
  Sha256.digest (Bytes.ofText secret)

def minNonceSize : Nat := 8
def maxNonceSize : Nat := 128

def sealBody (aead : Aead) (secret : String) (iv plaintext : Bytes) : Except Fault Bytes :=
  if iv.length < minNonceSize ∨ maxNonceSize < iv.length then .error .nonceSize
  else .ok (aead.sealText (bodyKey secret) iv plaintext)

def openBody (aead : Aead) (secret ivText : String) (sealedBody : Bytes) :
    Except Refusal Bytes := do
  if ivText = "" then throw .missingIv
  let some iv := Base64.decode? ivText | throw .invalidIv
  if iv.length ≠ ivSize then throw .invalidIvSize
  match aead.openText? (bodyKey secret) iv sealedBody with
  | some plaintext => return plaintext
  | none => throw .undecipherableBody

/-- How a clock judges times: whether one in whole seconds lies further from the present than a
window allows. -/
abbrev TimeJudge := (seconds window : Int) → Except Fault Bool

/-- The judge by the present time. The distance is that of doubles, so a time beyond every double
has none. -/
def isOutside (now : Instant) : TimeJudge := fun seconds window =>
  if Binary64.holdsInt seconds then
    .ok ((now.seconds - .ofInt seconds).exceedsInSize window)
  else .error .floatOverflow

def encryptedFlags : List String := ["true", "1"]

def plainBody (suite : CipherSuite) (setting : GateSetting) (call : GateCall) :
    Except Refusal Bytes :=
  if Text.lower (call.headers.value encryptedHeader) ∈ encryptedFlags then
    if setting.algorithm ≠ SecuritySetting.defaultAlgorithm then
      .error (.unsupportedCipher setting.algorithm)
    else openBody suite.aead setting.apiSecret (call.headers.value ivHeader) call.body
  else .ok call.body

def verifyBy (suite : CipherSuite) (setting : GateSetting) (judge : TimeJudge) (call : GateCall) :
    Except Failure Bytes := do
  if !setting.isActive then return call.body
  let key := call.headers.value keyHeader
  let signature := call.headers.value signatureHeader
  let timestamp := call.headers.value timestampHeader
  let nonce := call.headers.value nonceHeader
  if key = "" ∨ signature = "" ∨ timestamp = "" ∨ nonce = "" then
    throw (.refused .missingGateHeaders)
  if key ≠ setting.apiKey then throw (.refused .invalidApiKey)
  let issuedAt ← (Text.readInteger timestamp).mapError fun _ => .refused .invalidTimestamp
  if ← Failure.breaking (judge issuedAt setting.nonceTtlSeconds) then
    throw (.refused .timestampOutsideWindow)
  let canonical :=
    canonicalText call.method call.path call.rawQuery timestamp nonce call.body
  if signature ≠ sign suite.mac setting.apiSecret canonical then
    throw (.refused .gateSignatureMismatch)
  Failure.refusing (plainBody suite setting call)

/-- Lets a properly signed call pass and yields its body in the clear. -/
def verify (suite : CipherSuite) (setting : GateSetting) (now : Instant) (call : GateCall) :
    Except Failure Bytes :=
  verifyBy suite setting (isOutside now) call

end Gate

end OrderDesk
