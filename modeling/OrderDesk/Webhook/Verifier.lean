import OrderDesk.Bytes.Base64
import OrderDesk.Digest
import OrderDesk.Failure
import OrderDesk.Gate.Basic
import OrderDesk.Net.Network
import OrderDesk.Settings
import OrderDesk.Text.Basic

/-!
Who may deliver payment callbacks: peers of the allowed networks, with a signature over the body or
with a shared token. A signature, where one can be checked and is sent, decides alone.
-/

namespace OrderDesk.Webhook

structure SignatureHeader where
  timestamp : Int
  signatures : List String
  deriving DecidableEq, Repr

namespace SignatureHeader

def splitField? (part : List Char) : Option (String × String) :=
  match part.dropWhile (· != '=') with
  | _ :: value => some (String.ofList (part.takeWhile (· != '=')), String.ofList value)
  | [] => none

/-- Takes up one part of the header. Parts of other names, and times that are no number, count for
nothing. -/
def addPart (header : SignatureHeader) (part : List Char) : SignatureHeader :=
  match splitField? (Text.trimChars part) with
  | some ("t", value) =>
    match Text.readInteger value with
    | .ok timestamp => { header with timestamp }
    | .error _ => header
  | some ("v1", value) => { header with signatures := header.signatures ++ [value] }
  | _ => header

/-- Reads a header. The last time wins; without a time other than zero, or without a signature, the
header is refused. -/
def parse (text : String) : Except Refusal SignatureHeader :=
  let header := (text.toList.splitOn ',').foldl addPart ⟨0, []⟩
  if header.timestamp = 0 ∨ header.signatures.isEmpty then .error .malformedSignatureHeader
  else .ok header

end SignatureHeader

def signedBytes (timestamp : Int) (payload : Bytes) : Bytes :=
  Bytes.ofText (toString timestamp ++ ".") ++ payload

def signature (mac : Mac) (secret : String) (timestamp : Int) (payload : Bytes) : String :=
  Bytes.hex (mac (Bytes.ofText secret) (signedBytes timestamp payload))

def tokenHeader : String := "X-WEBHOOK-TOKEN"
def signatureHeaderName : String := "Stripe-Signature"
def forwardedHeader : String := "X-Forwarded-For"

structure Verifier where
  networks : List IpNetwork
  sharedToken : String
  signingSecret : String
  toleranceSeconds : Int

namespace Verifier

def networksOf (entries : List String) : List IpNetwork :=
  entries.filterMap fun entry => IpNetwork.parse? (Text.trimChars entry.toList)

def make (allowedNetworks : List String) (sharedToken signingSecret : String)
    (toleranceSeconds : Int) : Verifier where
  networks := networksOf allowedNetworks
  sharedToken := Text.trim sharedToken
  signingSecret := Text.trim signingSecret
  toleranceSeconds := max toleranceSeconds 0

def ofSettings (settings : Settings) : Verifier :=
  make settings.webhookAllowedNetworks settings.webhookSharedToken settings.webhookSigningSecret
    settings.webhookToleranceSeconds

/-- Without any network every peer is admitted. -/
def checkPeer (verifier : Verifier) (peer : Option String) : Except Refusal Unit :=
  if verifier.networks.isEmpty then .ok ()
  else match IpAddress.parse? (Text.trim? peer).toList with
    | none => .error .peerDenied
    | some address =>
      if verifier.networks.any (·.contains address) then .ok () else .error .peerDenied

def checkSignature (verifier : Verifier) (mac : Mac) (judge : Gate.TimeJudge) (header : String)
    (body : Bytes) : Except Failure Unit := do
  let header ← Failure.refusing (SignatureHeader.parse header)
  if 0 < verifier.toleranceSeconds then
    if ← Failure.breaking (judge header.timestamp verifier.toleranceSeconds) then
      throw (.refused .signatureOutsideTolerance)
  let expected := signature mac verifier.signingSecret header.timestamp body
  if header.signatures.any fun candidate => Text.trim candidate == expected then return ()
  throw (.refused .signatureMismatch)

def checkToken (verifier : Verifier) (headers : Headers) : Except Refusal Unit :=
  if verifier.sharedToken = "" then .ok ()
  else
    let token := headers.value tokenHeader
    if token = "" then .error .missingWebhookToken
    else if token = verifier.sharedToken then .ok ()
    else .error .invalidWebhookToken

def verifyBy (verifier : Verifier) (mac : Mac) (judge : Gate.TimeJudge) (headers : Headers)
    (body : Bytes) : Except Failure Unit :=
  let header := headers.value signatureHeaderName
  if verifier.signingSecret = "" then Failure.refusing (verifier.checkToken headers)
  else if header ≠ "" then verifier.checkSignature mac judge header body
  else if verifier.sharedToken = "" then .error (.refused .missingSignature)
  else Failure.refusing (verifier.checkToken headers)

def verify (verifier : Verifier) (mac : Mac) (now : Instant) (headers : Headers) (body : Bytes) :
    Except Failure Unit :=
  verifier.verifyBy mac (Gate.isOutside now) headers body

end Verifier

/-- The address of the client: the first one that a proxy forwards, or that of the connection. -/
def clientAddress (headers : Headers) (connection : Option String) : Option String :=
  let forwarded := headers.value forwardedHeader
  let firstHop := Text.trimChars ((forwarded.toList.splitOn ',').headD [])
  if firstHop.isEmpty then connection else some (String.ofList firstHop)

end OrderDesk.Webhook
