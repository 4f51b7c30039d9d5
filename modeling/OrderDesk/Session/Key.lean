import OrderDesk.Bytes.Base64
import OrderDesk.Digest
import OrderDesk.Failure
import OrderDesk.Json.Parser
import OrderDesk.Text.Basic

/-!
The keys that a session secret stands for when a signature is checked. A secret that is JSON names
its keys; any other one is its own key. The keys of public-key schemes are refused.
-/

namespace OrderDesk.Session

def keyReading : Json.Reading where
  maxDepth := some 985
  keepsNumbers := true

/-- An object names the members under `keys`, itself if it has a type or nothing else to name, and
all of its values otherwise. -/
def keysOfObject (fields : Fields) : Except Fault (List Json) :=
  match fields.get? "keys" with
  | some keys =>
    match keys.members? with
    | some members => .ok members
    | none => .error .notCollection
  | none =>
    if (fields.get? "kty").isSome || fields.isEmpty then .ok [.object fields]
    else .ok (fields.map (·.2.unmarked))

def keysNamed (secret : String) : Except Fault (List Json) :=
  match Json.parse secret keyReading with
  | .ok (.object fields) => keysOfObject fields
  | .ok (.list items) => .ok items
  | .ok key => .ok [key]
  | .error _ => .ok [.text secret]

/-! ## Keys of other schemes -/

def armourLabels : List String := [
  "CERTIFICATE", "TRUSTED CERTIFICATE", "PRIVATE KEY", "PUBLIC KEY", "ENCRYPTED PRIVATE KEY",
  "OPENSSH PRIVATE KEY", "DSA PRIVATE KEY", "RSA PRIVATE KEY", "RSA PUBLIC KEY",
  "EC PRIVATE KEY", "DH PARAMETERS", "NEW CERTIFICATE REQUEST", "CERTIFICATE REQUEST",
  "SSH2 PUBLIC KEY", "SSH2 ENCRYPTED PRIVATE KEY", "X509 CRL"]

/-- The first lines of armour. The fifth dash on each side may be a blank. -/
def armourLines : List String :=
  armourLabels.flatMap fun label => ["-", " "].flatMap fun opening => ["-", " "].map fun closing =>
    "----" ++ opening ++ "BEGIN " ++ label ++ closing ++ "----"

def shellKeyTypes : List String :=
  ["ssh-ed25519", "ssh-rsa", "ssh-dss", "ecdsa-sha2-nistp256", "ecdsa-sha2-nistp384",
    "ecdsa-sha2-nistp521"]

def shellCertificateSuffix : String := "-cert-v01@openssh.com"

def isAsciiBlank (character : Char) : Bool :=
  character == ' ' || ('\t' ≤ character && character ≤ '\r')

def isShellCertificate (text : List Char) : Bool :=
  let type := text.takeWhile (!isAsciiBlank ·)
  let rest := text.drop type.length
  let gap := rest.takeWhile fun character => character == ' ' || character == '\t'
  let second := (rest.drop gap.length).takeWhile (!isAsciiBlank ·)
  shellCertificateSuffix.toList.isSuffixOf type && !gap.isEmpty && !second.isEmpty

def isForeign (key : String) : Bool :=
  (armourLines ++ shellKeyTypes).any (fun part => Text.occursIn part.toList key.toList) ||
    isShellCertificate key.toList

/-! ## Checking signatures -/

def bytesOfObject (fields : Fields) : Except Fault Bytes :=
  if fields.get? "kty" != some (.text "oct") then .error .unusableKey
  else match fields.get? "k" with
    | some (.text key) =>
      match Base64.decodeUrl? (Bytes.ofText key) with
      | some bytes => .ok bytes
      | none => .error .malformedBase64
    | some (.unpaired _) => .error .unencodable
    | _ => .error .notText

def keyBytes : Json → Except Fault Bytes
  | .text key => if isForeign key then .error .unusableKey else .ok (Bytes.ofText key)
  | .unpaired _ => .error .unencodable
  | .object fields => bytesOfObject fields
  | _ => .error .unusableKey

/-- Whether one of some keys has made a signature. The keys are tried in turn, so one that is no
key matters only if none before it fits. -/
def isSignedBy (mac : Mac) (signed signature : Bytes) : List Json → Except Fault Bool
  | [] => .ok false
  | key :: rest => do
    if signature = mac (← keyBytes key) signed then return true
    isSignedBy mac signed signature rest

end OrderDesk.Session
