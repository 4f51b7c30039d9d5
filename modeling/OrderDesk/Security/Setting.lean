import OrderDesk.Json.Value
import OrderDesk.Text.Case
import OrderDesk.Time.Instant

/-! The one row that switches signed calls of third parties on and holds their credentials. -/

namespace OrderDesk

structure SecuritySetting where
  id : Int
  enabled : Bool
  apiKey : String
  apiSecret : String
  algorithm : String
  nonceTtlSeconds : Int
  createdAt : Instant
  updatedAt : Instant
  deriving DecidableEq, Repr

structure SecurityPatch where
  enabled : Option Bool := none
  apiKey : Option String := none
  apiSecret : Option String := none
  algorithm : Option String := none
  nonceTtlSeconds : Option Int := none
  deriving DecidableEq, Repr

namespace SecuritySetting

def defaultAlgorithm : String := "aes-gcm"
def defaultNonceTtl : Int := 300

/-- The seconds around the present time in which a signed call is accepted: a missing window, or
one that is not positive, means the default one. -/
def effectiveNonceTtl (seconds : Option Int) : Int :=
  if 0 < seconds.getD 0 then seconds.getD 0 else defaultNonceTtl

def initial (now : Instant) (id : Int) : SecuritySetting :=
  ⟨id, false, "", "", defaultAlgorithm, defaultNonceTtl, now, now⟩

/-- Keys and secrets are trimmed, a blank algorithm is ignored, and a negative window is kept as
zero. -/
def patched (setting : SecuritySetting) (patch : SecurityPatch) (now : Instant) :
    SecuritySetting :=
  { setting with
    enabled := patch.enabled.getD setting.enabled
    apiKey := (patch.apiKey.map Text.trim).getD setting.apiKey
    apiSecret := (patch.apiSecret.map Text.trim).getD setting.apiSecret
    algorithm := Text.orElse (Text.keyword patch.algorithm) setting.algorithm
    nonceTtlSeconds := (patch.nonceTtlSeconds.map (max · 0)).getD setting.nonceTtlSeconds
    updatedAt := now }

def json (setting : SecuritySetting) : Json := .object [
  ("id", .int setting.id),
  ("third_party_api_enabled", .bool setting.enabled),
  ("api_key", .text setting.apiKey),
  ("api_secret", .text setting.apiSecret),
  ("encryption_algorithm", .text (Text.orElse setting.algorithm defaultAlgorithm)),
  ("nonce_ttl_seconds", .int (effectiveNonceTtl setting.nonceTtlSeconds)),
  ("created_at", .int setting.createdAt.unixSeconds),
  ("updated_at", .int setting.updatedAt.unixSeconds)]

end SecuritySetting

end OrderDesk
