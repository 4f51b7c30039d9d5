import OrderDesk.Decimal.Binary64
import OrderDesk.Failure
import OrderDesk.Text.Case

/-! What is configured once for the whole desk. -/

namespace OrderDesk

structure Settings where
  /-- The currency of a wallet that nobody has chosen one for. -/
  defaultCurrency : String := "CNY"
  orderMaxQuantity : Int := 10
  /-- How long a transaction may take; none stands for a number beyond every double. -/
  requestTimeoutSeconds : Option Binary64 := some (.ofInt 10)
  webhookAllowedNetworks : List String := []
  webhookSharedToken : String := ""
  webhookSigningSecret : String := ""
  webhookToleranceSeconds : Int := 300
  sessionSecret : String := "change_me_in_production"
  sessionHours : Int := 24
  gateCacheSeconds : Binary64 := .ofInt 30
  orderRateLimit : Int := 60
  orderRateWindowSeconds : Nat := 60
  deriving DecidableEq, Repr

namespace Settings

def fallbackCurrency : String := "CNY"

def walletCurrency (settings : Settings) : String :=
  Text.orElse (Text.currencyCode settings.defaultCurrency) fallbackCurrency

def timeoutSeconds (settings : Settings) : Except Fault Binary64 :=
  match settings.requestTimeoutSeconds with
  | some seconds => .ok seconds
  | none => .error .floatOverflow

/-- The largest quantity that one order may have; a limit below one counts as one. -/
def quantityLimit (settings : Settings) : Int :=
  max settings.orderMaxQuantity 1

/-- The quantity of an order: one unless more is asked for, and never above the limit. -/
def quantity (settings : Settings) (asked : Option Int) : Int :=
  let number := asked.getD 0
  if number ≤ 0 then 1 else min number settings.quantityLimit

def insecureSecrets : List String :=
  ["", "change_me_in_production", "your_jwt_secret_change_in_production"]

def minSecretLength : Nat := 24

/-- Refuses a session secret that is a known default or short, and then a tolerance that is no
whole number or negative. -/
def validateSecurity (sessionSecret : String) (tolerance : Except IntegerFault Int) :
    Except Fault Unit := do
  let secret := Text.trim sessionSecret
  if secret ∈ insecureSecrets ∨ secret.length < minSecretLength then throw .insecureSecret
  if (← tolerance.mapError .integer) < 0 then throw .negativeTolerance

def validate (settings : Settings) : Except Fault Unit :=
  validateSecurity settings.sessionSecret (.ok settings.webhookToleranceSeconds)

end Settings

end OrderDesk
