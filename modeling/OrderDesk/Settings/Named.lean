import OrderDesk.Json.Value
import OrderDesk.Settings

/-! Settings under the names that a configuration gives them. -/

namespace OrderDesk.Settings

def networks (value : Json) : List String :=
  (value.membersIfPresent?.getD []).map (·.display)

def timeout (value : Json) : Option Binary64 :=
  if value.isPresent then value.double.toOption else some .zero

/-- Sets what a name stands for. Quotas and sessions are set up once for all desks, so their names
change nothing, like those that are not known. -/
def set (settings : Settings) (name : String) (value : Json) : Settings :=
  let number := value.integer.toOption.getD 0
  let word := value.text?.getD ""
  match name with
  | "DEFAULT_CURRENCY" => { settings with defaultCurrency := word }
  | "ORDER_MAX_QUANTITY" => { settings with orderMaxQuantity := number }
  | "ORDER_REQUEST_TIMEOUT_SECONDS" => { settings with requestTimeoutSeconds := timeout value }
  | "WEBHOOK_ALLOW_CIDRS" => { settings with webhookAllowedNetworks := networks value }
  | "WEBHOOK_SHARED_TOKEN" => { settings with webhookSharedToken := word }
  | "WEBHOOK_STRIPE_SIGNING_SECRET" => { settings with webhookSigningSecret := word }
  | "WEBHOOK_STRIPE_TOLERANCE_SECONDS" => { settings with webhookToleranceSeconds := number }
  | _ => settings

def setAll (settings : Settings) (values : Fields) : Settings :=
  values.foldl (fun settings (name, value) => settings.set name value) settings

end OrderDesk.Settings
