import OrderDesk.Desk.Service

/-! Reading and changing the security setting, and the gate that goes by it. -/

namespace OrderDesk.Security

/-- The setting, made with its initial values when there is none. -/
def openSetting : Work SecuritySetting := do
  match ← Work.securitySetting? with
  | some setting => return setting
  | none =>
    Work.insertSecuritySetting (.initial (← Work.now))

def patchSetting (patch : SecurityPatch) : Work SecuritySetting := do
  let setting ← openSetting
  let setting := setting.patched patch (← Work.now)
  Work.saveSecuritySetting setting
  return setting

def setting : Service SecuritySetting :=
  Service.transaction openSetting

/-- A change is seen by the next call at the gate. -/
def update (patch : SecurityPatch) : Service SecuritySetting := do
  let setting ← Service.transaction (patchSetting patch)
  modify fun desk => { desk with gateCache := .empty }
  return setting

def lifetime (seconds : Binary64) : Binary64 :=
  if seconds < .zero then .zero else seconds

def loadGateSetting : Work GateSetting := do
  return .ofRow (← Work.securitySetting?)

def gateSetting : Service GateSetting := do
  let context ← read
  let (setting, cache) ← (← get).gateCache.get (lifetime context.settings.gateCacheSeconds)
    context.now.seconds (Service.query loadGateSetting)
  modify fun desk => { desk with gateCache := cache }
  return setting

def passGate (suite : CipherSuite) (call : GateCall) : Service Bytes := do
  let setting ← gateSetting
  Service.lift (Gate.verify suite setting (← read).now call)

end OrderDesk.Security
