import OrderDesk.Gate.Basic
import OrderDesk.Gate.Cache
import OrderDesk.Metrics.Basic
import OrderDesk.Order.Basic
import OrderDesk.RateLimit
import OrderDesk.Store.Rows

/-!
The desk as a whole, and services that work on it. Only the store takes part in a transaction; the
order numbers, the metrics and the caches keep what has happened to them whatever comes after.
-/

namespace OrderDesk

structure Desk where
  store : Store := {}
  /-- The value of the order number given out last. -/
  lastNumber : Int := 0
  metrics : Metrics := {}
  gateCache : Cache GateSetting Binary64 := .empty
  quotas : RateLimit.Counters Binary64 := []
  sharedCounts : RateLimit.SharedCounts := []

abbrev Service := ReaderT Context (ExceptT Failure (StateM Desk))

namespace Failure

/-- What a failure inside a transaction becomes for the caller: the store's own faults turn into
refusals. -/
def atCommit : Failure → Failure
  | broken .uniqueKeyTaken => refused .uniquenessViolated
  | broken .tableMissing => refused .storeFailed
  | failure => failure

end Failure

namespace Service

def refuse {α : Type} (refusal : Refusal) : Service α :=
  throw (.refused refusal)

def breakOff {α : Type} (fault : Fault) : Service α :=
  throw (.broken fault)

def lift {α : Type} (result : Except Failure α) : Service α :=
  match result with
  | .ok value => return value
  | .error failure => throw failure

/-- How work ends whose time runs out at its last statement, which may be one that would have
violated uniqueness. Work that fails before has had the time for it. -/
def timed {α : Type} (runsOut : Bool) (outcome : Except Failure α) : Except Failure α :=
  match runsOut, outcome with
  | true, .ok _ => .error (.refused .deadlinePassed)
  | true, .error (.broken .uniqueKeyTaken) => .error (.refused .deadlinePassed)
  | _, outcome => outcome

/-- Runs work as a whole: the store is replaced if the work succeeds in time and stays untouched
otherwise. The time that it may take has to be known first. -/
def transaction {α : Type} (work : Work α) : Service α := do
  let _ ← lift (Failure.breaking (← read).settings.timeoutSeconds)
  match timed (← read).runsOut (work (← read) (← get).store) with
  | .ok (value, store) =>
    modify fun desk => { desk with store }
    return value
  | .error failure => throw failure.atCommit

/-- Reads from the store, outside any transaction and without a deadline. -/
def query {α : Type} (work : Work α) : Service α := do
  match work { ← read with deadlinePassed := false } (← get).store with
  | .ok (value, _) => return value
  | .error failure => throw failure

/-- Writes to the store outside any transaction: faults of the store stay what they are. -/
def write {α : Type} (work : Work α) : Service α := do
  match work { ← read with deadlinePassed := false } (← get).store with
  | .ok (value, store) =>
    modify fun desk => { desk with store }
    return value
  | .error failure => throw failure

/-- Takes a sample when a service ends, whichever way. A sample that cannot be taken is a failure
of its own. -/
def sampled {α : Type} (sample : Option α → Metrics → Except Fault Unit × Metrics)
    (service : Service α) : Service α := fun context => ExceptT.mk do
  let result ← (service context).run
  let (taken, metrics) := sample result.toOption (← get).metrics
  modify fun desk => { desk with metrics }
  match taken with
  | .ok () => return result
  | .error fault => return .error (.broken fault)

/-- The word for the end of a service, and the time it took: the clock stands still meanwhile. -/
def resultWord {α : Type} (result : Option α) : Option String :=
  some (if result.isSome then "success" else "error")

def elapsed : Except Fault Binary64 := .ok .zero

/-- The next order number, which is used up whatever becomes of the order. -/
def nextOrderNumber : Service String := do
  let value := OrderNumber.next (← get).lastNumber ((← read).now.micros * 1000)
  modify fun desk => { desk with lastNumber := value }
  return OrderNumber.text value

end Service

end OrderDesk
