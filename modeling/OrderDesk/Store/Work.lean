import OrderDesk.Settings
import OrderDesk.Store.Basic

/-!
Work on the store. A failing piece of work yields no store at all, so nothing that it wrote before
failing can be seen afterwards.
-/

namespace OrderDesk

structure Context where
  settings : Settings := {}
  now : Instant
  /-- The clock as a wallet reads it, which comes to its movement later than the operation. -/
  walletNow : Instant := now
  /-- Whether the time allowed for a transaction is over at its first statement. -/
  deadlinePassed : Bool := false
  /-- Whether that time runs out at the last statement. Where it runs out in between, a transaction
  ends like one of the two; that it runs out while changes are being committed is left out. -/
  runsOut : Bool := false
  deriving DecidableEq, Repr

abbrev Work := ReaderT Context (StateT Store (Except Failure))

namespace Work

def refuse {α : Type} (refusal : Refusal) : Work α :=
  throw (.refused refusal)

def breakOff {α : Type} (fault : Fault) : Work α :=
  throw (.broken fault)

def now : Work Instant := do
  return (← read).now

def walletNow : Work Instant := do
  return (← read).walletNow

/-- The present time, or the time that a positive number of unix seconds stands for. -/
def timeOr (now : Instant) (seconds : Option Int) : Except Fault Instant :=
  match seconds with
  | some seconds => if 0 < seconds then Instant.ofUnix seconds else .ok now
  | none => .ok now

def lift {α : Type} (result : Except Refusal α) : Work α :=
  match result with
  | .ok value => pure value
  | .error refusal => refuse refusal

def liftFault {α : Type} (result : Except Fault α) : Work α :=
  match result with
  | .ok value => pure value
  | .error fault => breakOff fault

/-- What every statement requires: time left, the tables it reaches, and whole numbers that fit a
column. -/
def statement (tables : List Table) (numbers : List Int) : Work Unit := do
  if (← read).deadlinePassed then refuse .deadlinePassed
  let dropped := (← get).dropped
  if tables.any dropped.contains then breakOff .tableMissing
  if numbers.any fun number => !Store.fitsColumn number then breakOff .columnOverflow

end Work

end OrderDesk
