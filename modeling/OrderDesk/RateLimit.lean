import OrderDesk.Bytes.Basic
import OrderDesk.Digest
import OrderDesk.Text.Basic

/-! Quotas: how many requests of one client are let through in a window of time. -/

namespace OrderDesk.RateLimit

structure Counter (Time : Type) where
  key : String
  count : Nat
  resetAt : Time
  deriving DecidableEq, Repr

abbrev Counters (Time : Type) := List (Counter Time)

variable {Time : Type}

/-- The counter of a key after one more request: a window that has ended is replaced by one that
starts now. -/
def Counter.tick [Add Time] [LE Time] [DecidableRel (· ≤ · : Time → Time → Prop)]
    (window now : Time) (counter : Counter Time) : Counter Time :=
  if counter.resetAt ≤ now then { counter with count := 1, resetAt := now + window }
  else { counter with count := counter.count + 1 }

def Counter.start [Add Time] (window now : Time) (key : String) : Counter Time :=
  ⟨key, 0, now + window⟩

def count [Add Time] [LE Time] [DecidableRel (· ≤ · : Time → Time → Prop)]
    (window now : Time) (key : String) : Counters Time → Counter Time × Counters Time
  | [] =>
    let counter := (Counter.start window now key).tick window now
    (counter, [counter])
  | counter :: rest =>
    if counter.key = key then
      let counter := counter.tick window now
      (counter, counter :: rest)
    else
      let (found, rest) := count window now key rest
      (found, counter :: rest)

/-- Counts one request and says whether it is within the limit. -/
def consume [Add Time] [LE Time] [DecidableRel (· ≤ · : Time → Time → Prop)]
    (limit : Int) (window now : Time) (key : String) (counters : Counters Time) :
    Bool × Counters Time :=
  let (counter, counters) := count window now key counters
  (decide (counter.count ≤ limit), counters)

/-- The counts of a store that is shared with others; its windows end by themselves. -/
abbrev SharedCounts := List (String × Nat)

def countShared (key : String) : SharedCounts → Nat × SharedCounts
  | [] => (1, [(key, 1)])
  | (present, count) :: rest =>
    if present = key then (count + 1, (present, count + 1) :: rest)
    else
      let (found, rest) := countShared key rest
      (found, (present, count) :: rest)

/-- Who is counted as one client: the holder of a token, or else the address of the connection or
the first address that a proxy forwards. -/
def client (authorization : Option String) (connection forwarded : Option String) : String :=
  match authorization.filter (· ≠ "") with
  | some token =>
    "token:" ++ Text.truncate 16 (Bytes.hex (Sha256.digest (Bytes.ofText token)))
  | none =>
    match connection.filter (· ≠ "") with
    | some address => address
    | none =>
      match forwarded.filter (· ≠ "") with
      | some addresses =>
        String.ofList (Text.trimChars ((addresses.toList.splitOn ',').headD []))
      | none => "unknown"

def key (quota client : String) : String :=
  "znp:rate:" ++ quota ++ ":" ++ client

def refusalText (quota : String) : String :=
  "Rate limit exceeded for " ++ quota ++ ". Try again later."

end OrderDesk.RateLimit
