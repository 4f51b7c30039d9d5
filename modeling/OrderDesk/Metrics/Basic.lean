import OrderDesk.Decimal.Binary64
import OrderDesk.Failure
import OrderDesk.Text.Case

/-!
What is counted about the work of the desk: every attempt at an activity with its result and
duration, and the amount of every attempted refund. All figures are derived from these samples.
-/

namespace OrderDesk

inductive Activity
  | create
  | cancel
  | payment
  | refund
  deriving DecidableEq, Repr

namespace Activity

def labelNames : Activity → List String
  | create => ["payment_method", "result"]
  | cancel => ["actor", "result"]
  | payment => ["payment_method", "actor", "result"]
  | refund => ["actor", "result"]

end Activity

structure Attempt where
  activity : Activity
  labels : List String
  seconds : Option Binary64
  deriving DecidableEq, Repr

structure RefundAmount where
  actor : String
  cents : Option Nat
  deriving DecidableEq, Repr

/-- All samples, in the order in which they were taken. -/
structure Metrics where
  attempts : List Attempt := []
  refundAmounts : List RefundAmount := []
  deriving DecidableEq, Repr

namespace Metrics

def unknownLabel : String := "unknown"

def label (word : Option String) : String :=
  Text.orElse (Text.keyword word) unknownLabel

/-- The words for a failure are folded into one. -/
def resultLabel (word : Option String) : String :=
  let word := label word
  if word = "failed" ∨ word = "failure" then "error" else word

/-- Counts an attempt in any case, and its duration if that is known. -/
def attempted (metrics : Metrics) (activity : Activity) (labels : List String)
    (seconds : Except Fault Binary64) : Except Fault Unit × Metrics :=
  (seconds.map fun _ => (),
    { metrics with attempts := metrics.attempts ++ [⟨activity, labels, seconds.toOption⟩] })

def observeCreate (method result : Option String) (seconds : Except Fault Binary64)
    (metrics : Metrics) : Except Fault Unit × Metrics :=
  metrics.attempted .create [label method, resultLabel result] seconds

def observeCancel (actor result : Option String) (seconds : Except Fault Binary64)
    (metrics : Metrics) : Except Fault Unit × Metrics :=
  metrics.attempted .cancel [label actor, resultLabel result] seconds

def observePayment (method actor result : Option String) (seconds : Except Fault Binary64)
    (metrics : Metrics) : Except Fault Unit × Metrics :=
  metrics.attempted .payment [label method, label actor, resultLabel result] seconds

def countable (amount : Except IntegerFault Int) : Except Fault Nat :=
  match amount with
  | .error fault => .error (.integer fault)
  | .ok cents => if Binary64.holdsInt cents then .ok cents.natAbs else .error .floatOverflow

/-- Once the duration is counted, the amount is too, if it can be. -/
def observeRefund (actor : Option String) (amount : Except IntegerFault Int)
    (result : Option String) (seconds : Except Fault Binary64) (metrics : Metrics) :
    Except Fault Unit × Metrics :=
  match metrics.attempted .refund [label actor, resultLabel result] seconds with
  | (.error fault, metrics) => (.error fault, metrics)
  | (.ok (), metrics) =>
    let cents := countable amount
    (cents.map fun _ => (),
      { metrics with
        refundAmounts := metrics.refundAmounts ++ [⟨label actor, cents.toOption⟩] })

end Metrics

end OrderDesk
