import OrderDesk.Decimal.Shortest
import OrderDesk.Metrics.Basic

/-! The written form of the metrics: families of series, each with its labels and a value. -/

namespace OrderDesk

inductive MetricKind
  | counter
  | histogram
  deriving DecidableEq, Repr

namespace MetricKind

def text : MetricKind → String
  | counter => "counter"
  | histogram => "histogram"

end MetricKind

structure Sample where
  name : String
  labels : List (String × String)
  value : Binary64
  deriving DecidableEq, Repr

structure Family where
  name : String
  description : String
  kind : MetricKind
  samples : List Sample
  deriving Repr

namespace Metrics

def durationBounds : Activity → List Nat
  | .create => [5, 10, 25, 50, 100, 200, 500]
  | _ => [1, 5, 10, 25, 50, 100, 200]

def amountBounds : List Nat := [50, 100, 200, 500, 1000, 2000, 5000, 10000, 20000]

def hundredths (count : Nat) : Binary64 :=
  (Binary64.ofInt count).divNat 100

def bounds (counts : List Nat) : List (String × Binary64) :=
  counts.map (fun count => ((hundredths count).text, hundredths count)) ++
    [("+Inf", .infinite false)]

def countOf {α : Type} (values : List α) : Binary64 :=
  .ofInt values.length

/-- Values are added in the order of their observation, which decides how the sum is rounded. -/
def sumOf (values : List Binary64) : Binary64 :=
  values.foldl (· + ·) .zero

/-- The samples of one histogram: how many values reach no further than each bound, how many there
are, and their sum. -/
def histogram (name : String) (labels : List (String × String)) (bounds : List (String × Binary64))
    (values : List Binary64) : List Sample :=
  let within (bound : Binary64) := values.filter fun value => decide (value ≤ bound)
  let buckets := bounds.map fun (text, bound) =>
    Sample.mk (name ++ "_bucket") (labels ++ [("le", text)]) (countOf (within bound))
  let counted := values.filter fun value => decide (value ≤ .infinite false)
  buckets ++ [⟨name ++ "_count", labels, countOf counted⟩, ⟨name ++ "_sum", labels, sumOf values⟩]

def distinct {α : Type} [BEq α] (members : List α) : List α :=
  (members.foldl (fun found member => if found.contains member then found else member :: found)
    []).reverse

def series (metrics : Metrics) (activity : Activity) : List (List String × List Attempt) :=
  let attempts := metrics.attempts.filter (·.activity == activity)
  (distinct (attempts.map (·.labels))).map fun labels =>
    (labels, attempts.filter (·.labels == labels))

def amountSeries (metrics : Metrics) : List (String × List Binary64) :=
  (distinct (metrics.refundAmounts.map (·.actor))).map fun actor =>
    (actor, (metrics.refundAmounts.filter (·.actor == actor)).filterMap fun amount =>
      amount.cents.map hundredths)

def attemptFamily (metrics : Metrics) (activity : Activity) (name description : String) : Family :=
  ⟨name, description, .counter, (metrics.series activity).map fun (labels, attempts) =>
    ⟨name, activity.labelNames.zip labels, countOf attempts⟩⟩

def durationFamily (metrics : Metrics) (activity : Activity) (name description : String) : Family :=
  ⟨name, description, .histogram, (metrics.series activity).flatMap fun (labels, attempts) =>
    histogram name (activity.labelNames.zip labels) (bounds (durationBounds activity))
      (attempts.filterMap (·.seconds))⟩

def amountFamily (metrics : Metrics) (name description : String) : Family :=
  ⟨name, description, .histogram, metrics.amountSeries.flatMap fun (actor, values) =>
    histogram name [("actor", actor)] (bounds amountBounds) values⟩

def families (metrics : Metrics) : List Family := [
  metrics.attemptFamily .create "znp_order_create_requests_total"
    "Total number of user order creation attempts.",
  metrics.durationFamily .create "znp_order_create_duration_seconds"
    "Duration of user order creation flow in seconds.",
  metrics.attemptFamily .cancel "znp_order_cancel_requests_total"
    "Total number of order cancellation attempts.",
  metrics.durationFamily .cancel "znp_order_cancel_duration_seconds"
    "Duration of order cancellation operations in seconds.",
  metrics.attemptFamily .payment "znp_order_payment_requests_total"
    "Total number of order payment confirmations.",
  metrics.durationFamily .payment "znp_order_payment_duration_seconds"
    "Duration of order payment confirmations in seconds.",
  metrics.attemptFamily .refund "znp_order_refund_requests_total"
    "Total number of order refund attempts.",
  metrics.durationFamily .refund "znp_order_refund_duration_seconds"
    "Duration of order refund operations in seconds.",
  metrics.amountFamily "znp_order_refund_amount"
    "Distribution of refunded amount per operation (in currency units)."]

def samples (metrics : Metrics) : List Sample :=
  metrics.families.flatMap (·.samples)

def sortLabels (labels : List (String × String)) : List (String × String) :=
  labels.mergeSort fun first second => decide (first.1 ≤ second.1)

def value (metrics : Metrics) (name : String) (labels : List (String × String)) : Binary64 :=
  match metrics.samples.find? fun sample =>
      sample.name == name && sortLabels sample.labels == sortLabels labels with
  | some sample => sample.value
  | none => .zero

/-- Seven digits and more before the point are written with an exponent. -/
def valueText (value : Binary64) : String :=
  match value with
  | .nan => "NaN"
  | .infinite negative => if negative then "-Inf" else "+Inf"
  | value =>
    let digits := value.text.toList
    let whole := digits.takeWhile (· != '.')
    if Binary64.zero < value ∧ 6 < whole.length ∧ whole.length < digits.length then
      let places := whole.drop 1 ++ (digits.drop (whole.length + 1))
      let mantissa := (whole.take 1 ++ '.' :: places).reverse.dropWhile
        fun digit => digit == '0' || digit == '.'
      String.ofList mantissa.reverse ++ "e+0" ++ toString (whole.length - 1)
    else value.text

def labelText (text : String) : String :=
  String.ofList <| text.toList.flatMap fun character =>
    if character = '\\' then ['\\', '\\']
    else if character = '\n' then ['\\', 'n']
    else if character = '"' then ['\\', '"']
    else [character]

end Metrics

namespace Sample

def line (sample : Sample) : String :=
  let labels := (Metrics.sortLabels sample.labels).map fun (name, value) =>
    name ++ "=\"" ++ Metrics.labelText value ++ "\""
  let braced := if labels.isEmpty then ""
    else "\x7b" ++ String.intercalate "," labels ++ "\x7d"
  sample.name ++ braced ++ " " ++ Metrics.valueText sample.value

end Sample

namespace Family

def lines (family : Family) : List String :=
  ["# HELP " ++ family.name ++ " " ++ family.description,
    "# TYPE " ++ family.name ++ " " ++ family.kind.text] ++ family.samples.map (·.line)

end Family

namespace Metrics

def exposition (metrics : Metrics) : String :=
  String.join (metrics.families.flatMap fun family => family.lines.map (· ++ "\n"))

def sortedLines (metrics : Metrics) : List String :=
  (metrics.samples.map (·.line)).mergeSort fun first second => decide (first ≤ second)

end Metrics

end OrderDesk
