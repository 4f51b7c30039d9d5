import OrderDesk.Decimal.Binary64
import OrderDesk.Failure

/-! Points in time, exact to the microsecond, and their written forms. -/

namespace OrderDesk

/-! ## The calendar -/

structure Date where
  year : Int
  month : Int
  day : Int
  deriving DecidableEq, Repr

namespace Date

def eraDays : Int := 146097

/-- Days from 0000-03-01 to 1970-01-01. Years counted from March end with the leap day. -/
def epochShift : Int := 719468

/-- The date of a day. Within an era the correction terms undo the leap days of each fourth year,
each century and the era itself. -/
def ofDays (days : Int) : Date :=
  let shifted := days + epochShift
  let era := shifted / eraDays
  let dayOfEra := shifted % eraDays
  let yearOfEra :=
    (dayOfEra - dayOfEra / 1460 + dayOfEra / 36524 - dayOfEra / 146096) / 365
  let dayOfYear := dayOfEra - (365 * yearOfEra + yearOfEra / 4 - yearOfEra / 100)
  let marchMonth := (5 * dayOfYear + 2) / 153
  let day := dayOfYear - (153 * marchMonth + 2) / 5 + 1
  let month := if marchMonth < 10 then marchMonth + 3 else marchMonth - 9
  let year := yearOfEra + 400 * era
  ⟨if month ≤ 2 then year + 1 else year, month, day⟩

def toDays (date : Date) : Int :=
  let year := if date.month ≤ 2 then date.year - 1 else date.year
  let era := year / 400
  let yearOfEra := year % 400
  let marchMonth := if 2 < date.month then date.month - 3 else date.month + 9
  let dayOfYear := (153 * marchMonth + 2) / 5 + date.day - 1
  let dayOfEra := yearOfEra * 365 + yearOfEra / 4 - yearOfEra / 100 + dayOfYear
  era * eraDays + dayOfEra - epochShift

def firstYear : Int := 1
def lastYear : Int := 9999

end Date

/-! ## Instants -/

structure Instant where
  micros : Int
  deriving DecidableEq, Repr

namespace Instant

def microsPerSecond : Int := 1000000
def secondsPerDay : Int := 86400
def microsPerDay : Int := secondsPerDay * microsPerSecond

def ofSeconds (seconds : Int) : Instant :=
  ⟨seconds * microsPerSecond⟩

def addMicros (instant : Instant) (micros : Int) : Instant :=
  ⟨instant.micros + micros⟩

def date (instant : Instant) : Date :=
  Date.ofDays (instant.micros / microsPerDay)

def epochYear : Int := 1900

def shortLimit : Int := 0x80000000

def longLimit : Int := 0x8000000000000000

def isRepresentable (year : Int) : Bool :=
  -shortLimit ≤ year - epochYear && year - epochYear < shortLimit

/-- The instant of a whole number of unix seconds, if its year can be represented. A year outside
the calendar is reported modulo 32 bits. -/
def ofUnix (seconds : Int) : Except Fault Instant :=
  if seconds < -longLimit ∨ longLimit ≤ seconds then .error .secondsOutOfRange
  else
    let year := (ofSeconds seconds).date.year
    if !isRepresentable year then .error .yearUnrepresentable
    else if year < Date.firstYear ∨ Date.lastYear < year then
      .error (.yearOutOfRange (year.bmod 0x100000000))
    else .ok (ofSeconds seconds)

def maxSpanDays : Nat := 999999999

/-- The instant some microseconds later, if these are a span of time and it still lies in the
calendar. -/
def after (instant : Instant) (micros : Int) : Except Fault Instant :=
  let days := micros / microsPerDay
  let later := instant.addMicros micros
  if days < -shortLimit ∨ shortLimit ≤ days then .error .daysUnrepresentable
  else if maxSpanDays < days.natAbs then .error (.daysOutOfRange days)
  else if later.date.year < Date.firstYear ∨ Date.lastYear < later.date.year then
    .error .dateOutOfRange
  else .ok later

def seconds (instant : Instant) : Binary64 :=
  Binary64.ofQuotient instant.micros 1000000

/-- Unix seconds, rounded toward zero. A fraction is first rounded to the nearest double, which
matters only at the far ends of the calendar. -/
def unixSeconds (instant : Instant) : Int :=
  if instant.micros % microsPerSecond = 0 then instant.micros / microsPerSecond
  else (instant.seconds.truncate?).getD 0

def padded (width : Nat) (number : Int) : String :=
  let digits := Nat.toDigits 10 number.toNat
  String.ofList (List.replicate (width - digits.length) '0' ++ digits)

def dateText (instant : Instant) : String :=
  let date := instant.date
  padded 4 date.year ++ "-" ++ padded 2 date.month ++ "-" ++ padded 2 date.day

def clockText (instant : Instant) : String :=
  let seconds := instant.micros % microsPerDay / microsPerSecond
  padded 2 (seconds / 3600) ++ ":" ++ padded 2 (seconds / 60 % 60) ++ ":" ++
    padded 2 (seconds % 60)

def fraction (instant : Instant) : Int :=
  instant.micros % microsPerSecond

def localText (instant : Instant) : String :=
  let fraction := if instant.fraction = 0 then "" else "." ++ padded 6 instant.fraction
  instant.dateText ++ "T" ++ instant.clockText ++ fraction

def isoText (instant : Instant) : String :=
  instant.localText ++ "+00:00"

/-- The form kept in a table: universal time, always with six digits of fraction. -/
def storedText (instant : Instant) : String :=
  instant.dateText ++ " " ++ instant.clockText ++ "." ++ padded 6 instant.fraction

end Instant

/-- A written date and time: the clock reading, and how far its clock is ahead of universal time,
if the text says so. -/
structure ZonedTime where
  reading : Instant
  offsetMicros : Option Int
  deriving DecidableEq, Repr

namespace ZonedTime

def number? (width : Nat) (text : List Char) : Option (Int × List Char) :=
  let digits := text.take width
  if digits.length = width ∧ digits.all Char.isDigit then
    some (digits.foldl (fun number digit => 10 * number + (digit.toNat - '0'.toNat)) 0,
      text.drop width)
  else none

def expect? (character : Char) : List Char → Option (List Char)
  | first :: rest => if first = character then some rest else none
  | [] => none

def clock? (text : List Char) : Option (Int × List Char) := do
  let (hours, rest) ← number? 2 text
  match (expect? ':' rest).bind (number? 2) with
  | none => return (3600 * hours, rest)
  | some (minutes, rest) =>
    match (expect? ':' rest).bind (number? 2) with
    | none => return (3600 * hours + 60 * minutes, rest)
    | some (seconds, rest) => return (3600 * hours + 60 * minutes + seconds, rest)

def fraction (text : List Char) : Int × List Char :=
  match text with
  | mark :: rest =>
    if mark = '.' ∨ mark = ',' then
      let digits := rest.takeWhile Char.isDigit
      let six := digits.take 6 ++ List.replicate (6 - digits.length) '0'
      (six.foldl (fun number digit => 10 * number + (digit.toNat - '0'.toNat)) 0,
        rest.drop digits.length)
    else (0, text)
  | [] => (0, text)

def clockMicros? (text : List Char) : Option (Int × List Char) := do
  let (seconds, rest) ← clock? text
  let (micros, rest) := fraction rest
  return (seconds * Instant.microsPerSecond + micros, rest)

def offset? : List Char → Option (Option Int)
  | [] => some none
  | ['Z'] => some (some 0)
  | '+' :: text => do
    let (micros, rest) ← clockMicros? text
    if rest.isEmpty then return some micros else none
  | '-' :: text => do
    let (micros, rest) ← clockMicros? text
    if rest.isEmpty then return some (-micros) else none
  | _ => none

def parse? (text : String) : Option ZonedTime := do
  let (year, rest) ← number? 4 text.toList
  let (month, rest) ← number? 2 (← expect? '-' rest)
  let (day, rest) ← number? 2 (← expect? '-' rest)
  let midnight := (Date.mk year month day).toDays * Instant.microsPerDay
  match rest with
  | [] => return ⟨⟨midnight⟩, none⟩
  | _ :: clock =>
    let (micros, rest) ← clockMicros? clock
    return ⟨⟨midnight + micros⟩, ← offset? rest⟩

/-- The instant meant; a reading without an offset is in universal time. -/
def instant (time : ZonedTime) : Instant :=
  time.reading.addMicros (-time.offsetMicros.getD 0)

def utc (time : ZonedTime) : Except Fault Instant :=
  let year := time.instant.date.year
  if year < Date.firstYear ∨ Date.lastYear < year then .error .dateOutOfRange
  else .ok time.instant

def offsetText (micros : Int) : String :=
  let size : Int := micros.natAbs
  let seconds := size / Instant.microsPerSecond
  let fraction := size % Instant.microsPerSecond
  (if micros < 0 then "-" else "+") ++ Instant.padded 2 (seconds / 3600) ++ ":" ++
    Instant.padded 2 (seconds / 60 % 60) ++
    (if seconds % 60 = 0 ∧ fraction = 0 then "" else ":" ++ Instant.padded 2 (seconds % 60)) ++
    (if fraction = 0 then "" else "." ++ Instant.padded 6 fraction)

def isoText (time : ZonedTime) : String :=
  time.reading.localText ++ (time.offsetMicros.map offsetText).getD ""

end ZonedTime

end OrderDesk
