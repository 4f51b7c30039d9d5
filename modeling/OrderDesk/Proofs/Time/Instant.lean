import OrderDesk.Proofs.Time.Calendar
import OrderDesk.Time.Instant

/-!
Instants in the calendar. Their days are few enough that the time between any two of them is a span
of time, and that all numbers of seconds are short.
-/

namespace OrderDesk

def Date.manyDays : Int := 5000000

namespace Instant

variable {unix later : Int}

structure InCalendar (instant : Instant) : Prop where
  first : Date.firstYear ≤ instant.date.year
  last : instant.date.year ≤ Date.lastYear

def firstSecond : Int := -62135596800
def lastSecond : Int := 253402300799

theorem inCalendar_iff (instant : Instant) :
    instant.InCalendar ↔ Date.firstDay ≤ instant.micros / microsPerDay ∧
      instant.micros / microsPerDay ≤ Date.lastDay := by
  rw [← Date.inCalendar_iff]
  exact ⟨fun calendar => ⟨calendar.first, calendar.last⟩, fun ⟨first, last⟩ => ⟨first, last⟩⟩

theorem inCalendar_ofSeconds :
    (ofSeconds unix).InCalendar ↔ firstSecond ≤ unix ∧ unix ≤ lastSecond := by
  simp only [inCalendar_iff, ofSeconds, microsPerDay, secondsPerDay, microsPerSecond, Date.firstDay,
    Date.lastDay, firstSecond, lastSecond]
  omega

def manySeconds : Int := Date.manyDays * secondsPerDay

theorem InCalendar.seconds (calendar : InCalendar (ofSeconds unix)) :
    -manySeconds < unix ∧ unix < manySeconds := by
  have bounds := inCalendar_ofSeconds.mp calendar
  simp only [firstSecond, lastSecond, manySeconds, Date.manyDays, secondsPerDay] at bounds ⊢
  omega

theorem seconds_ofSeconds : (ofSeconds unix).micros / microsPerSecond = unix :=
  Int.mul_ediv_cancel unix (by decide)

theorem unixSeconds_ofSeconds : (ofSeconds unix).unixSeconds = unix := by
  exact (if_pos (Int.mul_emod_left unix microsPerSecond)).trans seconds_ofSeconds

theorem ofUnix_eq_ok {instant : Instant} :
    ofUnix unix = .ok instant ↔ (ofSeconds unix).InCalendar ∧ instant = ofSeconds unix := by
  rw [ofUnix]
  constructor
  · intro read
    split at read
    · cases read
    · dsimp only at read
      split at read
      · cases read
      · split at read
        · cases read
        · next inside =>
          obtain ⟨first, last⟩ := not_or.mp inside
          exact ⟨⟨Int.not_lt.mp first, Int.not_lt.mp last⟩, (Except.ok.inj read).symm⟩
  · rintro ⟨calendar, rfl⟩
    have bounds := calendar.seconds
    have first := calendar.first
    have last := calendar.last
    rw [manySeconds, Date.manyDays, secondsPerDay] at bounds
    have representable : isRepresentable (ofSeconds unix).date.year = true := by
      rw [Date.firstYear] at first
      rw [Date.lastYear] at last
      rw [isRepresentable, Bool.and_eq_true, decide_eq_true_eq, decide_eq_true_eq, shortLimit,
        epochYear]
      omega
    rw [if_neg (by rw [longLimit]; omega)]
    dsimp only
    rw [representable, if_neg (by decide), if_neg]
    exact not_or.mpr ⟨Int.not_lt.mpr first, Int.not_lt.mpr last⟩

theorem after_ofSeconds (here : InCalendar (ofSeconds unix))
    (there : InCalendar (ofSeconds (unix + later))) :
    (ofSeconds unix).after (later * microsPerSecond) = .ok (ofSeconds (unix + later)) := by
  have from_bounds := here.seconds
  have to_bounds := there.seconds
  have sum : (ofSeconds unix).addMicros (later * microsPerSecond) =
      ofSeconds (unix + later) :=
    congrArg mk (Int.add_mul unix later microsPerSecond).symm
  have days : -2 * Date.manyDays ≤ later * microsPerSecond / microsPerDay ∧
      later * microsPerSecond / microsPerDay ≤ 2 * Date.manyDays := by
    simp only [microsPerDay, secondsPerDay, microsPerSecond, Date.manyDays, manySeconds] at *
    omega
  rw [Date.manyDays] at days
  rw [after, sum, if_neg (by rw [shortLimit]; omega), if_neg (by rw [maxSpanDays]; omega), if_neg]
  exact not_or.mpr ⟨Int.not_lt.mpr there.first, Int.not_lt.mpr there.last⟩

end Instant

end OrderDesk
