import OrderDesk.Time.Instant

/-!
The calendar counts right. Years that begin in March have their leap day at the end, so that a day
of an era is told by its century, its four years and its year in turn.
-/

namespace OrderDesk.Date

/-- The days of an era that come before a year of it; years begin in March. -/
def daysBefore (year : Int) : Int :=
  365 * year + year / 4 - year / 100

def ofMarch (year day : Int) : Date :=
  let marchMonth := (5 * day + 2) / 153
  let month := if marchMonth < 10 then marchMonth + 3 else marchMonth - 9
  ⟨if month ≤ 2 then year + 1 else year, month, day - (153 * marchMonth + 2) / 5 + 1⟩

/-- Where a day of an era lies: in one of four centuries, there in one of twenty-five spans of four
years, and there in one of four years. Only the last year of a span may have a leap day, and that of
a century has none, save in the last century. -/
structure Placed (day century span single rest : Int) : Prop where
  day_eq : day = 36524 * century + 1461 * span + 365 * single + rest
  inEra : 0 ≤ century ∧ century ≤ 3
  inCentury : 0 ≤ span ∧ span ≤ 24
  inSpan : 0 ≤ single ∧ single ≤ 3
  inYear : 0 ≤ rest ∧ rest ≤ 365
  leap : rest = 365 → single = 3 ∧ (span = 24 → century = 3)

theorem exists_placed {day : Int} (low : 0 ≤ day) (high : day < eraDays) :
    ∃ century span single rest, Placed day century span single rest := by
  rw [eraDays] at high
  obtain ⟨century, inEra⟩ : ∃ century, 0 ≤ century ∧ century ≤ 3 ∧ 36524 * century ≤ day ∧
      (day < 36524 * century + 36524 ∨ day = 36524 * century + 36524 ∧ century = 3) :=
    ⟨min 3 (day / 36524), by omega⟩
  obtain ⟨span, inCentury⟩ : ∃ span, 0 ≤ span ∧ span ≤ 24 ∧
      1461 * span ≤ day - 36524 * century ∧ day - 36524 * century < 1461 * span + 1461 :=
    ⟨min 24 ((day - 36524 * century) / 1461), by omega⟩
  obtain ⟨single, inSpan⟩ : ∃ single, 0 ≤ single ∧ single ≤ 3 ∧
      365 * single ≤ day - 36524 * century - 1461 * span ∧
      (day - 36524 * century - 1461 * span < 365 * single + 365 ∨
        day - 36524 * century - 1461 * span = 365 * single + 365 ∧ single = 3) :=
    ⟨min 3 ((day - 36524 * century - 1461 * span) / 365), by omega⟩
  exact ⟨century, span, single, day - 36524 * century - 1461 * span - 365 * single,
    { day_eq := by omega, inEra := by omega, inCentury := by omega, inSpan := by omega
      inYear := by omega, leap := by omega }⟩

namespace Placed

variable {day century span single rest : Int} (placed : Placed day century span single rest)

include placed

/-- The correction terms take away the leap days that have gone by. -/
theorem year_eq : (day - day / 1460 + day / 36524 - day / 146096) / 365 =
    100 * century + 4 * span + single := by
  obtain ⟨rfl, inEra, inCentury, inSpan, inYear, leap⟩ := placed
  generalize sum : 36524 * century + 1461 * span + 365 * single + rest = day
  have centuries : day / 36524 - day / 146096 = century := by
    obtain rfl | inside : day = 146096 ∨ day < 146096 := by omega
    · omega
    · have early : 36524 * century ≤ day ∧ day < 36524 * century + 36524 := by omega
      omega
  -- a leap day in each span of four years, but for those that centuries are without
  have spans : day / 1460 =
      25 * century + span + (24 * century + span + 365 * single + rest) / 1460 := by omega
  omega

theorem daysBefore_eq : daysBefore (100 * century + 4 * span + single) = day - rest := by
  obtain ⟨rfl, inEra, inCentury, inSpan, inYear, leap⟩ := placed
  rw [daysBefore]
  omega

end Placed

theorem exists_march (days : Int) :
    ∃ era year day, days + epochShift = era * eraDays + daysBefore year + day ∧
      (0 ≤ year ∧ year ≤ 399) ∧ (0 ≤ day ∧ day ≤ 365) ∧
      ofDays days = ofMarch (400 * era + year) day := by
  have low := Int.emod_nonneg (days + epochShift) (b := eraDays) (by decide)
  have high := Int.emod_lt_of_pos (days + epochShift) (b := eraDays) (by decide)
  have whole := Int.mul_ediv_add_emod (days + epochShift) eraDays
  rw [ofDays]
  generalize (days + epochShift) / eraDays = era at whole ⊢
  generalize (days + epochShift) % eraDays = day at low high whole ⊢
  obtain ⟨century, span, single, rest, placed⟩ := exists_placed low high
  have year_eq := placed.year_eq
  have daysBefore_eq := placed.daysBefore_eq
  obtain ⟨-, inEra, inCentury, inSpan, inYear, -⟩ := placed
  generalize year : 100 * century + 4 * span + single = marchYear at year_eq daysBefore_eq
  refine ⟨era, marchYear, rest, ?_, by omega, inYear, ?_⟩
  · rw [← whole, daysBefore_eq, Int.mul_comm]
    omega
  · have dayOfYear : day - daysBefore marchYear = rest := by omega
    rw [daysBefore] at dayOfYear
    rw [year_eq, dayOfYear, Int.add_comm marchYear]
    rfl

section

variable {era year day : Int}

theorem toDays_ofMarch (inEra : 0 ≤ year ∧ year ≤ 399) (inYear : 0 ≤ day ∧ day ≤ 365) :
    (ofMarch (400 * era + year) day).toDays =
      era * eraDays + daysBefore year + day - epochShift := by
  have months : 0 ≤ (5 * day + 2) / 153 ∧ (5 * day + 2) / 153 ≤ 11 := by omega
  have eras : (400 * era + year) / 400 = era ∧ (400 * era + year) % 400 = year := by omega
  rw [ofMarch, toDays, daysBefore]
  dsimp only
  generalize (5 * day + 2) / 153 = marchMonth at months ⊢
  by_cases early : marchMonth < 10
  · have late : ¬marchMonth + 3 ≤ 2 := by omega
    rw [if_pos early, if_neg late, if_neg late, if_pos (Int.not_le.mp late), eras.1, eras.2]
    omega
  · -- January and February belong to the year that began in March
    have late : marchMonth - 9 ≤ 2 := by omega
    rw [if_neg early, if_pos late, if_pos late, if_neg (Int.not_lt.mpr late),
      Int.add_sub_cancel, eras.1, eras.2]
    omega

theorem ofMarch_bounds (inYear : 0 ≤ day ∧ day ≤ 365) :
    (1 ≤ (ofMarch year day).month ∧ (ofMarch year day).month ≤ 12) ∧
      1 ≤ (ofMarch year day).day ∧ (ofMarch year day).day ≤ 31 := by
  have months : 0 ≤ (5 * day + 2) / 153 ∧ (5 * day + 2) / 153 ≤ 11 := by omega
  rw [ofMarch]
  dsimp only
  split <;> omega

theorem year_ofMarch (inYear : 0 ≤ day ∧ day ≤ 365) :
    (ofMarch year day).year = if day < 306 then year else year + 1 := by
  rw [ofMarch]
  dsimp only
  split <;> split <;> split <;> omega

end

theorem toDays_ofDays (days : Int) : (ofDays days).toDays = days := by
  obtain ⟨era, year, day, sum, inEra, inYear, date⟩ := exists_march days
  rw [date, toDays_ofMarch inEra inYear, ← sum]
  exact Int.add_sub_cancel ..

theorem ofDays_bounds (days : Int) :
    (1 ≤ (ofDays days).month ∧ (ofDays days).month ≤ 12) ∧
      1 ≤ (ofDays days).day ∧ (ofDays days).day ≤ 31 := by
  obtain ⟨era, year, day, -, -, inYear, date⟩ := exists_march days
  rw [date]
  exact ofMarch_bounds inYear

def firstDay : Int := -719162
def lastDay : Int := 2932896

theorem inCalendar_iff (days : Int) :
    firstYear ≤ (ofDays days).year ∧ (ofDays days).year ≤ lastYear ↔
      firstDay ≤ days ∧ days ≤ lastDay := by
  obtain ⟨era, year, day, sum, inEra, inYear, date⟩ := exists_march days
  rw [date, year_ofMarch inYear, firstYear, lastYear, firstDay, lastDay]
  rw [epochShift, eraDays, daysBefore] at sum
  split <;> omega

example : ofDays firstDay = ⟨1, 1, 1⟩ ∧ ofDays lastDay = ⟨9999, 12, 31⟩ := by decide

end OrderDesk.Date
