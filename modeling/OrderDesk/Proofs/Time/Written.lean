import Mathlib.Algebra.Group.Nat.Defs
import OrderDesk.Proofs.Time.Instant

/-!
Times that are written and read again. What is kept in a table is read as the instant that it was,
and a text with an offset as the instant that it means.
-/

namespace OrderDesk

/-! ## Digits -/

section

variable {width : Nat} {number : Int}

theorem Instant.toList_padded : (Instant.padded width number).toList =
    List.replicate (width - (Nat.toDigits 10 number.toNat).length) '0' ++
      Nat.toDigits 10 number.toNat :=
  String.toList_ofList

theorem Instant.length_padded (positive : 0 < width) (high : number.toNat < 10 ^ width) :
    (Instant.padded width number).toList.length = width := by
  have short := (Nat.length_toDigits_le_iff (by decide) positive).mpr high
  rw [toList_padded, List.length_append, List.length_replicate]
  omega

theorem Instant.isDigit_of_mem_padded {character : Char}
    (member : character ∈ (Instant.padded width number).toList) : character.isDigit = true := by
  rw [toList_padded, List.mem_append] at member
  rcases member with zero | digit
  · rw [List.eq_of_mem_replicate zero]
    rfl
  · exact Nat.isDigit_of_mem_toDigits (by decide) (by decide) digit

namespace ZonedTime

def joined (start : Int) (digits : List Char) : Int :=
  digits.foldl (fun number digit => 10 * number + (digit.toNat - '0'.toNat)) start

theorem joined_natCast {digits : List Char} (plain : ∀ digit ∈ digits, digit.isDigit = true)
    (start : Nat) : joined start digits = Nat.ofDigitChars 10 digits start := by
  induction digits generalizing start with
  | nil => rfl
  | cons first rest induction =>
    have digit : '0'.toNat ≤ first.toNat :=
      (Char.isDigit_iff_toNat.mp (plain first List.mem_cons_self)).1
    have rest_plain : ∀ digit ∈ rest, digit.isDigit = true := fun digit member =>
      plain digit (List.mem_cons_of_mem first member)
    rw [Nat.ofDigitChars_cons, ← induction rest_plain, Int.natCast_add, Int.natCast_mul,
      Int.ofNat_sub digit]
    rfl

theorem joined_padded (low : 0 ≤ number) :
    joined 0 (Instant.padded width number).toList = number := by
  rw [← Int.natCast_zero, joined_natCast (fun _ => Instant.isDigit_of_mem_padded),
    Instant.toList_padded, Nat.ofDigitChars_append, Nat.ofDigitChars_replicate_zero, Nat.mul_zero,
    Nat.ofDigitChars_ten_toDigits, Int.toNat_of_nonneg low]

theorem number?_padded (positive : 0 < width) (low : 0 ≤ number) (high : number.toNat < 10 ^ width)
    (rest : List Char) :
    number? width ((Instant.padded width number).toList ++ rest) = some (number, rest) := by
  have length := Instant.length_padded positive high
  have plain : (Instant.padded width number).toList.all Char.isDigit = true :=
    List.all_eq_true.mpr fun _ => Instant.isDigit_of_mem_padded
  rw [number?, List.take_left' length, List.drop_left' length]
  refine (if_pos ⟨length, plain⟩).trans (congrArg some (Prod.ext ?_ rfl))
  exact joined_padded low

end ZonedTime

end

/-! ## Clocks -/

namespace ZonedTime

variable {seconds micros : Int} {rest : List Char}

theorem number?_two (number : Int) (low : 0 ≤ number) (high : number < 100) (rest : List Char) :
    number? 2 ((Instant.padded 2 number).toList ++ rest) = some (number, rest) :=
  number?_padded (by decide) low (by omega) rest

def hoursAndMinutes (seconds : Int) : List Char :=
  (Instant.padded 2 (seconds / 3600)).toList ++ ':' :: (Instant.padded 2 (seconds / 60 % 60)).toList

def andSeconds (seconds : Int) (rest : List Char) : List Char :=
  ':' :: ((Instant.padded 2 (seconds % 60)).toList ++ rest)

def andMicros (micros : Int) (rest : List Char) : List Char :=
  '.' :: ((Instant.padded 6 micros).toList ++ rest)

/-- What follows is no fraction, and adds no digit to one. -/
def EndsClock (rest : List Char) : Prop :=
  ∀ first ∈ rest.head?, first.isDigit = false ∧ first ≠ '.' ∧ first ≠ ','

theorem fraction_of_ends (ends : EndsClock rest) : fraction rest = (0, rest) := by
  cases rest with
  | nil => rfl
  | cons first rest =>
    obtain ⟨-, point, comma⟩ := ends first rfl
    exact if_neg (not_or.mpr ⟨point, comma⟩)

theorem fraction_andMicros (low : 0 ≤ micros) (high : micros < Instant.microsPerSecond)
    (ends : EndsClock rest) : fraction (andMicros micros rest) = (micros, rest) := by
  rw [Instant.microsPerSecond] at high
  have length : (Instant.padded 6 micros).toList.length = 6 :=
    Instant.length_padded (by decide) (by omega)
  have run : ((Instant.padded 6 micros).toList ++ rest).takeWhile Char.isDigit =
      (Instant.padded 6 micros).toList := by
    rw [List.takeWhile_append_of_pos fun _ => Instant.isDigit_of_mem_padded]
    cases rest with
    | nil => exact List.append_nil _
    | cons first rest =>
      rw [List.takeWhile_cons_of_neg (by simp [(ends first rfl).1]), List.append_nil]
  rw [andMicros, fraction, if_pos (.inl rfl)]
  dsimp only
  rw [run, List.drop_left' rfl, length, List.take_of_length_le (Nat.le_of_eq length)]
  exact congrArg (·, rest) ((congrArg (joined 0) (List.append_nil _)).trans (joined_padded low))

section

variable (low : 0 ≤ seconds) (high : seconds < Instant.secondsPerDay)

include low high

theorem clock?_minutes (whole : seconds % 60 = 0) :
    clock? (hoursAndMinutes seconds) = some (seconds, []) := by
  rw [Instant.secondsPerDay] at high
  have minutes := number?_two (seconds / 60 % 60) (by omega) (by omega) []
  rw [List.append_nil] at minutes
  rw [clock?, hoursAndMinutes, number?_two _ (by omega) (by omega)]
  simp [expect?, minutes]
  omega

theorem clock?_seconds (rest : List Char) :
    clock? (hoursAndMinutes seconds ++ andSeconds seconds rest) = some (seconds, rest) := by
  rw [Instant.secondsPerDay] at high
  rw [clock?, hoursAndMinutes, List.append_assoc, number?_two _ (by omega) (by omega)]
  simp [expect?, andSeconds, number?_two (seconds / 60 % 60) (by omega) (by omega),
    number?_two (seconds % 60) (by omega) (by omega)]
  omega

theorem clockMicros?_minutes (whole : seconds % 60 = 0) :
    clockMicros? (hoursAndMinutes seconds) =
      some (seconds * Instant.microsPerSecond, []) := by
  rw [clockMicros?, clock?_minutes low high whole]
  exact congrArg (fun micros => some (micros, [])) (Int.add_zero _)

theorem clockMicros?_seconds (ends : EndsClock rest) :
    clockMicros? (hoursAndMinutes seconds ++ andSeconds seconds rest) =
      some (seconds * Instant.microsPerSecond, rest) := by
  rw [clockMicros?, clock?_seconds low high, Option.bind_eq_bind, Option.bind_some]
  dsimp only
  rw [fraction_of_ends ends]
  exact congrArg (fun micros => some (micros, rest)) (Int.add_zero _)

theorem clockMicros?_micros (positive : 0 ≤ micros) (part : micros < Instant.microsPerSecond)
    (ends : EndsClock rest) :
    clockMicros? (hoursAndMinutes seconds ++ andSeconds seconds (andMicros micros rest)) =
      some (seconds * Instant.microsPerSecond + micros, rest) := by
  rw [clockMicros?, clock?_seconds low high, Option.bind_eq_bind, Option.bind_some]
  dsimp only
  rw [fraction_andMicros positive part ends]
  rfl

end

/-! ## Offsets -/

theorem offset?_plus {text : List Char} (reads : clockMicros? text = some (micros, [])) :
    offset? ('+' :: text) = some (some micros) := by
  simp [offset?, reads]

theorem offset?_minus {text : List Char} (reads : clockMicros? text = some (micros, [])) :
    offset? ('-' :: text) = some (some (-micros)) := by
  simp [offset?, reads]

def shortest (seconds micros : Int) : List Char :=
  hoursAndMinutes seconds ++
    if seconds % 60 = 0 ∧ micros = 0 then []
    else andSeconds seconds (if micros = 0 then [] else andMicros micros [])

theorem clockMicros?_shortest (low : 0 ≤ seconds) (high : seconds < Instant.secondsPerDay)
    (positive : 0 ≤ micros) (part : micros < Instant.microsPerSecond) :
    clockMicros? (shortest seconds micros) =
      some (seconds * Instant.microsPerSecond + micros, []) := by
  have nothing : EndsClock [] := nofun
  rw [shortest]
  split
  · next none =>
    rw [List.append_nil, none.2, Int.add_zero]
    exact clockMicros?_minutes low high none.1
  · split
    · next whole =>
      rw [whole, Int.add_zero]
      exact clockMicros?_seconds low high nothing
    · exact clockMicros?_micros low high positive part nothing

theorem toList_offsetText : (offsetText micros).toList =
    (if micros < 0 then '-' else '+') ::
      shortest ((micros.natAbs : Int) / Instant.microsPerSecond)
        ((micros.natAbs : Int) % Instant.microsPerSecond) := by
  rw [offsetText, shortest, hoursAndMinutes, andSeconds, andMicros]
  generalize (micros.natAbs : Int) / Instant.microsPerSecond = seconds
  generalize (micros.natAbs : Int) % Instant.microsPerSecond = fraction
  by_cases negative : micros < 0 <;> by_cases whole : seconds % 60 = 0 <;>
    by_cases none : fraction = 0 <;> simp [negative, whole, none]

theorem offset?_offsetText (inDay : (micros.natAbs : Int) < Instant.microsPerDay) :
    offset? (offsetText micros).toList = some (some micros) := by
  have reads := clockMicros?_shortest
    (Int.ediv_nonneg (Int.natCast_nonneg micros.natAbs) (by decide))
    (Int.ediv_lt_of_lt_mul (by decide) inDay)
    (Int.emod_nonneg (micros.natAbs : Int) (b := Instant.microsPerSecond) (by decide))
    (Int.emod_lt_of_pos (micros.natAbs : Int) (b := Instant.microsPerSecond) (by decide))
  rw [Int.ediv_mul_add_emod] at reads
  rw [toList_offsetText]
  split
  · next negative =>
    rw [offset?_minus reads, Int.ofNat_natAbs_of_nonpos (Int.le_of_lt negative), Int.neg_neg]
  · next positive =>
    rw [offset?_plus reads, Int.natAbs_of_nonneg (Int.not_lt.mp positive)]

end ZonedTime

/-! ## Whole texts -/

namespace ZonedTime

variable {instant : Instant} {rest : List Char} {offset : Option Int}

theorem toList_dateText : instant.dateText.toList =
    (Instant.padded 4 instant.date.year).toList ++
      '-' :: ((Instant.padded 2 instant.date.month).toList ++
        '-' :: (Instant.padded 2 instant.date.day).toList) := by
  simp [Instant.dateText]

theorem parse?_dateText (calendar : instant.InCalendar) {text : String} {separator : Char}
    {clock : List Char} {micros : Int}
    (written : text.toList = instant.dateText.toList ++ separator :: clock)
    (reads : clockMicros? clock = some (micros, rest)) (zoned : offset? rest = some offset) :
    parse? text = some
      ⟨⟨instant.micros / Instant.microsPerDay * Instant.microsPerDay + micros⟩, offset⟩ := by
  obtain ⟨month, day⟩ : (1 ≤ instant.date.month ∧ instant.date.month ≤ 12) ∧
      1 ≤ instant.date.day ∧ instant.date.day ≤ 31 :=
    Date.ofDays_bounds (instant.micros / Instant.microsPerDay)
  have midnight : instant.date.toDays = instant.micros / Instant.microsPerDay :=
    Date.toDays_ofDays (instant.micros / Instant.microsPerDay)
  have first := calendar.first
  have last := calendar.last
  rw [Date.firstYear] at first
  rw [Date.lastYear] at last
  have year (rest : List Char) :
      number? 4 ((Instant.padded 4 instant.date.year).toList ++ rest) =
        some (instant.date.year, rest) :=
    number?_padded (by decide) (by omega) (by omega) rest
  rw [parse?, written, toList_dateText, List.append_assoc, year]
  simp [expect?, number?_two instant.date.month (by omega) (by omega),
    number?_two instant.date.day (by omega) (by omega), reads, zoned, midnight]

theorem parse?_clockText (calendar : instant.InCalendar) {text : String} {separator : Char}
    {clock : List Char}
    (written : text.toList =
      instant.dateText.toList ++ separator :: (instant.clockText.toList ++ clock))
    (fractional : clock = andMicros instant.fraction rest ∨ instant.fraction = 0 ∧ clock = rest)
    (ends : EndsClock rest) (zoned : offset? rest = some offset) :
    parse? text = some ⟨instant, offset⟩ := by
  have low : 0 ≤ instant.micros % Instant.microsPerDay / Instant.microsPerSecond :=
    Int.ediv_nonneg (Int.emod_nonneg _ (by decide)) (by decide)
  have high : instant.micros % Instant.microsPerDay / Instant.microsPerSecond <
      Instant.secondsPerDay :=
    Int.ediv_lt_of_lt_mul (by decide) (Int.emod_lt_of_pos _ (by decide))
  have positive : 0 ≤ instant.fraction := Int.emod_nonneg _ (by decide)
  have part : instant.fraction < Instant.microsPerSecond := Int.emod_lt_of_pos _ (by decide)
  have whole : instant.micros / Instant.microsPerDay * Instant.microsPerDay +
      (instant.micros % Instant.microsPerDay / Instant.microsPerSecond * Instant.microsPerSecond +
        instant.fraction) = instant.micros := by
    rw [Instant.fraction, Instant.microsPerDay, Instant.secondsPerDay, Instant.microsPerSecond]
    omega
  have shown : instant.clockText.toList ++ clock =
      hoursAndMinutes (instant.micros % Instant.microsPerDay / Instant.microsPerSecond) ++
        andSeconds (instant.micros % Instant.microsPerDay / Instant.microsPerSecond) clock := by
    simp [Instant.clockText, hoursAndMinutes, andSeconds]
  rw [shown] at written
  rcases fractional with rfl | ⟨none, rfl⟩
  · rw [parse?_dateText calendar written (clockMicros?_micros low high positive part ends) zoned,
      whole]
  · rw [none, Int.add_zero] at whole
    rw [parse?_dateText calendar written (clockMicros?_seconds low high ends) zoned, whole]

theorem parse?_storedText (calendar : instant.InCalendar) :
    parse? instant.storedText = some ⟨instant, none⟩ := by
  have written : instant.storedText.toList =
      instant.dateText.toList ++ ' ' :: (instant.clockText.toList ++
        andMicros instant.fraction []) := by
    simp [Instant.storedText, andMicros]
  exact parse?_clockText calendar written (.inl rfl) nofun rfl

theorem endsClock_offsetText {micros : Int} : EndsClock (offsetText micros).toList := by
  rw [toList_offsetText]
  split
  · rintro _ ⟨⟩
    decide
  · rintro _ ⟨⟩
    decide

/-- A written time is read as it is, whichever its offset. -/
theorem parse?_isoText {time : ZonedTime} (calendar : time.reading.InCalendar)
    (inDay : ∀ offset ∈ time.offsetMicros, (offset.natAbs : Int) < Instant.microsPerDay) :
    parse? time.isoText = some time := by
  obtain ⟨reading, offset⟩ := time
  have written : (isoText ⟨reading, offset⟩).toList =
      reading.dateText.toList ++ 'T' :: (reading.clockText.toList ++
        ((if reading.fraction = 0 then "" else "." ++ Instant.padded 6 reading.fraction).toList ++
          ((offset.map offsetText).getD "").toList)) := by
    simp [isoText, Instant.localText]
  have zoned : EndsClock ((offset.map offsetText).getD "").toList ∧
      offset? ((offset.map offsetText).getD "").toList = some offset := by
    cases offset with
    | none => exact ⟨nofun, rfl⟩
    | some offset => exact ⟨endsClock_offsetText, offset?_offsetText (inDay offset rfl)⟩
  refine parse?_clockText calendar written ?_ zoned.1 zoned.2
  split
  · next none => exact .inr ⟨none, rfl⟩
  · exact .inl (by simp [andMicros])

/-! ## Universal time -/

theorem utc_eq_ok {time : ZonedTime} :
    time.utc = .ok instant ↔ instant.InCalendar ∧ time.instant = instant := by
  rw [utc]
  split
  · next outside =>
    refine ⟨nofun, ?_⟩
    rintro ⟨calendar, rfl⟩
    exact absurd outside
      (not_or.mpr ⟨Int.not_lt.mpr calendar.first, Int.not_lt.mpr calendar.last⟩)
  · next inside =>
    obtain ⟨first, last⟩ := not_or.mp inside
    constructor
    · rintro ⟨⟩
      exact ⟨⟨Int.not_lt.mp first, Int.not_lt.mp last⟩, rfl⟩
    · rintro ⟨-, rfl⟩
      rfl

theorem instant_of_universal (offset : Option Int) (universal : offset.getD 0 = 0) :
    (ZonedTime.mk instant offset).instant = instant := by
  rw [ZonedTime.instant, universal]
  exact congrArg Instant.mk (Int.add_zero _)

theorem instant_ahead (micros : Int) :
    (ZonedTime.mk (instant.addMicros micros) (some micros)).instant = instant :=
  congrArg Instant.mk (Int.add_neg_cancel_right instant.micros micros)

end ZonedTime

def Instant.reread? (instant : Instant) : Option (Except Fault Instant) :=
  (ZonedTime.parse? instant.storedText).map ZonedTime.utc

theorem Instant.InCalendar.reread? {instant : Instant} (calendar : instant.InCalendar) :
    instant.reread? = some (.ok instant) := by
  rw [Instant.reread?, ZonedTime.parse?_storedText calendar]
  exact congrArg some
    (ZonedTime.utc_eq_ok.mpr ⟨calendar, ZonedTime.instant_of_universal none rfl⟩)

end OrderDesk
