import SuseokTrader.Broker.TimeOrder

/-!
# Reading written times

A date and a time of day in the forms that the program and the store write are
read back as the same instant, with the wire's `T` and `Z` as well as with the
store's blank and no zone.
-/

namespace SuseokTrader

namespace Time

/-! ## Numbers of a fixed width -/

theorem digits_pad (width n : Nat) : ∀ c ∈ pad width n, c.isDigit = true := by
  intro c present
  rcases List.mem_append.mp present with zero | digit
  · rw [(List.mem_replicate.mp zero).2]
    decide
  · exact Nat.isDigit_of_mem_toDigits (by decide) (by decide) digit

theorem ofDigitChars_replicate_zero (count : Nat) (digits : List Char) :
    Nat.ofDigitChars 10 (List.replicate count '0' ++ digits) 0 = Nat.ofDigitChars 10 digits 0 := by
  induction count with
  | zero => rfl
  | succ count ih =>
      exact ih

theorem digitsValue_pad (width n : Nat) : digitsValue (pad width n) = some n := by
  have nonempty : pad width n ≠ [] := by
    intro empty
    exact Nat.toDigits_ne_nil (List.append_eq_nil_iff.mp empty).2
  have areDigits : (pad width n).all Char.isDigit = true :=
    List.all_eq_true.mpr (digits_pad width n)
  rw [digitsValue, if_pos ⟨nonempty, areDigits⟩, pad, ofDigitChars_replicate_zero,
    Nat.ofDigitChars_ten_toDigits]

theorem exists_pad_two {n : Nat} (bound : n < 100) :
    ∃ a b, pad 2 n = [a, b] ∧ a.isDigit = true ∧ b.isDigit = true := by
  have areDigits := digits_pad 2 n
  rcases List.length_eq_two.mp (length_pad (by decide) bound) with ⟨a, b, shape⟩
  rw [shape] at areDigits
  exact ⟨a, b, shape, areDigits a (by simp), areDigits b (by simp)⟩

/-! ## Dates -/

theorem div_succ (years cycle : Nat) :
    (years + 1) / cycle = years / cycle + if (years + 1) % cycle = 0 then 1 else 0 := by
  simp only [Nat.succ_div, Nat.dvd_iff_mod_eq_zero]

theorem isLeap_iff (years : Nat) :
    isLeap (years + 1) = true ↔ daysBeforeYear (years + 1) = daysBeforeYear years + 366 := by
  have fours := div_succ years 4
  have hundreds := div_succ years 100
  have cycles := div_succ years 400
  have fewer : years / 100 ≤ years / 4 := Nat.div_le_div_left (by decide) (by decide)
  have inHundreds : (years + 1) % 400 = 0 → (years + 1) % 100 = 0 := by omega
  simp only [isLeap, daysBeforeYear, Bool.and_eq_true, Bool.or_eq_true, decide_eq_true_eq, fours,
    hundreds, cycles]
  generalize (years + 1) % 4 = four at *
  generalize (years + 1) % 100 = hundred at *
  generalize (years + 1) % 400 = cycle at *
  clear fours hundreds cycles
  split <;> split <;> split <;> omega
def monthLength (leap : Bool) (month : Nat) : Nat :=
  if month = 2 then if leap then 29 else 28
  else if month = 4 ∨ month = 6 ∨ month = 9 ∨ month = 11 then 30
  else 31

theorem daysInMonth_eq (year month : Nat) :
    daysInMonth year month = monthLength (isLeap year) month :=
  rfl

theorem monthLength_le (leap : Bool) (month : Nat) : monthLength leap month ≤ 31 := by
  unfold monthLength
  split_ifs <;> omega

theorem monthDay_names (leap : Bool) {day : Nat} (bound : day < 366) :
    1 ≤ (monthDay leap day).1 ∧ (monthDay leap day).1 ≤ 12 ∧ 1 ≤ (monthDay leap day).2 ∧
      daysBeforeMonth (monthDay leap day).1 +
        (if (monthDay leap day).1 > 2 ∧ leap then 1 else 0) + ((monthDay leap day).2 - 1) =
          day := by
  have bounds : ∀ leap, ∀ day < 366, 1 ≤ (monthDay leap day).1 ∧ (monthDay leap day).1 ≤ 12 ∧
      1 ≤ (monthDay leap day).2 := by decide +kernel
  have names : ∀ leap, ∀ day < 366, daysBeforeMonth (monthDay leap day).1 +
      (if (monthDay leap day).1 > 2 ∧ leap then 1 else 0) + ((monthDay leap day).2 - 1) =
        day := by decide +kernel
  rcases bounds leap day bound with ⟨firstMonth, lastMonth, firstDay⟩
  exact ⟨firstMonth, lastMonth, firstDay, names leap day bound⟩

theorem monthDay_inMonth {leap : Bool} {day : Nat} (bound : day < 366)
    (within : leap = true ∨ day < 365) :
    (monthDay leap day).2 ≤ monthLength leap (monthDay leap day).1 := by
  have inMonth : ∀ leap, ∀ day < 366, (leap = true ∨ day < 365) →
      (monthDay leap day).2 ≤ monthLength leap (monthDay leap day).1 := by decide +kernel
  exact inMonth leap day bound within

theorem civil_valid {days : Nat} (bound : days < calendarDays) :
    (civil days).1 < 10 ^ 4 ∧ 1 ≤ (civil days).1 ∧ 1 ≤ (civil days).2.1 ∧
      (civil days).2.1 ≤ 12 ∧ 1 ≤ (civil days).2.2 ∧
      (civil days).2.2 ≤ daysInMonth (civil days).1 (civil days).2.1 ∧
      dayOf (civil days).1 (civil days).2.1 (civil days).2.2 = days := by
  rcases civil_eq days with ⟨years, day, leap, date, isDay, inYear, leapYear⟩
  have fourDigits := year_lt (show daysBeforeYear years < calendarDays by omega)
  have sameLeap : isLeap (years + 1) = leap := by
    rw [Bool.eq_iff_iff, isLeap_iff, leapYear]
  have length := daysBeforeYear_succ_le years
  have bounded : day < 366 := by omega
  have within : leap = true ∨ day < 365 := by
    by_cases long : daysBeforeYear (years + 1) = daysBeforeYear years + 366
    · exact Or.inl (leapYear.mpr long)
    · omega
  rcases monthDay_names leap bounded with ⟨firstMonth, lastMonth, firstDay, names⟩
  rw [date]
  refine ⟨fourDigits, Nat.succ_pos years, firstMonth, lastMonth, firstDay, ?_, ?_⟩
  · rw [daysInMonth_eq, sameLeap]
    exact monthDay_inMonth bounded within
  · simp only [dayOf, sameLeap, Nat.add_sub_cancel]
    simp only [daysBeforeYear] at isDay
    omega

theorem parseDate_renderDate {days : Nat} (bound : days < calendarDays) (rest : List Char) :
    parseDate (renderDate days ++ rest) = some (days, rest) := by
  rcases civil_valid bound with ⟨fourDigits, firstYear, firstMonth, lastMonth, firstDay, lastDay,
    names⟩
  rcases date : civil days with ⟨year, month, day⟩
  rw [date] at fourDigits firstYear firstMonth lastMonth firstDay lastDay names
  have twoDigits : day < 100 := by
    have long := monthLength_le (isLeap year) month
    simp only [daysInMonth_eq] at lastDay
    omega
  have yearLength := length_pad (show 0 < 4 by decide) fourDigits
  rcases exists_pad_two (show month < 100 by simp only at lastMonth; omega) with
    ⟨m1, m2, monthShape, _⟩
  rcases exists_pad_two twoDigits with ⟨d1, d2, dayShape, _⟩
  have yearValue := digitsValue_pad 4 year
  have monthValue := digitsValue_pad 2 month
  have dayValue := digitsValue_pad 2 day
  rw [monthShape] at monthValue
  rw [dayShape] at dayValue
  simp only [renderDate, date, monthShape, dayShape]
  generalize pad 4 year = digits at *
  rcases digits with _ | ⟨y1, _ | ⟨y2, _ | ⟨y3, _ | ⟨y4, _ | ⟨y5, more⟩⟩⟩⟩⟩ <;>
    simp only [List.length_cons, List.length_nil] at yearLength <;> try omega
  simp only [parseDate, List.cons_append, List.nil_append, List.getElem?_cons_succ,
    List.getElem?_cons_zero, if_true, List.take_succ_cons, List.take_zero, List.drop_succ_cons,
    List.drop_zero, yearValue, monthValue, dayValue, Option.bind_eq_bind, Option.bind_some]
  rw [if_neg (by simp), if_neg (by simp), if_neg (by simp only at *; omega), names]

/-! ## Times of day -/

def isClockChar (c : Char) : Bool :=
  c ≠ '-' && c ≠ '+' && c ≠ 'Z'

theorem isClockChar_of_isDigit {c : Char} (digit : c.isDigit = true) : isClockChar c = true := by
  simp only [isClockChar, Bool.and_eq_true, decide_eq_true_eq]
  refine ⟨⟨?_, ?_⟩, ?_⟩ <;> (rintro rfl; simp at digit)

variable (micros : Nat)

theorem clockChars_renderClock :
    ∀ c ∈ renderClock micros, isClockChar c = true := by
  have ofPad (width n : Nat) (c : Char) (present : c ∈ pad width n) : isClockChar c = true :=
    isClockChar_of_isDigit (digits_pad width n c present)
  intro c present
  simp only [renderClock, List.mem_append, List.mem_cons] at present
  rcases present with (hour | rfl | minute | rfl | second) | fraction
  · exact ofPad _ _ c hour
  · decide
  · exact ofPad _ _ c minute
  · decide
  · exact ofPad _ _ c second
  · split at fraction
    · cases fraction
    · rcases List.mem_cons.mp fraction with rfl | digit
      · decide
      · exact ofPad _ _ c digit

def clockOf : Nat × Nat × Nat × Nat :=
  (micros / microsPerSecond / 3600, micros / microsPerSecond / 60 % 60,
    micros / microsPerSecond % 60, micros % microsPerSecond)

theorem parseClock_renderClock {micros : Nat} (bound : micros < microsPerDay) :
    parseClock (renderClock micros) = some (clockOf micros) := by
  have hours : micros / microsPerSecond / 3600 < 100 := by
    simp only [microsPerDay, microsPerSecond] at *
    omega
  rcases exists_pad_two hours with ⟨h1, h2, hourShape, _⟩
  rcases exists_pad_two (show micros / microsPerSecond / 60 % 60 < 100 by omega) with
    ⟨m1, m2, minuteShape, _⟩
  rcases exists_pad_two (show micros / microsPerSecond % 60 < 100 by omega) with
    ⟨s1, s2, secondShape, _⟩
  have hourValue := digitsValue_pad 2 (micros / microsPerSecond / 3600)
  have minuteValue := digitsValue_pad 2 (micros / microsPerSecond / 60 % 60)
  have secondValue := digitsValue_pad 2 (micros / microsPerSecond % 60)
  rw [hourShape] at hourValue
  rw [minuteShape] at minuteValue
  rw [secondShape] at secondValue
  simp only [renderClock, hourShape, minuteShape, secondShape, parseClock, List.cons_append,
    List.nil_append, List.getElem?_cons_succ, List.getElem?_cons_zero, List.take_succ_cons,
    List.take_zero, List.drop_succ_cons, List.drop_zero, hourValue, minuteValue, secondValue,
    Option.bind_eq_bind, Option.bind_some, List.length_cons, if_true]
  rw [if_neg (by omega), if_neg (by omega), if_neg (by omega), if_neg (by omega),
    if_neg (by simp), if_neg (by omega)]
  by_cases whole : micros % microsPerSecond = 0
  · simp [clockOf, whole]
  · have length := length_pad (show 0 < 6 by decide) (show micros % microsPerSecond < 10 ^ 6 from
      Nat.mod_lt micros (by decide))
    have value := digitsValue_pad 6 (micros % microsPerSecond)
    have areDigits : (pad 6 (micros % microsPerSecond)).all Char.isDigit = true :=
      List.all_eq_true.mpr (digits_pad 6 _)
    have whole6 : (pad 6 (micros % microsPerSecond)).take 6 =
        pad 6 (micros % microsPerSecond) := List.take_of_length_le (le_of_eq length)
    simp only [if_neg whole, whole6, value, length, Option.bind_some]
    rw [if_pos ⟨Or.inl trivial, areDigits⟩]
    simp [clockOf]

theorem clockMicros_clockOf : clockMicros (clockOf micros) = micros := by
  simp only [clockMicros, clockOf, microsPerSecond]
  omega

theorem parseTime_renderClock {micros : Nat} (bound : micros < microsPerDay) {zone : List Char}
    (utc : zone = [] ∨ zone = ['Z']) :
    parseTime (renderClock micros ++ zone) = some (micros, 0) := by
  have clock : (renderClock micros ++ zone).takeWhile (fun c => c ≠ '-' && c ≠ '+' && c ≠ 'Z') =
      renderClock micros := by
    change (renderClock micros ++ zone).takeWhile isClockChar = _
    rw [List.takeWhile_append_of_pos (clockChars_renderClock micros)]
    rcases utc with rfl | rfl <;> simp [isClockChar]
  have inDay : ¬ (24 ≤ micros / microsPerSecond / 3600 ∨
      60 ≤ micros / microsPerSecond / 60 % 60 ∨ 60 ≤ micros / microsPerSecond % 60) := by
    simp only [microsPerDay, microsPerSecond] at *
    omega
  have same := clockMicros_clockOf micros
  simp only [parseTime, clock, parseClock_renderClock bound, Option.bind_eq_bind, Option.bind_some,
    clockOf, List.drop_left] at same ⊢
  rw [if_neg inDay, same]
  rcases utc with rfl | rfl <;> rfl

theorem fromIsoformat_render {days micros : Nat} (inCalendar : days < calendarDays)
    (inDay : micros < microsPerDay) (separator : Char) {zone : List Char}
    (utc : zone = [] ∨ zone = ['Z']) :
    fromIsoformat (String.ofList (renderDate days ++ separator :: (renderClock micros ++ zone))) =
      some (days * microsPerDay + micros) := by
  have date := parseDate_renderDate inCalendar (separator :: (renderClock micros ++ zone))
  have time := parseTime_renderClock inDay utc
  unfold fromIsoformat
  rw [String.toList_ofList, date]
  simp only [Option.bind_eq_bind, Option.bind_some]
  clear inCalendar inDay date
  -- the length of a day stays a name, so that no step computes with its value
  generalize microsPerDay = perDay
  have start : ¬ ((days : Int) * perDay + micros < 0) := Int.not_lt.mpr (by positivity)
  have whole : ((days : Int) * perDay + micros - 0).toNat = days * perDay + micros := by
    rw [Int.sub_zero, ← Nat.cast_mul, ← Nat.cast_add, Int.toNat_natCast]
  rw [time, Option.bind_some, if_neg start, whole]

end Time

open Time

theorem fromIsoformat_datetimeToWire {value : Nat} (bound : InCalendar value) :
    fromIsoformat (datetimeToWire value) = some value := by
  have days : value / microsPerDay < calendarDays :=
    (Nat.div_lt_iff_lt_mul (by decide)).mpr bound
  rw [datetimeToWire, fromIsoformat_render days (Nat.mod_lt value (by decide)) 'T' (Or.inr rfl),
    Nat.div_add_mod']

end SuseokTrader
