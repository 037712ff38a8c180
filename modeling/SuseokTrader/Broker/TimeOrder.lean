import SuseokTrader.Broker.Time

/-!
# The order of wire texts

The store compares the wire texts of two instants in place of the instants.
Every field of a text has a fixed width, so the two orders agree up to the
second. Within one second they disagree exactly where one of the two instants
is a whole second: its text has no fraction, and `Z` comes after the point.
-/

namespace SuseokTrader

namespace Time

/-! ## Fields of fixed width -/

variable {left right : List Char} {width earlier later : Nat}

theorem append_lt_append_of_lt (less : left < right) (width : left.length = right.length)
    (leftRest rightRest : List Char) :
    left ++ leftRest < right ++ rightRest := by
  induction left generalizing right with
  | nil =>
      have empty := List.length_eq_zero_iff.mp width.symm
      subst empty
      exact absurd less (List.not_lt_nil _)
  | cons first left ih =>
      cases right with
      | nil => cases width
      | cons second right =>
          rw [List.cons_append, List.cons_append, List.cons_lt_cons_iff]
          rcases List.cons_lt_cons_iff.mp less with firstLess | ⟨same, restLess⟩
          · exact Or.inl firstLess
          · exact Or.inr ⟨same, ih restLess (Nat.succ.inj width)⟩

theorem append_lt_append_left (shared : List Char) (less : left < right) :
    shared ++ left < shared ++ right := by
  induction shared with
  | nil => exact less
  | cons first shared ih => exact List.cons_lt_cons_iff.mpr (Or.inr ⟨rfl, ih⟩)

theorem cons_lt_cons (shared : Char) (less : left < right) : shared :: left < shared :: right :=
  List.cons_lt_cons_iff.mpr (Or.inr ⟨rfl, less⟩)

theorem toDigits_length_le {n : Nat} (positive : 0 < width) (bound : n < 10 ^ width) :
    (Nat.toDigits 10 n).length ≤ width := by
  induction width generalizing n with
  | zero => cases positive
  | succ width ih =>
      by_cases small : n < 10
      · rw [Nat.toDigits_of_lt_base small]
        exact Nat.succ_le_succ (Nat.zero_le _)
      · rw [Nat.toDigits_of_base_le (by omega) (by omega), List.length_append,
          List.length_singleton]
        have quotient : n / 10 < 10 ^ width := by
          omega
        have wide : 0 < width := by
          rcases Nat.eq_zero_or_pos width with rfl | wide
          · omega
          · exact wide
        exact Nat.succ_le_succ (ih wide quotient)

theorem length_pad {n : Nat} (positive : 0 < width) (bound : n < 10 ^ width) :
    (pad width n).length = width := by
  have fits := toDigits_length_le positive bound
  simp only [pad, List.length_append, List.length_replicate]
  omega

theorem pad_succ (positive : 0 < width) (n : Nat) :
    pad (width + 1) n = pad width (n / 10) ++ [Nat.digitChar (n % 10)] := by
  by_cases small : n < 10
  · have zero : n / 10 = 0 := by omega
    have same : n % 10 = n := by omega
    have shape : List.replicate width '0' = List.replicate (width - 1) '0' ++ ['0'] := by
      rw [← List.replicate_succ', Nat.sub_add_cancel positive]
    rw [pad, pad, zero, same, Nat.toDigits_of_lt_base small, Nat.toDigits_zero]
    simp only [List.length_singleton, Nat.add_sub_cancel]
    rw [shape]
  · rw [pad, pad, Nat.toDigits_of_base_le (by omega) (by omega), List.length_append,
      List.length_singleton, Nat.add_sub_add_right, List.append_assoc]

theorem digitChar_lt {left right : Nat} (less : left < right) (bound : right < 10) :
    Nat.digitChar left < Nat.digitChar right := by
  have inOrder : ∀ right < 10, ∀ left < right, Nat.digitChar left < Nat.digitChar right := by
    decide
  exact inOrder right bound left less

theorem pad_lt {left right : Nat} (positive : 0 < width) (less : left < right)
    (bound : right < 10 ^ width) : pad width left < pad width right := by
  induction width generalizing left right with
  | zero => cases positive
  | succ width ih =>
      rcases Nat.eq_zero_or_pos width with rfl | wide
      · have small : right < 10 := by omega
        rw [pad, pad, Nat.toDigits_of_lt_base (by omega), Nat.toDigits_of_lt_base small]
        exact List.cons_lt_cons_iff.mpr (Or.inl (digitChar_lt less small))
      · rw [pad_succ wide, pad_succ wide]
        by_cases higher : left / 10 < right / 10
        · apply append_lt_append_of_lt (ih wide higher (by omega))
          rw [length_pad wide (by omega), length_pad wide (by omega)]
        · have same : left / 10 = right / 10 := by omega
          rw [same]
          apply append_lt_append_left
          exact List.cons_lt_cons_iff.mpr (Or.inl (digitChar_lt (by omega) (by omega)))

theorem pad_append_lt {left right : Nat} (positive : 0 < width) (less : left < right)
    (bound : right < 10 ^ width) (leftRest rightRest : List Char) :
    pad width left ++ leftRest < pad width right ++ rightRest := by
  apply append_lt_append_of_lt (pad_lt positive less bound)
  rw [length_pad positive (less.trans bound), length_pad positive bound]

/-! ## The calendar -/

def daysBeforeYear (years : Nat) : Nat :=
  years * 365 + years / 4 - years / 100 + years / 400

theorem daysBeforeYear_mono (before : earlier ≤ later) :
    daysBeforeYear earlier ≤ daysBeforeYear later := by
  apply monotone_nat_of_le_succ _ before
  simp only [daysBeforeYear]
  omega

theorem daysBeforeYear_succ_le (years : Nat) :
    daysBeforeYear (years + 1) ≤ daysBeforeYear years + 366 := by
  simp only [daysBeforeYear]
  omega

def calendarDays : Nat := 3652059

theorem year_lt {years : Nat} (bound : daysBeforeYear years < calendarDays) :
    years + 1 < 10 ^ 4 := by
  by_contra long
  have start := daysBeforeYear_mono (show 9999 ≤ years by omega)
  have whole : daysBeforeYear 9999 = calendarDays := by decide
  omega

def monthDay (leap : Bool) (dayOfYear : Nat) : Nat × Nat :=
  let before := fun month => daysBeforeMonth month + (if month > 2 ∧ leap then 1 else 0)
  let guess := (dayOfYear + 50) / 32
  let month := if before guess > dayOfYear then guess - 1 else guess
  (month, dayOfYear - before month + 1)

theorem daysBeforeYear_cycles {centuries fours ones : Nat} (n400 : Nat) (hundreds : centuries ≤ 3)
    (inFours : fours ≤ 24) (inOnes : ones ≤ 3) :
    daysBeforeYear (n400 * 400 + centuries * 100 + fours * 4 + ones) =
      n400 * 146097 + centuries * 36524 + fours * 1461 + ones * 365 := by
  simp only [daysBeforeYear]
  omega

theorem daysBeforeYear_succ_cycles {centuries fours ones : Nat} (n400 : Nat)
    (hundreds : centuries ≤ 3) (inFours : fours ≤ 24) (inOnes : ones ≤ 3) :
    daysBeforeYear (n400 * 400 + centuries * 100 + fours * 4 + ones + 1) =
      n400 * 146097 + centuries * 36524 + fours * 1461 + ones * 365 + 365 +
        if ones = 3 ∧ (fours ≠ 24 ∨ centuries = 3) then 1 else 0 := by
  simp only [daysBeforeYear]
  split <;> omega

/-- A day is a day of its year. -/
theorem civil_eq (days : Nat) :
    ∃ years dayOfYear leap, civil days = (years + 1, monthDay leap dayOfYear) ∧
      days = daysBeforeYear years + dayOfYear ∧
      days < daysBeforeYear (years + 1) ∧
      (leap = true ↔ daysBeforeYear (years + 1) = daysBeforeYear years + 366) := by
  have n400 := Nat.div_add_mod days 146097
  have n100 := Nat.div_add_mod (days % 146097) 36524
  have n4 := Nat.div_add_mod (days % 146097 % 36524) 1461
  have n1 := Nat.div_add_mod (days % 146097 % 36524 % 1461) 365
  have below400 := Nat.mod_lt days (show 0 < 146097 by decide)
  have below100 := Nat.mod_lt (days % 146097) (show 0 < 36524 by decide)
  have below4 := Nat.mod_lt (days % 146097 % 36524) (show 0 < 1461 by decide)
  have below1 := Nat.mod_lt (days % 146097 % 36524 % 1461) (show 0 < 365 by decide)
  simp only [civil]
  generalize days / 146097 = cycles at *
  generalize days % 146097 = inCycle at *
  generalize inCycle / 36524 = centuries at *
  generalize inCycle % 36524 = inCentury at *
  generalize inCentury / 1461 = fours at *
  generalize inCentury % 1461 = inFour at *
  generalize inFour / 365 = ones at *
  generalize inFour % 365 = dayOfYear at *
  have hundreds : centuries ≤ 4 := by omega
  have inFours : fours ≤ 24 := by omega
  have inOnes : ones ≤ 4 := by omega
  split
  · next last =>
      -- the last day of a cycle of four or of 400 years, which ends with a leap year
      have lastDay : ∃ century four, century ≤ 3 ∧ four ≤ 24 ∧ (four ≠ 24 ∨ century = 3) ∧
          days = cycles * 146097 + century * 36524 + four * 1461 + 3 * 365 + 365 ∧
          cycles * 400 + 1 + centuries * 100 + fours * 4 + ones - 1 =
            cycles * 400 + century * 100 + four * 4 + 3 + 1 := by
        rcases last with lastOfFour | lastOfCycle
        · exact ⟨centuries, fours, by omega, by omega, by omega, by omega, by omega⟩
        · exact ⟨3, 24, by omega, by omega, by omega, by omega, by omega⟩
      rcases lastDay with ⟨century, four, hundred, inFour, leapYear, isLast, year⟩
      have years := daysBeforeYear_cycles cycles hundred inFour (le_refl 3)
      have later := daysBeforeYear_succ_cycles cycles hundred inFour (le_refl 3)
      rw [if_pos ⟨rfl, leapYear⟩] at later
      refine ⟨cycles * 400 + century * 100 + four * 4 + 3, 365, true, ?_, ?_, ?_, ?_⟩
      · rw [year]
        rfl
      · rw [years]
        omega
      · omega
      · rw [later, years]
        simp
  · have years := daysBeforeYear_cycles cycles (show centuries ≤ 3 by omega) inFours
      (show ones ≤ 3 by omega)
    have later := daysBeforeYear_succ_cycles cycles (show centuries ≤ 3 by omega) inFours
      (show ones ≤ 3 by omega)
    refine ⟨cycles * 400 + centuries * 100 + fours * 4 + ones, dayOfYear,
      decide (ones = 3) && (decide (fours ≠ 24) || decide (centuries = 3)), ?_, ?_, ?_, ?_⟩
    · rw [Prod.mk.injEq]
      exact ⟨by omega, rfl⟩
    · omega
    · omega
    · rw [later]
      simp only [Bool.and_eq_true, Bool.or_eq_true, decide_eq_true_eq]
      split <;> omega

theorem monthDay_lt (leap : Bool) (before : earlier < later) (bound : later < 366) :
    (monthDay leap earlier).1 < (monthDay leap later).1 ∨
      (monthDay leap earlier).1 = (monthDay leap later).1 ∧
        (monthDay leap earlier).2 < (monthDay leap later).2 := by
  have inMonth : ∀ leap, ∀ day < 366, (monthDay leap day).2 < 100 := by decide +kernel
  have next : ∀ leap, ∀ day < 365, (monthDay leap day).1 * 100 + (monthDay leap day).2 <
      (monthDay leap (day + 1)).1 * 100 + (monthDay leap (day + 1)).2 := by decide +kernel
  have inOrder : ∀ step, earlier + step < 365 →
      (monthDay leap earlier).1 * 100 + (monthDay leap earlier).2 <
        (monthDay leap (earlier + step + 1)).1 * 100 +
          (monthDay leap (earlier + step + 1)).2 := by
    intro step inYear
    induction step with
    | zero => exact next leap earlier inYear
    | succ step ih => exact (ih (by omega)).trans (next leap (earlier + step + 1) inYear)
  have less := inOrder (later - earlier - 1) (by omega)
  rw [show earlier + (later - earlier - 1) + 1 = later by omega] at less
  have laterDay := inMonth leap later bound
  omega

theorem monthDay_bounds (leap : Bool) {day : Nat} (bound : day < 366) :
    (monthDay leap day).1 < 100 ∧ (monthDay leap day).2 < 100 := by
  have bounds : ∀ leap, ∀ day < 366, (monthDay leap day).1 < 100 ∧
      (monthDay leap day).2 < 100 := by decide +kernel
  exact bounds leap day bound

theorem renderDate_lt (before : earlier < later) (bound : later < calendarDays) :
    renderDate earlier < renderDate later := by
  rcases civil_eq earlier with ⟨years, day, leap, date, isDay, inYear, isLeap⟩
  rcases civil_eq later with ⟨laterYears, laterDay, laterLeap, laterDate, isLaterDay, inLaterYear,
    isLaterLeap⟩
  have fourDigits := year_lt (show daysBeforeYear laterYears < calendarDays by omega)
  have laterLength := daysBeforeYear_succ_le laterYears
  have laterBounds := monthDay_bounds laterLeap (show laterDay < 366 by omega)
  simp only [renderDate, date, laterDate]
  rcases Nat.lt_trichotomy years laterYears with earlierYear | sameYear | laterYear
  · exact pad_append_lt (by decide) (by omega) fourDigits _ _
  · subst sameYear
    have sameLeap : leap = laterLeap := by
      rw [Bool.eq_iff_iff, isLeap, isLaterLeap]
    subst sameLeap
    apply append_lt_append_left
    apply cons_lt_cons
    rcases monthDay_lt leap (show day < laterDay by omega) (by omega) with
      earlierMonth | ⟨sameMonth, earlierDay⟩
    · exact pad_append_lt (by decide) earlierMonth (by omega) _ _
    · rw [sameMonth]
      apply append_lt_append_left
      apply cons_lt_cons
      exact pad_lt (by decide) earlierDay (by omega)
  · have passed := daysBeforeYear_mono (show laterYears + 1 ≤ years by omega)
    omega

theorem length_renderDate {days : Nat} (bound : days < calendarDays) :
    (renderDate days).length = 10 := by
  rcases civil_eq days with ⟨years, day, leap, date, isDay, inYear, _⟩
  have fourDigits := year_lt (show daysBeforeYear years < calendarDays by omega)
  have length := daysBeforeYear_succ_le years
  have bounds := monthDay_bounds leap (show day < 366 by omega)
  simp only [renderDate, date, List.length_append, List.length_cons]
  rw [length_pad (by decide) fourDigits, length_pad (by decide) (by omega),
    length_pad (by decide) (by omega)]

/-! ## The time of day -/

theorem renderClock_lt (before : earlier / microsPerSecond < later / microsPerSecond)
    (bound : later < microsPerDay) (earlierRest laterRest : List Char) :
    renderClock earlier ++ earlierRest < renderClock later ++ laterRest := by
  simp only [microsPerDay, microsPerSecond] at bound before
  simp only [renderClock, microsPerSecond, List.append_assoc, List.cons_append]
  generalize earlier / 1000000 = seconds at *
  have inDay : later / 1000000 < 86400 := by omega
  generalize later / 1000000 = laterSeconds at *
  by_cases earlierHour : seconds / 3600 < laterSeconds / 3600
  · exact pad_append_lt (by decide) earlierHour (by omega) _ _
  · rw [show seconds / 3600 = laterSeconds / 3600 by omega]
    apply append_lt_append_left
    apply cons_lt_cons
    by_cases earlierMinute : seconds / 60 % 60 < laterSeconds / 60 % 60
    · exact pad_append_lt (by decide) earlierMinute (by omega) _ _
    · rw [show seconds / 60 % 60 = laterSeconds / 60 % 60 by omega]
      apply append_lt_append_left
      apply cons_lt_cons
      exact pad_append_lt (by decide) (by omega) (by omega) _ _

theorem renderClock_lt_of_fraction (before : earlier < later)
    (sameSecond : earlier / microsPerSecond = later / microsPerSecond)
    (fraction : earlier % microsPerSecond ≠ 0) (earlierRest laterRest : List Char) :
    renderClock earlier ++ earlierRest < renderClock later ++ laterRest := by
  have less : earlier % microsPerSecond < later % microsPerSecond := by
    simp only [microsPerSecond] at *
    omega
  have bound := Nat.mod_lt later (show 0 < microsPerSecond by decide)
  have laterFraction : later % microsPerSecond ≠ 0 := by omega
  simp only [renderClock, sameSecond, List.append_assoc, List.cons_append, if_neg fraction,
    if_neg laterFraction]
  apply append_lt_append_left
  apply cons_lt_cons
  apply append_lt_append_left
  apply cons_lt_cons
  apply append_lt_append_left
  apply cons_lt_cons
  exact pad_append_lt (by decide) less bound _ _

/-- One of two instants in the same second is a whole second and the other is not. -/
def WholeSecondClash (left right : Instant) : Prop :=
  left / microsPerSecond = right / microsPerSecond ∧
    ¬ (left % microsPerSecond = 0 ↔ right % microsPerSecond = 0)

/-- The instants with a year of four digits, which are all that a datetime holds. -/
def InCalendar (value : Instant) : Prop :=
  value < calendarDays * microsPerDay

instance (left right : Instant) : Decidable (WholeSecondClash left right) :=
  inferInstanceAs (Decidable (_ ∧ _))

instance (value : Instant) : Decidable (InCalendar value) :=
  inferInstanceAs (Decidable (_ < _))

end Time

open Time

theorem micros_lt {earlier later : Nat} (before : earlier < later) :
    earlier / microsPerDay < later / microsPerDay ∨
      earlier / microsPerDay = later / microsPerDay ∧
        (earlier % microsPerDay / microsPerSecond < later % microsPerDay / microsPerSecond ∨
          earlier % microsPerDay / microsPerSecond = later % microsPerDay / microsPerSecond ∧
            earlier % microsPerDay < later % microsPerDay ∧
            earlier / microsPerSecond = later / microsPerSecond) := by
  simp only [microsPerDay, microsPerSecond]
  omega

theorem mod_day_mod_second (value : Nat) :
    value % microsPerDay % microsPerSecond = value % microsPerSecond := by
  simp only [microsPerDay, microsPerSecond]
  omega

theorem datetimeToWire_lt {earlier later : Nat} (before : earlier < later)
    (bound : InCalendar later) (clear : ¬ WholeSecondClash earlier later) :
    datetimeToWire earlier < datetimeToWire later := by
  have inDay : later % microsPerDay < microsPerDay := Nat.mod_lt later (by decide)
  have days : later / microsPerDay < calendarDays :=
    (Nat.div_lt_iff_lt_mul (by decide)).mpr bound
  rw [String.lt_iff, datetimeToWire, datetimeToWire, String.toList_ofList, String.toList_ofList]
  rcases micros_lt before with earlierDay | ⟨sameDay, within⟩
  · apply append_lt_append_of_lt (renderDate_lt earlierDay days)
    rw [length_renderDate days, length_renderDate (earlierDay.trans days)]
  · rw [sameDay]
    apply append_lt_append_left
    apply cons_lt_cons
    rcases within with earlierSecond | ⟨sameSecond, less, same⟩
    · exact renderClock_lt earlierSecond inDay _ _
    · apply renderClock_lt_of_fraction less sameSecond
      rw [mod_day_mod_second]
      intro whole
      apply clear
      refine ⟨same, fun both => ?_⟩
      have laterWhole : later % microsPerSecond = 0 := both.mp whole
      simp only [microsPerSecond] at same whole laterWhole
      omega

theorem datetimeToWire_lt_iff {left right : Instant} (leftBound : InCalendar left)
    (rightBound : InCalendar right) (clear : ¬ WholeSecondClash left right) :
    datetimeToWire left < datetimeToWire right ↔ left < right := by
  have clearBack : ¬ WholeSecondClash right left := by
    rintro ⟨sameSecond, mixed⟩
    exact clear ⟨sameSecond.symm, fun both => mixed both.symm⟩
  constructor
  · intro less
    by_contra notBefore
    rcases Nat.eq_or_lt_of_le (Nat.le_of_not_lt notBefore) with same | after
    · rw [same] at less
      exact String.lt_irrefl _ less
    · exact String.lt_irrefl _ (String.lt_trans less (datetimeToWire_lt after leftBound clearBack))
  · intro before
    exact datetimeToWire_lt before rightBound clear

theorem length_renderClock {micros : Nat} (bound : micros < microsPerDay) :
    (renderClock micros).length = if micros % microsPerSecond = 0 then 8 else 15 := by
  have fraction := Nat.mod_lt micros (show 0 < microsPerSecond by decide)
  have hours : micros / microsPerSecond / 3600 < 10 ^ 2 := by
    simp only [microsPerDay, microsPerSecond] at *
    omega
  have minutes : micros / microsPerSecond / 60 % 60 < 10 ^ 2 := by omega
  have seconds : micros / microsPerSecond % 60 < 10 ^ 2 := by omega
  by_cases whole : micros % microsPerSecond = 0
  · simp only [renderClock, if_pos whole, List.length_append, List.length_cons, List.length_nil]
    rw [length_pad (by decide) hours, length_pad (by decide) minutes,
      length_pad (by decide) seconds]
  · simp only [renderClock, if_neg whole, List.length_append, List.length_cons]
    rw [length_pad (by decide) hours, length_pad (by decide) minutes,
      length_pad (by decide) seconds, length_pad (by decide) fraction]

theorem length_datetimeToWire {value : Nat} (bound : InCalendar value) :
    (datetimeToWire value).length = if value % microsPerSecond = 0 then 20 else 27 := by
  have days : value / microsPerDay < calendarDays :=
    (Nat.div_lt_iff_lt_mul (by decide)).mpr bound
  rw [datetimeToWire, String.length_ofList, List.length_append, List.length_cons,
    List.length_append, length_renderDate days,
    length_renderClock (Nat.mod_lt value (by decide)), mod_day_mod_second]
  split <;> rfl

theorem datetimeToWire_injective {left right : Nat} (leftBound : InCalendar left)
    (rightBound : InCalendar right) (same : datetimeToWire left = datetimeToWire right) :
    left = right := by
  have lengths := congrArg String.length same
  rw [length_datetimeToWire leftBound, length_datetimeToWire rightBound] at lengths
  have wholeSeconds : left % microsPerSecond = 0 ↔ right % microsPerSecond = 0 := by
    split at lengths <;> split at lengths <;> simp_all
  rcases Nat.lt_trichotomy left right with before | equal | after
  · have less := datetimeToWire_lt before rightBound fun clash => clash.2 wholeSeconds
    rw [same] at less
    exact absurd less (String.lt_irrefl _)
  · exact equal
  · have less := datetimeToWire_lt after leftBound fun clash => clash.2 wholeSeconds.symm
    rw [same] at less
    exact absurd less (String.lt_irrefl _)

end SuseokTrader
