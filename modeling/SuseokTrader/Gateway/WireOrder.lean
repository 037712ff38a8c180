import SuseokTrader.Broker.TimeOrder
import SuseokTrader.Gateway.BatchMoves

/-!
# The order of wire texts

The store compares wire texts where it means instants. The two orders agree
unless one of two instants in one second is the whole second: its text has no
fraction, and its `Z` comes after the point of the other. The comparisons of
the sweep and of a dispatch are right exactly where no such pair meets.
-/

namespace SuseokTrader

open GatewayCommandStatus Time

/-! ## Instants in one second -/

theorem append_lt_of_point (shared fraction rest : List Char) :
    shared ++ '.' :: fraction ++ rest < shared ++ ['Z'] := by
  rw [List.append_assoc]
  apply append_lt_append_left
  rw [List.cons_append, List.cons_lt_cons_iff]
  exact Or.inl (by decide)

theorem datetimeToWire_lt_whole {whole fraction : Nat}
    (sameSecond : whole / microsPerSecond = fraction / microsPerSecond)
    (isWhole : whole % microsPerSecond = 0) (isFraction : fraction % microsPerSecond ≠ 0) :
    datetimeToWire fraction < datetimeToWire whole := by
  have sameDay : fraction / microsPerDay = whole / microsPerDay := by
    simp only [microsPerDay, microsPerSecond] at *
    omega
  have sameClock : fraction % microsPerDay / microsPerSecond =
      whole % microsPerDay / microsPerSecond := by
    simp only [microsPerDay, microsPerSecond] at *
    omega
  have wholeClock := mod_day_mod_second whole
  have fractionClock := mod_day_mod_second fraction
  rw [String.lt_iff, datetimeToWire, datetimeToWire, String.toList_ofList, String.toList_ofList,
    sameDay]
  apply append_lt_append_left
  apply cons_lt_cons
  simp only [renderClock, wholeClock, fractionClock, isWhole, isFraction, if_true, sameClock,
    List.append_nil]
  exact append_lt_of_point _ _ _

theorem wire_le_iff {left right : Nat} (leftBound : InCalendar left)
    (rightBound : InCalendar right) :
    (datetimeToWire left ≤ datetimeToWire right ↔ left ≤ right) ↔
      ¬ WholeSecondClash left right := by
  constructor
  · rintro same ⟨sameSecond, mixed⟩
    have sameQuotient : left / 1000000 = right / 1000000 := sameSecond
    by_cases isWhole : left % microsPerSecond = 0
    · have isFraction : right % microsPerSecond ≠ 0 := fun both => mixed (iff_of_true isWhole both)
      have less := datetimeToWire_lt_whole sameSecond isWhole isFraction
      have before : left ≤ right := by
        simp only [microsPerSecond] at *
        omega
      exact absurd (same.mpr before) (String.not_le.mpr less)
    · have rightWhole : right % microsPerSecond = 0 := by
        by_contra neither
        exact mixed (iff_of_false isWhole neither)
      have less := datetimeToWire_lt_whole sameSecond.symm rightWhole isWhole
      have before := same.mp (le_of_lt less)
      simp only [microsPerSecond] at *
      omega
  · intro clear
    have clearBack : ¬ WholeSecondClash right left := by
      rintro ⟨sameSecond, mixed⟩
      exact clear ⟨sameSecond.symm, fun both => mixed both.symm⟩
    rw [← String.not_lt, datetimeToWire_lt_iff rightBound leftBound clearBack, Nat.not_lt]

/-! ## Aware datetimes -/

/-- The clock of a datetime and its offset from UTC, whose instant a datetime in UTC can hold. -/
structure AwareDatetime where
  wall : Nat
  utcOffset : Int
  wallInCalendar : InCalendar wall
  offsetBound : utcOffset.natAbs < microsPerDay
  utcNotBefore : utcOffset ≤ wall
  utcInCalendar : InCalendar (wall - utcOffset).toNat

def AwareDatetime.utc (value : AwareDatetime) : Instant :=
  (value.wall - value.utcOffset).toNat

def AwareDatetime.wire (value : AwareDatetime) : String :=
  datetimeToWire value.utc

/-! ## Commands and their times -/

/-- A command whose stored times are the texts of instants. -/
structure TimedCommand where
  row : CommandRow
  expires : Option Instant
  available : Option Instant
  dispatchedOn : Option Instant
  expiresAt_eq : row.expiresAt = expires.map datetimeToWire
  availableAt_eq : row.availableAt = available.map datetimeToWire
  dispatchedAt_eq : row.dispatchedAt = dispatchedOn.map datetimeToWire
  expiresInCalendar : ∀ time ∈ expires, InCalendar time
  availableInCalendar : ∀ time ∈ available, InCalendar time
  dispatchedInCalendar : ∀ time ∈ dispatchedOn, InCalendar time

/-- The time is there and has come. -/
def hasCome (time : Option Instant) (limit : Instant) : Bool :=
  time.any fun time => time ≤ limit

/-- The time clashes with the one it is compared with. -/
def Clashes (time : Option Instant) (limit : Instant) : Prop :=
  ∃ instant ∈ time, WholeSecondClash instant limit

theorem reached_eq_hasCome_iff {time : Option Instant} {limit : Instant}
    (timeBound : ∀ instant ∈ time, InCalendar instant) (limitBound : InCalendar limit) :
    reached (time.map datetimeToWire) (datetimeToWire limit) = hasCome time limit ↔
      ¬ Clashes time limit := by
  cases time with
  | none => simp [reached, hasCome, Clashes]
  | some instant =>
      have order := wire_le_iff (timeBound instant rfl) limitBound
      simp only [reached, Option.map_some, hasCome, Option.any_some, Clashes, Option.mem_some,
        exists_eq_left', decide_eq_decide]
      exact order

/-- A sweep of a row, given whether its expiry time has come and whether it was dispatched long
enough ago. -/
def sweptBy (expires timesOut : Bool) (now : String) (row : CommandRow) : CommandRow :=
  if row.status = queued.value && expires then expireRow now row
  else if row.status = dispatched.value && !storedAsOrder row && timesOut then
    failTimedOutRow now row
  else if (row.status = dispatched.value || row.status = claimed.value ||
      row.status = gatewayStarted.value || row.status = preAckRecorded.value) &&
      storedAsOrder row && timesOut then unconfirmRow row
  else row

def isInFlight (row : CommandRow) : Bool :=
  row.status = dispatched.value ||
    (row.status = claimed.value || row.status = gatewayStarted.value ||
      row.status = preAckRecorded.value) && storedAsOrder row

namespace TimedCommand

/-- The command after a sweep that compares instants. -/
def swept (command : TimedCommand) (now cutoff : Instant) : CommandRow :=
  sweptBy (hasCome command.expires now) (hasCome command.dispatchedOn cutoff)
    (datetimeToWire now) command.row

/-- A time that the sweep compares clashes with the one it is compared with. -/
def SweepClashes (command : TimedCommand) (now cutoff : Instant) : Prop :=
  command.row.status = queued.value ∧ Clashes command.expires now ∨
    isInFlight command.row = true ∧ Clashes command.dispatchedOn cutoff

end TimedCommand

/-! ## The sweep -/

theorem sweptRow_eq_sweptBy (now cutoff : String) (row : CommandRow) :
    sweptRow now cutoff row =
      sweptBy (reached row.expiresAt now) (reached row.dispatchedAt cutoff) now row :=
  rfl

theorem ite_eq_ite_iff_of_ne {Row : Type*} {changed row : Row} (different : changed ≠ row)
    (left right : Bool) :
    ((if left = true then changed else row) = if right = true then changed else row) ↔
      left = right := by
  cases left <;> cases right <;> simp [different, different.symm]

theorem ne_of_status {changed row : CommandRow} (different : changed.status ≠ row.status) :
    changed ≠ row :=
  fun same => different (congrArg CommandRow.status same)

/-- A sweep changes a queued row by its expiry time, a row in flight by the time it was
dispatched, and no other. -/
inductive SweepChoice (now : String) (row : CommandRow) : Prop
  | byExpiry (isQueued : row.status = queued.value) (notInFlight : isInFlight row = false)
      (changed : CommandRow) (different : changed ≠ row)
      (choice : ∀ expires timesOut,
        sweptBy expires timesOut now row = if expires = true then changed else row)
  | byDispatch (notQueued : row.status ≠ queued.value) (inFlight : isInFlight row = true)
      (changed : CommandRow) (different : changed ≠ row)
      (choice : ∀ expires timesOut,
        sweptBy expires timesOut now row = if timesOut = true then changed else row)
  | kept (notQueued : row.status ≠ queued.value) (notInFlight : isInFlight row = false)
      (choice : ∀ expires timesOut, sweptBy expires timesOut now row = row)

theorem sweepChoice (now : String) (row : CommandRow) : SweepChoice now row := by
  by_cases isQueued : row.status = queued.value
  · refine .byExpiry isQueued ?_ (expireRow now row) ?_ ?_
    · simp [isInFlight, isQueued]
    · apply ne_of_status
      simp [expireRow, isQueued]
    · simp [sweptBy, isQueued]
  · cases order : storedAsOrder row with
    | false =>
        by_cases isDispatched : row.status = dispatched.value
        · refine .byDispatch isQueued ?_ (failTimedOutRow now row) ?_ ?_
          · simp [isInFlight, isDispatched]
          · apply ne_of_status
            simp [failTimedOutRow, isDispatched]
          · simp [sweptBy, isDispatched, order]
        · refine .kept isQueued ?_ ?_
          · simp [isInFlight, isDispatched, order]
          · simp [sweptBy, isQueued, isDispatched, order]
    | true =>
        cases flies : isInFlight row with
        | true =>
            have parts := flies
            simp only [isInFlight, order] at parts
            refine .byDispatch isQueued flies (unconfirmRow row) ?_ ?_
            · intro same
              rw [← same] at parts
              simp [unconfirmRow] at parts
            · have inFlight : row.status = dispatched.value ∨ row.status = claimed.value ∨
                  row.status = gatewayStarted.value ∨ row.status = preAckRecorded.value := by
                simpa [or_assoc] using parts
              simp [sweptBy, isQueued, order, or_assoc, inFlight]
        | false =>
            have parts := flies
            simp only [isInFlight, order, Bool.and_true, Bool.or_eq_false_iff] at parts
            rcases parts with ⟨notDispatched, ⟨notClaimed, notStarted⟩, notRecorded⟩
            refine .kept isQueued flies ?_
            simp [sweptBy, isQueued, notDispatched, notClaimed, notStarted, notRecorded]

section Comparisons

variable {command : TimedCommand} {now cutoff : Instant}

theorem reached_expiresAt_iff (nowBound : InCalendar now) :
    reached command.row.expiresAt (datetimeToWire now) = hasCome command.expires now ↔
      ¬ Clashes command.expires now := by
  rw [command.expiresAt_eq]
  exact reached_eq_hasCome_iff command.expiresInCalendar nowBound

theorem reached_dispatchedAt_iff (cutoffBound : InCalendar cutoff) :
    reached command.row.dispatchedAt (datetimeToWire cutoff) =
        hasCome command.dispatchedOn cutoff ↔
      ¬ Clashes command.dispatchedOn cutoff := by
  rw [command.dispatchedAt_eq]
  exact reached_eq_hasCome_iff command.dispatchedInCalendar cutoffBound

/-- The sweep leaves a command as the instants say exactly where no time that it compares
clashes. -/
theorem sweptRow_eq_swept_iff (nowBound : InCalendar now) (cutoffBound : InCalendar cutoff) :
    sweptRow (datetimeToWire now) (datetimeToWire cutoff) command.row = command.swept now cutoff ↔
      ¬ command.SweepClashes now cutoff := by
  rw [sweptRow_eq_sweptBy, TimedCommand.swept, TimedCommand.SweepClashes]
  cases sweepChoice (datetimeToWire now) command.row with
  | byExpiry isQueued notInFlight changed different choice =>
      rw [choice, choice, ite_eq_ite_iff_of_ne different, reached_expiresAt_iff nowBound]
      simp [isQueued, notInFlight]
  | byDispatch notQueued inFlight changed different choice =>
      rw [choice, choice, ite_eq_ite_iff_of_ne different, reached_dispatchedAt_iff cutoffBound]
      simp [notQueued, inFlight]
  | kept notQueued notInFlight choice =>
      rw [choice, choice]
      simp [notQueued, notInFlight]

/-! ## The dispatch -/

theorem expiredRow_eq_sweptBy (now : String) (row : CommandRow) :
    (if isExpiredQueued now row = true then expireRow now row else row) =
      sweptBy (reached row.expiresAt now) false now row := by
  simp [sweptBy, isExpiredQueued]

theorem expiredRow_eq_iff (nowBound : InCalendar now) :
    sweptBy (reached command.row.expiresAt (datetimeToWire now)) false (datetimeToWire now)
        command.row =
        sweptBy (hasCome command.expires now) false (datetimeToWire now) command.row ↔
      ¬ (command.row.status = queued.value ∧ Clashes command.expires now) := by
  cases sweepChoice (datetimeToWire now) command.row with
  | byExpiry isQueued notInFlight changed different choice =>
      rw [choice, choice, ite_eq_ite_iff_of_ne different, reached_expiresAt_iff nowBound]
      simp [isQueued]
  | byDispatch notQueued inFlight changed different choice =>
      rw [choice, choice]
      simp [notQueued]
  | kept notQueued notInFlight choice =>
      rw [choice, choice]
      simp [notQueued]

theorem isAvailable_iff (nowBound : InCalendar now) :
    isAvailable (datetimeToWire now) command.row =
        command.available.all (fun time => time ≤ now) ↔
      ¬ Clashes command.available now := by
  have bounds := command.availableInCalendar
  rw [isAvailable, command.availableAt_eq]
  cases isTime : command.available with
  | none => simp [Clashes]
  | some time =>
      rw [isTime] at bounds
      have order := wire_le_iff (bounds time rfl) nowBound
      simp only [Option.map_some, Option.all_some, Clashes, Option.mem_some, exists_eq_left',
        decide_eq_decide]
      exact order

theorem isUnexpired_iff (nowBound : InCalendar now) :
    isUnexpired (datetimeToWire now) command.row =
        command.expires.all (fun time => now < time) ↔
      ¬ Clashes command.expires now := by
  have bounds := command.expiresInCalendar
  rw [isUnexpired, command.expiresAt_eq]
  cases isTime : command.expires with
  | none => simp [Clashes]
  | some time =>
      rw [isTime] at bounds
      have order := wire_le_iff (bounds time rfl) nowBound
      simp only [Option.map_some, Option.all_some, Clashes, Option.mem_some, exists_eq_left',
        decide_eq_decide, ← not_le]
      rw [not_iff_not]
      exact order

end Comparisons

/-! ## The order of wire texts -/

/-- The order of wire texts, and with it every comparison of the sweep and of a dispatch, is the
order of the instants exactly where no whole second meets a fraction of it. -/
theorem wire_order_iff (left right : AwareDatetime) :
    ((left.wire ≤ right.wire ↔ left.utc ≤ right.utc) ↔
      ¬ WholeSecondClash left.utc right.utc) ∧
    (∀ (host : Host) (db written : Database) (counts : StaleCounts) (timeoutSec : Int)
      (now : Instant) (command : TimedCommand), InCalendar now →
      (max timeoutSec 1).toNat * microsPerSecond ≤ now →
      expireStaleGatewayCommands host db timeoutSec now = some (counts, written) →
      db.commands.find? command.row.commandId = some command.row →
      (written.commands.find? command.row.commandId =
          some (command.swept now (now - (max timeoutSec 1).toNat * microsPerSecond)) ↔
        ¬ command.SweepClashes now (now - (max timeoutSec 1).toNat * microsPerSecond))) ∧
    ∀ (commands : Table CommandRow) (now : Instant) (command : TimedCommand), InCalendar now →
      commands.find? command.row.commandId = some command.row →
      ((expireQueued commands (datetimeToWire now)).find? command.row.commandId =
          some (sweptBy (hasCome command.expires now) false (datetimeToWire now) command.row) ↔
        ¬ (command.row.status = queued.value ∧ Clashes command.expires now)) ∧
      (isAvailable (datetimeToWire now) command.row =
          command.available.all (fun time => time ≤ now) ↔ ¬ Clashes command.available now) ∧
      (isUnexpired (datetimeToWire now) command.row =
          command.expires.all (fun time => now < time) ↔ ¬ Clashes command.expires now) := by
  refine ⟨?_, ?_, ?_⟩
  · exact wire_le_iff left.utcInCalendar right.utcInCalendar
  · intro host db written counts timeoutSec now command nowBound _ success found
    have cutoffBound : InCalendar (now - (max timeoutSec 1).toNat * microsPerSecond) :=
      lt_of_le_of_lt (Nat.sub_le _ _) nowBound
    rw [expireStaleGatewayCommands_row found success, Option.some.injEq]
    exact sweptRow_eq_swept_iff nowBound cutoffBound
  · intro commands now command nowBound found
    refine ⟨?_, isAvailable_iff nowBound, isUnexpired_iff nowBound⟩
    rw [find?_expireQueued found, Option.some.injEq, expiredRow_eq_sweptBy]
    exact expiredRow_eq_iff nowBound

def wholeSecond : AwareDatetime where
  wall := 63903171600000000
  utcOffset := 32400000000
  wallInCalendar := by decide
  offsetBound := by decide
  utcNotBefore := by decide
  utcInCalendar := by decide

def halfSecondLater : AwareDatetime where
  wall := 63903139200500000
  utcOffset := 0
  wallInCalendar := by decide
  offsetBound := by decide
  utcNotBefore := by decide
  utcInCalendar := by decide

/-- The earlier of the two has the greater text. -/
theorem whole_second_after_its_half :
    ¬ ∀ left right : AwareDatetime, left.wire ≤ right.wire ↔ left.utc ≤ right.utc := by
  intro ordered
  have clash : WholeSecondClash wholeSecond.utc halfSecondLater.utc := by decide +kernel
  exact (wire_le_iff wholeSecond.utcInCalendar halfSecondLater.utcInCalendar).mp
    (ordered wholeSecond halfSecondLater) clash

end SuseokTrader
