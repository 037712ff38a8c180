import SuseokTrader.Lib.Text

/-!
# Timestamps

An instant is the number of microseconds since the first of January of year 1
in UTC. Its wire text is the ISO form the store keeps in every TEXT column:
the fraction is left out when it is zero, and the offset is written `Z`. The
store compares wire texts, not instants.
-/

namespace SuseokTrader

/-- Microseconds since 0001-01-01T00:00:00 UTC. -/
abbrev Instant := Nat

namespace Time

def microsPerSecond : Nat := 1000000

def microsPerDay : Nat := 86400 * microsPerSecond

def isLeap (year : Nat) : Bool :=
  year % 4 = 0 && (year % 100 ≠ 0 || year % 400 = 0)

def daysInMonth (year month : Nat) : Nat :=
  if month = 2 then if isLeap year then 29 else 28
  else if month = 4 ∨ month = 6 ∨ month = 9 ∨ month = 11 then 30
  else 31

def daysBeforeMonth : Nat → Nat
  | 1 => 0
  | 2 => 31
  | 3 => 59
  | 4 => 90
  | 5 => 120
  | 6 => 151
  | 7 => 181
  | 8 => 212
  | 9 => 243
  | 10 => 273
  | 11 => 304
  | _ => 334

def dayOf (year month day : Nat) : Nat :=
  let years := year - 1
  years * 365 + years / 4 - years / 100 + years / 400 + daysBeforeMonth month +
    (if month > 2 ∧ isLeap year then 1 else 0) + (day - 1)

/-- Year, month and day of a day number. -/
def civil (days : Nat) : Nat × Nat × Nat :=
  let n400 := days / 146097
  let n := days % 146097
  let n100 := n / 36524
  let n := n % 36524
  let n4 := n / 1461
  let n := n % 1461
  let n1 := n / 365
  let n := n % 365
  let year := n400 * 400 + 1 + n100 * 100 + n4 * 4 + n1
  if n1 = 4 ∨ n100 = 4 then (year - 1, 12, 31)
  else
    let leap : Bool := n1 = 3 && (n4 ≠ 24 || n100 = 3)
    let before := fun month => daysBeforeMonth month + (if month > 2 ∧ leap then 1 else 0)
    let guess := (n + 50) / 32
    let month := if before guess > n then guess - 1 else guess
    (year, month, n - before month + 1)

def pad (width n : Nat) : List Char :=
  let digits := Nat.toDigits 10 n
  List.replicate (width - digits.length) '0' ++ digits

def renderDate (days : Nat) : List Char :=
  let (year, month, day) := civil days
  pad 4 year ++ '-' :: (pad 2 month ++ '-' :: pad 2 day)

def renderClock (micros : Nat) : List Char :=
  let seconds := micros / microsPerSecond
  let fraction := micros % microsPerSecond
  pad 2 (seconds / 3600) ++ ':' :: (pad 2 (seconds / 60 % 60) ++ ':' :: pad 2 (seconds % 60)) ++
    if fraction = 0 then [] else '.' :: pad 6 fraction

end Time

/-- The wire text of an instant. -/
def datetimeToWire (value : Instant) : String :=
  String.ofList (Time.renderDate (value / Time.microsPerDay) ++
    'T' :: (Time.renderClock (value % Time.microsPerDay) ++ ['Z']))

/-- Today's trade date in the market's time zone, nine hours east of UTC. -/
def marketToday (now : Instant) : String :=
  String.ofList
    (Time.renderDate ((now + 9 * 3600 * Time.microsPerSecond) / Time.microsPerDay))

namespace Time

/-! ## Reading ISO texts -/

variable (cs : List Char)

def digitsValue : Option Nat :=
  if cs ≠ [] ∧ cs.all Char.isDigit then some (Nat.ofDigitChars 10 cs 0) else none

/-- A calendar date at the start of the text, in extended or basic form, and the rest. -/
def parseDate : Option (Nat × List Char) := do
  let extended := cs[4]? = some '-'
  let year ← digitsValue (cs.take 4)
  let month ← digitsValue ((cs.drop (if extended then 5 else 4)).take 2)
  let day ← digitsValue ((cs.drop (if extended then 8 else 6)).take 2)
  if extended ∧ cs[7]? ≠ some '-' then none
  else if cs.length < (if extended then 10 else 8) then none
  else if year < 1 ∨ month < 1 ∨ 12 < month ∨ day < 1 ∨ daysInMonth year month < day then none
  else some (dayOf year month day, cs.drop (if extended then 10 else 8))

/-- Hours, minutes, seconds and microseconds, as many as the text gives. -/
def parseClock : Option (Nat × Nat × Nat × Nat) := do
  let extended := cs[2]? = some ':'
  let hour ← digitsValue (cs.take 2)
  if cs.length < 2 then none
  else if cs.length = 2 then some (hour, 0, 0, 0)
  else do
    let cs := cs.drop (if extended then 3 else 2)
    let minute ← digitsValue (cs.take 2)
    if cs.length < 2 then none
    else if cs.length = 2 then some (hour, minute, 0, 0)
    else if extended ∧ cs[2]? ≠ some ':' then none
    else do
      let cs := cs.drop (if extended then 3 else 2)
      let second ← digitsValue (cs.take 2)
      if cs.length < 2 then none
      else
        match cs.drop 2 with
        | [] => some (hour, minute, second, 0)
        | point :: fraction => do
            let value ← digitsValue (fraction.take 6)
            if (point = '.' ∨ point = ',') ∧ fraction.all Char.isDigit then
              some (hour, minute, second, value * 10 ^ (6 - (fraction.take 6).length))
            else none

def clockMicros : Nat × Nat × Nat × Nat → Nat
  | (hour, minute, second, micro) =>
      ((hour * 60 + minute) * 60 + second) * microsPerSecond + micro

/-- The time of day and the offset from UTC, in microseconds. -/
def parseTime : Option (Nat × Int) := do
  let clock := cs.takeWhile fun c => c ≠ '-' && c ≠ '+' && c ≠ 'Z'
  let (hour, minute, second, micro) ← parseClock clock
  if 24 ≤ hour ∨ 60 ≤ minute ∨ 60 ≤ second then none
  else
    let time := clockMicros (hour, minute, second, micro)
    match cs.drop clock.length with
    | [] => some (time, 0)
    | ['Z'] => some (time, 0)
    | sign :: offset => do
        let shift ← parseClock offset
        if sign = 'Z' ∨ microsPerDay ≤ clockMicros shift then none
        else if sign = '-' then some (time, -(clockMicros shift : Int))
        else some (time, clockMicros shift)

def fromIsoformat (text : String) : Option Instant := do
  let (day, rest) ← parseDate text.toList
  match rest with
  | [] => some (day * microsPerDay)
  | _ :: clock => do
      let (time, offset) ← parseTime clock
      let local_ : Int := day * microsPerDay + time
      if local_ < offset then none else some (local_ - offset).toNat

end Time

example : datetimeToWire (Time.dayOf 2026 7 1 * Time.microsPerDay + 5000000) =
    "2026-07-01T00:00:05Z" := by decide

end SuseokTrader
