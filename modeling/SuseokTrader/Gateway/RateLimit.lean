import SuseokTrader.Broker.Utils
import SuseokTrader.Lib.Run
import SuseokTrader.Lib.Windows

/-!
# The rate limit of the broker calls

The governor is asked before a command and told of it after its broker call
returned. Its two deques keep the calls of the last second and of the last
hour. A call that raises is not told.
-/

namespace SuseokTrader

/-! ## The governor -/

structure RateLimitSettings where
  globalPerSecond : Rat
  hourlyLimit : Rat
  minIntervalSec : List (String × Rat)
  typeWeights : List (String × Rat)

namespace RateLimitSettings

variable (settings : RateLimitSettings)

def secondCap : Rat :=
  max settings.globalPerSecond (1 / 10)

def hourCap : Rat :=
  max settings.hourlyLimit 1

def defaultMinIntervalSec : List (String × Rat) :=
  [("request_tr", 1), ("broker_snapshot_request", 1), ("load_conditions", 1),
    ("send_condition", 1 / 5), ("send_order", 1 / 5), ("cancel_order", 1 / 5)]

def defaultTypeWeights : List (String × Rat) :=
  [("heartbeat_request", 0), ("register_realtime", 1), ("remove_realtime", 1), ("request_tr", 1),
    ("broker_snapshot_request", 3), ("load_conditions", 1), ("send_condition", 1),
    ("stop_condition", 1), ("send_order", 1), ("cancel_order", 1)]

/-- The least time between two calls of a type. -/
def interval (commandType : String) : Rat :=
  max (((settings.minIntervalSec ++ defaultMinIntervalSec).lookup commandType).getD 0) 0

def weight (commandType : String) : Rat :=
  max (((settings.typeWeights ++ defaultTypeWeights).lookup commandType).getD 1) 0

end RateLimitSettings

structure CallMark where
  time : Rat
  weight : Rat

structure Governor where
  lastCallAt : String → Option Rat
  secondCalls : List CallMark
  hourlyCalls : List CallMark

structure GovernorDecision where
  allowed : Bool
  waitTimeSec : Rat
  reason : String
deriving DecidableEq

def hourSec : Rat := 3600

namespace Governor

variable (settings : RateLimitSettings) (governor : Governor)

def empty : Governor where
  lastCallAt := fun _ => none
  secondCalls := []
  hourlyCalls := []

def trim (now : Rat) : Governor :=
  { governor with
    secondCalls := Window.expire CallMark.time (now - 1) governor.secondCalls
    hourlyCalls := Window.expire CallMark.time (now - hourSec) governor.hourlyCalls }

def windowWait (calls : List CallMark) (length cap weight now : Rat) : Option Rat :=
  match calls with
  | [] => none
  | first :: _ =>
      if cap < Window.total CallMark.weight calls + weight then some (first.time + length - now)
      else none

variable (commandType : String)

def intervalWait (now : Rat) : Option Rat :=
  (governor.lastCallAt commandType).map fun lastAt =>
    settings.interval commandType - (now - lastAt)

/-- The waits that are left, with their reasons. -/
def waits (now : Rat) : List (Rat × String) :=
  let weight := settings.weight commandType
  ([(governor.intervalWait settings commandType now, "type_min_interval"),
    (windowWait governor.secondCalls 1 settings.secondCap weight now, "global_per_second"),
    (windowWait governor.hourlyCalls hourSec settings.hourCap weight now,
      "hourly_rolling_limit")].filterMap fun wait => wait.1.map fun left => (left, wait.2)).filter
        fun wait => 0 < wait.1

def longest : List (Rat × String) → Option (Rat × String)
  | [] => none
  | wait :: rest =>
      match longest rest with
      | some other => if wait.1 < other.1 then some other else some wait
      | none => some wait

def check (now : Rat) : Governor × GovernorDecision :=
  if settings.weight commandType ≤ 0 then
    (governor, { allowed := true, waitTimeSec := 0, reason := "" })
  else
    let trimmed := governor.trim now
    let waits := (trimmed.waits settings commandType now).map fun wait =>
      (max wait.1 (1 / 1000), wait.2)
    (trimmed, match longest waits with
      | none => { allowed := true, waitTimeSec := 0, reason := "" }
      | some (wait, reason) => { allowed := false, waitTimeSec := wait, reason := reason })

def record (now : Rat) : Governor :=
  let weight := settings.weight commandType
  if weight ≤ 0 then governor
  else
    let trimmed := governor.trim now
    { lastCallAt := fun other =>
        if other = commandType then some now else trimmed.lastCallAt other
      secondCalls := trimmed.secondCalls ++ [{ time := now, weight := weight }]
      hourlyCalls := trimmed.hourlyCalls ++ [{ time := now, weight := weight }] }

end Governor

/-! ## Handling commands -/

/-- What comes of a command that the governor lets through. An order that is refused before its
call is not recorded; any other command is once it is answered. -/
inductive BrokerOutcome where
  | withoutCall (recordedAt : Option Rat)
  | returned (calledAt recordedAt : Rat)
  | raised (calledAt : Rat)

/-- A command that comes to the governor, its type in lower case. -/
structure HandledCommand where
  commandType : String
  checkedAt : Rat
  outcome : BrokerOutcome

/-- A command that was let through, with the readings of the clock: for the check, for its broker
call where it made one, and for its record. -/
structure AdmittedCommand where
  commandType : String
  weight : Rat
  checkedAt : Rat
  calledAt : Option Rat
  recordedAt : Option Rat

variable (settings : RateLimitSettings)

def HandledCommand.admitted (command : HandledCommand) :
    AdmittedCommand :=
  let (calledAt, recordedAt) := match command.outcome with
    | .withoutCall recordedAt => (none, recordedAt)
    | .returned calledAt recordedAt => (some calledAt, some recordedAt)
    | .raised calledAt => (some calledAt, none)
  { commandType := command.commandType
    weight := settings.weight command.commandType
    checkedAt := command.checkedAt
    calledAt := calledAt
    recordedAt := recordedAt }

def AdmittedCommand.endedAt (admitted : AdmittedCommand) : Rat :=
  (admitted.recordedAt.or admitted.calledAt).getD admitted.checkedAt

structure GovernedState where
  governor : Governor
  clock : Rat
  admitted : List AdmittedCommand

def handleNext (state : GovernedState) (command : HandledCommand) :
    GovernedState :=
  let (governor, decision) :=
    state.governor.check settings command.commandType command.checkedAt
  if decision.allowed then
    let admitted := command.admitted settings
    { governor := match admitted.recordedAt with
        | some recordedAt => governor.record settings command.commandType recordedAt
        | none => governor
      clock := admitted.endedAt
      admitted := state.admitted ++ [admitted] }
  else { state with governor := governor, clock := command.checkedAt }

def governedSystem : System GovernedState HandledCommand Unit :=
  .ofStep (handleNext settings)

def governedStart (clock : Rat) : GovernedState where
  governor := .empty
  clock := clock
  admitted := []

def BrokerOutcome.follows (checkedAt : Rat) : BrokerOutcome → Prop
  | .withoutCall recordedAt => ∀ read ∈ recordedAt, checkedAt ≤ read
  | .returned calledAt recordedAt => checkedAt ≤ calledAt ∧ calledAt ≤ recordedAt
  | .raised calledAt => checkedAt ≤ calledAt

/-- The clock does not go back. -/
def ClockAdvances (state : GovernedState) (command : HandledCommand) : Prop :=
  state.clock ≤ command.checkedAt ∧ command.outcome.follows command.checkedAt

end SuseokTrader
