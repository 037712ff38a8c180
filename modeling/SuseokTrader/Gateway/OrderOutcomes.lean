import SuseokTrader.Gateway.OrderHandling

/-!
# What becomes of an order

The gateway claims a command, hands it to its handler and emits the events the
handler returns; what the handler raises becomes a failed command. The law asks
for one call at most, behind the checks, and for one outcome that tells what
the broker did with the order.
-/

namespace SuseokTrader

/-! ## Traces -/

namespace OrderAction

def call : OrderAction → Option KiwoomOrderRequest
  | calls request => some request
  | emits _ | posts _ => none

def emitted : OrderAction → Option EmittedEvent
  | emits event => some event
  | posts _ | calls _ => none

end OrderAction

def brokerCalls (actions : List OrderAction) : List KiwoomOrderRequest :=
  actions.filterMap OrderAction.call

def beforeCall (actions : List OrderAction) : List OrderAction :=
  actions.takeWhile fun action => action.call.isNone

def orderOutcomes : List String :=
  ["command_ack", "command_failed", "order_broker_unconfirmed", "rate_limited"]

def EmittedEvent.outcomeOf (command : GatewayCommand) (event : EmittedEvent) : Option String :=
  if event.commandId = some command.commandId ∧ event.eventType ∈ orderOutcomes then
    some event.eventType
  else none

def outcomes (command : GatewayCommand) (actions : List OrderAction) : List String :=
  (actions.filterMap OrderAction.emitted).filterMap (EmittedEvent.outcomeOf command)

@[simp]
theorem brokerCalls_nil : brokerCalls [] = [] :=
  rfl

@[simp]
theorem brokerCalls_append (actions others : List OrderAction) :
    brokerCalls (actions ++ others) = brokerCalls actions ++ brokerCalls others :=
  List.filterMap_append

@[simp]
theorem brokerCalls_emits (event : EmittedEvent) (actions : List OrderAction) :
    brokerCalls (.emits event :: actions) = brokerCalls actions :=
  rfl

@[simp]
theorem brokerCalls_posts (event : EmittedEvent) (actions : List OrderAction) :
    brokerCalls (.posts event :: actions) = brokerCalls actions :=
  rfl

@[simp]
theorem brokerCalls_calls (request : KiwoomOrderRequest) (actions : List OrderAction) :
    brokerCalls (.calls request :: actions) = request :: brokerCalls actions :=
  rfl

@[simp]
theorem brokerCalls_map_emits (events : List EmittedEvent) :
    brokerCalls (events.map .emits) = [] := by
  induction events with
  | nil => rfl
  | cons event events ih => simpa using ih

variable {actions before : List OrderAction} {outcome : String} {Value : Type}

theorem beforeCall_append (uncalled : brokerCalls actions = []) (request : KiwoomOrderRequest)
    (others : List OrderAction) :
    beforeCall (actions ++ .calls request :: others) = actions := by
  have passes : ∀ action ∈ actions, action.call.isNone := by
    intro action present
    rw [Option.isNone_iff_eq_none]
    exact List.filterMap_eq_nil_iff.mp uncalled action present
  unfold beforeCall
  rw [List.takeWhile_append_of_pos passes, List.takeWhile_cons_of_neg (by simp [OrderAction.call]),
    List.append_nil]

variable {command : GatewayCommand}

@[simp]
theorem outcomes_nil : outcomes command [] = [] :=
  rfl

@[simp]
theorem outcomes_append (actions others : List OrderAction) :
    outcomes command (actions ++ others) = outcomes command actions ++ outcomes command others := by
  simp [outcomes]

@[simp]
theorem outcomes_emits (event : EmittedEvent) (actions : List OrderAction) :
    outcomes command (.emits event :: actions) =
      (event.outcomeOf command).toList ++ outcomes command actions := by
  cases ends : event.outcomeOf command <;> simp [outcomes, OrderAction.emitted, ends]

@[simp]
theorem outcomes_posts (event : EmittedEvent) (actions : List OrderAction) :
    outcomes command (.posts event :: actions) = outcomes command actions :=
  rfl

@[simp]
theorem outcomes_calls (request : KiwoomOrderRequest) (actions : List OrderAction) :
    outcomes command (.calls request :: actions) = outcomes command actions :=
  rfl

@[simp]
theorem outcomeOf_commandStartedEvent :
    (commandStartedEvent command).outcomeOf command = none := by
  simp [EmittedEvent.outcomeOf, orderOutcomes, commandStartedEvent, commandEvent]

variable (message : String)

@[simp]
theorem outcomeOf_commandFailedEvent :
    (commandFailedEvent command message).outcomeOf command = some "command_failed" := by
  simp [EmittedEvent.outcomeOf, orderOutcomes, commandFailedEvent, commandEvent]

@[simp]
theorem outcomeOf_commandAckEvent (details : Payload) :
    (commandAckEvent command message details).outcomeOf command = some "command_ack" := by
  simp [EmittedEvent.outcomeOf, orderOutcomes, commandAckEvent, commandEvent]

@[simp]
theorem outcomeOf_rateLimitedEvent (decision : RateLimitDecision) :
    (rateLimitedEvent command decision).outcomeOf command = some "rate_limited" := by
  simp [EmittedEvent.outcomeOf, orderOutcomes, rateLimitedEvent, commandEvent]

@[simp]
theorem outcomeOf_orderBrokerUnconfirmedEvent :
    (orderBrokerUnconfirmedEvent command message).outcomeOf command =
      some "order_broker_unconfirmed" := by
  simp [EmittedEvent.outcomeOf, orderOutcomes, orderBrokerUnconfirmedEvent, commandEvent]

@[simp]
theorem outcomeOf_gatewayErrorEvent :
    (gatewayErrorEvent command message).outcomeOf command = none := by
  simp [EmittedEvent.outcomeOf, gatewayErrorEvent]

/-! ## The runtime -/

def startedOrTerminal : List String :=
  ["command_started", "command_ack", "command_failed", "rate_limited", "order_broker_unconfirmed"]

def clearsClaim (command : GatewayCommand) (event : EmittedEvent) : Bool :=
  event.commandId.getD "" = command.commandId ∧
    Text.lower (Text.strip event.eventType) ∈ startedOrTerminal

structure GatewayRuntime where
  claimed : List GatewayCommand

namespace GatewayRuntime

def initial : GatewayRuntime where
  claimed := []

variable (runtime : GatewayRuntime)

variable (command : GatewayCommand)

def claim : GatewayRuntime where
  claimed :=
    if runtime.claimed.any (·.commandId = command.commandId) then
      runtime.claimed.map fun other =>
        if other.commandId = command.commandId then command else other
    else runtime.claimed ++ [command]

def release : GatewayRuntime where
  claimed := runtime.claimed.filter (·.commandId ≠ command.commandId)

def clearClaimedCommandIfStartedOrTerminal (events : List EmittedEvent) : GatewayRuntime :=
  if events.any (clearsClaim command) then runtime.release command else runtime

end GatewayRuntime

structure OrderArrival where
  command : GatewayCommand
  kind : OrderKind
  surroundings : OrderSurroundings
  isKind : normalizeCommandType command.commandType = kind.handling.commandType

inductive RuntimeOp where
  | handleCommand (arrival : OrderArrival)
  | failUnstartedInflightCommands (queued : List GatewayCommand) (reason : String)

def concludeCommand (command : GatewayCommand) :
    Except Failure (List EmittedEvent) → List OrderAction
  | .ok events => events.map .emits
  | .error failure =>
      [.emits (commandFailedEvent command failure.text),
        .emits (gatewayErrorEvent command failure.text)]

variable (host : Host)

def OrderArrival.program (arrival : OrderArrival) :
    OrderProgram (List EmittedEvent) :=
  handleOrderCommand host arrival.surroundings arrival.kind arrival.command

variable (runtime : GatewayRuntime)

/-- One command of `handle_commands` -/
def handleCommand (arrival : OrderArrival) :
    GatewayRuntime × List OrderAction :=
  let claimed := runtime.claim arrival.command
  let program := arrival.program host
  (match program.result with
    | .ok events => claimed.clearClaimedCommandIfStartedOrTerminal arrival.command events
    | .error _ => claimed.release arrival.command,
    program.finish (concludeCommand arrival.command))

def firstOfEach (seen : List String) : List GatewayCommand → List GatewayCommand
  | [] => []
  | command :: commands =>
      if command.commandId ∈ seen then firstOfEach seen commands
      else command :: firstOfEach (command.commandId :: seen) commands

def failUnstartedInflightCommands (queued : List GatewayCommand)
    (reason : String) : GatewayRuntime × List OrderAction :=
  ({ claimed := [] }, (firstOfEach [] (runtime.claimed ++ queued)).map fun command =>
    .emits (commandFailedEvent command reason))

def gatewayRuntime (host : Host) : System GatewayRuntime RuntimeOp (List OrderAction) where
  step runtime op :=
    match op with
    | .handleCommand arrival => handleCommand host runtime arrival
    | .failUnstartedInflightCommands queued reason =>
        failUnstartedInflightCommands runtime queued reason

/-! ## The law -/

/-- What is done for a command is checked before the broker is called, and tells one truth. -/
structure Truthful (host : Host) (arrival : OrderArrival) (actions : List OrderAction) : Prop where
  calledOnce : (brokerCalls actions).length ≤ 1
  simulated : brokerCalls actions ≠ [] → arrival.surroundings.actualBrokerEnv host = "SIMULATION"
  unexpired : brokerCalls actions ≠ [] →
    arrival.command.commandExpired arrival.surroundings.now = false
  recorded : brokerCalls actions ≠ [] →
    ∃ event fields, .posts event ∈ beforeCall actions ∧ event.eventType = "order_pre_ack" ∧
      event.commandId = some arrival.command.commandId ∧
      arrival.surroundings.durablePreAck = some (.ok (.obj fields)) ∧
      (Json.get fields "accepted").isTrue = true ∧
      (Json.get fields "durable_pre_ack_recorded").isTrue = true
  oneOutcome : ∃ outcome, outcomes arrival.command actions = [outcome]
  failed : "command_failed" ∈ outcomes arrival.command actions →
    brokerCalls actions = [] ∨
      ∃ result, arrival.surroundings.broker = .ok result ∧ result.ok = false
  raised : ∀ failure, brokerCalls actions ≠ [] → arrival.surroundings.broker = .error failure →
    outcomes arrival.command actions = ["order_broker_unconfirmed"]

/-- A command of the run is handled truthfully, and no other outcome is emitted for it. -/
def TruthfulStep : RuntimeOp → Prop
  | .handleCommand arrival => Truthful host arrival (handleCommand host runtime arrival).2
  | .failUnstartedInflightCommands queued reason =>
      ∀ action ∈ (failUnstartedInflightCommands runtime queued reason).2,
        ∃ command ∈ queued, action = .emits (commandFailedEvent command reason)

/-! ## The condition -/

/-- The order is read, announced and put on record. -/
structure PutOnRecord (host : Host) (arrival : OrderArrival) : Prop where
  requested : ∃ request, arrival.kind.handling.request host arrival.command = .ok request
  announced : ∀ failure, arrival.surroundings.asyncEvents ≠ some (.error failure)
  journaled : arrival.surroundings.journals OrderJournal.preAck = .ok ()
  confirmed : ∃ response, arrival.surroundings.durablePreAck = some (.ok response) ∧
    OrderSurroundings.preAckRefusal response = none

/-- All checks before the call are passed. -/
structure ReachesBroker (host : Host) (arrival : OrderArrival) : Prop extends
    PutOnRecord host arrival where
  unexpired : arrival.command.commandExpired arrival.surroundings.now = false
  allowed : validateCommandTypeAllowed host arrival.kind.handling.commandType
    (some arrival.command) = none
  simulated : arrival.surroundings.actualBrokerEnv host = "SIMULATION"
  unlimited : arrival.surroundings.rateLimit.allowed = true

/-- What follows the call does not fail where that would hide the answer of the broker. -/
def AnswerRecorded (arrival : OrderArrival) : Prop :=
  match arrival.surroundings.broker with
  | .error _ => arrival.surroundings.journals OrderJournal.unconfirmed = .ok ()
  | .ok result => result.ok = true →
      match arrival.surroundings.journals OrderJournal.brokerResult with
      | .error _ => arrival.surroundings.journals OrderJournal.unconfirmed = .ok ()
      | .ok _ => arrival.kind.handling.acknowledged arrival.surroundings = .ok ()

def RecordsAnswer (_ : GatewayRuntime) : RuntimeOp → Prop
  | .handleCommand arrival => ReachesBroker host arrival → AnswerRecorded arrival
  | .failUnstartedInflightCommands _ _ => True

/-! ## What a handler does -/

def SettledUncalled (command : GatewayCommand) (actions : List OrderAction) : Prop :=
  brokerCalls actions = [] ∧ ∃ outcome, outcomes command actions = [outcome]

variable (surroundings : OrderSurroundings)

def OrderSurroundings.brokerAnswer :
    Checked KiwoomOrderResult := do
  let result ← surroundings.broker
  surroundings.journals OrderJournal.brokerResult
  return result

/-- The outcome of a command whose order has been sent. -/
def answerOutcome (handling : OrderHandling) : String :=
  match surroundings.brokerAnswer with
  | .error _ =>
      match surroundings.journals OrderJournal.unconfirmed with
      | .ok _ => "order_broker_unconfirmed"
      | .error _ => "command_failed"
  | .ok result =>
      if result.ok then
        match handling.acknowledged surroundings with
        | .ok _ => "command_ack"
        | .error _ => "command_failed"
      else "command_failed"

/-- The broker is called once, after the pre-acknowledgement, and its answer is the outcome. -/
def CalledOnRecord (arrival : OrderArrival) (actions : List OrderAction) : Prop :=
  ∃ before event request after, actions = before ++ .calls request :: after ∧
    brokerCalls before = [] ∧ brokerCalls after = [] ∧ .posts event ∈ before ∧
    event.eventType = "order_pre_ack" ∧ event.commandId = some arrival.command.commandId ∧
    outcomes arrival.command actions =
      [answerOutcome arrival.surroundings arrival.kind.handling]

theorem brokerCalls_concludeCommand (result : Except Failure (List EmittedEvent)) :
    brokerCalls (concludeCommand command result) = [] := by
  cases result with
  | ok events => exact brokerCalls_map_emits events
  | error failure => rfl

theorem outcomes_concludeCommand_error (failure : Failure) :
    outcomes command (concludeCommand command (.error failure)) = ["command_failed"] := by
  simp [concludeCommand]

theorem settledUncalled_of_error (uncalled : brokerCalls before = [])
    (quiet : outcomes command before = []) (failure : Failure) :
    SettledUncalled command (before ++ concludeCommand command (.error failure)) := by
  refine ⟨?_, "command_failed", ?_⟩
  · rw [brokerCalls_append, uncalled]
    rfl
  · rw [outcomes_append, quiet, outcomes_concludeCommand_error]
    rfl

theorem finish_emitBeforeBlockingCall (event : EmittedEvent)
    (rest : List EmittedEvent → OrderProgram (List EmittedEvent))
    (conclude : Except Failure (List EmittedEvent) → List OrderAction) :
    (∃ failure, surroundings.asyncEvents = some (.error failure) ∧
      (surroundings.emitBeforeBlockingCall event >>= rest).finish conclude =
        [.emits event] ++ conclude (.error failure)) ∨
    ((∀ failure, surroundings.asyncEvents ≠ some (.error failure)) ∧
      ∃ before started, before ++ started.map OrderAction.emits = [.emits event] ∧
        (surroundings.emitBeforeBlockingCall event >>= rest).finish conclude =
          before ++ (rest started).finish conclude) := by
  unfold OrderSurroundings.emitBeforeBlockingCall
  cases surroundings.asyncEvents with
  | none => exact Or.inr ⟨by simp, [], [event], rfl, by simp⟩
  | some outcome =>
      cases outcome with
      | error failure => exact Or.inl ⟨failure, rfl, by simp⟩
      | ok value => exact Or.inr ⟨by simp, [.emits event], [], rfl, by simp⟩

theorem attempt_call (request : KiwoomOrderRequest) :
    (do
      Traced.act (.calls request)
      let result ← Traced.lift surroundings.broker
      Traced.lift (surroundings.journals OrderJournal.brokerResult)
      return result : OrderProgram KiwoomOrderResult) =
    ⟨[.calls request], surroundings.brokerAnswer⟩ := by
  unfold OrderSurroundings.brokerAnswer
  cases surroundings.broker with
  | error failure => rfl
  | ok result =>
      cases surroundings.journals OrderJournal.brokerResult with
      | error failure => rfl
      | ok value => rfl

variable (handling : OrderHandling)

theorem finish_callBroker
    (command : GatewayCommand) (request : KiwoomOrderRequest) (started : List EmittedEvent) :
    ∃ after,
      (callBroker surroundings handling command request started).finish (concludeCommand command) =
        .calls request :: after ∧
      brokerCalls after = [] ∧
      (outcomes command (started.map .emits) = [] →
        outcomes command after = [answerOutcome surroundings handling]) := by
  rw [callBroker, attempt_call, Traced.finish_attempt_bind]
  refine ⟨_, rfl, ?_, ?_⟩
  · cases surroundings.brokerAnswer with
    | error failure =>
        cases surroundings.journals OrderJournal.unconfirmed with
        | error failure => simp [brokerCalls_concludeCommand]
        | ok value => simp [brokerCalls_concludeCommand]
    | ok result =>
        cases accepted : result.ok with
        | false => simp [accepted, brokerCalls_concludeCommand]
        | true =>
            cases handling.acknowledged surroundings with
            | error failure => simp [accepted, brokerCalls_concludeCommand]
            | ok value => simp [accepted, brokerCalls_concludeCommand]
  · intro quiet
    unfold answerOutcome
    cases surroundings.brokerAnswer with
    | error failure =>
        cases surroundings.journals OrderJournal.unconfirmed with
        | error failure => simp [outcomes_concludeCommand_error]
        | ok value => simp [concludeCommand, quiet]
    | ok result =>
        cases accepted : result.ok with
        | false => simp [accepted, concludeCommand, quiet]
        | true =>
            cases handling.acknowledged surroundings with
            | error failure => simp [accepted, outcomes_concludeCommand_error]
            | ok value => simp [accepted, concludeCommand, quiet]

/-- Putting the pre-acknowledgement on record fails, is refused or lets the order through. -/
theorem finish_recordDurablePreAck (command : GatewayCommand) (request : KiwoomOrderRequest)
    (rest : Option String → OrderProgram (List EmittedEvent))
    (conclude : Except Failure (List EmittedEvent) → List OrderAction) :
    (∃ failure, surroundings.journals OrderJournal.preAck = .error failure ∧
      (surroundings.recordDurablePreAck host command request >>= rest).finish conclude =
        conclude (.error failure)) ∨
    (∃ before refusal, brokerCalls before = [] ∧ outcomes command before = [] ∧
      (¬ ∃ response, surroundings.durablePreAck = some (.ok response) ∧
        OrderSurroundings.preAckRefusal response = none) ∧
      (surroundings.recordDurablePreAck host command request >>= rest).finish conclude =
        before ++ (rest (some refusal)).finish conclude) ∨
    (surroundings.journals OrderJournal.preAck = .ok () ∧
      (∃ response, surroundings.durablePreAck = some (.ok response) ∧
        OrderSurroundings.preAckRefusal response = none) ∧
      (surroundings.recordDurablePreAck host command request >>= rest).finish conclude =
        .posts (orderPreAckEvent command request (surroundings.actualBrokerEnv host)) ::
          (rest none).finish conclude) := by
  unfold OrderSurroundings.recordDurablePreAck
  cases surroundings.journals OrderJournal.preAck with
  | error failure => exact Or.inl ⟨failure, rfl, by simp⟩
  | ok value =>
      right
      cases surroundings.durablePreAck with
      | none =>
          exact Or.inl ⟨[], "DURABLE_DB_PRE_ACK_FAILED: callback is not configured", rfl, rfl,
            by simp, by simp⟩
      | some answer =>
          cases answer with
          | error failure =>
              refine Or.inl ⟨[.posts (orderPreAckEvent command request
                  (surroundings.actualBrokerEnv host))],
                "DURABLE_DB_PRE_ACK_FAILED: " ++ failure.text, rfl, rfl, by simp, by simp⟩
          | ok response =>
              cases lets : OrderSurroundings.preAckRefusal response with
              | none => exact Or.inr ⟨rfl, ⟨response, rfl, lets⟩, by simp [lets]⟩
              | some refusal =>
                  refine Or.inl ⟨[.posts (orderPreAckEvent command request
                      (surroundings.actualBrokerEnv host))], refusal, rfl, rfl,
                    by simp [lets], by simp [lets]⟩

theorem settledUncalled_of_failed {started : List EmittedEvent}
    (uncalled : brokerCalls before = [])
    (quiet : outcomes command (before ++ started.map .emits) = []) (event : EmittedEvent)
    (settles : event.outcomeOf command = some outcome) :
    SettledUncalled command
      (before ++ concludeCommand command (.ok (started ++ [event]))) := by
  refine ⟨?_, outcome, ?_⟩
  · rw [brokerCalls_append, uncalled, brokerCalls_concludeCommand]
    rfl
  · rw [concludeCommand, List.map_append, ← List.append_assoc, outcomes_append, quiet]
    simp [settles]

theorem quiet_of_started {started : List EmittedEvent}
    (split : before ++ started.map OrderAction.emits = [.emits (commandStartedEvent command)]) :
    brokerCalls before = [] ∧ outcomes command before = [] ∧
      outcomes command (started.map .emits) = [] := by
  have calls : brokerCalls (before ++ started.map OrderAction.emits) = [] := by
    rw [split]
    rfl
  have quiet : outcomes command (before ++ started.map OrderAction.emits) = [] := by
    rw [split]
    simp
  rw [brokerCalls_append, List.append_eq_nil_iff] at calls
  rw [outcomes_append, List.append_eq_nil_iff] at quiet
  exact ⟨calls.1, quiet⟩

/-- An order that has passed the first checks is settled without a call, or it is put on record
and sent. -/
theorem sendToBroker_cases (host : Host) (arrival : OrderArrival) :
    let actions := (sendToBroker host arrival.surroundings arrival.kind.handling
      arrival.command).finish (concludeCommand arrival.command)
    (SettledUncalled arrival.command actions ∧ ¬ PutOnRecord host arrival) ∨
    (CalledOnRecord arrival actions ∧ PutOnRecord host arrival) := by
  intro actions
  cases requested : arrival.kind.handling.request host arrival.command with
  | error failure =>
      refine Or.inl ⟨?_, fun record => by simpa [requested] using record.requested⟩
      simp only [actions, sendToBroker, requested]
      exact @settledUncalled_of_error [] arrival.command rfl rfl failure
  | ok request =>
      simp only [actions, sendToBroker, requested, Traced.finish_lift_ok_bind]
      rcases finish_emitBeforeBlockingCall arrival.surroundings
          (commandStartedEvent arrival.command) _ (concludeCommand arrival.command) with
        ⟨failure, raises, ends⟩ | ⟨announced, before, started, split, ends⟩
      · rw [ends]
        refine Or.inl ⟨settledUncalled_of_error rfl (by simp) failure, ?_⟩
        intro record
        exact record.announced failure raises
      · rw [ends]
        rcases quiet_of_started split with ⟨uncalled, quiet, quietStarted⟩
        rcases finish_recordDurablePreAck host arrival.surroundings arrival.command request _
            (concludeCommand arrival.command) with
          ⟨failure, raises, ends⟩ | ⟨posted, refusal, postedCalls, postedQuiet, refused, ends⟩ |
            ⟨journaled, confirmed, ends⟩
        · rw [ends]
          refine Or.inl ⟨settledUncalled_of_error uncalled quiet failure, ?_⟩
          intro record
          have journaled := record.journaled
          rw [raises] at journaled
          cases journaled
        · rw [ends, ← List.append_assoc]
          refine Or.inl ⟨?_, fun record => refused record.confirmed⟩
          have calls : brokerCalls (before ++ posted) = [] := by
            rw [brokerCalls_append, uncalled, postedCalls]
            rfl
          have silent : outcomes arrival.command (before ++ posted) = [] := by
            rw [outcomes_append, quiet, postedQuiet]
            rfl
          cases arrival.surroundings.journals OrderJournal.failed with
          | error failure =>
              exact settledUncalled_of_error calls silent failure
          | ok value =>
              apply settledUncalled_of_failed calls _ _ (outcomeOf_commandFailedEvent refusal)
              rw [outcomes_append, silent, quietStarted]
              rfl
        · rw [ends]
          refine Or.inr ⟨?_, ⟨request, requested⟩, announced, journaled, confirmed⟩
          rcases finish_callBroker arrival.surroundings arrival.kind.handling arrival.command
              request started with
            ⟨after, ends, afterCalls, answers⟩
          refine ⟨before ++ [.posts (orderPreAckEvent arrival.command request
              (arrival.surroundings.actualBrokerEnv host))], _, request, after, ?_, ?_,
            afterCalls, List.mem_append_right _ List.mem_cons_self, rfl, rfl, ?_⟩
          · rw [ends, List.append_assoc]
            rfl
          · rw [brokerCalls_append, uncalled]
            rfl
          · rw [ends, outcomes_append, quiet]
            simpa using answers quietStarted

theorem settledUncalled_of_failedEvent :
    SettledUncalled command (concludeCommand command (.ok [commandFailedEvent command message])) :=
  @settledUncalled_of_failed [] _ command [] rfl rfl _ (outcomeOf_commandFailedEvent message)

theorem handleOrder_cases (host : Host) (arrival : OrderArrival)
    (unexpired : arrival.command.commandExpired arrival.surroundings.now = false) :
    let actions := (handleOrder host arrival.surroundings arrival.kind.handling
      arrival.command).finish (concludeCommand arrival.command)
    (SettledUncalled arrival.command actions ∧ ¬ ReachesBroker host arrival) ∨
    (CalledOnRecord arrival actions ∧ ReachesBroker host arrival) := by
  intro actions
  cases allowed : validateCommandTypeAllowed host arrival.kind.handling.commandType
      (some arrival.command) with
  | some refusal =>
      simp only [actions, handleOrder, allowed]
      refine Or.inl ⟨settledUncalled_of_failedEvent refusal, ?_⟩
      intro reaches
      simpa [allowed] using reaches.allowed
  | none =>
      by_cases simulated : arrival.surroundings.actualBrokerEnv host = "SIMULATION"
      · by_cases unlimited : arrival.surroundings.rateLimit.allowed = true
        · simp only [actions, handleOrder, allowed, simulated, unlimited, if_true, ne_eq,
            not_true_eq_false, if_false]
          rcases sendToBroker_cases host arrival with ⟨settled, record⟩ | ⟨called, record⟩
          · exact Or.inl ⟨settled, fun reaches => record reaches.toPutOnRecord⟩
          · exact Or.inr ⟨called, record, unexpired, allowed, simulated, unlimited⟩
        · refine Or.inl ⟨?_, fun reaches => unlimited reaches.unlimited⟩
          simp only [actions, handleOrder, allowed, simulated, unlimited, ne_eq,
            not_true_eq_false, if_false, Bool.false_eq_true]
          rcases finish_emitBeforeBlockingCall arrival.surroundings
              (commandStartedEvent arrival.command) _ (concludeCommand arrival.command) with
            ⟨failure, _, ends⟩ | ⟨_, before, started, split, ends⟩
          · rw [ends]
            exact settledUncalled_of_error rfl (by simp) failure
          · rw [ends]
            rcases quiet_of_started split with ⟨uncalled, quiet, quietStarted⟩
            apply settledUncalled_of_failed uncalled _ _ (outcomeOf_rateLimitedEvent _)
            rw [outcomes_append, quiet, quietStarted]
            rfl
      · simp only [actions, handleOrder, allowed, simulated, ne_eq, not_false_eq_true, if_true,
          Traced.finish_pure]
        exact Or.inl ⟨settledUncalled_of_failedEvent _, fun reaches => simulated reaches.simulated⟩

theorem handleCommand_cases (host : Host) (runtime : GatewayRuntime) (arrival : OrderArrival) :
    (SettledUncalled arrival.command (handleCommand host runtime arrival).2 ∧
      ¬ ReachesBroker host arrival) ∨
    (CalledOnRecord arrival (handleCommand host runtime arrival).2 ∧
      ReachesBroker host arrival) := by
  unfold handleCommand OrderArrival.program handleOrderCommand
  cases expired : arrival.command.commandExpired arrival.surroundings.now with
  | true =>
      refine Or.inl ⟨settledUncalled_of_failedEvent _, ?_⟩
      intro reaches
      simpa [expired] using reaches.unexpired
  | false => exact handleOrder_cases host arrival expired

/-! ## When the law holds -/

variable {arrival : OrderArrival}

theorem Truthful.of_settledUncalled {host : Host}
    (settled : SettledUncalled arrival.command actions) :
    Truthful host arrival actions := by
  rcases settled with ⟨uncalled, oneOutcome⟩
  exact {
    calledOnce := by simp [uncalled]
    simulated := fun called => absurd uncalled called
    unexpired := fun called => absurd uncalled called
    recorded := fun called => absurd uncalled called
    oneOutcome := oneOutcome
    failed := fun _ => Or.inl uncalled
    raised := fun _ called => absurd uncalled called }

theorem Json.eq_obj_of_asObject {value : Json} {fields : List (String × Json)}
    (object : value.asObject = some fields) : value = .obj fields := by
  cases value <;> simp_all [Json.asObject]

theorem preAckRefusal_eq_none {response : Json}
    (confirmed : OrderSurroundings.preAckRefusal response = none) :
    ∃ fields, response = .obj fields ∧ (Json.get fields "accepted").isTrue = true ∧
      (Json.get fields "durable_pre_ack_recorded").isTrue = true := by
  unfold OrderSurroundings.preAckRefusal at confirmed
  cases object : response.asObject with
  | none => simp [object] at confirmed
  | some fields =>
      refine ⟨fields, Json.eq_obj_of_asObject object, ?_⟩
      simp only [object] at confirmed
      split at confirmed
      · next accepted =>
          split at confirmed
          · next recorded => exact ⟨accepted, recorded⟩
          · cases confirmed
      · cases confirmed

theorem answerOutcome_truthful_iff (arrival : OrderArrival) :
    ((answerOutcome arrival.surroundings arrival.kind.handling = "command_failed" →
        ∃ result, arrival.surroundings.broker = .ok result ∧ result.ok = false) ∧
      (∀ failure, arrival.surroundings.broker = .error failure →
        answerOutcome arrival.surroundings arrival.kind.handling = "order_broker_unconfirmed")) ↔
      AnswerRecorded arrival := by
  unfold answerOutcome AnswerRecorded OrderSurroundings.brokerAnswer
  cases arrival.surroundings.broker with
  | error failure =>
      cases arrival.surroundings.journals OrderJournal.unconfirmed with
      | error failure => simp [bind, Except.bind]
      | ok value => simp [bind, Except.bind]
  | ok result =>
      cases accepted : result.ok <;>
        cases arrival.surroundings.journals OrderJournal.brokerResult <;>
        cases arrival.surroundings.journals OrderJournal.unconfirmed <;>
        cases arrival.kind.handling.acknowledged arrival.surroundings <;>
        simp [accepted, bind, Except.bind, pure, Except.pure]

theorem brokerCalls_of_calledOnRecord (called : CalledOnRecord arrival actions) :
    ∃ request, brokerCalls actions = [request] := by
  rcases called with ⟨before, _, request, after, rfl, uncalled, settled, _⟩
  exact ⟨request, by simp [uncalled, settled]⟩

theorem truthful_iff_of_calledOnRecord {host : Host} (called : CalledOnRecord arrival actions)
    (reaches : ReachesBroker host arrival) :
    Truthful host arrival actions ↔ AnswerRecorded arrival := by
  rw [← answerOutcome_truthful_iff]
  rcases brokerCalls_of_calledOnRecord called with ⟨request, calls⟩
  rcases called with
    ⟨before, event, sent, after, split, uncalled, settled, posted, isPreAck, isOwn, tells⟩
  constructor
  · intro truthful
    constructor
    · intro failed
      have outcome : "command_failed" ∈ outcomes arrival.command actions := by
        simp [tells, failed]
      rcases truthful.failed outcome with none | refused
      · simp [calls] at none
      · exact refused
    · intro failure raises
      have outcome := truthful.raised failure (by simp [calls]) raises
      simpa [tells] using outcome
  · rintro ⟨failed, raised⟩
    rcases reaches.confirmed with ⟨response, answered, confirmed⟩
    rcases preAckRefusal_eq_none confirmed with ⟨fields, rfl, accepted, recorded⟩
    refine ⟨by simp [calls], fun _ => reaches.simulated, fun _ => reaches.unexpired, fun _ => ?_,
      ⟨_, tells⟩, ?_, ?_⟩
    · refine ⟨event, fields, ?_, isPreAck, isOwn, answered, accepted, recorded⟩
      rw [split, beforeCall_append uncalled]
      exact posted
    · intro outcome
      refine Or.inr (failed ?_)
      simpa [tells, eq_comm] using outcome
    · intro failure _ raises
      rw [tells, raised failure raises]

theorem truthful_handleCommand_iff (arrival : OrderArrival) :
    Truthful host arrival (handleCommand host runtime arrival).2 ↔
      (ReachesBroker host arrival → AnswerRecorded arrival) := by
  rcases handleCommand_cases host runtime arrival with ⟨settled, unreached⟩ | ⟨called, reaches⟩
  · constructor
    · exact fun _ reaches => absurd reaches unreached
    · exact fun _ => Truthful.of_settledUncalled settled
  · rw [truthful_iff_of_calledOnRecord called reaches]
    exact ⟨fun recorded _ => recorded, fun recorded => recorded reaches⟩

/-! ## Claims between commands -/

theorem exists_emits_of_outcome (told : outcomes command actions = [outcome]) :
    ∃ event, .emits event ∈ actions ∧ event.outcomeOf command = some outcome := by
  have present : outcome ∈ outcomes command actions := by
    simp [told]
  rcases List.mem_filterMap.mp present with ⟨event, isEmitted, tells⟩
  rcases List.mem_filterMap.mp isEmitted with ⟨action, isAction, emits⟩
  cases action with
  | emits other =>
      cases emits
      exact ⟨_, isAction, tells⟩
  | posts other => cases emits
  | calls request => cases emits

theorem claimed_release_claim (unclaimed : runtime.claimed = [])
    (command : GatewayCommand) : ((runtime.claim command).release command).claimed = [] := by
  simp [GatewayRuntime.claim, GatewayRuntime.release, unclaimed]

def Silent (command : GatewayCommand) (program : OrderProgram Value) : Prop :=
  outcomes command program.trace = []

theorem Silent.bind {Other : Type} {program : OrderProgram Value}
    {rest : Value → OrderProgram Other} (silent : Silent command program)
    (silentRest : ∀ value, Silent command (rest value)) : Silent command (program >>= rest) := by
  unfold Silent at silent ⊢
  cases ends : program.result with
  | error failure =>
      rw [Traced.bind_of_error ends]
      exact silent
  | ok value =>
      rw [Traced.bind_of_ok ends, outcomes_append, silent]
      exact silentRest value

theorem silent_pure (value : Value) : Silent command (pure value : OrderProgram Value) :=
  rfl

theorem silent_lift (result : Except Failure Value) :
    Silent command (Traced.lift result : OrderProgram Value) :=
  rfl

theorem silent_act {action : OrderAction} (quiet : outcomes command [action] = []) :
    Silent command (Traced.act action : OrderProgram Unit) :=
  quiet

theorem silent_emitBeforeBlockingCall :
    Silent command (surroundings.emitBeforeBlockingCall (commandStartedEvent command)) := by
  unfold OrderSurroundings.emitBeforeBlockingCall
  cases surroundings.asyncEvents with
  | none => exact silent_pure _
  | some outcome =>
      refine (silent_act (by simp)).bind fun _ => ?_
      exact (silent_lift outcome).bind fun _ => silent_pure _

theorem silent_recordDurablePreAck (request : KiwoomOrderRequest) :
    Silent command (surroundings.recordDurablePreAck host command request) := by
  refine (silent_lift _).bind fun _ => ?_
  cases surroundings.durablePreAck with
  | none => exact silent_pure _
  | some answer =>
      refine (silent_act rfl).bind fun _ => ?_
      cases answer with
      | error failure => exact silent_pure _
      | ok response => exact silent_pure _

theorem silent_callBroker (request : KiwoomOrderRequest) (started : List EmittedEvent) :
    Silent command (callBroker surroundings handling command request started) := by
  unfold callBroker
  rw [attempt_call]
  refine Silent.bind rfl fun attempt => ?_
  cases attempt with
  | error failure => exact (silent_lift _).bind fun _ => silent_pure _
  | ok result =>
      by_cases accepted : result.ok
      · simp only [accepted]
        exact (silent_lift _).bind fun _ => silent_pure _
      · simp only [accepted]
        exact silent_pure _

theorem silent_sendToBroker :
    Silent command (sendToBroker host surroundings handling command) := by
  refine (silent_lift _).bind fun request => ?_
  refine (silent_emitBeforeBlockingCall surroundings).bind fun started => ?_
  refine (silent_recordDurablePreAck host surroundings request).bind fun refusal => ?_
  cases refusal with
  | some refusal => exact (silent_lift _).bind fun _ => silent_pure _
  | none => exact silent_callBroker surroundings handling request started

theorem silent_handleOrder :
    Silent command (handleOrder host surroundings handling command) := by
  unfold handleOrder
  split
  · exact silent_pure _
  · split
    · exact silent_pure _
    · split
      · exact silent_sendToBroker host surroundings handling
      · exact (silent_emitBeforeBlockingCall surroundings).bind fun _ => silent_pure _

theorem silent_program (arrival : OrderArrival) :
    Silent arrival.command (arrival.program host) := by
  unfold OrderArrival.program handleOrderCommand
  split
  · exact silent_pure _
  · exact silent_handleOrder host _ _

theorem clearsClaim_of_outcome {event : EmittedEvent}
    (tells : event.outcomeOf command = some outcome) : clearsClaim command event = true := by
  unfold EmittedEvent.outcomeOf at tells
  split at tells
  · next isOutcome =>
      have lowered : ∀ eventType ∈ orderOutcomes,
          Text.lower (Text.strip eventType) ∈ startedOrTerminal := by
        decide +kernel
      simp [clearsClaim, isOutcome.1, lowered _ isOutcome.2]
  · cases tells

theorem claimed_handleCommand (arrival : OrderArrival)
    (unclaimed : runtime.claimed = []) : (handleCommand host runtime arrival).1.claimed = [] := by
  cases ends : (arrival.program host).result with
  | error failure =>
      simpa only [handleCommand, ends] using
        claimed_release_claim runtime unclaimed arrival.command
  | ok events =>
      have told : ∃ outcome, outcomes arrival.command
          ((arrival.program host).finish (concludeCommand arrival.command)) = [outcome] := by
        rcases handleCommand_cases host runtime arrival with ⟨settled, _⟩ | ⟨called, _⟩
        · exact settled.2
        · rcases called with ⟨_, _, _, _, _, _, _, _, _, _, tells⟩
          exact ⟨_, tells⟩
      rcases told with ⟨outcome, told⟩
      rw [Traced.finish, outcomes_append, silent_program, ends] at told
      rcases exists_emits_of_outcome told with ⟨event, isEmitted, tells⟩
      rcases List.mem_map.mp isEmitted with ⟨returned, isReturned, same⟩
      cases same
      have clears : events.any (clearsClaim arrival.command) = true :=
        List.any_eq_true.mpr ⟨event, isReturned, clearsClaim_of_outcome tells⟩
      simpa only [handleCommand, ends, GatewayRuntime.clearClaimedCommandIfStartedOrTerminal,
        clears, if_true] using claimed_release_claim runtime unclaimed arrival.command

theorem mem_of_mem_firstOfEach {seen : List String} {commands : List GatewayCommand}
    {command : GatewayCommand} (kept : command ∈ firstOfEach seen commands) :
    command ∈ commands := by
  induction commands generalizing seen with
  | nil => cases kept
  | cons first commands ih =>
      unfold firstOfEach at kept
      split at kept
      · exact List.mem_cons_of_mem _ (ih kept)
      · rcases List.mem_cons.mp kept with rfl | kept
        · exact List.mem_cons_self
        · exact List.mem_cons_of_mem _ (ih kept)

def Unclaimed : Prop :=
  runtime.claimed = []

theorem unclaimed_next (host : Host) (runtime : GatewayRuntime) (op : RuntimeOp)
    (unclaimed : Unclaimed runtime) : Unclaimed ((gatewayRuntime host).next runtime op) := by
  cases op with
  | handleCommand arrival => exact claimed_handleCommand host runtime arrival unclaimed
  | failUnstartedInflightCommands queued reason => rfl

theorem truthfulStep_iff (host : Host) (runtime : GatewayRuntime) (op : RuntimeOp)
    (unclaimed : Unclaimed runtime) :
    TruthfulStep host runtime op ↔ RecordsAnswer host runtime op := by
  cases op with
  | handleCommand arrival => exact truthful_handleCommand_iff host runtime arrival
  | failUnstartedInflightCommands queued reason =>
      refine iff_of_true ?_ trivial
      intro action present
      rcases List.mem_map.mp present with ⟨command, kept, rfl⟩
      refine ⟨command, ?_, rfl⟩
      have noneClaimed : runtime.claimed = [] := unclaimed
      simpa [noneClaimed] using mem_of_mem_firstOfEach kept

/-- Every command of a run is handled truthfully exactly when no answer of the broker is hidden
by what follows the call. -/
theorem orders_handled_truthfully (host : Host) (ops : List RuntimeOp) :
    (gatewayRuntime host).Along (TruthfulStep host) GatewayRuntime.initial ops ↔
      (gatewayRuntime host).Along (RecordsAnswer host) GatewayRuntime.initial ops := by
  constructor
  · intro along
    apply along.imp Unclaimed
      (fun runtime op unclaimed _ => unclaimed_next host runtime op unclaimed)
    · intro runtime op unclaimed truthful
      exact (truthfulStep_iff host runtime op unclaimed).mp truthful
    · exact rfl
  · intro along
    apply along.imp Unclaimed
      (fun runtime op unclaimed _ => unclaimed_next host runtime op unclaimed)
    · intro runtime op unclaimed records
      exact (truthfulStep_iff host runtime op unclaimed).mpr records
    · exact rfl

def diskFullHost : Host where
  floatRepr := id
  float := fun text => (integerText text).map fun value => .finite value
  floatOfInt := fun value => some (.finite value)
  reprText := id
  database := none

def simulatedBuyMetadata : List (String × Json) :=
  [("source", .str "live_sim"), ("live_sim_only", .bool true), ("live_real_allowed", .bool false),
    ("live_sim_intent_id", .str "intent-1"), ("idempotency_key", .str "key-1")]

/-- A simulated buy order as Core sends it. -/
def simulatedBuy : GatewayCommand where
  commandId := "cmd-1"
  commandType := "send_order"
  source := "live_sim"
  ts := 0
  payload :=
    [("mode", .str "LIVE_SIM"), ("live_mode", .str "LIVE_SIM"), ("idempotency_key", .str "key-1"),
      ("account_id", .str "1234567890"), ("account_mode", .str "SIMULATION"),
      ("broker_env", .str "SIMULATION"), ("server_mode", .str "SIMULATION"),
      ("code", .str "005930"), ("side", .str "BUY"), ("quantity", .int 10), ("price", .int 70000),
      ("order_type", .str "LIMIT"), ("live_sim_intent_id", .str "intent-1"),
      ("metadata", .obj simulatedBuyMetadata)]
  idempotencyKey := some "key-1"
  commandId_stripped := stripped_firstCommand
  commandType_stripped := stripped_sendOrder
  source_stripped := stripped_liveSim
  idempotencyKey_stripped := strippedOption_firstKey

/-- The disk is full once the pre-acknowledgement has been written; the broker accepts. -/
def diskFull : OrderSurroundings where
  now := 0
  serverGubun := some (.ok (.str "1"))
  rateLimit := { allowed := true, waitTime := .int 0, reason := "" }
  asyncEvents := some (.ok ())
  journal := some {
    preAck := .ok ()
    failed := .error (.crash "[Errno 28] No space left on device")
    brokerResult := .error (.crash "[Errno 28] No space left on device")
    unconfirmed := .error (.crash "[Errno 28] No space left on device") }
  durablePreAck := some (.ok
    (.obj [("accepted", .bool true), ("durable_pre_ack_recorded", .bool true)]))
  broker := .ok { ok := true, code := 0, message := "", orderNo := "1001" }
  orderAck := none

def buyOnFullDisk : OrderArrival where
  command := simulatedBuy
  kind := .sendOrder
  surroundings := diskFull
  isKind := by decide +kernel

theorem buyOnFullDisk_actions :
    brokerCalls (handleCommand diskFullHost .initial buyOnFullDisk).2 ≠ [] ∧
      outcomes simulatedBuy (handleCommand diskFullHost .initial buyOnFullDisk).2 =
        ["command_failed"] := by
  decide +kernel

/-- The broker has accepted the order, and the command is reported as failed. -/
theorem accepted_order_reported_failed :
    ¬ (gatewayRuntime diskFullHost).Along (TruthfulStep diskFullHost) GatewayRuntime.initial
      [.handleCommand buyOnFullDisk] := by
  rintro ⟨truthful, -⟩
  rcases buyOnFullDisk_actions with ⟨called, failed⟩
  have isFailed : "command_failed" ∈ outcomes buyOnFullDisk.command
      (handleCommand diskFullHost .initial buyOnFullDisk).2 := by
    rw [show buyOnFullDisk.command = simulatedBuy from rfl, failed]
    exact List.mem_singleton_self _
  rcases truthful.failed isFailed with uncalled | ⟨result, answers, refused⟩
  · exact called uncalled
  · cases answers
    cases refused

end SuseokTrader
