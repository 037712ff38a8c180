import SuseokTrader.Gateway.PendingOrders
import SuseokTrader.Lib.Run

/-!
# Whose order a callback is of

The broker's numbers belong to orders, of this program or of others. While a
callback without a known number is never taken for another order by its
account, code and side, every event carries the command of the order its number
belongs to, a number keeps its command until its order is over, and the end of
one order leaves how the others are found as it was.
-/

namespace SuseokTrader

/-! ## The fields of a callback's payloads -/

@[simp]
theorem truthy_str (text : String) : (Json.str text).truthy = true ↔ text ≠ "" := by
  simp [Json.truthy]

@[simp]
theorem textOrEmpty_str (host : Host) (text : String) :
    (Json.str text).textOrEmpty host = text := by
  rw [Json.textOrEmpty]
  split
  · rfl
  · next blank => rw [truthy_str, not_not] at blank; exact blank.symm

variable {host : Host} {payload : Payload}

theorem firstField_str {key text : String} (there : payload.get key = .str text)
    (keys : List String) :
    firstField host payload (key :: keys) =
      if text = "" then firstField host payload keys else text := by
  rw [firstField, there]
  by_cases blank : text = ""
  · rw [if_neg (by simpa using blank), if_pos blank]
  · rw [if_pos (by simpa using blank), if_neg blank]
    rfl

theorem firstField_null {key : String} (absent : payload.get key = .null) (keys : List String) :
    firstField host payload (key :: keys) = firstField host payload keys := by
  rw [firstField, absent]
  rfl

theorem payloadCommandId_eq_empty (command : payload.get "command_id" = .null)
    (gateway : payload.get "gateway_command_id" = .null)
    (client : payload.get "client_order_id" = .null)
    (metadataGateway : (payload.mapping "metadata").get "gateway_command_id" = .null)
    (metadataCommand : (payload.mapping "metadata").get "command_id" = .null)
    (metadataClient : (payload.mapping "metadata").get "client_order_id" = .null) :
    payloadCommandId host payload = "" := by
  rw [payloadCommandId, firstField_null command, firstField_null gateway, firstField_null client,
    firstField_null metadataGateway, firstField_null metadataCommand, firstField_null
    metadataClient]
  rfl

theorem payloadOrderNo_eq {orderNo : String}
    (brokerOrderNo : payload.get "broker_order_no" = .str orderNo)
    (brokerOrderId : payload.get "broker_order_id" = .str orderNo) :
    payloadOrderNo host payload = orderNo := by
  rw [payloadOrderNo, firstField_str brokerOrderNo, firstField_str brokerOrderId]
  split
  · next blank => exact blank.symm
  · rfl

theorem normalizeOrderSide_cases (sideCode orderGubun : String) :
    normalizeOrderSide sideCode orderGubun = "BUY" ∨
      normalizeOrderSide sideCode orderGubun = "SELL" ∨
      normalizeOrderSide sideCode orderGubun = "" := by
  rw [normalizeOrderSide]
  split
  · exact Or.inl rfl
  · split
    · exact Or.inr (Or.inl rfl)
    · exact Or.inr (Or.inr rfl)

variable (registry : PendingOrderRegistry)

def PendingOrderRegistry.standsFor (account code side : String) : Option PendingOrderRecord :=
  if account = "" ∨ code = "" ∨ side = "" then none
  else registry.onlyRecord (account, code, side)

theorem matchSignature_normal (account : String)
    {code side : String} (normal : code ≠ "" → normalizeCode code = .ok code)
    (upper : Text.upper side = side) :
    registry.matchSignature account code side = .ok (registry.standsFor account code side) := by
  rw [PendingOrderRegistry.matchSignature, PendingOrderRegistry.standsFor]
  by_cases blank : account = "" ∨ code = "" ∨ side = ""
  · rw [if_pos blank, if_pos blank]
  · rw [if_neg blank, if_neg blank]
    have normal := normal fun empty => blank (Or.inr (Or.inl empty))
    have signature : orderSignature account code side = .ok (account, code, side) := by
      simp only [orderSignature, normal, upper, bind, Except.bind, pure, Except.pure]
    simp only [normal, signature, bind, Except.bind, pure, Except.pure]

namespace OrderChejan

theorem upper_side (chejan : OrderChejan) : Text.upper chejan.side = chejan.side := by
  rcases normalizeOrderSide_cases (chejan.callback.text 907) (chejan.callback.text 905) with
    side | side | side <;> rw [OrderChejan.side, side] <;> decide

theorem upper_fillSide (chejan : OrderChejan) : Text.upper chejan.fillSide = chejan.fillSide := by
  rw [fillSide]
  split
  · decide
  · exact chejan.upper_side

theorem payloadCommandId_payload (host : Host) (chejan : OrderChejan) :
    payloadCommandId host chejan.payload = "" :=
  payloadCommandId_eq_empty rfl rfl rfl rfl rfl rfl

theorem payloadOrderNo_payload (host : Host) (chejan : OrderChejan) :
    payloadOrderNo host chejan.payload = chejan.orderNo :=
  payloadOrderNo_eq rfl rfl

theorem matchPayload_payload (host : Host) (registry : PendingOrderRegistry)
    (chejan : OrderChejan) :
    registry.matchPayload host chejan.payload =
      .ok ((registry.matchOrderNo chejan.orderNo).or
        (registry.standsFor chejan.account chejan.code chejan.side)) := by
  have account : firstField host chejan.payload ["account_id", "account"] = chejan.account := by
    have accountId : chejan.payload.get "account_id" = .str chejan.account := rfl
    have account : chejan.payload.get "account" = .str chejan.account := rfl
    rw [firstField_str accountId, firstField_str account]
    split
    · next blank => exact blank.symm
    · rfl
  have code : (chejan.payload.get "code").textOrEmpty host = chejan.code :=
    textOrEmpty_str host chejan.code
  have side : (chejan.payload.get "side").textOrEmpty host = chejan.side :=
    textOrEmpty_str host chejan.side
  rw [PendingOrderRegistry.matchPayload, payloadCommandId_payload, payloadOrderNo_payload, account,
    code, side, chejan.upper_side, matchSignature_normal registry chejan.account chejan.code_normal
    chejan.upper_side]
  generalize registry.standsFor chejan.account chejan.code chejan.side = stands
  cases registry.matchOrderNo chejan.orderNo <;> rfl

end OrderChejan

/-! ## One callback -/

namespace OrderChejan

theorem get_executionPayload {chejan : OrderChejan} {execution : Payload}
    (fill : chejan.executionPayload = some execution) :
    payloadCommandId host execution = "" ∧
      payloadOrderNo host execution = chejan.orderNo ∧
      execution.get "account_id" = .str chejan.account ∧
      execution.get "account" = .null ∧
      execution.get "code" = .str chejan.code ∧
      execution.get "side" = .str chejan.fillSide := by
  rw [executionPayload] at fill
  split at fill
  · cases fill
    refine ⟨?_, ?_, rfl, rfl, rfl, rfl⟩
    · exact payloadCommandId_eq_empty rfl rfl rfl rfl rfl rfl
    · exact payloadOrderNo_eq rfl rfl
  · cases fill

theorem matchPayload_execution (host : Host) (registry : PendingOrderRegistry)
    {chejan : OrderChejan} {execution : Payload}
    (fill : chejan.executionPayload = some execution) :
    registry.matchPayload host execution =
      .ok ((registry.matchOrderNo chejan.orderNo).or
        (registry.standsFor chejan.account chejan.code chejan.fillSide)) := by
  rcases get_executionPayload fill with ⟨commandId, orderNo, accountId, noAccount, code, side⟩
  have account : firstField host execution ["account_id", "account"] = chejan.account := by
    rw [firstField_str accountId, firstField_null noAccount]
    split
    · next blank => exact blank.symm
    · rfl
  rw [PendingOrderRegistry.matchPayload, commandId, orderNo, account, code, side,
    textOrEmpty_str, textOrEmpty_str, chejan.upper_fillSide,
    matchSignature_normal registry chejan.account chejan.code_normal chejan.upper_fillSide]
  generalize registry.standsFor chejan.account chejan.code chejan.fillSide = stands
  cases registry.matchOrderNo chejan.orderNo <;> rfl

/-- What a callback is looked up as. -/
def found (chejan : OrderChejan) : Option PendingOrderRecord :=
  (registry.matchOrderNo chejan.orderNo).or
    (registry.standsFor chejan.account chejan.code chejan.side)

def foundFill (chejan : OrderChejan) :
    Option PendingOrderRecord :=
  (registry.matchOrderNo chejan.orderNo).or
    (registry.standsFor chejan.account chejan.code chejan.fillSide)

def bound (chejan : OrderChejan) : PendingOrderRegistry :=
  match chejan.found registry with
  | none => registry
  | some record => registry.bind chejan.orderNo record

def Finishes (host : Host) (chejan : OrderChejan) : Prop :=
  chejan.orderNo ≠ "" ∧ finishesOrder host chejan.payload = .ok true

end OrderChejan

def withIds (payload : Payload) (record : PendingOrderRecord) : Payload :=
  withFields payload
    [("command_id", .str record.commandId), ("idempotency_key", .str record.idempotencyKey),
      ("live_sim_intent_id", .str record.liveSimIntentId)]

theorem get_withIds (payload : Payload) (record : PendingOrderRecord) (key : String) :
    (withIds payload record).get key =
      if key = "live_sim_intent_id" then .str record.liveSimIntentId
      else if key = "idempotency_key" then .str record.idempotencyKey
      else if key = "command_id" then .str record.commandId else payload.get key := by
  rw [withIds, withFields, List.foldl_cons, List.foldl_cons, List.foldl_cons, List.foldl_nil,
    Payload.get, Json.get_setField, Json.get_setField, Json.get_setField, Payload.get]

def OrderChejan.noticed (chejan : OrderChejan) : Payload :=
  ((chejan.found registry).map (withIds chejan.payload)).getD chejan.payload

theorem enrichChejanPayload_of_match {registry : PendingOrderRegistry}
    {found : Option PendingOrderRecord} (isFound : registry.matchPayload host payload = .ok found) :
    registry.enrichChejanPayload host payload =
      .ok ((found.map (registry.bind (payloadOrderNo host payload))).getD registry,
        (found.map (withIds payload)).getD payload) := by
  rw [PendingOrderRegistry.enrichChejanPayload, isFound]
  cases found <;> rfl

theorem enrichChejanPayload_payload (host : Host) (registry : PendingOrderRegistry)
    (chejan : OrderChejan) :
    registry.enrichChejanPayload host chejan.payload =
      .ok (chejan.bound registry, chejan.noticed registry) := by
  rw [enrichChejanPayload_of_match (chejan.matchPayload_payload host registry),
    chejan.payloadOrderNo_payload, OrderChejan.bound, OrderChejan.noticed, OrderChejan.found]
  generalize (registry.matchOrderNo chejan.orderNo).or
    (registry.standsFor chejan.account chejan.code chejan.side) = found
  cases found with
  | none => rw [Option.map_none, Option.getD_none]
  | some record => rw [Option.map_some, Option.getD_some]

namespace OrderChejan

variable {registry after : PendingOrderRegistry} {chejan : OrderChejan} {host : Host}

theorem get_noticed {key : String}
    (other : key ≠ "live_sim_intent_id" ∧ key ≠ "idempotency_key" ∧ key ≠ "command_id") :
    (chejan.noticed registry).get key = chejan.payload.get key := by
  rw [noticed]
  cases chejan.found registry with
  | none => rfl
  | some record =>
      change (withIds chejan.payload record).get key = _
      rw [get_withIds, if_neg other.1, if_neg other.2.1, if_neg other.2.2]

theorem commandId_noticed (host : Host) (registry : PendingOrderRegistry) (chejan : OrderChejan) :
    textOrNone (((chejan.noticed registry).get "command_id").textOrEmpty host) =
      (chejan.found registry).map (·.commandId) := by
  rw [noticed]
  cases chejan.found registry with
  | none => rfl
  | some record =>
      change textOrNone (((withIds chejan.payload record).get "command_id").textOrEmpty host) =
        some record.commandId
      rw [get_withIds, if_neg (by decide), if_neg (by decide), if_pos rfl, textOrEmpty_str,
        textOrNone, if_neg record.commandId_stripped.ne_empty]

theorem strip_orderNo (chejan : OrderChejan) : Text.strip chejan.orderNo = chejan.orderNo :=
  Text.strip_strip _

theorem finishesOrder_noticed (host : Host) (registry : PendingOrderRegistry)
    (chejan : OrderChejan) :
    finishesOrder host (chejan.noticed registry) = finishesOrder host chejan.payload := by
  rw [finishesOrder, finishesOrder, get_noticed (by decide), get_noticed (by decide)]

theorem payloadOrderNo_noticed (host : Host) (registry : PendingOrderRegistry)
    (chejan : OrderChejan) : payloadOrderNo host (chejan.noticed registry) = chejan.orderNo := by
  refine payloadOrderNo_eq ?_ ?_
  · rw [get_noticed (by decide)]
    rfl
  · rw [get_noticed (by decide)]
    rfl

theorem applyChejanPayload_noticed (host : Host) (registry after : PendingOrderRegistry)
    (chejan : OrderChejan) :
    after.applyChejanPayload host (chejan.noticed registry) =
      if chejan.orderNo = "" then .ok after
      else (finishesOrder host chejan.payload).map fun isOver =>
        if isOver then after.finish chejan.orderNo else after := by
  rw [PendingOrderRegistry.applyChejanPayload, payloadOrderNo_noticed, strip_orderNo,
    finishesOrder_noticed]
  by_cases blank : chejan.orderNo = ""
  · rw [if_pos blank, if_pos blank]
  · cases finishesOrder host chejan.payload with
    | error failure => rfl
    | ok isOver => cases isOver <;> rfl

theorem onChejanResult_of_apply
    (applies : (chejan.bound registry).applyChejanPayload host (chejan.noticed registry) =
      .ok after) :
    onChejanResult host registry chejan =
      (after, chejanEvents host after chejan (chejan.noticed registry)) := by
  rewrite [onChejanResult, enrichChejanPayload_payload]
  dsimp only
  rw [applies]

theorem onChejanResult_of_failure {failure : Failure}
    (fails : (chejan.bound registry).applyChejanPayload host (chejan.noticed registry) =
      .error failure) :
    onChejanResult host registry chejan = (chejan.bound registry, .error failure) := by
  rewrite [onChejanResult, enrichChejanPayload_payload]
  dsimp only
  rw [fails]

/-- What one callback does: it binds its number, and where it says that the order is over, the
order is taken out before the events are made. -/
theorem onChejanResult_cases (host : Host) (registry : PendingOrderRegistry)
    (chejan : OrderChejan) :
    (¬ chejan.Finishes host ∧ ∃ failure,
      onChejanResult host registry chejan = (chejan.bound registry, .error failure)) ∨
    (¬ chejan.Finishes host ∧ onChejanResult host registry chejan =
      (chejan.bound registry,
        chejanEvents host (chejan.bound registry) chejan (chejan.noticed registry))) ∨
    (chejan.Finishes host ∧ onChejanResult host registry chejan =
      ((chejan.bound registry).finish chejan.orderNo,
        chejanEvents host ((chejan.bound registry).finish chejan.orderNo) chejan
          (chejan.noticed registry))) := by
  have applies := applyChejanPayload_noticed host registry (chejan.bound registry) chejan
  by_cases blank : chejan.orderNo = ""
  · rw [if_pos blank] at applies
    exact Or.inr (Or.inl ⟨fun finishes => finishes.1 blank, onChejanResult_of_apply applies⟩)
  · rw [if_neg blank] at applies
    cases ends : finishesOrder host chejan.payload with
    | error failure =>
        rw [ends] at applies
        refine Or.inl ⟨?_, failure, onChejanResult_of_failure applies⟩
        rintro ⟨_, finishes⟩
        rw [ends] at finishes
        cases finishes
    | ok isOver =>
        rw [ends, Except.map] at applies
        cases isOver with
        | false =>
            rw [if_neg Bool.false_ne_true] at applies
            refine Or.inr (Or.inl ⟨?_, onChejanResult_of_apply applies⟩)
            rintro ⟨_, finishes⟩
            rw [ends] at finishes
            cases finishes
        | true =>
            rw [if_pos rfl] at applies
            exact Or.inr (Or.inr ⟨⟨blank, ends⟩, onChejanResult_of_apply applies⟩)

theorem isFill_of_payload {execution : Payload} (fill : chejan.executionPayload = some execution) :
    chejan.isFill = true := by
  rw [executionPayload] at fill
  split at fill
  · next isFill => exact isFill
  · cases fill

theorem commandId_enrichExecutionPayload {payload : Payload} {found : Option PendingOrderRecord}
    {result : Payload × String × String}
    (isFound : registry.matchPayload host payload = .ok found)
    (enriches : registry.enrichExecutionPayload host payload = .ok result) :
    textOrNone result.2.1 = found.map (·.commandId) := by
  rw [PendingOrderRegistry.enrichExecutionPayload, isFound] at enriches
  cases found with
  | none =>
      cases enriches
      rfl
  | some record =>
      cases enriches
      exact if_neg record.commandId_stripped.ne_empty

theorem commandId_executionEvent {execution : Payload} {commandId idempotencyKey : Option String}
    {event : EmittedEvent} (fill : chejan.executionPayload = some execution)
    (emits : executionEvent host after execution commandId idempotencyKey = .ok event) :
    event.commandId = ((chejan.foundFill after).map (·.commandId)).or commandId := by
  rw [executionEvent, Checked.bind_eq_ok] at emits
  rcases emits with ⟨⟨payload, executionCommandId, executionKey⟩, enriches, made⟩
  cases made
  have command := commandId_enrichExecutionPayload (matchPayload_execution host after fill) enriches
  rw [command, foundFill]

theorem commandId_chejanEvents {events : List EmittedEvent}
    (emits : chejanEvents host after chejan (chejan.noticed registry) = .ok events) :
    ∀ event ∈ events, event.commandId = (chejan.found registry).map (·.commandId) ∨
      (chejan.isFill = true ∧ event.commandId =
        ((chejan.foundFill after).map (·.commandId)).or
          ((chejan.found registry).map (·.commandId))) := by
  rw [chejanEvents, commandId_noticed] at emits
  cases fill : chejan.executionPayload with
  | none =>
      rw [fill] at emits
      cases emits
      intro event present
      left
      rw [List.mem_singleton.mp present]
  | some execution =>
      rw [fill, Checked.bind_eq_ok] at emits
      rcases emits with ⟨event, made, emits⟩
      cases emits
      intro other present
      rcases List.mem_cons.mp present with rfl | present
      · left
        dsimp only
      · rw [List.mem_singleton.mp present]
        exact Or.inr ⟨isFill_of_payload fill, commandId_executionEvent fill made⟩

end OrderChejan

/-! ## The gateway -/

/-- What reaches the records: an acknowledgement, with a number only if it is the number of its
command, or a callback. -/
inductive OrderOp (owner : String → Option String) where
  | ack (command : GatewayCommand) (request : KiwoomOrderRequest) (orderNo : String)
      (own : orderNo ≠ "" → owner orderNo = some command.commandId)
  | callback (callback : OrderCallback)

def orderGateway (host : Host) (owner : String → Option String) :
    System PendingOrderRegistry (OrderOp owner) (List EmittedEvent) where
  step registry
    | .ack command request orderNo _ =>
        match registry.recordAck host command request orderNo with
        | .ok after => (after, [])
        | .error _ => (registry, [])
    | .callback callback =>
        match parseOrderChejan host callback with
        | .error _ => (registry, [])
        | .ok chejan =>
            ((onChejanResult host registry chejan).1,
              ((onChejanResult host registry chejan).2.toOption).getD [])

def OrderOp.Reads (host : Host) {owner : String → Option String} (op : OrderOp owner)
    (chejan : OrderChejan) : Prop :=
  ∃ callback, op = .callback callback ∧ parseOrderChejan host callback = .ok chejan

/-- The operation ends the order of a number. -/
def OrderOp.Ends (host : Host) {owner : String → Option String} (op : OrderOp owner)
    (number : String) : Prop :=
  ∃ chejan, op.Reads host chejan ∧ chejan.Finishes host ∧ chejan.orderNo = number

/-- The number stands for a record of the command. -/
def PendingOrderRegistry.Binds (number commandId : String) :
    Prop :=
  ∃ record, registry.byBrokerOrderNo number = some record ∧ record.commandId = commandId

/-! ## The law -/

/-- What a step does for the orders behind the numbers. -/
structure Attributes (host : Host) (owner : String → Option String)
    (registry : PendingOrderRegistry) (op : OrderOp owner) : Prop where
  /-- No event carries another command than the one that the callback's number belongs to. -/
  neverAnother : ∀ chejan, op.Reads host chejan → chejan.orderNo ≠ "" →
    ∀ event ∈ (orderGateway host owner).output registry op, ∀ commandId,
      event.commandId = some commandId → owner chejan.orderNo = some commandId
  /-- A callback whose number stands for a command carries it in all its events. -/
  bound : ∀ chejan, op.Reads host chejan → ∀ commandId, registry.Binds chejan.orderNo commandId →
    ∀ event ∈ (orderGateway host owner).output registry op, event.commandId = some commandId
  /-- So does one that is found in another way, also where it ends the order. -/
  looked : ∀ chejan, op.Reads host chejan → ∀ record,
    registry.matchPayload host chejan.payload = .ok (some record) →
    ∀ event ∈ (orderGateway host owner).output registry op,
      event.commandId = some record.commandId
  /-- A number keeps its command unless its order ends. -/
  keeps : ∀ number commandId, registry.Binds number commandId → ¬ op.Ends host number →
    ((orderGateway host owner).next registry op).Binds number commandId
  /-- The end of an order leaves every lookup that does not find it as it was. -/
  others : ∀ chejan, op.Reads host chejan → chejan.Finishes host → ∀ payload,
    (∀ record other, registry.matchPayload host chejan.payload = .ok (some record) →
      registry.matchPayload host payload = .ok (some other) →
      other.commandId ≠ record.commandId) →
    ((orderGateway host owner).next registry op).matchPayload host payload =
      registry.matchPayload host payload

/-- A callback that its account, code and side do not lead to another order. -/
structure Distinguishable (host : Host) (owner : String → Option String)
    (registry : PendingOrderRegistry) (chejan : OrderChejan) : Prop where
  /-- An unknown number meets the only record under its account, code and side if that is its
  own. -/
  notice : chejan.orderNo ≠ "" → registry.byBrokerOrderNo chejan.orderNo = none →
    ∀ record, registry.standsFor chejan.account chejan.code chejan.side = some record →
      owner chejan.orderNo = some record.commandId
  /-- So does a fill of an unknown number, or one that ends its order. -/
  fill : chejan.isFill = true →
    (registry.byBrokerOrderNo chejan.orderNo = none ∨ chejan.Finishes host) →
    ∀ record, registry.standsFor chejan.account chejan.code chejan.fillSide = some record →
      owner chejan.orderNo = some record.commandId
  /-- No other order is alone under the account, code and side of an order that ends. -/
  alone : chejan.Finishes host →
    ∀ record, registry.byBrokerOrderNo chejan.orderNo = some record →
      ∀ other, registry.bySignature record.signature = [other] →
        other.commandId = record.commandId

def TellsApart (host : Host) (owner : String → Option String) (registry : PendingOrderRegistry)
    (op : OrderOp owner) : Prop :=
  ∀ chejan, op.Reads host chejan → Distinguishable host owner registry chejan

def OwnNumbers (owner : String → Option String) (registry : PendingOrderRegistry) : Prop :=
  ∀ number record, registry.byBrokerOrderNo number = some record →
    number ≠ "" ∧ owner number = some record.commandId

section Lookups

variable {host : Host} {owner : String → Option String} {registry : PendingOrderRegistry}
  {chejan : OrderChejan}

variable {record : PendingOrderRecord} {orderNo : String}

theorem found_of_number (named : chejan.orderNo ≠ "")
    (known : registry.byBrokerOrderNo chejan.orderNo = some record) :
    chejan.found registry = some record := by
  rw [OrderChejan.found, PendingOrderRegistry.matchOrderNo, if_neg named, known, Option.some_or]

theorem found_of_unknown (named : chejan.orderNo ≠ "")
    (unknown : registry.byBrokerOrderNo chejan.orderNo = none) :
    chejan.found registry = registry.standsFor chejan.account chejan.code chejan.side := by
  rw [OrderChejan.found, PendingOrderRegistry.matchOrderNo, if_neg named, unknown, Option.none_or]

theorem owner_of_found (numbers : OwnNumbers owner registry)
    (tells : Distinguishable host owner registry chejan) (named : chejan.orderNo ≠ "")
    (found : chejan.found registry = some record) :
    owner chejan.orderNo = some record.commandId := by
  cases known : registry.byBrokerOrderNo chejan.orderNo with
  | none =>
      rw [found_of_unknown named known] at found
      exact tells.notice named known record found
  | some other =>
      rw [found_of_number named known, Option.some.injEq] at found
      rw [← found]
      exact (numbers _ _ known).2

theorem bound_of_found (found : chejan.found registry = some record) :
    chejan.bound registry = registry.bind chejan.orderNo record := by
  rw [OrderChejan.bound, found]

theorem bound_of_none (found : chejan.found registry = none) :
    chejan.bound registry = registry := by
  rw [OrderChejan.bound, found]

theorem byBrokerOrderNo_bind (named : orderNo ≠ "") (record : PendingOrderRecord) :
    (registry.bind orderNo record).byBrokerOrderNo =
      Function.update registry.byBrokerOrderNo orderNo (some record) := by
  rw [PendingOrderRegistry.bind, if_neg named]

theorem bySignature_bind (orderNo : String) (record : PendingOrderRecord) :
    (registry.bind orderNo record).bySignature = registry.bySignature := by
  rw [PendingOrderRegistry.bind]
  split <;> rfl

theorem byCommandId_bind (orderNo : String) (record : PendingOrderRecord) :
    (registry.bind orderNo record).byCommandId = registry.byCommandId := by
  rw [PendingOrderRegistry.bind]
  split <;> rfl

theorem bySignature_bound (registry : PendingOrderRegistry) (chejan : OrderChejan) :
    (chejan.bound registry).bySignature = registry.bySignature := by
  rw [OrderChejan.bound]
  split
  · rfl
  · exact bySignature_bind _ _

theorem ownNumbers_bound (numbers : OwnNumbers owner registry)
    (tells : Distinguishable host owner registry chejan) :
    OwnNumbers owner (chejan.bound registry) := by
  cases found : chejan.found registry with
  | none =>
      rw [bound_of_none found]
      exact numbers
  | some record =>
      rw [bound_of_found found]
      by_cases named : chejan.orderNo = ""
      · rw [PendingOrderRegistry.bind, if_pos named]
        exact numbers
      · intro number other known
        rw [byBrokerOrderNo_bind named] at known
        by_cases same : number = chejan.orderNo
        · subst same
          rw [Function.update_self, Option.some.injEq] at known
          rw [← known]
          exact ⟨named, owner_of_found numbers tells named found⟩
        · rw [Function.update_of_ne same] at known
          exact numbers number other known

theorem finish_of_known (known : registry.byBrokerOrderNo orderNo = some record) :
    (registry.finish orderNo).byBrokerOrderNo =
        Function.update registry.byBrokerOrderNo orderNo none ∧
      (registry.finish orderNo).byCommandId =
        Function.update registry.byCommandId record.commandId none ∧
      (registry.finish orderNo).bySignature =
        Function.update registry.bySignature record.signature [] := by
  rw [PendingOrderRegistry.finish.eq_def]
  split
  · next unknown =>
      rw [known] at unknown
      cases unknown
  · next other same =>
      rw [known, Option.some.injEq] at same
      subst same
      exact ⟨rfl, rfl, rfl⟩

theorem finish_of_unknown (unknown : registry.byBrokerOrderNo orderNo = none) :
    registry.finish orderNo = registry := by
  rw [PendingOrderRegistry.finish.eq_def]
  split
  · rfl
  · next other known =>
      rw [unknown] at known
      cases known

end Lookups

section Steps

variable {host : Host} {owner : String → Option String} {registry : PendingOrderRegistry}
  {chejan : OrderChejan}

variable {record : PendingOrderRecord}

theorem onlyRecord_eq_some {signature : OrderSignature} :
    registry.onlyRecord signature = some record ↔ registry.bySignature signature = [record] := by
  rw [PendingOrderRegistry.onlyRecord]
  cases registry.bySignature signature with
  | nil => simp
  | cons first rest => cases rest <;> simp

theorem onlyRecord_finish (registry : PendingOrderRegistry) (orderNo : String)
    (signature : OrderSignature) :
    (registry.finish orderNo).onlyRecord signature = registry.onlyRecord signature ∨
      (registry.finish orderNo).onlyRecord signature = none := by
  cases known : registry.byBrokerOrderNo orderNo with
  | none =>
      rw [finish_of_unknown known]
      exact Or.inl rfl
  | some record =>
      by_cases same : signature = record.signature
      · right
        rw [PendingOrderRegistry.onlyRecord, (finish_of_known known).2.2, same,
          Function.update_self]
      · left
        rw [PendingOrderRegistry.onlyRecord, (finish_of_known known).2.2,
          Function.update_of_ne same, PendingOrderRegistry.onlyRecord]

theorem standsFor_finish {orderNo account code side : String}
    (found : (registry.finish orderNo).standsFor account code side = some record) :
    registry.standsFor account code side = some record := by
  rw [PendingOrderRegistry.standsFor] at found ⊢
  split at found
  · cases found
  · next given =>
      rw [if_neg given]
      rcases onlyRecord_finish registry orderNo (account, code, side) with same | none
      · rw [← same]
        exact found
      · rw [none] at found
        cases found

theorem standsFor_bound (account code side : String) :
    (chejan.bound registry).standsFor account code side =
      registry.standsFor account code side := by
  rw [PendingOrderRegistry.standsFor, PendingOrderRegistry.standsFor,
    PendingOrderRegistry.onlyRecord, PendingOrderRegistry.onlyRecord, bySignature_bound]

theorem known_bound (named : chejan.orderNo ≠ "") :
    (chejan.bound registry).byBrokerOrderNo chejan.orderNo = chejan.found registry := by
  cases found : chejan.found registry with
  | none =>
      rw [bound_of_none found]
      rw [OrderChejan.found, PendingOrderRegistry.matchOrderNo, if_neg named,
        Option.or_eq_none_iff] at found
      exact found.1
  | some record =>
      rw [bound_of_found found, byBrokerOrderNo_bind named, Function.update_self]

theorem named_of_fill (fill : chejan.isFill = true) : chejan.orderNo ≠ "" := by
  rw [OrderChejan.isFill, Bool.and_eq_true, Bool.and_eq_true, Bool.and_eq_true] at fill
  exact of_decide_eq_true fill.1.1.2

theorem foundFill_agrees (numbers : OwnNumbers owner registry)
    (tells : Distinguishable host owner registry chejan) (fill : chejan.isFill = true)
    {after : PendingOrderRegistry}
    (step : (¬ chejan.Finishes host ∧ after = chejan.bound registry) ∨
      (chejan.Finishes host ∧ after = (chejan.bound registry).finish chejan.orderNo))
    (found : chejan.foundFill after = some record) :
    owner chejan.orderNo = some record.commandId := by
  have named := named_of_fill fill
  rw [OrderChejan.foundFill, PendingOrderRegistry.matchOrderNo, if_neg named] at found
  rcases step with ⟨open_, isAfter⟩ | ⟨isOver, isAfter⟩
  · rw [isAfter, known_bound named] at found
    cases notice : chejan.found registry with
    | none =>
        rw [notice, Option.none_or, standsFor_bound] at found
        have unknown : registry.byBrokerOrderNo chejan.orderNo = none := by
          rw [OrderChejan.found, PendingOrderRegistry.matchOrderNo, if_neg named,
            Option.or_eq_none_iff] at notice
          exact notice.1
        exact tells.fill fill (Or.inl unknown) record found
    | some other =>
        rw [notice, Option.some_or, Option.some.injEq] at found
        rw [← found]
        exact owner_of_found numbers tells named notice
  · have unknown : ((chejan.bound registry).finish chejan.orderNo).byBrokerOrderNo
        chejan.orderNo = none := by
      cases known : (chejan.bound registry).byBrokerOrderNo chejan.orderNo with
      | none =>
          rw [finish_of_unknown known]
          exact known
      | some other =>
          rw [(finish_of_known known).1, Function.update_self]
    rw [isAfter, unknown, Option.none_or] at found
    have found := standsFor_finish found
    rw [standsFor_bound] at found
    exact tells.fill fill (Or.inr isOver) record found

theorem onChejanResult_effect (host : Host) (registry : PendingOrderRegistry)
    (chejan : OrderChejan) :
    ∃ after, (onChejanResult host registry chejan).1 = after ∧
      ((¬ chejan.Finishes host ∧ after = chejan.bound registry) ∨
        (chejan.Finishes host ∧ after = (chejan.bound registry).finish chejan.orderNo)) ∧
      ∀ event ∈ ((onChejanResult host registry chejan).2.toOption).getD [],
        event.commandId = (chejan.found registry).map (·.commandId) ∨
          (chejan.isFill = true ∧ event.commandId =
            ((chejan.foundFill after).map (·.commandId)).or
              ((chejan.found registry).map (·.commandId))) := by
  have emitted : ∀ after, ∀ event ∈ ((chejanEvents host after chejan
      (chejan.noticed registry)).toOption).getD [],
      event.commandId = (chejan.found registry).map (·.commandId) ∨
        (chejan.isFill = true ∧ event.commandId =
          ((chejan.foundFill after).map (·.commandId)).or
            ((chejan.found registry).map (·.commandId))) := by
    intro after
    cases emits : chejanEvents host after chejan (chejan.noticed registry) with
    | error failure => exact fun _ absent => absurd absent List.not_mem_nil
    | ok events => exact OrderChejan.commandId_chejanEvents emits
  have bound := emitted (chejan.bound registry)
  have ended := emitted ((chejan.bound registry).finish chejan.orderNo)
  rcases chejan.onChejanResult_cases host registry with
    ⟨open_, failure, effect⟩ | ⟨open_, effect⟩ | ⟨isOver, effect⟩
  · rw [effect]
    generalize chejan.bound registry = after
    exact ⟨after, rfl, Or.inl ⟨open_, rfl⟩, fun _ absent => absurd absent List.not_mem_nil⟩
  · rw [effect]
    generalize chejan.bound registry = after at bound
    exact ⟨after, rfl, Or.inl ⟨open_, rfl⟩, bound⟩
  · rw [effect]
    generalize (chejan.bound registry).finish chejan.orderNo = after at ended
    exact ⟨after, rfl, Or.inr ⟨isOver, rfl⟩, ended⟩

end Steps

section Steps

variable {host : Host} {owner : String → Option String} {registry : PendingOrderRegistry}
  {chejan : OrderChejan}

variable {op : OrderOp owner}

theorem next_of_reads (reads : op.Reads host chejan) :
    (orderGateway host owner).next registry op = (onChejanResult host registry chejan).1 := by
  rcases reads with ⟨callback, rfl, parsed⟩
  simp only [System.next, orderGateway, parsed]

theorem output_of_reads (reads : op.Reads host chejan) :
    (orderGateway host owner).output registry op =
      ((onChejanResult host registry chejan).2.toOption).getD [] := by
  rcases reads with ⟨callback, rfl, parsed⟩
  simp only [System.output, orderGateway, parsed]

theorem next_of_not_reads (unread : ∀ chejan, ¬ op.Reads host chejan) :
    (orderGateway host owner).next registry op = registry ∨
      ∃ command request orderNo own, op = .ack command request orderNo own ∧
        registry.recordAck host command request orderNo =
          .ok ((orderGateway host owner).next registry op) := by
  cases op with
  | ack command request orderNo own =>
      cases recorded : registry.recordAck host command request orderNo with
      | error failure =>
          left
          simp only [System.next, orderGateway, recorded]
      | ok after =>
          right
          refine ⟨command, request, orderNo, own, rfl, ?_⟩
          simp only [System.next, orderGateway, recorded]
  | callback callback =>
      left
      cases parsed : parseOrderChejan host callback with
      | error failure => simp only [System.next, orderGateway, parsed]
      | ok chejan => exact absurd ⟨callback, rfl, parsed⟩ (unread chejan)

theorem byBrokerOrderNo_recordAck {command : GatewayCommand} {request : KiwoomOrderRequest}
    {orderNo : String} {after : PendingOrderRegistry}
    (recorded : registry.recordAck host command request orderNo = .ok after) :
    ∃ record, record.commandId = command.commandId ∧ after.byBrokerOrderNo =
      if orderNo = "" then registry.byBrokerOrderNo
      else Function.update registry.byBrokerOrderNo orderNo (some record) := by
  rw [PendingOrderRegistry.recordAck, Checked.bind_eq_ok] at recorded
  rcases recorded with ⟨record, made, recorded⟩
  cases recorded
  rw [pendingOrderRecord, Checked.bind_eq_ok] at made
  rcases made with ⟨code, -, made⟩
  cases made
  exact ⟨_, rfl, rfl⟩

theorem ownNumbers_recordAck (numbers : OwnNumbers owner registry) {command : GatewayCommand}
    {request : KiwoomOrderRequest} {orderNo : String}
    (own : orderNo ≠ "" → owner orderNo = some command.commandId)
    {after : PendingOrderRegistry}
    (recorded : registry.recordAck host command request orderNo = .ok after) :
    OwnNumbers owner after := by
  rcases byBrokerOrderNo_recordAck recorded with ⟨record, isCommand, numbered⟩
  intro number other known
  rw [numbered] at known
  split at known
  · exact numbers number other known
  · next named =>
      by_cases same : number = orderNo
      · subst same
        rw [Function.update_self, Option.some.injEq] at known
        rw [← known, isCommand]
        exact ⟨named, own named⟩
      · rw [Function.update_of_ne same] at known
        exact numbers number other known

theorem ownNumbers_finish (numbers : OwnNumbers owner registry) (orderNo : String) :
    OwnNumbers owner (registry.finish orderNo) := by
  cases known : registry.byBrokerOrderNo orderNo with
  | none =>
      rw [finish_of_unknown known]
      exact numbers
  | some record =>
      intro number other there
      rw [(finish_of_known known).1] at there
      by_cases same : number = orderNo
      · subst same
        rw [Function.update_self] at there
        cases there
      · rw [Function.update_of_ne same] at there
        exact numbers number other there

theorem ownNumbers_next (op : OrderOp owner) (numbers : OwnNumbers owner registry)
    (tells : TellsApart host owner registry op) :
    OwnNumbers owner ((orderGateway host owner).next registry op) := by
  by_cases reads : ∃ chejan, op.Reads host chejan
  · rcases reads with ⟨chejan, reads⟩
    rw [next_of_reads reads]
    rcases onChejanResult_effect host registry chejan with ⟨after, isAfter, step, -⟩
    rw [isAfter]
    have bound := ownNumbers_bound numbers (tells chejan reads)
    rcases step with ⟨-, stepsTo⟩ | ⟨-, stepsTo⟩
    · rw [stepsTo]
      exact bound
    · rw [stepsTo]
      exact ownNumbers_finish bound chejan.orderNo
  · rcases next_of_not_reads fun chejan here => reads ⟨chejan, here⟩ with
      same | ⟨command, request, orderNo, own, -, recorded⟩
    · rw [same]
      exact numbers
    · exact ownNumbers_recordAck numbers own recorded

/-- A number keeps its command through every step but the one that ends its order. -/
theorem binds_next (op : OrderOp owner) (numbers : OwnNumbers owner registry)
    (tells : TellsApart host owner registry op) {number commandId : String}
    (binds : registry.Binds number commandId) (open_ : ¬ op.Ends host number) :
    ((orderGateway host owner).next registry op).Binds number commandId := by
  -- a number that still stands for a record stands for one of its owner, which has not changed
  have later := ownNumbers_next op numbers tells
  rcases binds with ⟨record, known, rfl⟩
  have owned := (numbers number record known).2
  have stays : ((orderGateway host owner).next registry op).byBrokerOrderNo number ≠ none := by
    by_cases reads : ∃ chejan, op.Reads host chejan
    · rcases reads with ⟨chejan, reads⟩
      rw [next_of_reads reads]
      rcases onChejanResult_effect host registry chejan with ⟨after, isAfter, step, -⟩
      rw [isAfter]
      have stillKnown : (chejan.bound registry).byBrokerOrderNo number ≠ none := by
        cases found : chejan.found registry with
        | none =>
            rw [bound_of_none found, known]
            exact Option.some_ne_none record
        | some other =>
            rw [bound_of_found found]
            by_cases named : chejan.orderNo = ""
            · rw [PendingOrderRegistry.bind, if_pos named, known]
              exact Option.some_ne_none record
            · rw [byBrokerOrderNo_bind named]
              by_cases same : number = chejan.orderNo
              · rw [same, Function.update_self]
                exact Option.some_ne_none other
              · rw [Function.update_of_ne same, known]
                exact Option.some_ne_none record
      rcases step with ⟨-, stepsTo⟩ | ⟨isOver, stepsTo⟩
      · rw [stepsTo]
        exact stillKnown
      · rw [stepsTo]
        have different : number ≠ chejan.orderNo :=
          fun same => open_ ⟨chejan, reads, isOver, same.symm⟩
        cases ended : (chejan.bound registry).byBrokerOrderNo chejan.orderNo with
        | none =>
            rw [finish_of_unknown ended]
            exact stillKnown
        | some other =>
            rw [(finish_of_known ended).1, Function.update_of_ne different]
            exact stillKnown
    · rcases next_of_not_reads fun chejan here => reads ⟨chejan, here⟩ with
        same | ⟨command, request, orderNo, own, -, recorded⟩
      · rw [same, known]
        exact Option.some_ne_none record
      · rcases byBrokerOrderNo_recordAck recorded with ⟨other, -, numbered⟩
        rw [numbered]
        split
        · rw [known]
          exact Option.some_ne_none record
        · by_cases same : number = orderNo
          · rw [same, Function.update_self]
            exact Option.some_ne_none other
          · rw [Function.update_of_ne same, known]
            exact Option.some_ne_none record
  rcases Option.ne_none_iff_exists'.mp stays with ⟨other, knownLater⟩
  refine ⟨other, knownLater, ?_⟩
  have ownedLater := (later number other knownLater).2
  rw [owned, Option.some.injEq] at ownedLater
  exact ownedLater.symm

end Steps

/-! ## The end of an order -/

section Ends

variable {host : Host} {owner : String → Option String} {registry : PendingOrderRegistry}
  {chejan : OrderChejan}

theorem alone_of_found (tells : Distinguishable host owner registry chejan)
    (isOver : chejan.Finishes host) {record other : PendingOrderRecord}
    (found : chejan.found registry = some record)
    (alone : registry.bySignature record.signature = [other]) :
    other.commandId = record.commandId := by
  cases known : registry.byBrokerOrderNo chejan.orderNo with
  | some numbered =>
      rw [found_of_number isOver.1 known, Option.some.injEq] at found
      subst found
      exact tells.alone isOver numbered known other alone
  | none =>
      rw [found_of_unknown isOver.1 known, PendingOrderRegistry.standsFor] at found
      split at found
      · cases found
      · rw [onlyRecord_eq_some] at found
        have grouped : record.signature = (chejan.account, chejan.code, chejan.side) := by
          refine registry.grouped _ record ?_
          rw [found]
          exact List.mem_singleton_self record
        rw [grouped, found, List.cons.injEq] at alone
        rw [alone.1]

variable {before after : PendingOrderRegistry}

theorem matchCommandId_finish {ended commandId : String}
    (commands : after.byCommandId = Function.update before.byCommandId ended none)
    (another : ∀ other, before.matchCommandId commandId = some other → other.commandId ≠ ended) :
    after.matchCommandId commandId = before.matchCommandId commandId := by
  rw [PendingOrderRegistry.matchCommandId, PendingOrderRegistry.matchCommandId, commands]
  rw [PendingOrderRegistry.matchCommandId] at another
  by_cases blank : commandId = ""
  · rw [if_pos blank, if_pos blank]
  · rw [if_neg blank] at another
    by_cases same : commandId = ended
    · subst same
      rw [Function.update_self]
      cases there : before.byCommandId commandId with
      | none => rfl
      | some other =>
          exact absurd (before.keyed commandId other there) (another other there)
    · rw [Function.update_of_ne same]

theorem matchOrderNo_finish {ended orderNo : String}
    (numbers : after.byBrokerOrderNo = Function.update before.byBrokerOrderNo ended none)
    (another : orderNo = ended → before.matchOrderNo orderNo = none) :
    after.matchOrderNo orderNo = before.matchOrderNo orderNo := by
  rw [PendingOrderRegistry.matchOrderNo, numbers]
  by_cases same : orderNo = ended
  · rw [another same, same, Function.update_self]
    split <;> rfl
  · rw [Function.update_of_ne same, PendingOrderRegistry.matchOrderNo]

theorem matchSignature_given {account code side : String}
    (given : ¬ (account = "" ∨ code = "" ∨ side = "")) :
    registry.matchSignature account code side =
      (normalizeCode code >>= fun code => orderSignature account code side).map
        registry.onlyRecord := by
  rw [PendingOrderRegistry.matchSignature, if_neg given]
  generalize normalizeCode code = normal
  cases normal with
  | error failure => rfl
  | ok code =>
      simp only [bind, Except.bind]
      generalize orderSignature account code side = signed
      cases signed <;> rfl

theorem matchSignature_finish {ended : PendingOrderRecord}
    (signatures : after.bySignature = Function.update before.bySignature ended.signature [])
    (alone : ∀ other, before.bySignature ended.signature = [other] →
      other.commandId = ended.commandId) {account code side : String}
    (another : ∀ other, before.matchSignature account code side = .ok (some other) →
      other.commandId ≠ ended.commandId) :
    after.matchSignature account code side = before.matchSignature account code side := by
  by_cases blank : account = "" ∨ code = "" ∨ side = ""
  · rw [PendingOrderRegistry.matchSignature, PendingOrderRegistry.matchSignature, if_pos blank,
      if_pos blank]
  · rw [matchSignature_given blank] at another ⊢
    rw [matchSignature_given blank]
    generalize (normalizeCode code >>= fun code => orderSignature account code side) = signed
      at another ⊢
    cases signed with
    | error failure => rfl
    | ok signature =>
        rw [Except.map] at another ⊢
        rw [Except.map]
        by_cases same : signature = ended.signature
        · subst same
          have gone : after.onlyRecord ended.signature = none := by
            rw [PendingOrderRegistry.onlyRecord, signatures, Function.update_self]
          rw [gone]
          cases there : before.onlyRecord ended.signature with
          | none => rfl
          | some other =>
              have isAlone := alone other (onlyRecord_eq_some.mp there)
              exact absurd isAlone (another other (by rw [there]))
        · rw [PendingOrderRegistry.onlyRecord, signatures, Function.update_of_ne same,
            PendingOrderRegistry.onlyRecord]

/-- The end of an order changes only the lookups that find it. -/
theorem matchPayload_finish (tells : Distinguishable host owner registry chejan)
    (isOver : chejan.Finishes host) {record : PendingOrderRecord}
    (found : chejan.found registry = some record) {payload : Payload}
    (another : ∀ other, registry.matchPayload host payload = .ok (some other) →
      other.commandId ≠ record.commandId) :
    ((chejan.bound registry).finish chejan.orderNo).matchPayload host payload =
      registry.matchPayload host payload := by
  have known : (chejan.bound registry).byBrokerOrderNo chejan.orderNo = some record := by
    rw [known_bound isOver.1, found]
  rcases finish_of_known known with ⟨numbers, commands, signatures⟩
  rw [bound_of_found found] at numbers commands signatures ⊢
  rw [byBrokerOrderNo_bind isOver.1, Function.update_idem] at numbers
  rw [byCommandId_bind] at commands
  rw [bySignature_bind] at signatures
  generalize (registry.bind chejan.orderNo record).finish chejan.orderNo = after
    at numbers commands signatures ⊢
  rw [PendingOrderRegistry.matchPayload] at another
  rw [PendingOrderRegistry.matchPayload, PendingOrderRegistry.matchPayload]
  have sameCommand : after.matchCommandId (payloadCommandId host payload) =
      registry.matchCommandId (payloadCommandId host payload) := by
    refine matchCommandId_finish commands ?_
    intro other there
    refine another other ?_
    rw [there, Option.some_or]
  rw [sameCommand]
  cases byCommand : registry.matchCommandId (payloadCommandId host payload) with
  | some other => rw [Option.some_or, Option.some_or]
  | none =>
      rw [byCommand] at another
      have sameNumber : after.matchOrderNo (payloadOrderNo host payload) =
          registry.matchOrderNo (payloadOrderNo host payload) := by
        refine matchOrderNo_finish numbers ?_
        intro same
        rw [same] at another ⊢
        cases there : registry.byBrokerOrderNo chejan.orderNo with
        | none => rw [PendingOrderRegistry.matchOrderNo, there, ite_self]
        | some other =>
            have isFound := found_of_number isOver.1 there
            rw [found, Option.some.injEq] at isFound
            rw [PendingOrderRegistry.matchOrderNo, if_neg isOver.1, there] at another
            exact absurd (by rw [isFound]) (another other rfl)
      rw [sameNumber]
      cases byNumber : registry.matchOrderNo (payloadOrderNo host payload) with
      | some other => rfl
      | none =>
          rw [byNumber] at another
          refine matchSignature_finish signatures ?_ ?_
          · intro other alone
            exact alone_of_found tells isOver found alone
          · intro other there
            exact another other there

end Ends

section Steps

variable {host : Host} {owner : String → Option String} {registry : PendingOrderRegistry}

theorem matchPayload_of_found {chejan : OrderChejan} {record : PendingOrderRecord}
    (found : chejan.found registry = some record) :
    registry.matchPayload host chejan.payload = .ok (some record) := by
  rw [OrderChejan.matchPayload_payload, ← OrderChejan.found, found]

theorem carries_found (op : OrderOp owner) (numbers : OwnNumbers owner registry)
    (tells : TellsApart host owner registry op) {chejan : OrderChejan}
    (reads : op.Reads host chejan) {record : PendingOrderRecord}
    (found : chejan.found registry = some record) :
    ∀ event ∈ (orderGateway host owner).output registry op,
      event.commandId = some record.commandId := by
  intro event present
  rw [output_of_reads reads] at present
  rcases onChejanResult_effect host registry chejan with ⟨after, -, step, emitted⟩
  have emitted := emitted event present
  rw [found, Option.map_some] at emitted
  rcases emitted with same | ⟨fill, same⟩
  · exact same
  · cases foundFill : chejan.foundFill after with
    | none => rw [same, foundFill, Option.map_none, Option.none_or]
    | some other =>
        have owned := owner_of_found numbers (tells chejan reads) (named_of_fill fill) found
        rw [foundFill_agrees numbers (tells chejan reads) fill step foundFill] at owned
        rw [same, foundFill, Option.map_some, Option.some_or, owned]

theorem binds_run {ops : List (OrderOp owner)} (numbers : OwnNumbers owner registry)
    (tells : (orderGateway host owner).Along (TellsApart host owner) registry ops)
    {number commandId : String} (binds : registry.Binds number commandId)
    (open_ : ∀ op ∈ ops, ¬ op.Ends host number) :
    ((orderGateway host owner).run registry ops).Binds number commandId := by
  induction ops generalizing registry with
  | nil => exact binds
  | cons op ops ih =>
      rcases tells with ⟨here, later⟩
      refine ih (ownNumbers_next op numbers here) later ?_ ?_
      · exact binds_next op numbers here binds (open_ op List.mem_cons_self)
      · exact fun next present => open_ next (List.mem_cons_of_mem _ present)

end Steps

/-! ## Runs -/

section Runs

variable {host : Host} {owner : String → Option String} {registry : PendingOrderRegistry}

/-- Every step that tells orders apart attributes its events. -/
theorem attributes_step (op : OrderOp owner) (numbers : OwnNumbers owner registry)
    (tells : TellsApart host owner registry op) : Attributes host owner registry op where
  neverAnother := by
    intro chejan reads named event present commandId carries
    rw [output_of_reads reads] at present
    rcases onChejanResult_effect host registry chejan with ⟨after, -, step, emitted⟩
    have ofFound : ∀ found, chejan.found registry = found →
        found.map (·.commandId) = some commandId → owner chejan.orderNo = some commandId := by
      rintro found isFound same
      cases found with
      | none => cases same
      | some record =>
          cases same
          exact owner_of_found numbers (tells chejan reads) named isFound
    rcases emitted event present with same | ⟨fill, same⟩
    · exact ofFound _ rfl (same.symm.trans carries)
    · rw [carries] at same
      cases found : chejan.foundFill after with
      | none =>
          rw [found, Option.map_none, Option.none_or] at same
          exact ofFound _ rfl same.symm
      | some record =>
          rw [found] at same
          rw [same]
          exact foundFill_agrees numbers (tells chejan reads) fill step found
  bound := by
    intro chejan reads commandId binds event present
    rcases binds with ⟨record, known, rfl⟩
    have named := (numbers _ _ known).1
    exact carries_found op numbers tells reads (found_of_number named known) event present
  looked := by
    intro chejan reads record found event present
    rw [OrderChejan.matchPayload_payload, Except.ok.injEq] at found
    exact carries_found op numbers tells reads found event present
  keeps := fun number commandId binds open_ => binds_next op numbers tells binds open_
  others := by
    intro chejan reads isOver payload another
    rw [next_of_reads reads]
    rcases onChejanResult_effect host registry chejan with ⟨after, isAfter, step, -⟩
    rw [isAfter]
    rcases step with ⟨open_, -⟩ | ⟨-, stepsTo⟩
    · exact absurd isOver open_
    · rw [stepsTo]
      cases found : chejan.found registry with
      | none =>
          have unknown : (chejan.bound registry).byBrokerOrderNo chejan.orderNo = none := by
            rw [known_bound isOver.1, found]
          rw [finish_of_unknown unknown, bound_of_none found]
      | some record =>
          refine matchPayload_finish (tells chejan reads) isOver found ?_
          intro other there
          refine another record other ?_ there
          exact matchPayload_of_found found

theorem ownNumbers_empty (owner : String → Option String) :
    OwnNumbers owner PendingOrderRegistry.empty :=
  fun _ _ absent => nomatch absent

/-- While orders are told apart, the events carry the commands of the orders that the numbers
belong to, and a number keeps its command until its order ends. -/
theorem orders_attributed {ops : List (OrderOp owner)}
    (tells : (orderGateway host owner).Along (TellsApart host owner) .empty ops) :
    (orderGateway host owner).Along (Attributes host owner) .empty ops ∧
      ∀ earlier middle later, ops = earlier ++ middle ++ later → ∀ number commandId,
        ((orderGateway host owner).run .empty earlier).Binds number commandId →
        (∀ op ∈ middle, ¬ op.Ends host number) →
        ((orderGateway host owner).run .empty (earlier ++ middle)).Binds number commandId := by
  constructor
  · refine System.Along.imp (OwnNumbers owner) ?_ ?_ (ownNumbers_empty owner) tells
    · exact fun registry op numbers tells => ownNumbers_next op numbers tells
    · exact fun registry op numbers tells => attributes_step op numbers tells
  · rintro earlier middle later rfl number commandId binds open_
    rw [System.along_append] at tells
    rcases tells with ⟨tells, -⟩
    rw [System.along_append] at tells
    rcases tells with ⟨before, during⟩
    have numbers := System.Along.invariant (OwnNumbers owner)
      (fun registry op numbers tells => ownNumbers_next op numbers tells)
      (ownNumbers_empty owner) before
    rw [System.run_append]
    exact binds_run numbers during binds open_

end Runs

/-! ## Four orders of one kind -/

/-- A machine that reads the decimal digits of whole numbers. -/
def digitHost : Host where
  floatRepr := id
  float := fun text => (integerText text).map fun value => .finite value
  floatOfInt := fun value => some (.finite value)
  reprText := id
  database := none

def buyCommand (commandId : String) (stripped : Stripped commandId) : GatewayCommand where
  commandId := commandId
  commandType := "send_order"
  source := "core"
  ts := 0
  payload := []
  idempotencyKey := none
  commandId_stripped := stripped
  commandType_stripped := stripped_sendOrder
  source_stripped := stripped_core
  idempotencyKey_stripped := strippedOption_none

def buyRequest : KiwoomOrderRequest where
  account := "1234567890"
  code := "005930"
  quantity := 10
  price := 70000
  side := "BUY"
  tag := ""
  orderType := 1
  hoga := "00"
  originalOrderNo := ""
  commandId := ""
  idempotencyKey := ""
  orderExchange := "KRX"
  metadata := []

/-- A callback for a purchase of ten shares. -/
def buyCallback (orderNo status filled price remaining : String) : OrderCallback where
  itemCount := 11
  requestedFids := []
  rawFids := [("9201", "1234567890"), ("9203", orderNo), ("9001", "A005930"), ("900", "10"),
    ("901", "70000"), ("902", remaining), ("905", "+매수"), ("907", "2"), ("910", price),
    ("911", filled), ("913", status)]
  now := 63900000000000000

/-- The broker's numbers of the first two orders. -/
def buyOwner (orderNo : String) : Option String :=
  if orderNo = "1001" then some "cmd-1" else if orderNo = "1002" then some "cmd-2" else none

/-- The first order is filled, which forgets the second; then a third one is acknowledged. -/
def fillForgetsNeighbour : List (OrderOp buyOwner) :=
  [.ack (buyCommand "cmd-1" stripped_firstCommand) buyRequest "1001" (fun _ => rfl),
    .ack (buyCommand "cmd-2" (by decide)) buyRequest "" (fun named => absurd rfl named),
    .callback (buyCallback "1001" "체결" "10" "70000" "0"),
    .ack (buyCommand "cmd-3" (by decide)) buyRequest "" (fun named => absurd rfl named)]

def secondAcceptance : OrderCallback :=
  buyCallback "1002" "접수" "" "" "10"

theorem secondAcceptance_carries_third :
    ((orderGateway digitHost buyOwner).output
      ((orderGateway digitHost buyOwner).run .empty fillForgetsNeighbour)
      (.callback secondAcceptance)).map (·.commandId) = [some "cmd-3"] := by
  decide +kernel

theorem secondAcceptance_orderNo :
    (parseOrderChejan digitHost secondAcceptance).toOption.map (·.orderNo) = some "1002" := by
  decide +kernel

/-- The second order's callback carries the command of the third. -/
theorem second_order_misattributed :
    ¬ (orderGateway digitHost buyOwner).Along (Attributes digitHost buyOwner) .empty
      (fillForgetsNeighbour ++ [.callback secondAcceptance]) := by
  rw [System.along_append]
  rintro ⟨-, attributes, -⟩
  have carries := secondAcceptance_carries_third
  have orderNo := secondAcceptance_orderNo
  generalize (orderGateway digitHost buyOwner).run .empty fillForgetsNeighbour = registry
    at attributes carries
  cases parsed : parseOrderChejan digitHost secondAcceptance with
  | error failure =>
      rw [parsed] at orderNo
      cases orderNo
  | ok chejan =>
      rw [parsed] at orderNo
      have isSecond : chejan.orderNo = "1002" := Option.some.inj orderNo
      rw [List.map_eq_singleton_iff] at carries
      rcases carries with ⟨event, emitted, isThird⟩
      have owned := attributes.neverAnother chejan ⟨_, rfl, parsed⟩ (by rw [isSecond]; decide)
        event (by rw [emitted]; exact List.mem_singleton_self event) "cmd-3" isThird
      rw [isSecond] at owned
      exact absurd owned (by decide)

def acknowledgedOrder : OrderOp buyOwner :=
  .ack (buyCommand "cmd-1" (by decide)) buyRequest "" (fun named => absurd rfl named)

def firstAcceptance : OrderCallback :=
  buyCallback "1001" "접수" "" "" "10"

theorem firstAcceptance_fields :
    (parseOrderChejan digitHost firstAcceptance).toOption.map (fun chejan =>
      (chejan.orderNo, chejan.account, chejan.code, chejan.side, chejan.isFill)) =
        some ("1001", "1234567890", "005930", "BUY", false) := by
  decide +kernel

theorem acknowledgedOrder_lookups :
    (((orderGateway digitHost buyOwner).next .empty acknowledgedOrder).standsFor "1234567890"
      "005930" "BUY").map (·.commandId) = some "cmd-1" ∧
    (((orderGateway digitHost buyOwner).next .empty acknowledgedOrder).byBrokerOrderNo
      "1001").isNone = true := by
  decide +kernel

/-- An acknowledged order is told apart when its acceptance comes. -/
theorem one_order_attributed :
    (orderGateway digitHost buyOwner).Along (Attributes digitHost buyOwner) .empty
      [acknowledgedOrder, .callback firstAcceptance] := by
  have tells : (orderGateway digitHost buyOwner).Along (TellsApart digitHost buyOwner) .empty
      [acknowledgedOrder, .callback firstAcceptance] := by
    refine ⟨?_, ?_, trivial⟩
    · rintro chejan ⟨callback, isCallback, -⟩
      cases isCallback
    · rintro chejan ⟨callback, isCallback, parsed⟩
      cases isCallback
      have fields := firstAcceptance_fields
      rw [parsed] at fields
      have fields := Option.some.inj fields
      rw [Prod.mk.injEq, Prod.mk.injEq, Prod.mk.injEq, Prod.mk.injEq] at fields
      rcases fields with ⟨orderNo, account, code, side, notFill⟩
      rcases acknowledgedOrder_lookups with ⟨stands, unknown⟩
      refine ⟨?_, ?_, ?_⟩
      · intro _ _ record found
        rw [account, code, side] at found
        rw [found, Option.map_some, Option.some.injEq] at stands
        rw [orderNo, stands]
        rfl
      · intro fill
        rw [notFill] at fill
        cases fill
      · intro _ record known
        rw [orderNo] at known
        rw [known] at unknown
        cases unknown
  exact (orders_attributed tells).1

end SuseokTrader
